import MetricGateway.Proofs.Fetching.Waits
import MetricGateway.Proofs.Maps
import MetricGateway.WaitingRoom

/-!
# What happens in a waiting room

Calls of `listen` and of `send`, waits that are run, and the clock that moves on, in any order.  A
log keeps what can be seen of it from outside: the calls of `listen`, the payloads that `send` said
were taken, and, with the room itself, what the waits returned.  It says nothing of registrations,
tickets and slots.
-/

namespace MetricGateway
namespace WaitingRoom

variable {α : Type}

inductive Act (α : Type) where
  | listen (correlation : String) (timeout : Duration)
  | send (correlation : String) (payload : α)
  | poll (wait : WaitId)
  | pass (d : Duration)

structure Call where
  correlation : String
  timeout : Duration
  startedAt : Instant
deriving DecidableEq

/-- What a call returns in the end, by the payload that was handed to it. -/
def Call.outcome (call : Call) : Option α → Except GatewayError α
  | some payload => .ok payload
  | none => .error (.timeout call.correlation call.timeout)

/-- The newest call under an id; the calls are given newest first, and a wait is the number of calls
that were made before its own. -/
def newest? : List Call → String → Option WaitId
  | [], _ => none
  | call :: older, id => if call.correlation = id then some older.length else newest? older id

structure Log (α : Type) where
  room : WaitingRoom α := {}
  /-- The calls of `listen`, newest first. -/
  calls : List Call := []
  /-- The payloads that were taken, each with the newest wait under its id at that time. -/
  handed : List (WaitId × α) := []

namespace Log

def call? (l : Log α) (wait : WaitId) : Option Call := l.calls.reverse[wait]?

def payload? (l : Log α) (wait : WaitId) : Option α := l.handed.lookup wait

def hasReturned (l : Log α) (wait : WaitId) : Bool := l.room.results.any (·.wait = wait)

/-- The newest wait under an id, if it has neither returned nor been handed a payload. -/
def holder? (l : Log α) (id : String) : Option WaitId :=
  (newest? l.calls id).filter fun wait => !l.hasReturned wait && (l.payload? wait).isNone

def listen (l : Log α) (correlation : String) (timeout : Duration) : Log α :=
  { l with
    room := (l.room.listen correlation timeout).1
    calls := ⟨correlation, timeout, l.room.now⟩ :: l.calls }

def send (l : Log α) (correlation : String) (payload : α) : Log α :=
  { l with
    room := (l.room.send correlation payload).1
    handed :=
      if (l.room.send correlation payload).2 then
        (newest? l.calls correlation).toList.map (·, payload) ++ l.handed
      else l.handed }

def poll (l : Log α) (wait : WaitId) : Log α := { l with room := l.room.step wait }

/-- Lets time pass up to a tick of the clock, as far as the clock can count. -/
def pass (l : Log α) (d : Duration) : Log α :=
  if (l.room.now.roundedPlus d).countable then
    { l with room := { l.room with now := l.room.now.roundedPlus d } }
  else l

def act (l : Log α) : Act α → Log α
  | .listen correlation timeout => l.listen correlation timeout
  | .send correlation payload => l.send correlation payload
  | .poll wait => l.poll wait
  | .pass d => l.pass d

def run (l : Log α) (acts : List (Act α)) : Log α := acts.foldl act l

end Log

/-! ## Calls -/

theorem getElem?_reverse_cons (call : Call) (calls : List Call) (wait : WaitId) :
    (call :: calls).reverse[wait]? =
      if wait = calls.length then some call else calls.reverse[wait]? := by
  rw [List.reverse_cons]
  split
  next heq =>
    rw [heq, ← List.length_reverse, List.getElem?_concat_length]
  next hne =>
    rcases Nat.lt_or_gt_of_ne hne with hlt | hgt
    · rw [List.getElem?_append_left (by rw [List.length_reverse]; exact hlt)]
    · rw [List.getElem?_eq_none, List.getElem?_eq_none]
      · rw [List.length_reverse]
        exact Nat.le_of_lt hgt
      · simp only [List.length_append, List.length_reverse, List.length_singleton]
        exact hgt

theorem newest?_cons (call : Call) (calls : List Call) (id : String) :
    newest? (call :: calls) id =
      if call.correlation = id then some calls.length else newest? calls id := rfl

theorem newest?_some {calls : List Call} {id : String} {wait : WaitId}
    (h : newest? calls id = some wait) :
    ∃ call, calls.reverse[wait]? = some call ∧ call.correlation = id := by
  induction calls with
  | nil => cases h
  | cons call older ih =>
      rw [newest?_cons] at h
      rw [getElem?_reverse_cons]
      split at h
      next hid =>
        cases h
        exact ⟨call, by rw [if_pos rfl], hid⟩
      next =>
        rcases ih h with ⟨found, hfound, hid⟩
        have hlt := (List.getElem?_eq_some_iff.mp hfound).1
        rw [List.length_reverse] at hlt
        exact ⟨found, by rw [if_neg (Nat.ne_of_lt hlt), hfound], hid⟩

theorem newest?_lt {calls : List Call} {id : String} {wait : WaitId}
    (h : newest? calls id = some wait) : wait < calls.length := by
  rcases newest?_some h with ⟨call, hcall, _⟩
  have hlt := (List.getElem?_eq_some_iff.mp hcall).1
  rw [List.length_reverse] at hlt
  exact hlt

namespace Log

theorem call?_lt {l : Log α} {wait : WaitId} {call : Call} (h : l.call? wait = some call) :
    wait < l.calls.length := by
  have hlt := (List.getElem?_eq_some_iff.mp h).1
  rw [List.length_reverse] at hlt
  exact hlt

theorem call?_isSome {l : Log α} {wait : WaitId} (h : wait < l.calls.length) :
    ∃ call, l.call? wait = some call := by
  refine ⟨_, List.getElem?_eq_getElem ?_⟩
  rw [List.length_reverse]
  exact h

theorem holder?_eq_some_iff {l : Log α} {id : String} {wait : WaitId} :
    l.holder? id = some wait ↔
      newest? l.calls id = some wait ∧ l.hasReturned wait = false ∧ l.payload? wait = none := by
  unfold holder?
  rw [Option.filter_eq_some_iff, Bool.and_eq_true, Bool.not_eq_true', Option.isNone_iff_eq_none]

theorem holder?_eq_none {l : Log α} {id : String} {wait : WaitId}
    (hnewest : newest? l.calls id = some wait)
    (hclosed : l.hasReturned wait = true ∨ (l.payload? wait).isSome) : l.holder? id = none := by
  cases hholder : l.holder? id with
  | none => rfl
  | some other =>
      rcases holder?_eq_some_iff.mp hholder with ⟨hother, hflight, hempty⟩
      rw [hnewest, Option.some.injEq] at hother
      rw [← hother] at hflight hempty
      rw [hflight, hempty] at hclosed
      simp at hclosed

theorem holder?_congr {l after : Log α} {id : String} (hcalls : after.calls = l.calls)
    (hsame : ∀ wait, newest? l.calls id = some wait →
      after.hasReturned wait = l.hasReturned wait ∧ after.payload? wait = l.payload? wait) :
    after.holder? id = l.holder? id := by
  unfold holder?
  rw [hcalls]
  cases hnewest : newest? l.calls id with
  | none => rfl
  | some wait =>
      rcases hsame wait hnewest with ⟨hreturned, hpayload⟩
      rw [Option.filter_some, Option.filter_some, hreturned, hpayload]

theorem holder?_inj {l : Log α} {id other : String} {wait : WaitId} (h : l.holder? id = some wait)
    (h' : newest? l.calls other = some wait) : id = other := by
  rcases newest?_some (holder?_eq_some_iff.mp h).1 with ⟨call, hcall, hid⟩
  rcases newest?_some h' with ⟨call', hcall', hother⟩
  rw [hcall] at hcall'
  cases hcall'
  exact hid.symm.trans hother

theorem calls_pass (l : Log α) (d : Duration) : (l.pass d).calls = l.calls := by
  unfold pass
  split <;> rfl

theorem length_calls_act (l : Log α) (a : Act α) : l.calls.length ≤ (l.act a).calls.length := by
  cases a with
  | listen correlation timeout => exact Nat.le_succ _
  | send correlation payload => exact Nat.le_refl _
  | poll wait => exact Nat.le_refl _
  | pass d => exact Nat.le_of_eq (congrArg List.length (l.calls_pass d).symm)

theorem length_calls_run (l : Log α) (acts : List (Act α)) :
    l.calls.length ≤ (l.run acts).calls.length := by
  induction acts generalizing l with
  | nil => exact Nat.le_refl _
  | cons a acts ih => exact Nat.le_trans (l.length_calls_act a) (ih (l.act a))

end Log
end WaitingRoom

/-! ## What a correlator does under each id and to each wait -/

namespace Correlator

variable {α : Type}

theorem getElem?_registered_listen (c : Correlator α) (correlation : String) (timeout : Duration)
    (now : Instant) (id : String) :
    (c.listen correlation timeout now).1.registered[id]? =
      if correlation = id then some ⟨c.started, c.lastTicket + 1⟩ else c.registered[id]? := by
  have habandon : ∀ wait, (c.abandon wait).registered = c.registered := by
    intro wait
    unfold abandon
    split <;> rfl
  unfold listen
  dsimp only
  rw [lookup_insert]
  split
  · rfl
  · split
    · rw [habandon]
    · rfl

theorem getElem?_waits_abandon (c : Correlator α) (wait other : WaitId) :
    (c.abandon wait).waits[other]? =
      if wait = other then (c.waits[other]?).map ({ · with slot := .abandoned })
      else c.waits[other]? := by
  unfold abandon
  split
  next w hw =>
    rw [lookup_insert]
    split
    next heq =>
      rw [← heq, hw]
      rfl
    next => rfl
  next hw =>
    split
    next heq =>
      rw [← heq, hw]
      rfl
    next => rfl

theorem getElem?_waits_listen (c : Correlator α) (correlation : String) (timeout : Duration)
    (now : Instant) (other : WaitId) :
    (c.listen correlation timeout now).1.waits[other]? =
      if c.started = other then
        some { correlation, timeout, due := now.later? timeout, ticket := c.lastTicket + 1 }
      else if (c.registered[correlation]?).any (·.wait = other) then
        (c.waits[other]?).map ({ · with slot := .abandoned })
      else c.waits[other]? := by
  unfold listen
  dsimp only
  rw [lookup_insert]
  split
  · rfl
  · split
    next previous hprevious =>
      rw [getElem?_waits_abandon, hprevious]
      simp only [Option.any_some, decide_eq_true_iff]
    next hfree =>
      rw [hfree]
      rfl

theorem send_of_registered {c : Correlator α} {correlation : String} {r : Registration}
    {w : Wait α} (hregistered : c.registered[correlation]? = some r)
    (hw : c.waits[r.wait]? = some w) (payload : α) :
    c.send correlation payload =
      ({ c with
          registered := c.registered.erase correlation
          delivered := c.delivered + 1
          waits := c.waits.insert r.wait { w with slot := .filled payload c.delivered } },
        true) := by
  unfold send
  rw [hregistered]
  dsimp only
  rw [hw]

theorem finish_of_some {c : Correlator α} {wait : WaitId} {w : Wait α}
    (hw : c.waits[wait]? = some w) :
    c.finish wait =
      { c with
        waits := c.waits.erase wait
        registered :=
          if (c.registered[w.correlation]?).any (·.ticket = w.ticket) then
            c.registered.erase w.correlation
          else c.registered } := by
  unfold finish
  rw [hw]

end Correlator
end MetricGateway
