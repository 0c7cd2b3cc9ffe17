import MetricGateway.Proofs.Waiting.Log

/-!
# What the registrations and the slots stand for

The room tells waits apart by tickets and slots, and knows only one wait under each id.  What it
knows agrees with the log: the wait that is registered under an id is the newest one there, as long
as it has neither returned nor been handed a payload; the slot of a wait that has not returned says
whether it was handed a payload, was replaced by a newer wait or neither.  Tickets are words of 64
bits, so they tell waits apart as long as there are fewer than 2^64 of them.
-/

namespace MetricGateway
namespace WaitingRoom
namespace Log

variable {α : Type}

/-- What the slot of a wait says. -/
inductive Stands (l : Log α) (wait : WaitId) (id : String) : Slot α → Prop where
  | filled {payload place} (handed : l.payload? wait = some payload) :
      Stands l wait id (.filled payload place)
  | abandoned (empty : l.payload? wait = none) (replaced : newest? l.calls id ≠ some wait) :
      Stands l wait id .abandoned
  | unfilled (empty : l.payload? wait = none) (newest : newest? l.calls id = some wait) :
      Stands l wait id .unfilled

theorem Stands.congr {l after : Log α} {wait : WaitId} {id : String} {slot : Slot α}
    (h : l.Stands wait id slot) (hcalls : after.calls = l.calls)
    (hpayload : after.payload? wait = l.payload? wait) : after.Stands wait id slot := by
  cases h with
  | filled handed => exact Stands.filled (hpayload.trans handed)
  | abandoned empty replaced => exact Stands.abandoned (hpayload.trans empty) (hcalls ▸ replaced)
  | unfilled empty newest => exact Stands.unfilled (hpayload.trans empty) (hcalls ▸ newest)

/-- A wait that has not returned, as its call started it. -/
structure Tracked (l : Log α) (wait : WaitId) (w : Wait α) (call : Call) : Prop where
  called : l.call? wait = some call
  inFlight : l.hasReturned wait = false
  correlation : w.correlation = call.correlation
  timeout : w.timeout = call.timeout
  due : w.due = call.startedAt.later? call.timeout
  ticket : w.ticket = UInt64.ofNat (wait + 1)
  slot : l.Stands wait call.correlation w.slot

theorem call?_congr {l after : Log α} (hcalls : after.calls = l.calls) (wait : WaitId) :
    after.call? wait = l.call? wait := by
  unfold call?
  rw [hcalls]

theorem Tracked.congr {l after : Log α} {wait : WaitId} {w : Wait α} {call : Call}
    (h : l.Tracked wait w call) (hcalls : after.calls = l.calls)
    (hreturned : after.hasReturned wait = l.hasReturned wait)
    (hpayload : after.payload? wait = l.payload? wait) : after.Tracked wait w call :=
  { h with
    called := (call?_congr hcalls wait).trans h.called
    inFlight := hreturned.trans h.inFlight
    slot := h.slot.congr hcalls hpayload }

structure Kept (l : Log α) : Prop where
  started : l.room.correlator.started = l.calls.length
  lastTicket : l.room.correlator.lastTicket = UInt64.ofNat l.calls.length
  onTick : l.room.now = .ofTick l.room.now.tick
  countable : l.room.now.countable = true
  registered : ∀ id, l.room.correlator.registered[id]? =
    (l.holder? id).map fun wait => ⟨wait, UInt64.ofNat (wait + 1)⟩
  tracked : ∀ {wait w}, l.room.correlator.waits[wait]? = some w → ∃ call, l.Tracked wait w call
  gone : ∀ {wait call}, l.room.correlator.waits[wait]? = none → l.call? wait = some call →
    l.hasReturned wait = true
  payload_lt : ∀ {wait payload}, l.payload? wait = some payload → wait < l.calls.length
  results : ∀ r ∈ l.room.results,
    ∃ call, l.call? r.wait = some call ∧ r.result = call.outcome (l.payload? r.wait)
  results_nodup : (l.room.results.map (·.wait)).Nodup
  handed_nodup : (l.handed.map (·.1)).Nodup

theorem kept_empty : ({} : Log α).Kept where
  started := rfl
  lastTicket := rfl
  onTick := show Instant.start = .ofTick Instant.start.tick by decide
  countable := show Instant.start.countable = true by decide
  registered := by
    intro id
    exact Std.ExtTreeMap.getElem?_empty
  tracked := by
    intro wait w hw
    rw [Std.ExtTreeMap.getElem?_empty] at hw
    cases hw
  gone := by
    intro wait call _ hcall
    cases hcall
  payload_lt := by
    intro wait payload hpayload
    cases hpayload
  results := fun _ hr => absurd hr List.not_mem_nil
  results_nodup := List.nodup_nil
  handed_nodup := List.nodup_nil

theorem Kept.tracked_of_inFlight {l : Log α} (h : l.Kept) {wait : WaitId} {call : Call}
    (hcall : l.call? wait = some call) (hflight : l.hasReturned wait = false) :
    ∃ w, l.room.correlator.waits[wait]? = some w ∧ l.Tracked wait w call := by
  cases hw : l.room.correlator.waits[wait]? with
  | none =>
      have hreturned := h.gone hw hcall
      rw [hflight] at hreturned
      cases hreturned
  | some w =>
      rcases h.tracked hw with ⟨call', htracked⟩
      have heq : call' = call := Option.some.inj (htracked.called.symm.trans hcall)
      exact ⟨w, rfl, heq ▸ htracked⟩

theorem mem_of_hasReturned {l : Log α} {wait : WaitId} :
    l.hasReturned wait = true ↔ wait ∈ l.room.results.map (·.wait) := by
  unfold hasReturned
  rw [List.any_eq_true, List.mem_map]
  simp only [decide_eq_true_iff]

theorem Kept.hasReturned_lt {l : Log α} (h : l.Kept) {wait : WaitId}
    (hreturned : l.hasReturned wait = true) : wait < l.calls.length := by
  rcases List.mem_map.mp (mem_of_hasReturned.mp hreturned) with ⟨r, hr, heq⟩
  rcases h.results r hr with ⟨call, hcall, _⟩
  exact heq ▸ call?_lt hcall

/-! ## Calling `listen` -/

theorem call?_listen {l : Log α} (correlation : String) (timeout : Duration) {wait : WaitId}
    {call : Call} (hcall : l.call? wait = some call) :
    (l.listen correlation timeout).call? wait = some call := by
  show (_ :: l.calls).reverse[wait]? = some call
  rw [getElem?_reverse_cons, if_neg (Nat.ne_of_lt (call?_lt hcall))]
  exact hcall

section Listen

variable {l : Log α} (h : l.Kept) (correlation : String) (timeout : Duration)

include h

theorem Kept.hasReturned_length : l.hasReturned l.calls.length = false := by
  apply Bool.eq_false_iff.mpr
  intro hreturned
  exact Nat.lt_irrefl _ (h.hasReturned_lt hreturned)

theorem Kept.payload?_length : l.payload? l.calls.length = none := by
  cases hpayload : l.payload? l.calls.length with
  | none => rfl
  | some payload => exact absurd (h.payload_lt hpayload) (Nat.lt_irrefl _)

theorem Kept.holder?_listen (id : String) :
    (l.listen correlation timeout).holder? id =
      if correlation = id then some l.calls.length else l.holder? id := by
  have hnew : (!l.hasReturned l.calls.length && (l.payload? l.calls.length).isNone) = true := by
    rw [h.hasReturned_length, h.payload?_length]
    rfl
  show Option.filter (fun wait => !l.hasReturned wait && (l.payload? wait).isNone)
    (newest? (_ :: l.calls) id) = _
  rw [newest?_cons]
  split
  · rw [Option.filter_some, if_pos hnew]
  · rfl

theorem Kept.registered_any (wait : WaitId) :
    (l.room.correlator.registered[correlation]?).any (·.wait = wait) = true ↔
      l.holder? correlation = some wait := by
  rw [h.registered]
  cases l.holder? correlation with
  | none => exact ⟨fun hany => absurd hany Bool.false_ne_true, fun hholder => nomatch hholder⟩
  | some holder =>
      rw [Option.map_some, Option.any_some, decide_eq_true_iff, Option.some.injEq]

/-- A call adds a newest wait under its id, and replaces the one that was the newest there. -/
theorem Kept.tracked_listen {wait : WaitId} {w : Wait α}
    (hw : (l.listen correlation timeout).room.correlator.waits[wait]? = some w) :
    ∃ call, (l.listen correlation timeout).Tracked wait w call := by
  change (l.room.correlator.listen correlation timeout l.room.now).1.waits[wait]? = some w at hw
  have hnewest : ∀ id, newest? (l.listen correlation timeout).calls id =
      if correlation = id then some l.calls.length else newest? l.calls id := fun id => rfl
  rw [Correlator.getElem?_waits_listen, h.started, h.lastTicket] at hw
  split at hw
  next heq =>
    cases hw
    subst heq
    refine ⟨⟨correlation, timeout, l.room.now⟩, ?_, h.hasReturned_length, rfl, rfl, rfl,
      (UInt64.ofNat_add _ _).symm, ?_⟩
    · show (_ :: l.calls).reverse[l.calls.length]? = _
      rw [getElem?_reverse_cons, if_pos rfl]
    · refine Stands.unfilled h.payload?_length ?_
      rw [hnewest, if_pos rfl]
  next hold =>
    split at hw
    next hregistered =>
      rcases Option.map_eq_some_iff.mp hw with ⟨before, hbefore, heq⟩
      subst heq
      rcases h.tracked hbefore with ⟨call, htracked⟩
      have hholder := holder?_eq_some_iff.mp ((h.registered_any correlation wait).mp hregistered)
      refine ⟨call, { htracked with
        called := call?_listen correlation timeout htracked.called, slot := ?_ }⟩
      refine Stands.abandoned hholder.2.2 ?_
      have hid : correlation = call.correlation := by
        rcases newest?_some hholder.1 with ⟨call', hcall', hid⟩
        rw [Option.some.inj (hcall'.symm.trans htracked.called)] at hid
        exact hid.symm
      rw [hnewest, if_pos hid]
      intro heq
      exact hold (Option.some.inj heq)
    next hregistered =>
      rcases h.tracked hw with ⟨call, htracked⟩
      refine ⟨call, { htracked with
        called := call?_listen correlation timeout htracked.called, slot := ?_ }⟩
      have hstands := htracked.slot
      generalize w.slot = slot at hstands ⊢
      cases hstands with
      | filled handed => exact Stands.filled handed
      | abandoned empty replaced =>
          refine Stands.abandoned empty ?_
          rw [hnewest]
          split
          · exact fun heq => hold (Option.some.inj heq)
          · exact replaced
      | unfilled empty newest =>
          refine Stands.unfilled empty ?_
          rw [hnewest, if_neg]
          · exact newest
          · intro hid
            apply hregistered
            rw [h.registered_any, hid]
            exact holder?_eq_some_iff.mpr ⟨newest, htracked.inFlight, empty⟩

theorem Kept.gone_listen {wait : WaitId} {call : Call}
    (hw : (l.listen correlation timeout).room.correlator.waits[wait]? = none)
    (hcall : (l.listen correlation timeout).call? wait = some call) :
    l.hasReturned wait = true := by
  change (l.room.correlator.listen correlation timeout l.room.now).1.waits[wait]? = none at hw
  change (_ :: l.calls).reverse[wait]? = some call at hcall
  rw [Correlator.getElem?_waits_listen, h.started] at hw
  rw [getElem?_reverse_cons] at hcall
  split at hw
  next => cases hw
  next hold =>
    rw [if_neg (Ne.symm hold)] at hcall
    split at hw
    · exact h.gone (Option.map_eq_none_iff.mp hw) hcall
    · exact h.gone hw hcall

theorem Kept.listen : (l.listen correlation timeout).Kept where
  started := congrArg (· + 1) h.started
  lastTicket := by
    show l.room.correlator.lastTicket + 1 = UInt64.ofNat (l.calls.length + 1)
    rw [h.lastTicket, UInt64.ofNat_add]
    rfl
  onTick := h.onTick
  countable := h.countable
  registered := by
    intro id
    show (l.room.correlator.listen correlation timeout l.room.now).1.registered[id]? = _
    rw [Correlator.getElem?_registered_listen, h.holder?_listen, h.started, h.lastTicket]
    split
    · rw [Option.map_some, UInt64.ofNat_add]
      rfl
    · exact h.registered id
  tracked := h.tracked_listen correlation timeout
  gone := h.gone_listen correlation timeout
  payload_lt := fun hpayload => Nat.lt_succ_of_lt (h.payload_lt hpayload)
  results := by
    intro r hr
    rcases h.results r hr with ⟨call, hcall, hresult⟩
    exact ⟨call, call?_listen correlation timeout hcall, hresult⟩
  results_nodup := h.results_nodup
  handed_nodup := h.handed_nodup

end Listen

/-! ## Calling `send` -/

theorem Kept.send_of_none {l : Log α} (h : l.Kept) {correlation : String}
    (hholder : l.holder? correlation = none) (payload : α) :
    l.room.send correlation payload = (l.room, false) := by
  have hfree : l.room.correlator.registered[correlation]? = none := by
    rw [h.registered, hholder]
    rfl
  unfold WaitingRoom.send
  rw [Correlator.send_of_free hfree]

theorem Kept.send_eq_self {l : Log α} (h : l.Kept) {correlation : String}
    (hholder : l.holder? correlation = none) (payload : α) :
    l.send correlation payload = l := by
  unfold send
  rw [h.send_of_none hholder, if_neg Bool.false_ne_true]

theorem Kept.send_of_some {l : Log α} (h : l.Kept) {correlation : String} {holder : WaitId}
    (hholder : l.holder? correlation = some holder) (payload : α) :
    ∃ w place, l.room.correlator.waits[holder]? = some w ∧
      l.room.send correlation payload =
        ({ l.room with correlator := { l.room.correlator with
            registered := l.room.correlator.registered.erase correlation
            delivered := l.room.correlator.delivered + 1
            waits := l.room.correlator.waits.insert holder
              { w with slot := .filled payload place } } }, true) := by
  have hnewest := holder?_eq_some_iff.mp hholder
  have hregistered : l.room.correlator.registered[correlation]? =
      some ⟨holder, UInt64.ofNat (holder + 1)⟩ := by
    rw [h.registered, hholder]
    rfl
  rcases call?_isSome (newest?_lt hnewest.1) with ⟨call, hcall⟩
  rcases h.tracked_of_inFlight hcall hnewest.2.1 with ⟨w, hw, _⟩
  refine ⟨w, l.room.correlator.delivered, hw, ?_⟩
  unfold WaitingRoom.send
  rw [Correlator.send_of_registered hregistered hw]

theorem payload?_cons {l after : Log α} {holder : WaitId} {payload : α}
    (hhanded : after.handed = (holder, payload) :: l.handed) (wait : WaitId) :
    after.payload? wait = if wait = holder then some payload else l.payload? wait := by
  unfold payload?
  rw [hhanded]
  split
  next heq =>
    rw [heq]
    exact List.lookup_cons_self
  next hne => rw [List.lookup_cons, beq_eq_false_iff_ne.mpr hne]

theorem Kept.handed_nodup_cons {l : Log α} (h : l.Kept) {holder : WaitId}
    (hempty : l.payload? holder = none) (payload : α) :
    (((holder, payload) :: l.handed).map (·.1)).Nodup := by
  refine List.nodup_cons.mpr ⟨?_, h.handed_nodup⟩
  intro hmem
  rcases List.mem_map.mp hmem with ⟨pair, hpair, heq⟩
  have hnone := List.lookup_eq_none_iff.mp hempty pair hpair
  rw [heq] at hnone
  simp at hnone

/-- The newest wait under an id has been handed a payload, and its registration is gone. -/
theorem Kept.handed {l after : Log α} (h : l.Kept) {correlation : String} {holder : WaitId}
    (hholder : l.holder? correlation = some holder) {w : Wait α} {payload : α} {place : Nat}
    (hw : l.room.correlator.waits[holder]? = some w)
    (hroom : after.room = { l.room with correlator := { l.room.correlator with
      registered := l.room.correlator.registered.erase correlation
      delivered := l.room.correlator.delivered + 1
      waits := l.room.correlator.waits.insert holder { w with slot := .filled payload place } } })
    (hcalls : after.calls = l.calls) (hhanded : after.handed = (holder, payload) :: l.handed) :
    after.Kept := by
  rcases holder?_eq_some_iff.mp hholder with ⟨hnewest, hflight, hempty⟩
  have hcall := call?_congr hcalls
  have hreturned : ∀ wait, after.hasReturned wait = l.hasReturned wait := by
    intro wait
    unfold hasReturned
    rw [hroom]
  have hself : after.payload? holder = some payload := by
    rw [payload?_cons hhanded, if_pos rfl]
  have hpayload : ∀ {wait}, wait ≠ holder → after.payload? wait = l.payload? wait := by
    intro wait hne
    rw [payload?_cons hhanded, if_neg hne]
  constructor
  · rw [hroom, hcalls]
    exact h.started
  · rw [hroom, hcalls]
    exact h.lastTicket
  · rw [hroom]
    exact h.onTick
  · rw [hroom]
    exact h.countable
  · intro id
    rw [hroom, lookup_erase]
    split
    next hid =>
      rw [← hcalls, hid] at hnewest
      rw [holder?_eq_none hnewest (Or.inr (Option.isSome_of_eq_some hself))]
      rfl
    next hid =>
      rw [h.registered, holder?_congr hcalls]
      intro wait hwait
      have hne : wait ≠ holder := fun heq => hid (holder?_inj hholder (heq ▸ hwait))
      exact ⟨hreturned wait, hpayload hne⟩
  · intro wait w' hw'
    rw [hroom, lookup_insert] at hw'
    split at hw'
    next heq =>
      cases hw'
      subst heq
      rcases h.tracked hw with ⟨call, htracked⟩
      exact ⟨call, { htracked with
        called := (hcall holder).trans htracked.called
        inFlight := (hreturned holder).trans htracked.inFlight
        slot := Stands.filled hself }⟩
    next hne =>
      rcases h.tracked hw' with ⟨call, htracked⟩
      exact ⟨call, htracked.congr hcalls (hreturned wait) (hpayload (Ne.symm hne))⟩
  · intro wait call hwait hcalled
    rw [hroom, lookup_insert] at hwait
    split at hwait
    · cases hwait
    · rw [hreturned]
      exact h.gone hwait ((hcall wait).symm.trans hcalled)
  · intro wait payload' hpayload'
    rw [hcalls]
    by_cases heq : wait = holder
    · rw [heq]
      exact newest?_lt hnewest
    · exact h.payload_lt ((hpayload heq).symm.trans hpayload')
  · intro r hr
    rw [hroom] at hr
    rcases h.results r hr with ⟨call, hcalled, hresult⟩
    have hne : r.wait ≠ holder := by
      intro heq
      have hmem : l.hasReturned r.wait = true := mem_of_hasReturned.mpr (List.mem_map_of_mem hr)
      rw [heq, hflight] at hmem
      cases hmem
    rw [hcall, hpayload hne]
    exact ⟨call, hcalled, hresult⟩
  · rw [hroom]
    exact h.results_nodup
  · rw [hhanded]
    exact h.handed_nodup_cons hempty payload

theorem Kept.send {l : Log α} (h : l.Kept) (correlation : String) (payload : α) :
    (l.send correlation payload).Kept := by
  cases hholder : l.holder? correlation with
  | none =>
      rw [h.send_eq_self hholder]
      exact h
  | some holder =>
      rcases h.send_of_some hholder payload with ⟨w, place, hw, hsend⟩
      have hroom : (l.send correlation payload).room = (l.room.send correlation payload).1 := rfl
      rw [hsend] at hroom
      apply h.handed hholder hw hroom rfl
      unfold Log.send
      rw [(holder?_eq_some_iff.mp hholder).1, hsend, if_pos rfl]
      rfl

/-! ## Running the task of a wait -/

/-- A wait whose call is over although nothing was handed to it: a newer call replaced it, or its
time is up. -/
def Expired (l : Log α) (wait : WaitId) (call : Call) : Prop :=
  newest? l.calls call.correlation ≠ some wait ∨
    (call.startedAt.plus call.timeout).nanos ≤ l.room.now.nanos

instance (l : Log α) (wait : WaitId) (call : Call) : Decidable (l.Expired wait call) := by
  unfold Expired
  infer_instance

/-- On the ticks of the clock, a time that can be counted is met neither early nor late. -/
theorem any_metBy_iff (start : Instant) (timeout : Duration) {now : Instant}
    (honTick : now = .ofTick now.tick) (hcountable : now.countable = true) :
    ((start.later? timeout).any (·.metBy now)) = true ↔ (start.plus timeout).nanos ≤ now.nanos := by
  have hnow : now.nanos = nanosPerMilli * now.tick := congrArg Instant.nanos honTick
  unfold Instant.countable at hcountable
  unfold Instant.later?
  split
  next =>
    rw [Option.any_some, Instant.metBy_iff]
    unfold Instant.ceilTick
    simp only [nanosPerMilli] at hnow ⊢
    omega
  next hbeyond =>
    unfold Instant.countable at hbeyond
    simp only [decide_eq_true_iff] at hcountable hbeyond
    constructor
    · intro hany
      cases hany
    · intro hle
      exact absurd (Nat.lt_of_le_of_lt hle hcountable) hbeyond

theorem Kept.result?_of_tracked {l : Log α} (h : l.Kept) {wait : WaitId} {w : Wait α} {call : Call}
    (htracked : l.Tracked wait w call) :
    w.result? l.room.now =
      if (l.payload? wait).isSome ∨ l.Expired wait call then
        some (call.outcome (l.payload? wait))
      else none := by
  have hdue := any_metBy_iff call.startedAt call.timeout h.onTick h.countable
  have hstands := htracked.slot
  unfold Wait.result?
  rw [htracked.correlation, htracked.timeout, htracked.due]
  generalize w.slot = slot at hstands ⊢
  cases hstands with
  | filled handed =>
      rw [if_pos (Or.inl (by rw [handed]; rfl)), handed]
      rfl
  | abandoned empty replaced =>
      have hexpired : l.Expired wait call := Or.inl replaced
      rw [if_pos (Or.inr hexpired), empty]
      rfl
  | unfilled empty newest =>
      have hexpired : l.Expired wait call ↔
          (call.startedAt.plus call.timeout).nanos ≤ l.room.now.nanos := by
        unfold Expired
        simp only [newest, ne_eq, not_true_eq_false, false_or]
      rw [empty]
      simp only [hexpired, hdue, Option.isSome_none, Bool.false_eq_true, false_or]
      rfl

/-- A wait that has its result drops the registration under its id exactly if it is registered
there. -/
theorem Kept.registered_finish {l : Log α} (h : l.Kept) (hfew : l.calls.length < UInt64.size)
    {wait : WaitId} {w : Wait α} {call : Call} (hw : l.room.correlator.waits[wait]? = some w)
    (htracked : l.Tracked wait w call) (id : String) :
    (l.room.correlator.finish wait).registered[id]? =
      if l.holder? id = some wait then none else l.room.correlator.registered[id]? := by
  have hown : (l.room.correlator.registered[w.correlation]?).any (·.ticket = w.ticket) = true ↔
      l.holder? call.correlation = some wait := by
    rw [h.registered, htracked.correlation, htracked.ticket]
    cases hholder : l.holder? call.correlation with
    | none => exact ⟨fun hany => absurd hany Bool.false_ne_true, fun hsome => nomatch hsome⟩
    | some other =>
        have hother : other + 1 < UInt64.size :=
          Nat.lt_of_le_of_lt (newest?_lt (holder?_eq_some_iff.mp hholder).1) hfew
        have hwait : wait + 1 < UInt64.size := Nat.lt_of_le_of_lt (call?_lt htracked.called) hfew
        rw [Option.map_some, Option.any_some, decide_eq_true_iff, Option.some.injEq,
          ← UInt64.toNat_inj, UInt64.toNat_ofNat_of_lt' hother, UInt64.toNat_ofNat_of_lt' hwait,
          Nat.add_right_cancel_iff]
  rw [Correlator.finish_of_some hw]
  dsimp only
  by_cases hholds : l.holder? call.correlation = some wait
  · rw [if_pos (hown.mpr hholds), htracked.correlation, lookup_erase]
    by_cases hid : call.correlation = id
    · rw [if_pos hid, if_pos (hid ▸ hholds)]
    · rw [if_neg hid, if_neg]
      intro hother
      exact hid (holder?_inj hholds (holder?_eq_some_iff.mp hother).1)
  · rw [if_neg (fun hany => hholds (hown.mp hany)), if_neg]
    intro hother
    rcases newest?_some (holder?_eq_some_iff.mp hother).1 with ⟨call', hcall', hid⟩
    have heq : call' = call := Option.some.inj (hcall'.symm.trans htracked.called)
    rw [heq] at hid
    exact hholds (hid ▸ hother)

theorem Kept.returned {l after : Log α} (h : l.Kept) (hfew : l.calls.length < UInt64.size)
    {wait : WaitId} {w : Wait α} {call : Call} (hw : l.room.correlator.waits[wait]? = some w)
    (htracked : l.Tracked wait w call)
    (hroom : after.room = { l.room with
      correlator := l.room.correlator.finish wait
      results := ⟨l.room.now, wait, call.outcome (l.payload? wait)⟩ :: l.room.results })
    (hcalls : after.calls = l.calls) (hhanded : after.handed = l.handed) : after.Kept := by
  have hcall := call?_congr hcalls
  have hpayload : ∀ other, after.payload? other = l.payload? other := by
    intro other
    unfold payload?
    rw [hhanded]
  have hreturned : ∀ other,
      after.hasReturned other = (decide (wait = other) || l.hasReturned other) := by
    intro other
    unfold hasReturned
    rw [hroom]
    rfl
  have hreturned_of_ne : ∀ {other}, wait ≠ other →
      after.hasReturned other = l.hasReturned other := by
    intro other hne
    rw [hreturned, decide_eq_false hne, Bool.false_or]
  have hself : after.hasReturned wait = true := by
    rw [hreturned, decide_eq_true rfl, Bool.true_or]
  have hwaits : ∀ other, after.room.correlator.waits[other]? =
      if wait = other then none else l.room.correlator.waits[other]? := by
    intro other
    rw [hroom, Correlator.finish_of_some hw, lookup_erase]
  constructor
  · rw [hroom, hcalls]
    exact (Correlator.started_finish _ _).trans h.started
  · rw [hroom, hcalls, Correlator.finish_of_some hw]
    exact h.lastTicket
  · rw [hroom]
    exact h.onTick
  · rw [hroom]
    exact h.countable
  · intro id
    rw [hroom, h.registered_finish hfew hw htracked]
    by_cases hnewest : newest? l.calls id = some wait
    · rw [holder?_eq_none (l := after) (hcalls ▸ hnewest) (Or.inl hself)]
      split
      next => rfl
      next hholder =>
        rw [h.registered]
        cases hother : l.holder? id with
        | none => rfl
        | some other =>
            have heq := hnewest.symm.trans (holder?_eq_some_iff.mp hother).1
            exact absurd (hother.trans heq.symm) hholder
    · rw [if_neg (fun hholder => hnewest (holder?_eq_some_iff.mp hholder).1), h.registered,
        holder?_congr hcalls]
      intro other hother
      have hne : wait ≠ other := fun heq => hnewest (heq ▸ hother)
      exact ⟨hreturned_of_ne hne, hpayload other⟩
  · intro other w' hw'
    rw [hwaits] at hw'
    split at hw'
    · cases hw'
    next hne =>
      rcases h.tracked hw' with ⟨call', htracked'⟩
      exact ⟨call', htracked'.congr hcalls (hreturned_of_ne hne) (hpayload other)⟩
  · intro other call' hother hcalled
    rw [hwaits] at hother
    split at hother
    next heq => exact heq ▸ hself
    next hne =>
      rw [hreturned_of_ne hne]
      exact h.gone hother ((hcall other).symm.trans hcalled)
  · intro other payload hother
    rw [hcalls]
    exact h.payload_lt ((hpayload other).symm.trans hother)
  · intro r hr
    rw [hroom] at hr
    rw [hcall, hpayload]
    rcases List.mem_cons.mp hr with heq | hold
    · rw [heq]
      exact ⟨call, htracked.called, rfl⟩
    · exact h.results r hold
  · rw [hroom]
    refine List.nodup_cons.mpr ⟨?_, h.results_nodup⟩
    intro hmem
    have hold := mem_of_hasReturned.mpr hmem
    rw [htracked.inFlight] at hold
    cases hold
  · rw [hhanded]
    exact h.handed_nodup

theorem Kept.result?_eq {l : Log α} (h : l.Kept) {wait : WaitId} {call : Call}
    (hcall : l.call? wait = some call) (hflight : l.hasReturned wait = false) :
    l.room.correlator.result? wait l.room.now =
      if (l.payload? wait).isSome ∨ l.Expired wait call then
        some (call.outcome (l.payload? wait))
      else none := by
  rcases h.tracked_of_inFlight hcall hflight with ⟨w, hw, htracked⟩
  unfold Correlator.result?
  rw [hw]
  exact h.result?_of_tracked htracked

theorem poll_eq_self {l : Log α} {wait : WaitId}
    (h : l.room.correlator.result? wait l.room.now = none) : l.poll wait = l := by
  unfold poll step
  rw [h]

theorem room_poll {l : Log α} {wait : WaitId} {result : Except GatewayError α}
    (h : l.room.correlator.result? wait l.room.now = some result) :
    (l.poll wait).room = { l.room with
      correlator := l.room.correlator.finish wait
      results := ⟨l.room.now, wait, result⟩ :: l.room.results } := by
  unfold poll step
  rw [h]

theorem Kept.poll {l : Log α} (h : l.Kept) (hfew : l.calls.length < UInt64.size) (wait : WaitId) :
    (l.poll wait).Kept := by
  cases hw : l.room.correlator.waits[wait]? with
  | none =>
      rw [poll_eq_self]
      · exact h
      · unfold Correlator.result?
        rw [hw]
        rfl
  | some w =>
      rcases h.tracked hw with ⟨call, htracked⟩
      have hresult := h.result?_eq htracked.called htracked.inFlight
      split at hresult
      next => exact h.returned hfew hw htracked (room_poll hresult) rfl rfl
      next =>
        rw [poll_eq_self hresult]
        exact h

/-! ## Letting time pass -/

theorem Kept.pass {l : Log α} (h : l.Kept) (d : Duration) : (l.pass d).Kept := by
  unfold Log.pass
  split
  next hcountable =>
    exact { h with
      onTick := by
        show l.room.now.roundedPlus d = .ofTick (l.room.now.roundedPlus d).tick
        unfold Instant.roundedPlus
        rw [Instant.tick_ofTick]
      countable := hcountable
      tracked := by
        intro wait w hw
        rcases h.tracked hw with ⟨call, htracked⟩
        exact ⟨call, htracked.congr rfl rfl rfl⟩
      gone := h.gone
      payload_lt := h.payload_lt }
  next => exact h

/-! ## Runs -/

theorem Kept.act {l : Log α} (h : l.Kept) (hfew : l.calls.length < UInt64.size) (a : Act α) :
    (l.act a).Kept := by
  cases a with
  | listen correlation timeout => exact h.listen correlation timeout
  | send correlation payload => exact h.send correlation payload
  | poll wait => exact h.poll hfew wait
  | pass d => exact h.pass d

theorem Kept.run {l : Log α} (h : l.Kept) (acts : List (Act α))
    (hfew : (l.run acts).calls.length < UInt64.size) : (l.run acts).Kept := by
  induction acts generalizing l with
  | nil => exact h
  | cons a acts ih =>
      have hbefore : l.calls.length < UInt64.size :=
        Nat.lt_of_le_of_lt (l.length_calls_run (a :: acts)) hfew
      exact ih (h.act hbefore a) hfew

end Log
end WaitingRoom
end MetricGateway
