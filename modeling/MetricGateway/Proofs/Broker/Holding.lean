import MetricGateway.Proofs.Broker.Backlog
import MetricGateway.Proofs.Broker.Seats

/-!
# A queue with one subscriber

A named queue is bound to a direct exchange, and only one subscriber declares, binds or reads it.
The messages of the subscriber stand in a line: in front those that its consumer has not read,
behind them those that wait in the queue.  Either the consumer is attached, and nothing waits in the
queue, or the consumer is detached and everything new waits.  So the line only grows at its end, by
the messages that the broker accepts for the queue, and only the subscriber takes messages from its
front.
-/

namespace MetricGateway
namespace Broker

/-- A named queue that is bound to a direct exchange. -/
structure DirectQueue where
  exchange : String
  name : String
  durable : Bool
  keys : List String

namespace DirectQueue

def binding (q : DirectQueue) : Binding := ⟨q.exchange, .direct, .named q.name q.durable, q.keys⟩

def Matches (q : DirectQueue) (m : Message) : Prop := m.exchange = q.exchange ∧ m.key ∈ q.keys

instance (q : DirectQueue) (m : Message) : Decidable (q.Matches m) := by
  unfold Matches
  infer_instance

/-- The messages that are accepted for the queue: a publish that the broker accepts, once the queue
was declared. -/
def accepted (q : DirectQueue) (b : Broker) : Op → List Message
  | .publish m => if (b.publish m).2 = .ok () ∧ q.name ∈ b.queues ∧ q.Matches m then [m] else []
  | _ => []

theorem accepted_publish (q : DirectQueue) (b : Broker) (m : Message) :
    q.accepted b (.publish m) =
      if (b.publish m).2 = .ok () ∧ q.name ∈ b.queues ∧ q.Matches m then [m] else [] := rfl

theorem declared_of_accepted {q : DirectQueue} {b : Broker} {op : Op}
    (h : q.accepted b op ≠ []) : q.name ∈ b.queues := by
  cases op with
  | publish m =>
      rw [accepted_publish] at h
      split at h
      next hall => exact hall.2.1
      next => exact absurd rfl h
  | _ => exact absurd rfl h

/-- Whether an operation of somebody else neither declares nor reads the queue.  What is published
can be written in a frame. -/
def Spares (q : DirectQueue) (b : Broker) : Op → Prop
  | .openConsumer binding => b.queueName binding ≠ q.name
  | .take id => ∀ seat ∈ b.standing id, seat.1 ≠ q.name
  | .close id => ∀ seat ∈ b.standing id, seat.1 ≠ q.name
  | .publish m => m.envelope.Fits
  | .cancelAll => True
  | .setRefusing _ => True

end DirectQueue

/-- The messages on their way to a subscriber, the next one in front: those that its consumer has
not read, and those that wait in the queue. -/
def line (b : Broker) (name : String) (holder : Option ConsumerId) : List Message :=
  holder.elim [] b.unread ++ b.waiting name

/-- How the consumer of the subscriber holds the queue, if there is one. -/
inductive Held (b : Broker) (name : String) : Option ConsumerId → Prop where
  | vacant (readers : b.readers name = []) : Held b name none
  | attached {c : ConsumerId} (standing : b.standing c = some (name, true))
      (readers : b.readers name = [c]) (waiting : b.waiting name = []) : Held b name (some c)
  | detached {c : ConsumerId} (standing : b.standing c = some (name, false))
      (readers : b.readers name = []) : Held b name (some c)

/-- The queue belongs to one subscriber, and its routes are those of the binding. -/
structure Keeps (b : Broker) (q : DirectQueue) (holder : Option ConsumerId) : Prop where
  wired : b.Wired
  seated : b.Seated
  shared : ∀ queue, b.queues[q.name]? = some queue → queue.exclusive = false
  routed : ∀ r ∈ b.routes, r.queue = q.name → r.exchange = q.exchange ∧ r.key ∈ q.keys
  bound : q.name ∈ b.queues → b.exchanges[q.exchange]? = some .direct ∧
    ∀ key ∈ q.keys, ⟨q.exchange, key, q.name⟩ ∈ b.routes
  held : b.Held q.name holder

variable {b : Broker} {q : DirectQueue} {holder : Option ConsumerId}

theorem keeps_empty (q : DirectQueue) : ({} : Broker).Keeps q none where
  wired := wired_empty
  seated := seated_empty
  shared := by simp
  routed := fun _ h => absurd h List.not_mem_nil
  bound := by simp
  held := .vacant (by simp [readers, members])

/-! ## Operations away from the queue -/

/-- Nothing that concerns the queue and its subscriber has changed. -/
structure Undisturbed (b after : Broker) (q : DirectQueue) (holder : Option ConsumerId) : Prop where
  queue : after.queues[q.name]? = b.queues[q.name]?
  readers : after.readers q.name = b.readers q.name
  routes : ∀ r : Route, r.queue = q.name → (r ∈ after.routes ↔ r ∈ b.routes)
  exchange : b.exchanges[q.exchange]? = some .direct → after.exchanges[q.exchange]? = some .direct
  holder : ∀ c ∈ holder, after.standing c = b.standing c ∧ after.unread c = b.unread c

theorem waiting_of_not_mem {b : Broker} {name : String} (h : name ∉ b.queues) :
    b.waiting name = [] := by
  unfold waiting
  rw [Std.ExtTreeMap.getD_eq_fallback h]
  rfl

theorem waiting_congr {b after : Broker} {name : String}
    (h : after.queues[name]? = b.queues[name]?) : after.waiting name = b.waiting name := by
  unfold waiting
  rw [Std.ExtTreeMap.getD_eq_getD_getElem?, Std.ExtTreeMap.getD_eq_getD_getElem?, h]

namespace Undisturbed

variable {after : Broker} (h : b.Undisturbed after q holder)
include h

theorem waiting : after.waiting q.name = b.waiting q.name := waiting_congr h.queue

theorem mem_queues_iff : q.name ∈ after.queues ↔ q.name ∈ b.queues := by
  rw [Std.ExtTreeMap.mem_iff_isSome_getElem?, Std.ExtTreeMap.mem_iff_isSome_getElem?, h.queue]

theorem line : after.line q.name holder = b.line q.name holder := by
  unfold Broker.line
  rw [h.waiting]
  cases holder with
  | none => rfl
  | some c => exact congrArg (· ++ b.waiting q.name) (h.holder c rfl).2

theorem held (hheld : b.Held q.name holder) : after.Held q.name holder := by
  cases hheld with
  | vacant hreaders =>
      apply Held.vacant
      rw [h.readers]
      exact hreaders
  | attached hstanding hreaders hwaiting =>
      apply Held.attached
      · rw [(h.holder _ rfl).1]
        exact hstanding
      · rw [h.readers]
        exact hreaders
      · rw [h.waiting]
        exact hwaiting
  | detached hstanding hreaders =>
      apply Held.detached
      · rw [(h.holder _ rfl).1]
        exact hstanding
      · rw [h.readers]
        exact hreaders

theorem keeps (hkeeps : b.Keeps q holder) (hwired : after.Wired) (hseated : after.Seated) :
    after.Keeps q holder where
  wired := hwired
  seated := hseated
  shared := by
    intro queue hqueue
    rw [h.queue] at hqueue
    exact hkeeps.shared queue hqueue
  routed := fun r hr hqueue => hkeeps.routed r ((h.routes r hqueue).mp hr) hqueue
  bound := by
    intro hname
    rcases hkeeps.bound (h.mem_queues_iff.mp hname) with ⟨hdirect, hroutes⟩
    constructor
    · exact h.exchange hdirect
    · intro key hkey
      exact (h.routes _ rfl).mpr (hroutes key hkey)
  held := h.held hkeeps.held

end Undisturbed

theorem Held.standing (h : b.Held q.name holder) {c : ConsumerId} (hc : c ∈ holder) :
    ∃ attached, b.standing c = some (q.name, attached) := by
  cases h with
  | vacant => cases hc
  | attached hstanding =>
      cases hc
      exact ⟨true, hstanding⟩
  | detached hstanding =>
      cases hc
      exact ⟨false, hstanding⟩

theorem Held.ne_of_spared (h : b.Held q.name holder) {id : ConsumerId}
    (hspared : ∀ seat ∈ b.standing id, seat.1 ≠ q.name) {c : ConsumerId} (hc : c ∈ holder) :
    c ≠ id := by
  rcases h.standing hc with ⟨attached, hstanding⟩
  intro heq
  subst heq
  exact hspared _ hstanding rfl

theorem Keeps.undisturbed_take (h : b.Keeps q holder) {id : ConsumerId}
    (hspared : ∀ seat ∈ b.standing id, seat.1 ≠ q.name) :
    b.Undisturbed (b.take id).1 q holder := by
  rcases take_frame b id with ⟨consumers, heq⟩
  constructor
  · rw [heq]
  · exact readers_take b id q.name
  · intro r _
    rw [heq]
  · intro hdirect
    rw [heq]
    exact hdirect
  · intro c hc
    constructor
    · rw [standing_take]
    · exact unread_take_of_ne b (h.held.ne_of_spared hspared hc)

theorem Keeps.undisturbed_close (h : b.Keeps q holder) {id : ConsumerId}
    (hspared : ∀ seat ∈ b.standing id, seat.1 ≠ q.name) :
    b.Undisturbed (b.close id) q holder where
  queue := rfl
  readers := by
    rw [readers_close]
    apply List.filter_eq_self.mpr
    intro c hc
    have hstanding := h.seated.attached q.name c hc
    have hne : c ≠ id := by
      intro heq
      exact hspared _ (heq ▸ hstanding) rfl
    exact decide_eq_true hne
  routes := fun _ _ => Iff.rfl
  exchange := fun hdirect => hdirect
  holder := by
    intro c hc
    have hne := h.held.ne_of_spared hspared hc
    constructor
    · rw [standing_close, if_neg hne.symm]
    · exact unread_close_of_ne b hne

theorem Keeps.undisturbed_openConsumer (h : b.Keeps q holder) {binding : Binding}
    (hspared : b.queueName binding ≠ q.name) :
    b.Undisturbed (b.openConsumer binding).1 q holder := by
  rcases openConsumer_cases b binding with ⟨e, heq⟩ | ⟨exchanges, namedQueues, _, _, hold, heq⟩
  · rw [heq]
    exact ⟨rfl, rfl, fun _ _ => Iff.rfl, fun hdirect => hdirect, fun _ _ => ⟨rfl, rfl⟩⟩
  · rw [heq]
    constructor
    · exact lookup_insert_of_ne _ hspared.symm _
    · have hreaders := readers_attach (b := b.routed exchanges namedQueues binding) h.wired.opened
        (b.queueName binding) q.name (b.chooseQueue binding.queue).2.2
      rw [hreaders, if_neg hspared]
      rfl
    · intro r hqueue
      show r ∈ addRoutes _ _ _ _ ↔ r ∈ b.routes
      rw [mem_addRoutes_iff]
      constructor
      · rintro (hr | ⟨_, hother, _⟩)
        · exact hr
        · exact absurd (hother.symm.trans hqueue) hspared
      · exact Or.inl
    · exact hold q.exchange .direct
    · intro c hc
      rcases h.held.standing hc with ⟨attached, hstanding⟩
      have hlive : b.isLive c = true := by
        rw [isLive_eq, hstanding]
        rfl
      have hne : c ≠ b.opened := Nat.ne_of_lt (h.seated.numbered c hlive)
      constructor
      · rw [standing_attach]
        exact if_neg hne.symm
      · exact unread_attach_of_ne (b.routed exchanges namedQueues binding) _ _ hne

/-! ## Cancelling all consumers -/

section Shared

variable {name : String} (hshared : ∀ queue, b.queues[name]? = some queue → queue.exclusive = false)
include hshared

theorem getElem?_queues_cancelAll :
    b.cancelAll.queues[name]? =
      (b.queues[name]?).map fun queue => { queue with consumers := [] } := by
  cases hq : b.queues[name]? with
  | none =>
      unfold cancelAll
      rw [Std.ExtTreeMap.getElem?_map, Std.ExtTreeMap.getElem?_filter', hq]
      rfl
  | some queue => exact queues_cancelAll hq (hshared queue hq)

theorem mem_queues_cancelAll : name ∈ b.cancelAll.queues ↔ name ∈ b.queues := by
  rw [Std.ExtTreeMap.mem_iff_isSome_getElem?, Std.ExtTreeMap.mem_iff_isSome_getElem?,
    getElem?_queues_cancelAll hshared, Option.isSome_map]

theorem waiting_cancelAll : b.cancelAll.waiting name = b.waiting name := by
  unfold waiting
  rw [Std.ExtTreeMap.getD_eq_getD_getElem?, Std.ExtTreeMap.getD_eq_getD_getElem?,
    getElem?_queues_cancelAll hshared]
  cases b.queues[name]? <;> rfl

theorem mem_routes_cancelAll {r : Route} (hr : r.queue = name) :
    r ∈ b.cancelAll.routes ↔ r ∈ b.routes := by
  have hstays : (b.queues[r.queue]?).any (·.exclusive) = false := by
    rw [hr]
    cases hq : b.queues[name]? with
    | none => rfl
    | some queue => exact hshared queue hq
  unfold cancelAll
  rw [List.mem_filter]
  dsimp only
  rw [hstays]
  exact and_iff_left rfl

end Shared

theorem Held.cancelAll (h : b.Held q.name holder) : b.cancelAll.Held q.name holder := by
  have hdetached : ∀ c attached, b.standing c = some (q.name, attached) →
      b.cancelAll.standing c = some (q.name, false) := by
    intro c attached hstanding
    rw [standing_cancelAll, hstanding]
    rfl
  cases h with
  | vacant => exact Held.vacant (readers_cancelAll b q.name)
  | attached hstanding =>
      exact Held.detached (hdetached _ _ hstanding) (readers_cancelAll b q.name)
  | detached hstanding =>
      exact Held.detached (hdetached _ _ hstanding) (readers_cancelAll b q.name)

theorem Keeps.cancelAll (h : b.Keeps q holder) : b.cancelAll.Keeps q holder where
  wired := h.wired.cancelAll
  seated := h.seated.cancelAll
  shared := by
    intro queue hqueue
    rw [getElem?_queues_cancelAll h.shared] at hqueue
    rcases Option.map_eq_some_iff.mp hqueue with ⟨before, hbefore, heq⟩
    rw [← heq]
    exact h.shared before hbefore
  routed := by
    intro r hr hname
    exact h.routed r ((mem_routes_cancelAll h.shared hname).mp hr) hname
  bound := by
    intro hname
    rcases h.bound ((mem_queues_cancelAll h.shared).mp hname) with ⟨hdirect, hroutes⟩
    constructor
    · exact hdirect
    · intro key hkey
      exact (mem_routes_cancelAll h.shared rfl).mpr (hroutes key hkey)
  held := h.held.cancelAll

theorem Keeps.line_cancelAll (h : b.Keeps q holder) :
    b.cancelAll.line q.name holder = b.line q.name holder := by
  unfold line
  rw [waiting_cancelAll h.shared]
  cases holder with
  | none => rfl
  | some c => exact congrArg (· ++ b.waiting q.name) (unread_cancelAll b c)

/-! ## Operations of the subscriber -/

/-- A consumer is opened exactly if the broker accepts connections and has not declared the exchange
as one of another kind. -/
theorem openConsumer_ok_iff (b : Broker) (binding : Binding) :
    (∃ opened, (b.openConsumer binding).2 = .ok opened) ↔
      b.refusing = false ∧
        ∀ kind, b.exchanges[binding.exchange]? = some kind → kind = binding.kind := by
  unfold openConsumer
  cases b.refusing with
  | true => simp
  | false =>
      cases b.exchanges[binding.exchange]? with
      | none => simp
      | some kind => by_cases heq : kind = binding.kind <;> simp [heq]

theorem openConsumer_ok_of_congr {after : Broker} {binding : Binding}
    (hrefusing : after.refusing = b.refusing) (hexchanges : after.exchanges = b.exchanges)
    (h : ∃ opened, (b.openConsumer binding).2 = .ok opened) :
    ∃ opened, (after.openConsumer binding).2 = .ok opened := by
  rw [openConsumer_ok_iff] at h ⊢
  rw [hrefusing, hexchanges]
  exact h

theorem refusing_openConsumer (b : Broker) (binding : Binding) :
    (b.openConsumer binding).1.refusing = b.refusing := by
  rcases openConsumer_cases b binding with ⟨e, heq⟩ | ⟨_, _, _, _, _, heq⟩
  · rw [heq]
  · rw [heq]
    rfl

theorem Keeps.openConsumer (h : b.Keeps q none) {after : Broker} {name : String} {c : ConsumerId}
    (hopen : b.openConsumer q.binding = (after, .ok (name, c)))
    (hroom : (b.waiting q.name).length ≤ consumerBuffer) :
    after.Keeps q (some c) ∧ after.line q.name (some c) = b.line q.name none ∧
      after.standing c = some (q.name, true) ∧ q.name ∈ after.queues := by
  have hwired := h.wired.openConsumer q.binding
  have hseated := h.seated.openConsumer h.wired q.binding
  rw [hopen] at hwired hseated
  rcases openConsumer_cases b q.binding with
    ⟨e, heq⟩ | ⟨exchanges, namedQueues, _, hdirect, _, heq⟩
  · rw [hopen] at heq
    cases heq
  · let before := b.routed exchanges namedQueues q.binding
    have hopened : (after, Except.ok (name, c)) =
        ((before.attach q.name false).1, .ok (q.name, b.opened)) := hopen.symm.trans heq
    cases hopened
    have hflush : flush (before.waiting q.name) = (b.waiting q.name, []) := by
      show flush (b.waiting q.name) = _
      unfold flush
      rw [List.take_of_length_le hroom, List.drop_of_length_le (Nat.le_succ_of_le hroom)]
    have hwaiting : (before.attach q.name false).1.waiting q.name = [] := by
      rw [waiting_attach, hflush]
    have hunread : (before.attach q.name false).1.unread b.opened = b.waiting q.name := by
      rw [show b.opened = before.opened from rfl, unread_attach, hflush]
    have hstanding : (before.attach q.name false).1.standing b.opened = some (q.name, true) := by
      rw [standing_attach]
      exact if_pos rfl
    have hreaders : (before.attach q.name false).1.readers q.name = [b.opened] := by
      rw [readers_attach (b := before) h.wired.opened, if_pos rfl]
      cases h.held with
      | vacant hnobody => exact congrArg (· ++ [b.opened]) hnobody
    have hroute : ∀ r : Route, r ∈ (before.attach q.name false).1.routes ↔
        r ∈ b.routes ∨ r.exchange = q.exchange ∧ r.queue = q.name ∧ r.key ∈ q.keys :=
      fun r => mem_addRoutes_iff
    refine ⟨⟨hwired, hseated, ?_, ?_, ?_, Held.attached hstanding hreaders hwaiting⟩, ?_,
      hstanding, Std.ExtTreeMap.mem_insert_self⟩
    · intro queue hqueue
      have hself := hqueue.symm.trans Std.ExtTreeMap.getElem?_insert_self
      rw [Option.some.inj hself]
    · intro r hr hname
      rcases (hroute r).mp hr with hold | ⟨hexchange, _, hkey⟩
      · exact h.routed r hold hname
      · exact ⟨hexchange, hkey⟩
    · intro _
      constructor
      · exact hdirect
      · intro key hkey
        exact (hroute _).mpr (Or.inr ⟨rfl, rfl, hkey⟩)
    · unfold line
      rw [hwaiting, List.append_nil]
      exact hunread

theorem Keeps.take {c : ConsumerId} (h : b.Keeps q (some c)) {after : Broker} {m : Message}
    (htake : b.take c = (after, some m)) :
    after.Keeps q (some c) ∧ b.line q.name (some c) = m :: after.line q.name (some c) := by
  have hwired := h.wired.take c
  have hseated := h.seated.take c
  have hstanding := standing_take b c
  have hreaders := readers_take b c q.name
  rw [htake] at hwired hseated hstanding hreaders
  cases hunread : b.unread c with
  | nil =>
      rw [take_of_unread_nil hunread] at htake
      cases htake
  | cons first rest =>
      rcases take_of_unread_cons hunread with ⟨x, buffer, _, hrest, htaken⟩
      rw [htake] at htaken
      cases htaken
      refine ⟨⟨hwired, hseated, h.shared, h.routed, h.bound, ?_⟩, ?_⟩
      · cases h.held with
        | attached hseat hone hwaiting =>
            apply Held.attached
            · rw [hstanding]
              exact hseat
            · rw [hreaders]
              exact hone
            · exact hwaiting
        | detached hseat hnobody =>
            apply Held.detached
            · rw [hstanding]
              exact hseat
            · rw [hreaders]
              exact hnobody
      · have hleft : ({ b with
            consumers := b.consumers.insert c { x with buffer } } : Broker).unread c = rest := by
          unfold unread
          rw [Std.ExtTreeMap.getElem?_insert_self]
          exact hrest
        unfold line
        rw [Option.elim_some, Option.elim_some, hunread, hleft]
        rfl

theorem isEmpty_eq_isEmpty_toList (buffer : Fifo Message) :
    buffer.isEmpty = buffer.toList.isEmpty := by
  rw [Bool.eq_iff_iff, Fifo.isEmpty_iff, List.isEmpty_iff]

theorem hasMessage_eq (b : Broker) (c : ConsumerId) :
    b.hasMessage c = !(b.unread c).isEmpty := by
  unfold hasMessage unread
  cases b.consumers[c]? with
  | none => rfl
  | some x => exact congrArg (!·) (isEmpty_eq_isEmpty_toList x.buffer)

theorem hasEnded_eq {c : ConsumerId} {name : String} {attached : Bool}
    (h : b.standing c = some (name, attached)) :
    b.hasEnded c = (!attached && (b.unread c).isEmpty) := by
  rcases exists_consumer_of_standing h with ⟨x, hx, _, hattached, hunread⟩
  unfold hasEnded
  rw [hx, ← hattached, ← hunread, ← isEmpty_eq_isEmpty_toList]

theorem Keeps.close {c : ConsumerId} (h : b.Keeps q (some c)) (hended : b.hasEnded c = true) :
    (b.close c).Keeps q none ∧ (b.close c).line q.name none = b.line q.name (some c) := by
  rcases h.held.standing rfl with ⟨attached, hstanding⟩
  rw [hasEnded_eq hstanding, Bool.and_eq_true, List.isEmpty_iff] at hended
  rcases hended with ⟨hdetached, hread⟩
  have hnobody : b.readers q.name = [] := by
    cases h.held with
    | attached hseat =>
        rw [hstanding] at hseat
        cases hseat
        cases hdetached
    | detached _ hnobody => exact hnobody
  constructor
  · refine ⟨h.wired.perform (.close c), h.seated.close c, h.shared, h.routed, h.bound, ?_⟩
    apply Held.vacant
    rw [readers_close, hnobody]
    rfl
  · unfold line
    rw [Option.elim_none, Option.elim_some, hread]
    rfl

end Broker
end MetricGateway
