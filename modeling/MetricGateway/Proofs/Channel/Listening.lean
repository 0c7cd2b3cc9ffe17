import MetricGateway.Channel.Link
import MetricGateway.Proofs.Broker.Arrivals

/-!
# The steps of a listener

A listener is the only writer of the inbox of its subscription.  What its step does is a matter of
the broker, the subscription and the clock: the listener declares the subscription, or finds that it
has lost its consumer, or brings one message a place further, or waits.
-/

namespace MetricGateway

/-! ## Inboxes with one writer -/

namespace Mailbox

variable {α : Type}

/-- An open mailbox with a single writer, who may stand in line under a ticket. -/
structure Sole (m : Mailbox α) (ticket : Option Ticket) : Prop where
  isOpen : m.closed = false
  line : m.waiting ++ m.granted = ticket.toList
  full : m.waiting ≠ [] → m.capacity ≤ m.toList.length

theorem Sole.offer {m : Mailbox α} (h : m.Sole none) (a : α) :
    (∃ inbox, m.offer a = (inbox, .accepted) ∧ inbox.Sole none ∧
      inbox.toList = m.toList ++ [a] ∧ inbox.capacity = m.capacity) ∨
    ∃ inbox ticket, m.offer a = (inbox, .parked ticket) ∧ inbox.Sole (some ticket) ∧
      inbox.toList = m.toList ∧ inbox.capacity = m.capacity := by
  rcases List.append_eq_nil_iff.mp h.line with ⟨hwaiting, hgranted⟩
  unfold Mailbox.offer
  rw [h.isOpen, if_neg Bool.false_ne_true]
  split
  next =>
    refine Or.inl ⟨_, rfl, ⟨rfl, h.line, ?_⟩, Fifo.toList_push _ _, rfl⟩
    exact fun hline => absurd hwaiting hline
  next hfull =>
    refine Or.inr ⟨_, _, rfl, ⟨rfl, ?_, ?_⟩, rfl, rfl⟩
    · dsimp only
      rw [hwaiting, hgranted]
      rfl
    · intro _
      have hroom : ¬m.queue.size + m.granted.length < m.capacity := by
        simpa [hasRoom] using hfull
      rw [hgranted, Fifo.size_eq_length] at hroom
      exact Nat.not_lt.mp hroom

theorem Sole.full_of_denied {m : Mailbox α} {ticket : Ticket} (h : m.Sole (some ticket))
    (hdenied : m.answers ticket = false) : m.capacity ≤ m.toList.length := by
  apply h.full
  intro hwaiting
  have hgranted := h.line
  rw [hwaiting, List.nil_append] at hgranted
  unfold answers at hdenied
  rw [hgranted] at hdenied
  simp at hdenied

theorem Sole.retry {m : Mailbox α} {ticket : Ticket} (h : m.Sole (some ticket)) (a : α) :
    (∃ inbox, m.retry ticket a = (inbox, .accepted) ∧ inbox.Sole none ∧
      inbox.toList = m.toList ++ [a] ∧ inbox.capacity = m.capacity) ∨
    m.retry ticket a = (m, .parked ticket) ∧ m.answers ticket = false := by
  unfold Mailbox.retry answers
  rw [h.isOpen, if_neg Bool.false_ne_true]
  rcases List.append_eq_singleton_iff.mp h.line with ⟨hwaiting, hgranted⟩ | ⟨hwaiting, hgranted⟩
  · rw [if_pos (by simp [hgranted])]
    refine Or.inl ⟨_, rfl, ⟨rfl, ?_, ?_⟩, Fifo.toList_push _ _, rfl⟩
    · dsimp only
      rw [hwaiting, hgranted]
      simp
    · exact fun hline => absurd hwaiting hline
  · rw [if_neg (by simp [hgranted])]
    refine Or.inr ⟨rfl, ?_⟩
    rw [hgranted]
    rfl

theorem Sole.waiting_cases {m : Mailbox α} {ticket : Option Ticket} (h : m.Sole ticket) :
    m.waiting = [] ∨ ∃ t, ticket = some t ∧ m.waiting = [t] ∧ m.granted = [] := by
  have hline := h.line
  cases ticket with
  | none => exact Or.inl (List.append_eq_nil_iff.mp hline).1
  | some t =>
      rcases List.append_eq_singleton_iff.mp hline with ⟨hwaiting, _⟩ | ⟨hwaiting, hgranted⟩
      · exact Or.inl hwaiting
      · exact Or.inr ⟨t, rfl, hwaiting, hgranted⟩

theorem Sole.take {m : Mailbox α} {ticket : Option Ticket} (h : m.Sole ticket) :
    m.take.1.Sole ticket ∧ m.take.1.capacity = m.capacity := by
  unfold Mailbox.take
  cases hfirst : m.queue.pop? with
  | none => exact ⟨h, rfl⟩
  | some popped =>
      have hline := h.line
      rcases h.waiting_cases with hwaiting | ⟨t, hticket, hwaiting, hgranted⟩
      · rw [hwaiting] at hline ⊢
        exact ⟨⟨h.isOpen, hline, fun hnot => absurd rfl hnot⟩, rfl⟩
      · rw [hwaiting]
        refine ⟨⟨h.isOpen, ?_, fun hnot => absurd rfl hnot⟩, rfl⟩
        rw [hgranted, hticket]
        rfl

end Mailbox

/-! ## What a step comes to -/

namespace Channel
namespace Subscription

open Broker (ConsumerId)

def Phase.consumer? : Phase → Option ConsumerId
  | .receiving c => some c
  | .forwarding c _ _ => some c
  | _ => none

/-- The message that the listener has taken and not yet brought to the inbox. -/
def Phase.carried : Phase → List Message
  | .forwarding _ _ m => [m]
  | _ => []

/-- The ticket under which the listener stands in line for the inbox. -/
def Phase.ticket? : Phase → Option Ticket
  | .forwarding _ t _ => some t
  | _ => none

/-- The listener is about to declare its subscription. -/
inductive Phase.Declares (now : Instant) : Phase → Prop where
  | opening : Phase.Declares now .opening
  | resumed {resume : Instant} (met : resume.metBy now = true) :
      Phase.Declares now (.pausing resume)

theorem Phase.Declares.without_consumer {now : Instant} {phase : Phase}
    (h : phase.Declares now) :
    phase.consumer? = none ∧ phase.carried = [] ∧ phase.ticket? = none := by
  cases h with
  | opening => exact ⟨rfl, rfl, rfl⟩
  | resumed => exact ⟨rfl, rfl, rfl⟩

/-- The listener can do nothing until somebody else does something or time passes. -/
inductive Waits (now : Instant) (b : Broker) (s : Subscription) : Prop where
  | empty {c : ConsumerId} (phase : s.phase = .receiving c) (nothing : b.hasMessage c = false)
      (goesOn : b.hasEnded c = false)
  | full {c : ConsumerId} {t : Ticket} {m : Message} (phase : s.phase = .forwarding c t m)
      (denied : s.inbox.answers t = false) (noRoom : s.inbox.capacity ≤ s.inbox.toList.length)
  | early {resume : Instant} (phase : s.phase = .pausing resume) (unmet : resume.metBy now = false)

/-- What the step of a listener makes of the broker and the subscription.  The listener has not been
told to stop, and the reader of the inbox is there. -/
inductive Listens (now : Instant) (delay : Duration) (b : Broker) (s : Subscription) :
    Broker → Subscription → Prop where
  | established {after : Broker} {name : String} {c : ConsumerId} (declares : s.phase.Declares now)
      (opened : b.openConsumer s.binding = (after, .ok (name, c))) :
      Listens now delay b s after
        { s with failures := 0, down := false, phase := .receiving c }
  | rejected {after : Broker} {e : Broker.Refusal} (declares : s.phase.Declares now)
      (refused : b.openConsumer s.binding = (after, .error e)) :
      Listens now delay b s after { s with
        failures := s.failures + 1, down := true, phase := .pausing (now.deadline delay) }
  | lost {c : ConsumerId} (phase : s.phase = .receiving c) (ended : b.hasEnded c = true) :
      Listens now delay b s (b.close c) { s with
        failures := s.failures + 1, down := true, phase := .pausing (now.deadline delay) }
  | brought {c : ConsumerId} {after : Broker} {m : Message} {inbox : Mailbox Message}
      (phase : s.phase = .receiving c) (took : b.take c = (after, some m)) (sole : inbox.Sole none)
      (holds : inbox.toList = s.inbox.toList ++ [m])
      (capacity : inbox.capacity = s.inbox.capacity) :
      Listens now delay b s after { s with inbox, phase := .receiving c }
  | parked {c : ConsumerId} {after : Broker} {m : Message} {inbox : Mailbox Message} {t : Ticket}
      (phase : s.phase = .receiving c) (took : b.take c = (after, some m))
      (sole : inbox.Sole (some t)) (holds : inbox.toList = s.inbox.toList)
      (capacity : inbox.capacity = s.inbox.capacity) :
      Listens now delay b s after { s with inbox, phase := .forwarding c t m }
  | handed {c : ConsumerId} {t : Ticket} {m : Message} {inbox : Mailbox Message}
      (phase : s.phase = .forwarding c t m) (sole : inbox.Sole none)
      (holds : inbox.toList = s.inbox.toList ++ [m])
      (capacity : inbox.capacity = s.inbox.capacity) :
      Listens now delay b s b { s with inbox, phase := .receiving c }
  | waited (waits : s.Waits now b) : Listens now delay b s b s

end Subscription
end Channel

namespace Link

open Channel Channel.Subscription
open Broker (ConsumerId)

/-- The links differ at most in what no listener reads. -/
structure Alike (l l' : Link) : Prop where
  broker : l'.broker = l.broker
  settings : l'.channels.settings = l.channels.settings
  stopping : l'.channels.stopping = l.channels.stopping
  now : l'.common.now = l.common.now

theorem Alike.trans {l l' l'' : Link} (h : l.Alike l') (h' : l'.Alike l'') : l.Alike l'' where
  broker := h'.broker.trans h.broker
  settings := h'.settings.trans h.settings
  stopping := h'.stopping.trans h.stopping
  now := h'.now.trans h.now

theorem alike_refl (l : Link) : l.Alike l := ⟨rfl, rfl, rfl, rfl⟩

theorem alike_restored (l : Link) : l.Alike l.restored := by
  unfold restored
  dsimp only
  split
  · exact ⟨rfl, rfl, rfl, rfl⟩
  · exact ⟨rfl, rfl, rfl, rfl⟩

/-- What a step of a listener leaves: the broker, its subscription, and all that it reads
besides. -/
structure Left (l : Link) (id : SubscriptionId) (b : Broker) (s : Subscription) (l' : Link) :
    Prop where
  broker : l'.broker = b
  subscription : l'.channels.subscriptions[id]? = some s
  settings : l'.channels.settings = l.channels.settings
  stopping : l'.channels.stopping = l.channels.stopping
  now : l'.common.now = l.common.now

theorem Alike.left {l l' : Link} (h : l.Alike l') (id : SubscriptionId) (s : Subscription) :
    l.Left id l.broker s (l'.setSubscription id s) where
  broker := h.broker
  subscription := Std.ExtTreeMap.getElem?_insert_self
  settings := h.settings
  stopping := h.stopping
  now := h.now

theorem left_retreat (l : Link) (id : SubscriptionId) (s : Subscription) :
    l.Left id l.broker { s with
      failures := s.failures + 1, down := true
      phase := .pausing (l.common.now.deadline l.channels.settings.reconnectDelay) }
      (l.retreat id s) := by
  unfold retreat
  dsimp only
  split
  · exact (alike_refl l).left id _
  · have hlost : l.Alike (l.lost s.binding.exchange) := ⟨rfl, rfl, rfl, rfl⟩
    exact hlost.left id _

theorem left_establish (l : Link) (id : SubscriptionId) (s : Subscription)
    (c : Broker.ConsumerId) :
    l.Left id l.broker { s with failures := 0, down := false, phase := .receiving c }
      (l.establish id s c) := by
  have hcounted : l.Alike
      (if 0 < s.failures then l.onCommon (·.count Metrics.addChannelReconnect) else l) := by
    split
    · exact ⟨rfl, rfl, rfl, rfl⟩
    · exact alike_refl l
  unfold establish
  dsimp only
  split
  · exact (hcounted.trans (alike_restored _)).left id _
  · exact hcounted.left id _

variable {l l' : Link} {id : SubscriptionId} {s : Subscription}

inductive StepsTo (l : Link) (id : SubscriptionId) (s : Subscription) : Link → Prop where
  | established {b : Broker} {name : String} {c : ConsumerId}
      (declares : s.phase.Declares l.common.now)
      (opened : l.broker.openConsumer s.binding = (b, .ok (name, c))) :
      StepsTo l id s ({ l with broker := b }.establish id s c)
  | rejected {b : Broker} {e : Broker.Refusal} (declares : s.phase.Declares l.common.now)
      (refused : l.broker.openConsumer s.binding = (b, .error e)) :
      StepsTo l id s ({ l with broker := b }.retreat id s)
  | lost {c : ConsumerId} (phase : s.phase = .receiving c)
      (ended : l.broker.hasEnded c = true) :
      StepsTo l id s ({ l with broker := l.broker.close c }.retreat id s)
  | took {c : ConsumerId} {b : Broker} {m : Message} (phase : s.phase = .receiving c)
      (took : l.broker.take c = (b, some m)) :
      StepsTo l id s ({ l with broker := b }.forwarded id s c m (s.inbox.offer m))
  | retried {c : ConsumerId} {t : Ticket} {m : Message} (phase : s.phase = .forwarding c t m) :
      StepsTo l id s (l.forwarded id s c m (s.inbox.retry t m))
  | quit {c : ConsumerId} (phase : s.phase = .receiving c) (told : l.channels.stopping = true) :
      StepsTo l id s (l.quit id s c)
  | stopped {resume : Instant} (phase : s.phase = .pausing resume)
      (told : l.channels.stopping = true) :
      StepsTo l id s (l.setSubscription id { s with phase := .stopped })
  | empty {c : ConsumerId} (phase : s.phase = .receiving c)
      (nothing : l.broker.hasMessage c = false) (goesOn : l.broker.hasEnded c = false) :
      StepsTo l id s l
  | early {resume : Instant} (phase : s.phase = .pausing resume)
      (unmet : resume.metBy l.common.now = false) : StepsTo l id s l
  | halted (phase : s.phase = .stopped) : StepsTo l id s l

theorem stepListener_of_none (hs : l.channels.subscriptions[id]? = none)
    (preference : Preference) : l.stepListener id preference = l := by
  unfold stepListener
  rw [hs]

theorem stepsTo_declare (hdeclares : s.phase.Declares l.common.now) :
    l.StepsTo id s (l.declare id s) := by
  unfold declare
  rcases hopen : l.broker.openConsumer s.binding with ⟨b, e | ⟨name, c⟩⟩
  · exact .rejected hdeclares hopen
  · exact .established hdeclares hopen

theorem stepsTo_receive {c : ConsumerId} (hphase : s.phase = .receiving c) :
    l.StepsTo id s (l.receive id s c) := by
  unfold receive
  cases hunread : l.broker.unread c with
  | nil =>
      rw [Broker.take_of_unread_nil hunread]
      dsimp only
      split
      next hended => exact .lost hphase hended
      next hgoes =>
        have hnothing : l.broker.hasMessage c = false := by
          rw [Broker.hasMessage_eq, hunread]
          rfl
        exact .empty hphase hnothing (Bool.eq_false_iff.mpr hgoes)
  | cons m rest =>
      rcases Broker.take_of_unread_cons hunread with ⟨_, _, _, _, htake⟩
      rw [htake]
      exact .took hphase htake

theorem stepsTo_stepListener (hs : l.channels.subscriptions[id]? = some s)
    (preference : Preference) : l.StepsTo id s (l.stepListener id preference) := by
  unfold stepListener
  rw [hs]
  dsimp only
  cases hphase : s.phase with
  | opening => exact stepsTo_declare (hphase ▸ .opening)
  | receiving c =>
      dsimp only
      split
      next hstops => exact .quit hphase hstops.1
      next => exact stepsTo_receive hphase
  | forwarding c t m => exact .retried hphase
  | pausing resume =>
      dsimp only
      cases hmet : resume.metBy l.common.now with
      | true =>
          split
          next hstops => exact .stopped hphase hstops.1
          next => exact stepsTo_declare (hphase ▸ .resumed hmet)
      | false =>
          split
          next hstops => exact .stopped hphase hstops.1
          next => exact .early hphase hmet
  | stopped => exact .halted hphase

/-- The step of a listener that has not been told to stop and whose inbox has its reader. -/
theorem StepsTo.listens (h : l.StepsTo id s l') (hs : l.channels.subscriptions[id]? = some s)
    (hrunning : l.channels.stopping = false) (halive : s.phase ≠ .stopped)
    (hsole : s.inbox.Sole s.phase.ticket?) :
    ∃ b' s', s.Listens l.common.now l.channels.settings.reconnectDelay l.broker b' s' ∧
      l.Left id b' s' l' := by
  cases h with
  | @established b _ c hdeclares hopened =>
      refine ⟨_, _, .established hdeclares hopened, ?_⟩
      have hleft := left_establish { l with broker := b } id s c
      exact ⟨hleft.broker, hleft.subscription, hleft.settings, hleft.stopping, hleft.now⟩
  | @rejected b _ hdeclares hrefused =>
      refine ⟨_, _, .rejected hdeclares hrefused, ?_⟩
      have hleft := left_retreat { l with broker := b } id s
      exact ⟨hleft.broker, hleft.subscription, hleft.settings, hleft.stopping, hleft.now⟩
  | @lost c hphase hended =>
      refine ⟨_, _, .lost hphase hended, ?_⟩
      have hleft := left_retreat { l with broker := l.broker.close c } id s
      exact ⟨hleft.broker, hleft.subscription, hleft.settings, hleft.stopping, hleft.now⟩
  | @took c b m hphase htook =>
      rw [hphase] at hsole
      rcases hsole.offer m with
        ⟨inbox, hoffer, hfree, hholds, hcapacity⟩ | ⟨inbox, t, hoffer, hline, hholds, hcapacity⟩
      · refine ⟨_, _, .brought hphase htook hfree hholds hcapacity, ?_⟩
        rw [hoffer]
        exact ⟨rfl, Std.ExtTreeMap.getElem?_insert_self, rfl, rfl, rfl⟩
      · refine ⟨_, _, .parked hphase htook hline hholds hcapacity, ?_⟩
        rw [hoffer]
        exact ⟨rfl, Std.ExtTreeMap.getElem?_insert_self, rfl, rfl, rfl⟩
  | @retried c t m hphase =>
      rw [hphase] at hsole
      rcases hsole.retry m with
        ⟨inbox, hretry, hfree, hholds, hcapacity⟩ | ⟨hretry, hdenied⟩
      · refine ⟨_, _, .handed hphase hfree hholds hcapacity, ?_⟩
        rw [hretry]
        exact ⟨rfl, Std.ExtTreeMap.getElem?_insert_self, rfl, rfl, rfl⟩
      · have hfull := hsole.full_of_denied hdenied
        refine ⟨_, _, .waited (.full hphase hdenied hfull), ?_⟩
        have hsame : { s with phase := .forwarding c t m } = s := by
          rw [← hphase]
        rw [hretry]
        unfold forwarded
        dsimp only
        rw [hsame]
        exact ⟨rfl, Std.ExtTreeMap.getElem?_insert_self, rfl, rfl, rfl⟩
  | quit _ htold => exact absurd htold (hrunning ▸ Bool.false_ne_true)
  | stopped _ htold => exact absurd htold (hrunning ▸ Bool.false_ne_true)
  | empty hphase hnothing hgoesOn =>
      exact ⟨_, _, .waited (.empty hphase hnothing hgoesOn), rfl, hs, rfl, rfl, rfl⟩
  | early hphase hunmet => exact ⟨_, _, .waited (.early hphase hunmet), rfl, hs, rfl, rfl, rfl⟩
  | halted hphase => exact absurd hphase halive

theorem listenerReady_eq_false_iff (hs : l.channels.subscriptions[id]? = some s)
    (hrunning : l.channels.stopping = false) (halive : s.phase ≠ .stopped)
    (hsole : s.inbox.Sole s.phase.ticket?) :
    l.listenerReady id = false ↔ s.Waits l.common.now l.broker := by
  unfold listenerReady
  rw [hs]
  dsimp only
  constructor
  · intro hidle
    cases hphase : s.phase with
    | opening =>
        rw [hphase] at hidle
        cases hidle
    | receiving c =>
        rw [hphase] at hidle
        rcases Bool.or_eq_false_iff.mp hidle with ⟨hleft, hended⟩
        exact .empty hphase (Bool.or_eq_false_iff.mp hleft).2 hended
    | forwarding c t m =>
        rw [hphase] at hidle hsole
        exact .full hphase hidle (hsole.full_of_denied hidle)
    | pausing resume =>
        rw [hphase] at hidle
        exact .early hphase (Bool.or_eq_false_iff.mp hidle).2
    | stopped => exact absurd hphase halive
  · intro hwaits
    cases hwaits with
    | empty hphase hnothing hgoesOn =>
        rw [hphase]
        dsimp only
        rw [hrunning, hnothing, hgoesOn]
        rfl
    | full hphase hdenied =>
        rw [hphase]
        exact hdenied
    | early hphase hunmet =>
        rw [hphase]
        dsimp only
        rw [hrunning, hunmet]
        rfl

end Link
end MetricGateway
