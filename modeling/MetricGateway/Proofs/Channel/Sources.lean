import MetricGateway.Proofs.Broker.Contents
import MetricGateway.Proofs.Channel.Outages

/-!
# Where the messages of a subscription come from

Whatever a listener does, the messages between its consumer and the reader of its inbox come from
its consumers, and its consumers are opened with the binding of its subscription.  So the reader of
a subscription to a fenced queue receives only messages that match the binding, whoever else uses
the broker.
-/

namespace MetricGateway

/-! ## Mailboxes -/

namespace Mailbox

variable {α : Type} {m : Mailbox α} {a x : α}

theorem mem_offer (h : x ∈ (m.offer a).1.toList) : x ∈ m.toList ∨ x = a := by
  unfold offer at h
  split at h
  · exact Or.inl h
  · split at h
    · unfold toList at h
      rw [Fifo.toList_push] at h
      exact (List.mem_append.mp h).imp_right List.mem_singleton.mp
    · exact Or.inl h

theorem mem_retry {ticket : Ticket} (h : x ∈ (m.retry ticket a).1.toList) :
    x ∈ m.toList ∨ x = a := by
  unfold retry at h
  split at h
  · exact Or.inl h
  · split at h
    · unfold toList at h
      rw [Fifo.toList_push] at h
      exact (List.mem_append.mp h).imp_right List.mem_singleton.mp
    · exact Or.inl h

theorem mem_take (h : x ∈ m.take.1.toList) : x ∈ m.toList := by
  rw [m.toList_take]
  exact List.mem_append_right _ h

theorem mem_of_take (h : m.take.2 = some x) : x ∈ m.toList := by
  rw [m.toList_take, h]
  exact List.mem_append_left _ List.mem_cons_self

end Mailbox

namespace Channel

open Broker (ConsumerId Op)

namespace Subscription

variable {s : Subscription} {b b' : Broker} {op : Op}

/-- The messages between the consumer of a listener and the reader of the inbox. -/
def held (s : Subscription) : List Message := s.inbox.toList ++ s.phase.carried

theorem held_of_idle (h : s.phase.carried = []) : s.held = s.inbox.toList := by
  unfold held
  rw [h, List.append_nil]

theorem mem_held_of_inbox {m : Message} (h : m ∈ s.inbox.toList) : m ∈ s.held :=
  List.mem_append_left _ h

inductive Uses (s : Subscription) : Op → Prop where
  | declares : Uses s (.openConsumer s.binding)
  | takes (c : ConsumerId) : Uses s (.take c)
  | leaves (c : ConsumerId) : Uses s (.close c)

/-- A listener has led the broker from one state to another. -/
def Drives (s : Subscription) (b b' : Broker) : Prop :=
  ∃ ops, b' = b.run ops ∧ ∀ op ∈ ops, s.Uses op

theorem drives_refl (s : Subscription) (b : Broker) : s.Drives b b :=
  ⟨[], rfl, fun _ hop => absurd hop List.not_mem_nil⟩

theorem Drives.perform (h : s.Drives b b') (huses : s.Uses op) : s.Drives b (b'.perform op) := by
  rcases h with ⟨ops, rfl, hops⟩
  refine ⟨ops ++ [op], ?_, ?_⟩
  · rw [Broker.run_append]
    rfl
  · intro op' hop'
    rcases List.mem_append.mp hop' with hold | hnew
    · exact hops op' hold
    · rw [List.mem_singleton.mp hnew]
      exact huses

theorem Uses.drives (h : s.Uses op) (b : Broker) : s.Drives b (b.perform op) :=
  (drives_refl s b).perform h

end Subscription
end Channel

namespace Link

open Channel Channel.Subscription
open Broker (ConsumerId DirectQueue Op)

variable {l l' : Link} {id : SubscriptionId} {s s' : Subscription} {b : Broker}

/-! ## The steps of a listener -/

/-- A message was held before, or it is the next one of the consumer. -/
def Comes (l : Link) (s : Subscription) (m : Message) : Prop :=
  m ∈ s.held ∨ ∃ c after, s.phase.consumer? = some c ∧ l.broker.take c = (after, some m)

/-- Where a subscription comes from that a listener leaves: its messages from those before or from
the consumer, and its consumer was there before or has just been opened. -/
structure Turned (l : Link) (id : SubscriptionId) (s s' : Subscription) (l' : Link) : Prop where
  broker : s.Drives l.broker l'.broker
  subscriptions : l'.channels.subscriptions = l.channels.subscriptions.insert id s'
  binding : s'.binding = s.binding
  held : ∀ m ∈ s'.held, l.Comes s m
  consumer : ∀ c ∈ s'.phase.consumer?, s.phase.consumer? = some c ∨
    ∃ name, l.broker.openConsumer s.binding = (l'.broker, .ok (name, c))

theorem comes_of_idle {inbox : Mailbox Message} (hinbox : ∀ m ∈ inbox.toList, l.Comes s m)
    (hs' : s'.inbox = inbox) (hidle : s'.phase.carried = []) : ∀ m ∈ s'.held, l.Comes s m := by
  intro m hm
  rw [held_of_idle hidle, hs'] at hm
  exact hinbox m hm

theorem comes_of_inbox {m : Message} (h : m ∈ s.inbox.toList) : l.Comes s m :=
  Or.inl (mem_held_of_inbox h)

theorem turned_retreat (hdrives : s.Drives l.broker b) :
    l.Turned id s (l.retreated s) ({ l with broker := b }.retreat id s) where
  broker := by
    rw [(left_retreat { l with broker := b } id s).broker]
    exact hdrives
  subscriptions := (replaces_retreat { l with broker := b } id s).subscriptions
  binding := rfl
  held := comes_of_idle (fun _ => comes_of_inbox) rfl rfl
  consumer := nofun

theorem turned_establish {name : String} {c : ConsumerId}
    (hopen : l.broker.openConsumer s.binding = (b, .ok (name, c))) :
    l.Turned id s (established s c) ({ l with broker := b }.establish id s c) := by
  have hbroker := (left_establish { l with broker := b } id s c).broker
  have hopened : l.broker.perform (.openConsumer s.binding) = b := congrArg Prod.fst hopen
  constructor
  · rw [hbroker, ← hopened]
    exact Uses.declares.drives l.broker
  · exact (replaces_establish { l with broker := b } id s c).subscriptions
  · rfl
  · exact comes_of_idle (fun _ => comes_of_inbox) rfl rfl
  · intro c' hc'
    cases hc'
    right
    exists name
    rw [hbroker]
    exact hopen

theorem turned_quit {c : ConsumerId} {inbox : Mailbox Message} (hdrives : s.Drives l.broker b)
    (hinbox : ∀ m ∈ inbox.toList, l.Comes s m) :
    l.Turned id s { s with inbox, phase := .stopped }
      ({ l with broker := b }.quit id { s with inbox } c) where
  broker := hdrives.perform (.leaves c)
  subscriptions := rfl
  binding := rfl
  held := comes_of_idle hinbox rfl rfl
  consumer := nofun

/-- A listener that brings a message to its inbox keeps its consumer, or leaves it. -/
theorem turned_forwarded {c : ConsumerId} {m : Message} {offered : Mailbox Message × Mailbox.Offer}
    (hdrives : s.Drives l.broker b) (hconsumer : s.phase.consumer? = some c) (hm : l.Comes s m)
    (hinbox : ∀ x ∈ offered.1.toList, x ∈ s.inbox.toList ∨ x = m) :
    ∃ s', l.Turned id s s' ({ l with broker := b }.forwarded id s c m offered) := by
  have hcomes : ∀ x ∈ offered.1.toList, l.Comes s x := by
    intro x hx
    rcases hinbox x hx with hold | rfl
    · exact comes_of_inbox hold
    · exact hm
  have hkept : ∀ c' ∈ some c, s.phase.consumer? = some c' := by
    intro c' hc'
    cases hc'
    exact hconsumer
  rcases offered with ⟨inbox, offer⟩
  cases offer with
  | accepted =>
      refine ⟨{ s with inbox, phase := .receiving c }, hdrives, rfl, rfl, ?_, ?_⟩
      · exact comes_of_idle hcomes rfl rfl
      · exact fun c' hc' => Or.inl (hkept c' hc')
  | parked ticket =>
      refine ⟨{ s with inbox, phase := .forwarding c ticket m }, hdrives, rfl, rfl, ?_, ?_⟩
      · intro x hx
        rcases List.mem_append.mp hx with hx | hx
        · exact hcomes x hx
        · rw [List.mem_singleton.mp hx]
          exact hm
      · exact fun c' hc' => Or.inl (hkept c' hc')
  | refused => exact ⟨_, turned_quit hdrives hcomes⟩

/-- A step of a listener changes nothing, or turns its subscription into one of the same binding
that comes from it. -/
theorem StepsTo.turned (h : l.StepsTo id s l') : l' = l ∨ ∃ s', l.Turned id s s' l' := by
  cases h with
  | established _ hopened => exact Or.inr ⟨_, turned_establish hopened⟩
  | @rejected b _ _ hrefused =>
      have hbroker : l.broker.perform (.openConsumer s.binding) = b := congrArg Prod.fst hrefused
      exact Or.inr ⟨_, turned_retreat (hbroker ▸ Uses.declares.drives l.broker)⟩
  | @lost c => exact Or.inr ⟨_, turned_retreat ((Uses.leaves c).drives l.broker)⟩
  | @took c b m hphase htook =>
      have hbroker : l.broker.perform (.take c) = b := congrArg Prod.fst htook
      have hconsumer : s.phase.consumer? = some c := congrArg Phase.consumer? hphase
      right
      apply turned_forwarded (hbroker ▸ (Uses.takes c).drives l.broker) hconsumer
      · exact Or.inr ⟨c, b, hconsumer, htook⟩
      · exact fun x => Mailbox.mem_offer
  | @retried c t m hphase =>
      have hconsumer : s.phase.consumer? = some c := congrArg Phase.consumer? hphase
      have hcarried : s.phase.carried = [m] := congrArg Phase.carried hphase
      have hheld : m ∈ s.held := by
        unfold held
        rw [hcarried]
        exact List.mem_append_right _ List.mem_cons_self
      right
      apply turned_forwarded (b := l.broker) (drives_refl s l.broker) hconsumer (Or.inl hheld)
      exact fun x => Mailbox.mem_retry
  | quit => exact Or.inr ⟨_, turned_quit (drives_refl s l.broker) fun _ => comes_of_inbox⟩
  | stopped =>
      refine Or.inr ⟨{ s with phase := .stopped }, drives_refl s l.broker, rfl, rfl, ?_, nofun⟩
      exact comes_of_idle (fun _ => comes_of_inbox) rfl rfl
  | empty => exact Or.inl rfl
  | early => exact Or.inl rfl
  | halted => exact Or.inl rfl

end Link

/-! ## Subscriptions to a fenced queue -/

namespace Channel

open Broker (DirectQueue)

def Subscription.Names (s : Subscription) (q : DirectQueue) : Prop :=
  ∃ durable, s.binding.queue = .named q.name durable

/-- The messages on the way to the reader match the binding of a queue, and more of them come from
this queue only. -/
structure Subscription.Fenced (s : Subscription) (q : DirectQueue) (b : Broker) : Prop where
  held : ∀ m ∈ s.held, q.Matches m
  consumer : ∀ c ∈ s.phase.consumer?, b.StandsAt c q.name

theorem Subscription.Uses.permitted {s : Subscription} {op : Broker.Op} (h : s.Uses op)
    {q : DirectQueue} (hadmits : q.Admits s.binding) : q.Permits op := by
  cases h with
  | declares => exact hadmits
  | takes c => trivial
  | leaves c => trivial

end Channel

namespace Channels

open Channel

def binding? (c : Channels) (id : SubscriptionId) : Option Broker.Binding :=
  (c.subscriptions[id]?).map (·.binding)

theorem binding?_insert {c : Channels} {id : SubscriptionId} {s s' : Subscription}
    (hs : c.subscriptions[id]? = some s) (hbinding : s'.binding = s.binding) :
    (c.setSubscription id s').binding? = c.binding? := by
  funext other
  unfold binding? setSubscription
  dsimp only
  rw [lookup_insert]
  split
  next heq =>
    rw [← heq, hs]
    exact congrArg some hbinding
  next => rfl

theorem binding?_listen (c : Channels) (binding : Broker.Binding) (id : SubscriptionId) :
    (c.listen binding).1.binding? id = if c.made = id then some binding else c.binding? id := by
  unfold binding? listen
  dsimp only
  rw [lookup_insert]
  split <;> rfl

theorem binding?_receive (c : Channels) (id : SubscriptionId) :
    (c.receive id).1.binding? = c.binding? := by
  unfold receive
  cases hs : c.subscriptions[id]? with
  | none => rfl
  | some s => exact binding?_insert hs rfl

theorem binding?_unsubscribe (c : Channels) (id : SubscriptionId) :
    (c.unsubscribe id).binding? = c.binding? := by
  unfold unsubscribe
  cases hs : c.subscriptions[id]? with
  | none => rfl
  | some s => exact binding?_insert hs rfl

end Channels

namespace Link

open Channel
open Broker (DirectQueue Op)

/-- A queue is fenced, and every subscription that names it keeps to it. -/
structure Fenced (l : Link) (q : DirectQueue) : Prop where
  broker : l.broker.Fenced q
  admitted : ∀ {id : SubscriptionId} {s : Subscription},
    l.channels.subscriptions[id]? = some s → q.Admits s.binding
  fenced : ∀ {id : SubscriptionId} {s : Subscription},
    l.channels.subscriptions[id]? = some s → s.Names q → s.Fenced q l.broker

variable {l l' : Link} {q : DirectQueue} {id : SubscriptionId} {s s' : Subscription}

/-- Whoever uses the broker, as long as they declare no further routes to the queue. -/
theorem Fenced.ran (h : l.Fenced q) {ops : List Op} (hbroker : l'.broker = l.broker.run ops)
    (hpermits : ∀ op ∈ ops, q.Permits op)
    (hsubscriptions : l'.channels.subscriptions = l.channels.subscriptions) : l'.Fenced q where
  broker := by
    rw [hbroker]
    exact h.broker.run hpermits
  admitted := by
    rw [hsubscriptions]
    exact h.admitted
  fenced := by
    rw [hsubscriptions, hbroker]
    intro id s hs hnames
    have hfenced := h.fenced hs hnames
    exact ⟨hfenced.held, fun c hc => (hfenced.consumer c hc).run ops⟩

theorem Fenced.performed (h : l.Fenced q) {op : Op} (hbroker : l'.broker = l.broker.perform op)
    (hpermits : q.Permits op)
    (hsubscriptions : l'.channels.subscriptions = l.channels.subscriptions) : l'.Fenced q := by
  have hran : l'.broker = l.broker.run [op] := hbroker
  apply h.ran hran _ hsubscriptions
  intro op' hop'
  rw [List.mem_singleton.mp hop']
  exact hpermits

theorem Fenced.same (h : l.Fenced q) (hbroker : l'.broker = l.broker)
    (hsubscriptions : l'.channels.subscriptions = l.channels.subscriptions) : l'.Fenced q := by
  have hran : l'.broker = l.broker.run [] := hbroker
  exact h.ran hran (fun _ hop => absurd hop List.not_mem_nil) hsubscriptions

theorem Fenced.turned (h : l.Fenced q) (hs : l.channels.subscriptions[id]? = some s)
    (hturned : l.Turned id s s' l') : l'.Fenced q := by
  rcases hturned.broker with ⟨ops, hbroker, huses⟩
  have hpermits : ∀ op ∈ ops, q.Permits op :=
    fun op hop => (huses op hop).permitted (h.admitted hs)
  constructor
  · rw [hbroker]
    exact h.broker.run hpermits
  · intro other sub hsub
    rw [hturned.subscriptions, lookup_insert] at hsub
    split at hsub
    · cases hsub
      rw [hturned.binding]
      exact h.admitted hs
    · exact h.admitted hsub
  · intro other sub hsub hnames
    rw [hturned.subscriptions, lookup_insert] at hsub
    split at hsub
    · cases hsub
      unfold Subscription.Names at hnames
      rw [hturned.binding] at hnames
      have hfenced := h.fenced hs hnames
      constructor
      · intro m hm
        rcases hturned.held m hm with hold | ⟨c, after, hconsumer, htake⟩
        · exact hfenced.held m hold
        · exact h.broker.holds ((hfenced.consumer c hconsumer).holds_of_take htake)
      · intro c hc
        rcases hturned.consumer c hc with hold | ⟨name, hopen⟩
        · rw [hbroker]
          exact (hfenced.consumer c hold).run ops
        · rcases hnames with ⟨durable, hqueue⟩
          exact Broker.standsAt_openConsumer hqueue hopen
    · have hfenced := h.fenced hsub hnames
      constructor
      · exact hfenced.held
      · intro c hc
        rw [hbroker]
        exact (hfenced.consumer c hc).run ops

/-! ## The steps of the link -/

theorem broker_publish (l : Link) (m : Message) :
    (l.publish m).broker = l.broker.perform (.publish m) := by
  show _ = (l.broker.publish m).1
  unfold publish
  rcases l.broker.publish m with ⟨b, e | _⟩
  · rfl
  · rfl

theorem broker_stepSender (l : Link) (id : SenderId) (preference : Preference) :
    (l.stepSender id preference).broker = l.broker ∨
      ∃ m, (l.stepSender id preference).broker = l.broker.perform (.publish m) := by
  unfold stepSender
  split
  · split
    · left
      unfold stopSender
      dsimp only
      split <;> rfl
    · unfold sendNext Commons.takeSent
      rcases l.common.outbox.take with ⟨outbox, _ | m⟩
      · exact Or.inl rfl
      · exact Or.inr ⟨m, broker_publish _ m⟩
  · exact Or.inl rfl

/-- A client opens no consumer: it takes a message, and at most publishes one or leaves its
consumer. -/
theorem broker_clientStep (c : Broker.Client) (b : Broker) (now : Instant) :
    ∃ ops, (c.step b now).2 = b.run ops ∧ ∀ op ∈ ops, ∀ binding, op ≠ .openConsumer binding := by
  have htook : b.perform (.take c.consumer) = (b.take c.consumer).1 := rfl
  unfold Broker.Client.step
  cases htake : b.take c.consumer with
  | mk after taken =>
      rw [htake] at htook
      subst htook
      cases taken with
      | none =>
          dsimp only
          split
          · exact ⟨[.take c.consumer, .close c.consumer], rfl, by simp⟩
          · exact ⟨[.take c.consumer], rfl, by simp⟩
      | some m =>
          dsimp only
          cases c.role with
          | recorder => exact ⟨[.take c.consumer], rfl, by simp⟩
          | translator t =>
              dsimp only
              cases Broker.Translator.answer? t m.envelope with
              | none => exact ⟨[.take c.consumer], rfl, by simp⟩
              | some answer => exact ⟨[.take c.consumer, .publish answer], rfl, by simp⟩

theorem Fenced.stepClient (h : l.Fenced q) (id : Broker.ClientId) : (l.stepClient id).Fenced q := by
  have hsubscriptions := (unmoved_stepClient l id).subscriptions
  unfold Link.stepClient at hsubscriptions ⊢
  cases hc : l.clients[id]? with
  | none => exact h
  | some c =>
      rw [hc] at hsubscriptions
      rcases broker_clientStep c l.broker l.common.now with ⟨ops, hbroker, hops⟩
      apply h.ran hbroker _ hsubscriptions
      intro op hop
      cases op with
      | openConsumer binding => exact absurd rfl (hops _ hop binding)
      | _ => trivial

theorem Fenced.step (h : l.Fenced q) (t : Link.Task) (preference : Preference) :
    (l.step t preference).Fenced q := by
  cases t with
  | sender id =>
      have hsubscriptions := (unmoved_stepSender l id preference).subscriptions
      rcases broker_stepSender l id preference with hbroker | ⟨m, hbroker⟩
      · exact h.same hbroker hsubscriptions
      · exact h.performed hbroker trivial hsubscriptions
  | listener id =>
      show (l.stepListener id preference).Fenced q
      cases hs : l.channels.subscriptions[id]? with
      | none =>
          rw [stepListener_of_none hs]
          exact h
      | some s =>
          rcases (stepsTo_stepListener hs preference).turned with heq | ⟨s', hturned⟩
          · rw [heq]
            exact h
          · exact h.turned hs hturned
  | client id => exact h.stepClient id

theorem binding?_step (l : Link) (t : Link.Task) (preference : Preference) :
    (l.step t preference).channels.binding? = l.channels.binding? := by
  have hsame : ∀ {l' : Link}, l'.channels.subscriptions = l.channels.subscriptions →
      l'.channels.binding? = l.channels.binding? := by
    intro l' hsubscriptions
    unfold Channels.binding?
    rw [hsubscriptions]
  cases t with
  | sender id => exact hsame (unmoved_stepSender l id preference).subscriptions
  | listener id =>
      show (l.stepListener id preference).channels.binding? = _
      cases hs : l.channels.subscriptions[id]? with
      | none => rw [stepListener_of_none hs]
      | some s =>
          rcases (stepsTo_stepListener hs preference).turned with heq | ⟨s', hturned⟩
          · rw [heq]
          · have hreplaced := Channels.binding?_insert hs hturned.binding
            unfold Channels.binding? at hreplaced ⊢
            rw [hturned.subscriptions]
            exact hreplaced
  | client id => exact hsame (unmoved_stepClient l id).subscriptions

theorem Fenced.join (h : l.Fenced q) {binding : Broker.Binding} (hadmits : q.Admits binding)
    (role : Broker.ClientRole) : (l.join binding role).1.Fenced q := by
  have hbroker : (l.join binding role).1.broker = l.broker.perform (.openConsumer binding) := by
    show _ = (l.broker.openConsumer binding).1
    unfold Link.join
    rcases l.broker.openConsumer binding with ⟨b, e | ⟨queue, c⟩⟩
    · rfl
    · rfl
  exact h.performed hbroker hadmits (unmoved_join l binding role).subscriptions

/-! ## The owner of the subscriptions -/

theorem Fenced.listen (h : l.Fenced q) {binding : Broker.Binding} (hadmits : q.Admits binding) :
    ({ l with channels := (l.channels.listen binding).1 } : Link).Fenced q where
  broker := h.broker
  admitted := by
    intro id s hs
    have hlooked := (lookup_insert _ _ _ _).symm.trans hs
    split at hlooked
    · cases hlooked
      exact hadmits
    · exact h.admitted hlooked
  fenced := by
    intro id s hs hnames
    have hlooked := (lookup_insert _ _ _ _).symm.trans hs
    split at hlooked
    · cases hlooked
      exact ⟨fun m hm => absurd hm List.not_mem_nil, nofun⟩
    · exact h.fenced hlooked hnames

theorem Fenced.read (h : l.Fenced q) (hs : l.channels.subscriptions[id]? = some s)
    {inbox : Mailbox Message} (hinbox : ∀ m ∈ inbox.toList, m ∈ s.inbox.toList) :
    (l.setSubscription id { s with inbox }).Fenced q := by
  apply h.turned hs
  refine ⟨Subscription.drives_refl s l.broker, rfl, rfl, ?_, fun c hc => Or.inl hc⟩
  intro m hm
  left
  rcases List.mem_append.mp hm with hold | hcarried
  · exact List.mem_append_left _ (hinbox m hold)
  · exact List.mem_append_right _ hcarried

theorem Fenced.receive (h : l.Fenced q) (id : SubscriptionId) :
    ({ l with channels := (l.channels.receive id).1 } : Link).Fenced q := by
  unfold Channels.receive
  cases hs : l.channels.subscriptions[id]? with
  | none => exact h
  | some s => exact h.read hs fun m => Mailbox.mem_take

theorem Fenced.unsubscribe (h : l.Fenced q) (id : SubscriptionId) :
    ({ l with channels := l.channels.unsubscribe id } : Link).Fenced q := by
  unfold Channels.unsubscribe
  cases hs : l.channels.subscriptions[id]? with
  | none => exact h
  | some s => exact h.read hs fun m hm => absurd hm List.not_mem_nil

theorem Fenced.matches_of_receive (h : l.Fenced q) {m : Message}
    (hbinding : l.channels.binding? id = some q.binding)
    (hm : (l.channels.receive id).2 = some m) : q.Matches m := by
  rcases Option.map_eq_some_iff.mp hbinding with ⟨s, hs, hown⟩
  have hnames : s.Names q := ⟨q.durable, congrArg Broker.Binding.queue hown⟩
  unfold Channels.receive at hm
  rw [hs] at hm
  exact (h.fenced hs hnames).held m (Subscription.mem_held_of_inbox (Mailbox.mem_of_take hm))

end Link
end MetricGateway
