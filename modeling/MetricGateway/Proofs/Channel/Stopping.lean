import MetricGateway.Proofs.Channel.Sources

/-!
# Stopping

The tasks of a link ask two things of the broker: a sender has it publish a message, and a listener
has it open a consumer.  Once they are told to stop, the senders leave the outbox one after the
other, and every later message is refused when the last one has left.  A listener stops while it
waits for its consumer or pauses.  It may still be held up with a message for which the inbox has no
room; where nobody reads the inbox, it stops with the message in its hands.

What has stopped asks for nothing and does not go on.
-/

namespace MetricGateway

namespace Mailbox

variable {α : Type} {m : Mailbox α}

theorem closed_offer (m : Mailbox α) (a : α) : (m.offer a).1.closed = m.closed := by
  unfold offer
  split
  · rfl
  · split <;> rfl

theorem closed_retry (m : Mailbox α) (ticket : Ticket) (a : α) :
    (m.retry ticket a).1.closed = m.closed := by
  unfold retry
  split
  · rfl
  · split <;> rfl

theorem retry_of_closed (h : m.closed = true) (ticket : Ticket) (a : α) :
    m.retry ticket a = (m, .refused) := if_pos h

theorem offer_ne_refused (h : m.closed = false) (a : α) : (m.offer a).2 ≠ .refused := by
  unfold offer
  rw [h, if_neg Bool.false_ne_true]
  split <;> exact nofun

theorem retry_ne_refused (h : m.closed = false) (ticket : Ticket) (a : α) :
    (m.retry ticket a).2 ≠ .refused := by
  unfold retry
  rw [h, if_neg Bool.false_ne_true]
  split <;> exact nofun

end Mailbox

namespace Commons

end Commons

namespace Channel
namespace Subscription

/-- The listener has stopped, or is held up with a message. -/
def Phase.AtRest : Phase → Prop
  | .forwarding _ _ _ => True
  | .stopped => True
  | _ => False

/-- The listener has stopped, or stops with a message for an inbox that nobody reads. -/
def Spent (s : Subscription) : Prop :=
  s.phase = .stopped ∨ s.inbox.closed = true ∧ s.phase.AtRest

/-- What does not come back on the way of a subscription: the reader of its inbox that has left, and
its listener that has stopped or is about to. -/
structure Ages (s s' : Subscription) : Prop where
  closed : s.inbox.closed = true → s'.inbox.closed = true
  stopped : s.phase = .stopped → s'.phase = .stopped
  spent : s.Spent → s'.Spent

variable {s s' s'' : Subscription}

theorem ages_refl (s : Subscription) : s.Ages s := ⟨id, id, id⟩

theorem Ages.trans (h : s.Ages s') (h' : s'.Ages s'') : s.Ages s'' where
  closed := fun hclosed => h'.closed (h.closed hclosed)
  stopped := fun hstopped => h'.stopped (h.stopped hstopped)
  spent := fun hspent => h'.spent (h.spent hspent)

theorem Spent.atRest (h : s.Spent) : s.phase.AtRest := by
  rcases h with hstopped | ⟨_, hrests⟩
  · rw [hstopped]
    trivial
  · exact hrests

theorem ages_of_running (hruns : ¬s.phase.AtRest) (hinbox : s'.inbox.closed = s.inbox.closed) :
    s.Ages s' where
  closed := fun hclosed => hinbox.trans hclosed
  stopped := fun hstopped => absurd (Spent.atRest (Or.inl hstopped)) hruns
  spent := fun hspent => absurd hspent.atRest hruns

theorem ages_of_inbox {inbox : Mailbox Message}
    (hclosed : s.inbox.closed = true → inbox.closed = true) : s.Ages { s with inbox } where
  closed := hclosed
  stopped := id
  spent := Or.imp_right fun hunread => ⟨hclosed hunread.1, hunread.2⟩

end Subscription
end Channel

namespace Link

open Channel Channel.Subscription
open Broker (ConsumerId Op)

/-! ## What is asked of the broker -/

def senderAsks (l : Link) (id : SenderId) (preference : Preference) : List Op :=
  if l.channels.senders.head? = some id then
    if l.channels.stopping ∧ (preference = .stop ∨ l.common.outbox.isEmpty) then []
    else l.common.takeSent.2.toList.map .publish
  else []

def listenerAsks (l : Link) (s : Subscription) (preference : Preference) : List Op :=
  match s.phase with
  | .opening => [.openConsumer s.binding]
  | .pausing resume =>
      let early := !resume.metBy l.common.now
      if l.channels.stopping ∧ (preference = .stop ∨ early) then []
      else if early then []
      else [.openConsumer s.binding]
  | _ => []

def asks (l : Link) : Link.Task → Preference → List Op
  | .sender id, preference => l.senderAsks id preference
  | .listener id, preference =>
      (l.channels.subscriptions[id]?).elim [] (l.listenerAsks · preference)
  | .client _, _ => []

/-- Messages were taken from the broker and consumers were closed, and that is all. -/
def Reads (b b' : Broker) : Prop :=
  ∃ ops, b' = b.run ops ∧ ∀ op ∈ ops, (∃ c, op = .take c) ∨ ∃ c, op = .close c

variable {l l' : Link} {id : SubscriptionId} {s s' : Subscription} {b b' : Broker}

theorem Reads.close (h : Reads b b') (c : ConsumerId) : Reads b (b'.close c) := by
  rcases h with ⟨ops, rfl, hops⟩
  refine ⟨ops ++ [.close c], ?_, ?_⟩
  · rw [Broker.run_append]
    rfl
  · intro op hop
    rcases List.mem_append.mp hop with hold | hnew
    · exact hops op hold
    · exact Or.inr ⟨c, List.mem_singleton.mp hnew⟩

/-- The way from one state of a link to a later one, on which no subscription is new. -/
structure LeadsTo (l l' : Link) : Prop where
  told : l.channels.stopping = true → l'.channels.stopping = true
  subscriptions : ∀ {id : SubscriptionId} {s' : Subscription},
    l'.channels.subscriptions[id]? = some s' →
      ∃ s, l.channels.subscriptions[id]? = some s ∧ s.Ages s'
  senders : l.channels.senders = [] → l'.channels.senders = []
  outbox : l.common.outbox.closed = true → l'.common.outbox.closed = true
  /-- The outbox is left by the last one of its readers. -/
  attended : l.channels.senders ≠ [] ∨ l.common.outbox.closed = true →
    l'.channels.senders ≠ [] ∨ l'.common.outbox.closed = true

theorem LeadsTo.trans {l'' : Link} (h : l.LeadsTo l') (h' : l'.LeadsTo l'') : l.LeadsTo l'' where
  told := fun htold => h'.told (h.told htold)
  subscriptions := by
    intro id s'' hs''
    rcases h'.subscriptions hs'' with ⟨s', hs', hlater⟩
    rcases h.subscriptions hs' with ⟨s, hs, hages⟩
    exact ⟨s, hs, hages.trans hlater⟩
  senders := fun hnone => h'.senders (h.senders hnone)
  outbox := fun hclosed => h'.outbox (h.outbox hclosed)
  attended := fun hattended => h'.attended (h.attended hattended)

theorem leadsTo_of_eq (htold : l.channels.stopping = true → l'.channels.stopping = true)
    (hsubscriptions : ∀ {id : SubscriptionId} {s' : Subscription},
      l'.channels.subscriptions[id]? = some s' →
        ∃ s, l.channels.subscriptions[id]? = some s ∧ s.Ages s')
    (hsenders : l'.channels.senders = l.channels.senders)
    (houtbox : l'.common.outbox.closed = l.common.outbox.closed) : l.LeadsTo l' where
  told := htold
  subscriptions := hsubscriptions
  senders := fun hnone => hsenders.trans hnone
  outbox := fun hclosed => houtbox.trans hclosed
  attended := by
    rw [hsenders, houtbox]
    exact id

theorem leadsTo_of_same (hchannels : l'.channels = l.channels)
    (houtbox : l'.common.outbox.closed = l.common.outbox.closed) : l.LeadsTo l' := by
  apply leadsTo_of_eq
  · rw [hchannels]
    exact id
  · intro id s' hs'
    rw [hchannels] at hs'
    exact ⟨s', hs', ages_refl s'⟩
  · rw [hchannels]
  · exact houtbox

theorem leadsTo_refl (l : Link) : l.LeadsTo l := leadsTo_of_same rfl rfl

theorem leadsTo_of_insert (hs : l.channels.subscriptions[id]? = some s)
    (hsubscriptions : l'.channels.subscriptions = l.channels.subscriptions.insert id s')
    (hages : s.Ages s') (htold : l'.channels.stopping = l.channels.stopping)
    (hsenders : l'.channels.senders = l.channels.senders)
    (houtbox : l'.common.outbox.closed = l.common.outbox.closed) : l.LeadsTo l' := by
  apply leadsTo_of_eq
  · rw [htold]
    exact fun h => h
  · intro other sub hsub
    rw [hsubscriptions, lookup_insert] at hsub
    split at hsub
    next heq =>
      cases hsub
      rw [← heq]
      exact ⟨s, hs, hages⟩
    next => exact ⟨sub, hsub, ages_refl sub⟩
  · exact hsenders
  · exact houtbox

/-! ## Steps -/

theorem leadsTo_publish (l : Link) (m : Message) : l.LeadsTo (l.publish m) := by
  unfold publish
  split <;> exact leadsTo_of_same rfl rfl

theorem leadsTo_stepSender (l : Link) (id : SenderId) (preference : Preference) :
    l.LeadsTo (l.stepSender id preference) := by
  unfold stepSender
  split
  next hholds =>
    have hsome : l.channels.senders ≠ [] := by
      intro hnone
      rw [hnone] at hholds
      cases hholds
    split
    · unfold stopSender
      dsimp only
      split
      next hlast =>
        refine ⟨fun htold => htold, ?_, ?_, ?_, ?_⟩
        · exact fun hs => ⟨_, hs, ages_refl _⟩
        · exact fun hnone => absurd hnone hsome
        · exact fun _ => rfl
        · exact fun _ => Or.inr rfl
      next hmore =>
        refine ⟨fun htold => htold, ?_, ?_, ?_, ?_⟩
        · exact fun hs => ⟨_, hs, ages_refl _⟩
        · exact fun hnone => absurd hnone hsome
        · exact fun hclosed => hclosed
        · refine fun _ => Or.inl ?_
          simpa using hmore
    · have hclosed := l.common.outbox.closed_take
      unfold sendNext Commons.takeSent
      rcases htake : l.common.outbox.take with ⟨outbox, _ | m⟩
      · exact leadsTo_refl l
      · rw [htake] at hclosed
        refine LeadsTo.trans ?_ (leadsTo_publish _ m)
        refine ⟨fun htold => htold, ?_, ?_, ?_, ?_⟩
        · exact fun hs => ⟨_, hs, ages_refl _⟩
        · exact fun hnone => absurd hnone hsome
        · exact fun h => hclosed.trans h
        · exact fun _ => Or.inl (List.append_ne_nil_of_right_ne_nil _ (List.cons_ne_nil _ _))
  next => exact leadsTo_refl l

theorem outbox_retreat (l : Link) (id : SubscriptionId) (s : Subscription) :
    (l.retreat id s).common.outbox = l.common.outbox := by
  unfold retreat
  dsimp only
  split <;> rfl

theorem outbox_establish (l : Link) (id : SubscriptionId) (s : Subscription) (c : ConsumerId) :
    (l.establish id s c).common.outbox = l.common.outbox := by
  have hrestored : ∀ l : Link, l.restored.common.outbox = l.common.outbox := by
    intro l
    unfold restored
    dsimp only
    split <;> rfl
  have hcounted : (if 0 < s.failures then l.onCommon (·.count Metrics.addChannelReconnect)
      else l).common.outbox = l.common.outbox := by
    split <;> rfl
  unfold establish
  dsimp only
  split
  · exact (hrestored _).trans hcounted
  · exact hcounted

theorem leadsTo_retreat (hs : l.channels.subscriptions[id]? = some s) (hruns : ¬s.phase.AtRest)
    (b : Broker) : l.LeadsTo ({ l with broker := b }.retreat id s) := by
  have hreplaces := replaces_retreat { l with broker := b } id s
  apply leadsTo_of_insert hs hreplaces.subscriptions (ages_of_running hruns rfl)
  · exact hreplaces.stopping
  · unfold retreat
    dsimp only
    split <;> rfl
  · rw [outbox_retreat]

theorem leadsTo_establish (hs : l.channels.subscriptions[id]? = some s)
    (hruns : ¬s.phase.AtRest) (b : Broker) (c : ConsumerId) :
    l.LeadsTo ({ l with broker := b }.establish id s c) := by
  have hreplaces := replaces_establish { l with broker := b } id s c
  apply leadsTo_of_insert hs hreplaces.subscriptions (ages_of_running hruns rfl)
  · exact hreplaces.stopping
  · rw [channels_establish]
  · rw [outbox_establish]

/-- A listener brings a message to its inbox; where nobody reads the inbox, it is refused. -/
theorem leadsTo_forwarded (hs : l.channels.subscriptions[id]? = some s)
    (hruns : s.phase ≠ .stopped) (b : Broker) (c : ConsumerId) (m : Message)
    {offered : Mailbox Message × Mailbox.Offer} (hinbox : offered.1.closed = s.inbox.closed)
    (hrefused : s.Spent → offered.2 = .refused) :
    l.LeadsTo ({ l with broker := b }.forwarded id s c m offered) := by
  rcases offered with ⟨inbox, offer⟩
  have hages : ∀ phase, (offer = .refused → phase = .stopped) →
      s.Ages { s with inbox, phase } := by
    intro phase hphase
    refine ⟨fun hclosed => hinbox.trans hclosed, fun hstopped => absurd hstopped hruns, ?_⟩
    exact fun hspent => Or.inl (hphase (hrefused hspent))
  cases offer with
  | accepted => exact leadsTo_of_insert hs rfl (hages _ nofun) rfl rfl rfl
  | parked ticket => exact leadsTo_of_insert hs rfl (hages _ nofun) rfl rfl rfl
  | refused => exact leadsTo_of_insert hs rfl (hages _ fun _ => rfl) rfl rfl rfl

theorem StepsTo.leadsTo (h : l.StepsTo id s l') (hs : l.channels.subscriptions[id]? = some s) :
    l.LeadsTo l' := by
  have hdeclares : s.phase.Declares l.common.now → ¬s.phase.AtRest := by
    intro hdeclares hrests
    cases hphase : s.phase <;> rw [hphase] at hdeclares hrests <;> trivial
  have hruns : ∀ {phase : Phase}, s.phase = phase → ¬phase.AtRest → ¬s.phase.AtRest :=
    fun hphase hne => hphase ▸ hne
  cases h with
  | @established b _ c declares _ => exact leadsTo_establish hs (hdeclares declares) b c
  | @rejected b _ declares _ => exact leadsTo_retreat hs (hdeclares declares) b
  | @lost c phase _ => exact leadsTo_retreat hs (hruns phase fun h => h) _
  | @took c b m phase _ =>
      apply leadsTo_forwarded hs (fun hstopped => nomatch phase.symm.trans hstopped) b c m
      · exact s.inbox.closed_offer m
      · exact fun hspent => absurd hspent.atRest (hruns phase fun h => h)
  | @retried c t m phase =>
      have hwaits : s.phase ≠ .stopped := fun hstopped => nomatch phase.symm.trans hstopped
      apply leadsTo_forwarded hs hwaits l.broker c m (s.inbox.closed_retry t m)
      intro hspent
      rw [Mailbox.retry_of_closed (hspent.resolve_left hwaits).1]
  | quit phase _ =>
      exact leadsTo_of_insert hs rfl (ages_of_running (hruns phase fun h => h) rfl) rfl rfl rfl
  | stopped phase _ =>
      exact leadsTo_of_insert hs rfl (ages_of_running (hruns phase fun h => h) rfl) rfl rfl rfl
  | empty => exact leadsTo_refl l
  | early => exact leadsTo_refl l
  | halted => exact leadsTo_refl l

theorem leadsTo_step (l : Link) (t : Link.Task) (preference : Preference) :
    l.LeadsTo (l.step t preference) := by
  cases t with
  | sender id => exact leadsTo_stepSender l id preference
  | listener id =>
      show l.LeadsTo (l.stepListener id preference)
      cases hs : l.channels.subscriptions[id]? with
      | none =>
          rw [stepListener_of_none hs]
          exact leadsTo_refl l
      | some s => exact (stepsTo_stepListener hs preference).leadsTo hs
  | client id =>
      show l.LeadsTo (l.stepClient id)
      unfold stepClient
      cases l.clients[id]? <;> exact leadsTo_of_same rfl rfl

/-! ## The owner of the subscriptions -/

theorem leadsTo_receive (l : Link) (id : SubscriptionId) :
    l.LeadsTo { l with channels := (l.channels.receive id).1 } := by
  unfold Channels.receive
  cases hs : l.channels.subscriptions[id]? with
  | none => exact leadsTo_refl l
  | some s =>
      refine leadsTo_of_insert hs rfl (ages_of_inbox ?_) rfl rfl rfl
      exact fun hclosed => s.inbox.closed_take.trans hclosed

theorem leadsTo_unsubscribe (l : Link) (id : SubscriptionId) :
    l.LeadsTo { l with channels := l.channels.unsubscribe id } := by
  unfold Channels.unsubscribe
  cases hs : l.channels.subscriptions[id]? with
  | none => exact leadsTo_refl l
  | some s => exact leadsTo_of_insert hs rfl (ages_of_inbox fun _ => rfl) rfl rfl rfl

theorem lookup_unsubscribe {c : Channels} {other : SubscriptionId}
    (hs : (c.unsubscribe id).subscriptions[other]? = some s) :
    s.inbox.closed = true ∨ other ≠ id ∧ c.subscriptions[other]? = some s := by
  unfold Channels.unsubscribe at hs
  cases hold : c.subscriptions[id]? with
  | none =>
      rw [hold] at hs
      refine Or.inr ⟨?_, hs⟩
      rintro rfl
      rw [hold] at hs
      cases hs
  | some s' =>
      rw [hold] at hs
      have hlooked := (lookup_insert _ _ _ _).symm.trans hs
      split at hlooked
      next =>
        cases hlooked
        exact Or.inl rfl
      next hne => exact Or.inr ⟨Ne.symm hne, hlooked⟩

/-! ## What has stopped -/

/-- A listener that was told to stop and cannot go on has stopped or is held up. -/
theorem atRest_of_told (htold : l.channels.stopping = true)
    (hs : l.channels.subscriptions[id]? = some s) (hwaits : l.listenerReady id = false) :
    s.phase.AtRest := by
  unfold listenerReady at hwaits
  rw [hs, htold] at hwaits
  dsimp only at hwaits
  cases hphase : s.phase with
  | opening =>
      rw [hphase] at hwaits
      cases hwaits
  | receiving c =>
      rw [hphase] at hwaits
      cases hwaits
  | forwarding c ticket m => trivial
  | pausing resume =>
      rw [hphase] at hwaits
      cases hwaits
  | stopped => trivial

/-- No sender is left, and messages are refused. -/
structure Deserted (l : Link) : Prop where
  senders : l.channels.senders = []
  outbox : l.common.outbox.closed = true

/-- No sender is left, and no listener will open a consumer. -/
structure Stopped (l : Link) : Prop extends Deserted l where
  listeners : ∀ {id : SubscriptionId} {s : Subscription},
    l.channels.subscriptions[id]? = some s → s.Spent

/-- No sender is left, and of the listeners only orphans, whose messages nobody reads. -/
structure OnlyOrphans (l : Link) : Prop extends Deserted l where
  listeners : ∀ {id : SubscriptionId} {s : Subscription},
    l.channels.subscriptions[id]? = some s → s.phase = .stopped ∨ s.inbox.closed = true

theorem Deserted.leadsTo (h : l.Deserted) (hleads : l.LeadsTo l') : l'.Deserted where
  senders := hleads.senders h.senders
  outbox := hleads.outbox h.outbox

theorem Stopped.leadsTo (h : l.Stopped) (hleads : l.LeadsTo l') : l'.Stopped where
  toDeserted := h.toDeserted.leadsTo hleads
  listeners := by
    intro id s' hs'
    rcases hleads.subscriptions hs' with ⟨s, hs, hages⟩
    exact hages.spent (h.listeners hs)

theorem OnlyOrphans.leadsTo (h : l.OnlyOrphans) (hleads : l.LeadsTo l') : l'.OnlyOrphans where
  toDeserted := h.toDeserted.leadsTo hleads
  listeners := by
    intro id s' hs'
    rcases hleads.subscriptions hs' with ⟨s, hs, hages⟩
    exact (h.listeners hs).imp hages.stopped hages.closed

/-- A listener asks for nothing but a consumer, and not when it has stopped. -/
theorem opens_of_mem_listenerAsks {op : Op} {preference : Preference}
    (hop : op ∈ l.listenerAsks s preference) :
    op = .openConsumer s.binding ∧ s.phase ≠ .stopped := by
  unfold listenerAsks at hop
  cases hphase : s.phase with
  | opening =>
      rw [hphase] at hop
      exact ⟨List.mem_singleton.mp hop, nofun⟩
  | receiving c =>
      rw [hphase] at hop
      cases hop
  | forwarding c ticket m =>
      rw [hphase] at hop
      cases hop
  | pausing resume =>
      rw [hphase] at hop
      dsimp only at hop
      split at hop
      · cases hop
      · split at hop
        · cases hop
        · exact ⟨List.mem_singleton.mp hop, nofun⟩
  | stopped =>
      rw [hphase] at hop
      cases hop

end Link
end MetricGateway
