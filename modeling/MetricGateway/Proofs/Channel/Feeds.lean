import MetricGateway.Proofs.Channel.Listening

/-!
# What the reader of a subscription receives

A subscription to a named queue is followed through all that can happen: others use the broker,
which may cancel all consumers and refuse connections, the listener takes its steps at any moment,
the reader takes messages, and time passes.  Two records are kept: the messages that the broker has
accepted for the queue, and the messages that the reader was given.

At every moment the accepted messages are those that were given to the reader, followed by those
that are on their way to it: in the inbox, in the hands of the listener, in the buffer of its
consumer, and in the queue.
-/

namespace MetricGateway
namespace Channel

open Broker (DirectQueue ConsumerId)

/-- A subscription to a queue, with the messages that the broker has accepted for the queue and
those that the reader was given, oldest first. -/
structure Feed where
  queue : DirectQueue
  id : SubscriptionId
  link : Link
  accepted : List Message := []
  yielded : List Message := []

namespace Feed

/-- A new broker and an instance that has just subscribed; the listener has not taken a step. -/
def start (queue : DirectQueue) (settings : ChannelSettings) (common : Commons) : Feed where
  queue
  id := ((Channels.start settings).listen queue.binding).2
  link := { channels := ((Channels.start settings).listen queue.binding).1, common }

inductive Act where
  | other (op : Broker.Op)
  | listener (preference : Preference)
  /-- The reader asks for a message; it gets none if there is none yet. -/
  | receive
  | pass (d : Duration)

def perform (s : Feed) : Act → Feed
  | .other op =>
      { s with
        link := { s.link with broker := s.link.broker.perform op }
        accepted := s.accepted ++ s.queue.accepted s.link.broker op }
  | .listener preference => { s with link := s.link.stepListener s.id preference }
  | .receive =>
      { s with
        link := { s.link with channels := (s.link.channels.receive s.id).1 }
        yielded := s.yielded ++ (s.link.channels.receive s.id).2.toList }
  | .pass d => { s with link := s.link.onCommon fun c => { c with now := c.now.plus d } }

def run (s : Feed) (acts : List Act) : Feed := acts.foldl perform s

/-- Others spare the queue. -/
def Permits (s : Feed) : Act → Prop
  | .other op => s.queue.Spares s.link.broker op
  | _ => True

/-- No more accepted messages have not been given to the reader than the buffer of a consumer
holds. -/
def Bounded (s : Feed) : Prop := s.accepted.length ≤ s.yielded.length + Broker.consumerBuffer

instance (s : Feed) : Decidable s.Bounded := inferInstanceAs (Decidable (_ ≤ _))

/-- All along the run others spare the queue, and the messages on their way are bounded. -/
def Permitted : Feed → List Act → Prop
  | _, [] => True
  | s, a :: acts => s.Permits a ∧ (s.perform a).Bounded ∧ (s.perform a).Permitted acts

theorem permitted_append {s : Feed} {acts more : List Act} :
    s.Permitted (acts ++ more) ↔ s.Permitted acts ∧ (s.run acts).Permitted more := by
  induction acts generalizing s with
  | nil => exact (iff_of_eq (true_and _)).symm
  | cons a acts ih =>
      show _ ∧ _ ∧ (s.perform a).Permitted (acts ++ more) ↔ (_ ∧ _ ∧ _) ∧ _
      rw [ih, and_assoc, and_assoc]
      rfl

end Feed

/-! ## The messages on their way -/

namespace Subscription

/-- The messages on their way to the reader, the next one in front. -/
def ahead (s : Subscription) (b : Broker) (name : String) : List Message :=
  s.inbox.toList ++ s.phase.carried ++ b.line name s.phase.consumer?

/-- How a subscription to a queue hangs together with the broker.  While its listener pauses, the
pause has begun by now. -/
structure Serves (s : Subscription) (q : DirectQueue) (settings : ChannelSettings) (now : Instant)
    (b : Broker) : Prop where
  binding : s.binding = q.binding
  alive : s.phase ≠ .stopped
  sole : s.inbox.Sole s.phase.ticket?
  capacity : s.inbox.capacity = settings.deliveryBuffer
  keeps : b.Keeps q s.phase.consumer?
  paused : ∀ resume, s.phase = .pausing resume →
    ∃ since : Instant, since.nanos ≤ now.nanos ∧ resume = since.deadline settings.reconnectDelay

variable {s s' : Subscription} {q : DirectQueue} {settings : ChannelSettings} {now : Instant}
  {b b' : Broker}

theorem ahead_of_vacant {b : Broker} {name : String} (hnone : s.phase.consumer? = none)
    (hcarried : s.phase.carried = []) : s.ahead b name = s.inbox.toList ++ b.line name none := by
  unfold ahead
  rw [hnone, hcarried, List.append_nil]

theorem ahead_of_receiving {b : Broker} {name : String} {c : ConsumerId}
    (hphase : s.phase = .receiving c) :
    s.ahead b name = s.inbox.toList ++ b.line name (some c) := by
  unfold ahead
  rw [hphase]
  exact congrArg (· ++ b.line name (some c)) (List.append_nil _)

theorem ahead_of_forwarding {b : Broker} {name : String} {c : ConsumerId} {t : Ticket}
    {m : Message} (hphase : s.phase = .forwarding c t m) :
    s.ahead b name = s.inbox.toList ++ m :: b.line name (some c) := by
  unfold ahead
  rw [hphase]
  exact List.append_assoc _ [m] _

theorem paused_now {now : Instant} {delay : Duration} (resume : Instant)
    (h : Phase.pausing (now.deadline delay) = .pausing resume) :
    ∃ since : Instant, since.nanos ≤ now.nanos ∧ resume = since.deadline delay := by
  cases h
  exact ⟨now, Nat.le_refl _, rfl⟩

theorem eq_of_refused {binding : Broker.Binding} {e : Broker.Refusal}
    (h : b.openConsumer binding = (b', .error e)) : b' = b := by
  rcases Broker.openConsumer_cases b binding with ⟨e', heq⟩ | ⟨_, _, _, _, _, heq⟩
  · exact congrArg Prod.fst (h.symm.trans heq)
  · rw [h] at heq
    cases heq

theorem frame_of_took {c : ConsumerId} {m : Message} (h : b.take c = (b', some m)) :
    ∃ consumers, b' = { b with consumers } := by
  rcases Broker.take_frame b c with ⟨consumers, hframe⟩
  rw [h] at hframe
  exact ⟨consumers, hframe⟩

theorem queues_of_took {c : ConsumerId} {m : Message} (h : b.take c = (b', some m)) :
    b'.queues = b.queues := by
  rcases frame_of_took h with ⟨consumers, hframe⟩
  rw [hframe]

theorem standing_of_took {c : ConsumerId} {m : Message} (h : b.take c = (b', some m)) :
    b'.standing = b.standing := by
  have hstanding := Broker.standing_take b c
  rw [h] at hstanding
  exact hstanding

theorem Serves.listens (h : s.Serves q settings now b)
    (hroom : (b.waiting q.name).length ≤ Broker.consumerBuffer)
    (hstep : s.Listens now settings.reconnectDelay b b' s') :
    s'.Serves q settings now b' ∧ s'.ahead b' q.name = s.ahead b q.name ∧
      (q.name ∈ b.queues → q.name ∈ b'.queues) := by
  have hkeeps := h.keeps
  have hsole := h.sole
  cases hstep with
  | established hdeclares hopened =>
      rcases hdeclares.without_consumer with ⟨hnone, hcarried, hticket⟩
      rw [hnone] at hkeeps
      rw [hticket] at hsole
      rw [h.binding] at hopened
      rcases hkeeps.openConsumer hopened hroom with ⟨hheld, hline, _, hname⟩
      refine ⟨⟨h.binding, Phase.noConfusion, hsole, h.capacity, hheld, nofun⟩, ?_, fun _ => hname⟩
      rw [ahead_of_vacant hnone hcarried, ahead_of_receiving rfl, hline]
  | rejected hdeclares hrefused =>
      rcases hdeclares.without_consumer with ⟨hnone, hcarried, hticket⟩
      rw [hnone] at hkeeps
      rw [hticket] at hsole
      cases eq_of_refused hrefused
      refine ⟨⟨h.binding, Phase.noConfusion, hsole, h.capacity, hkeeps, paused_now⟩, ?_, id⟩
      rw [ahead_of_vacant hnone hcarried, ahead_of_vacant rfl rfl]
  | lost hphase hended =>
      rw [hphase] at hkeeps hsole
      rcases hkeeps.close hended with ⟨hvacant, hline⟩
      refine ⟨⟨h.binding, Phase.noConfusion, hsole, h.capacity, hvacant, paused_now⟩, ?_, id⟩
      rw [ahead_of_receiving hphase, ahead_of_vacant rfl rfl, hline]
  | brought hphase htook hfree hholds hcapacity =>
      rw [hphase] at hkeeps
      rcases hkeeps.take htook with ⟨hheld, hline⟩
      refine ⟨⟨h.binding, Phase.noConfusion, hfree, hcapacity.trans h.capacity, hheld, nofun⟩, ?_,
        fun hname => queues_of_took htook ▸ hname⟩
      rw [ahead_of_receiving hphase, ahead_of_receiving rfl, hholds, hline, List.append_assoc]
      rfl
  | parked hphase htook hline hholds hcapacity =>
      rw [hphase] at hkeeps
      rcases hkeeps.take htook with ⟨hheld, hnext⟩
      refine ⟨⟨h.binding, Phase.noConfusion, hline, hcapacity.trans h.capacity, hheld, nofun⟩, ?_,
        fun hname => queues_of_took htook ▸ hname⟩
      rw [ahead_of_receiving hphase, ahead_of_forwarding rfl, hholds, hnext]
  | handed hphase hfree hholds hcapacity =>
      rw [hphase] at hkeeps
      refine ⟨⟨h.binding, Phase.noConfusion, hfree, hcapacity.trans h.capacity, hkeeps, nofun⟩, ?_,
        id⟩
      rw [ahead_of_forwarding hphase, ahead_of_receiving rfl, hholds, List.append_assoc]
      rfl
  | waited => exact ⟨h, rfl, id⟩

theorem Serves.receive (h : s.Serves q settings now b) :
    ({ s with inbox := s.inbox.take.1 } : Subscription).Serves q settings now b ∧
      s.ahead b q.name = s.inbox.take.2.toList ++
        ({ s with inbox := s.inbox.take.1 } : Subscription).ahead b q.name := by
  rcases h.sole.take with ⟨hsole, hcapacity⟩
  constructor
  · exact ⟨h.binding, h.alive, hsole, hcapacity.trans h.capacity, h.keeps, h.paused⟩
  · unfold ahead
    rw [s.inbox.toList_take, List.append_assoc, List.append_assoc, List.append_assoc]

/-- What others do adds to the end of what is on its way what the broker accepts. -/
theorem Serves.perform (h : s.Serves q settings now b) {op : Broker.Op} (hspared : q.Spares b op)
    (hroom : (s.ahead b q.name ++ q.accepted b op).length ≤ Broker.consumerBuffer) :
    s.Serves q settings now (b.perform op) ∧
      s.ahead (b.perform op) q.name = s.ahead b q.name ++ q.accepted b op := by
  have hline : (b.line q.name s.phase.consumer? ++ q.accepted b op).length ≤
      Broker.consumerBuffer := by
    unfold ahead at hroom
    rw [List.append_assoc, List.length_append] at hroom
    exact Nat.le_trans (Nat.le_add_left _ _) hroom
  rcases h.keeps.perform hspared hline with ⟨hkeeps, hmore⟩
  refine ⟨⟨h.binding, h.alive, h.sole, h.capacity, hkeeps, h.paused⟩, ?_⟩
  unfold ahead
  rw [hmore, List.append_assoc _ _ (q.accepted b op)]

theorem Serves.later (h : s.Serves q settings now b) {later : Instant}
    (hlater : now.nanos ≤ later.nanos) : s.Serves q settings later b where
  binding := h.binding
  alive := h.alive
  sole := h.sole
  capacity := h.capacity
  keeps := h.keeps
  paused := by
    intro resume hphase
    rcases h.paused resume hphase with ⟨since, hsince, hresume⟩
    exact ⟨since, Nat.le_trans hsince hlater, hresume⟩

end Subscription

/-! ## Runs -/

namespace Feed

/-- What holds all along: nothing that was accepted is lost, doubled or overtaken on its way. -/
structure Flows (s : Feed) (settings : ChannelSettings) (sub : Subscription) : Prop where
  found : s.link.channels.subscriptions[s.id]? = some sub
  configured : s.link.channels.settings = settings
  running : s.link.channels.stopping = false
  serves : sub.Serves s.queue settings s.link.common.now s.link.broker
  line : s.accepted = s.yielded ++ sub.ahead s.link.broker s.queue.name
  declared : s.accepted ≠ [] → s.queue.name ∈ s.link.broker.queues

variable {s : Feed} {settings : ChannelSettings} {sub : Subscription}

theorem Flows.length_ahead (h : s.Flows settings sub) :
    s.accepted.length = s.yielded.length + (sub.ahead s.link.broker s.queue.name).length := by
  rw [← List.length_append, ← h.line]

theorem Flows.length_waiting (h : s.Flows settings sub) (hbounded : s.Bounded) :
    (s.link.broker.waiting s.queue.name).length ≤ Broker.consumerBuffer := by
  have hlength := h.length_ahead
  unfold Bounded at hbounded
  unfold Subscription.ahead Broker.line at hlength
  simp only [List.length_append] at hlength
  omega

theorem flows_start (queue : DirectQueue) (settings : ChannelSettings) (common : Commons) :
    ∃ sub, (start queue settings common).Flows settings sub := by
  refine ⟨_, Std.ExtTreeMap.getElem?_insert_self, rfl, rfl, ?_, ?_, fun h => absurd rfl h⟩
  · refine ⟨rfl, Subscription.Phase.noConfusion, ⟨rfl, rfl, fun h => absurd rfl h⟩, rfl, ?_, nofun⟩
    exact Broker.keeps_empty queue
  · show [] = [] ++ _
    rw [Subscription.ahead_of_vacant rfl rfl]
    simp [start, Mailbox.toList, Broker.line, Broker.waiting]

theorem Flows.other (h : s.Flows settings sub) {op : Broker.Op}
    (hspared : s.queue.Spares s.link.broker op) (hbounded : (s.perform (.other op)).Bounded) :
    (s.perform (.other op)).Flows settings sub := by
  have hroom : (sub.ahead s.link.broker s.queue.name ++
      s.queue.accepted s.link.broker op).length ≤ Broker.consumerBuffer := by
    have hlength := h.length_ahead
    unfold Bounded perform at hbounded
    dsimp only at hbounded
    rw [List.length_append] at hbounded ⊢
    omega
  rcases h.serves.perform hspared hroom with ⟨hserves, hahead⟩
  refine ⟨h.found, h.configured, h.running, hserves, ?_, ?_⟩
  · show s.accepted ++ _ = s.yielded ++ sub.ahead (s.link.broker.perform op) s.queue.name
    rw [hahead, ← List.append_assoc, ← h.line]
  · intro hsome
    apply (h.serves.keeps.mem_queues_perform hspared).mpr
    by_cases hbefore : s.accepted = []
    · apply DirectQueue.declared_of_accepted
      intro hnone
      apply hsome
      show s.accepted ++ s.queue.accepted s.link.broker op = []
      rw [hbefore, hnone]
      rfl
    · exact h.declared hbefore

theorem Flows.listens (h : s.Flows settings sub) (hbounded : s.Bounded)
    (preference : Preference) :
    ∃ b' sub', sub.Listens s.link.common.now settings.reconnectDelay s.link.broker b' sub' ∧
      s.link.Left s.id b' sub' (s.link.stepListener s.id preference) ∧
      (s.perform (.listener preference)).Flows settings sub' := by
  have hsteps := Link.stepsTo_stepListener h.found preference
  rcases hsteps.listens h.found h.running h.serves.alive h.serves.sole with
    ⟨b', sub', hlistens, hleft⟩
  rw [h.configured] at hlistens
  rcases h.serves.listens (h.length_waiting hbounded) hlistens with ⟨hserves, hahead, hname⟩
  refine ⟨b', sub', hlistens, hleft, hleft.subscription, hleft.settings.trans h.configured,
    hleft.stopping.trans h.running, ?_, ?_, ?_⟩
  · show sub'.Serves s.queue settings (s.link.stepListener s.id preference).common.now
      (s.link.stepListener s.id preference).broker
    rw [hleft.now, hleft.broker]
    exact hserves
  · show s.accepted = s.yielded ++
      sub'.ahead (s.link.stepListener s.id preference).broker s.queue.name
    rw [hleft.broker, hahead]
    exact h.line
  · intro hsome
    show s.queue.name ∈ (s.link.stepListener s.id preference).broker.queues
    rw [hleft.broker]
    exact hname (h.declared hsome)

theorem Flows.receive (h : s.Flows settings sub) :
    (s.perform .receive).Flows settings { sub with inbox := sub.inbox.take.1 } ∧
      (s.perform .receive).yielded = s.yielded ++ sub.inbox.take.2.toList := by
  have hreceive : s.link.channels.receive s.id =
      (s.link.channels.setSubscription s.id { sub with inbox := sub.inbox.take.1 },
        sub.inbox.take.2) := by
    unfold Channels.receive
    rw [h.found]
  rcases h.serves.receive with ⟨hserves, hahead⟩
  unfold perform
  dsimp only
  rw [hreceive]
  refine ⟨⟨Std.ExtTreeMap.getElem?_insert_self, h.configured, h.running, hserves, ?_, h.declared⟩,
    rfl⟩
  dsimp only
  rw [List.append_assoc, ← hahead]
  exact h.line

theorem Flows.pass (h : s.Flows settings sub) (d : Duration) :
    (s.perform (.pass d)).Flows settings sub where
  found := h.found
  configured := h.configured
  running := h.running
  serves := h.serves.later (Nat.le_add_left _ _)
  line := h.line
  declared := h.declared

theorem Flows.perform (h : s.Flows settings sub) (hbefore : s.Bounded) {a : Act}
    (hpermits : s.Permits a) (hbounded : (s.perform a).Bounded) :
    ∃ sub', (s.perform a).Flows settings sub' := by
  cases a with
  | other op => exact ⟨sub, h.other hpermits hbounded⟩
  | listener preference =>
      rcases h.listens hbefore preference with ⟨_, sub', _, _, hflows⟩
      exact ⟨sub', hflows⟩
  | receive => exact ⟨_, h.receive.1⟩
  | pass d => exact ⟨sub, h.pass d⟩

theorem Flows.run (h : s.Flows settings sub) (hbounded : s.Bounded) {acts : List Act}
    (hpermitted : s.Permitted acts) :
    (∃ sub', (s.run acts).Flows settings sub') ∧ (s.run acts).Bounded := by
  induction acts generalizing s sub with
  | nil => exact ⟨⟨sub, h⟩, hbounded⟩
  | cons a acts ih =>
      rcases hpermitted with ⟨hpermits, hnext, hrest⟩
      rcases h.perform hbounded hpermits hnext with ⟨sub', hflows⟩
      exact ih hflows hnext hrest

/-! ## What the reader sees -/

def hasEnded (s : Feed) : Bool := s.link.channels.hasEnded s.id

theorem Flows.yielded_first (h : s.Flows settings sub) : s.yielded <+: s.accepted :=
  ⟨_, h.line.symm⟩

theorem Flows.hasEnded_eq_false (h : s.Flows settings sub) : s.hasEnded = false := by
  unfold hasEnded Channels.hasEnded
  rw [h.found]
  unfold Option.all Subscription.hasEnded Subscription.isStopped
  dsimp only
  rw [decide_eq_false h.serves.alive]
  rfl

end Feed
end Channel
end MetricGateway
