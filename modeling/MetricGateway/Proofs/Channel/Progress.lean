import MetricGateway.Proofs.Channel.Feeds

/-!
# How far a subscription gets

As long as the broker accepts consumers, every step of the listener and of the reader brings the
messages on their way further, so the two come to rest after few steps.  Once the broker accepts
consumers, a listener at rest reads an attached consumer or pauses, and after the pause it has a
consumer again.  When both are at rest after that, the reader was given everything.
-/

namespace MetricGateway

/-- A pause has ended when its length has passed, as long as the clock can count that far. -/
theorem Instant.metBy_deadline {since start now : Instant} {d : Duration}
    (hsince : since.nanos ≤ start.nanos) (hpassed : (start.plus d).metBy now = true)
    (hcountable : now.countable = true) : (since.deadline d).metBy now = true := by
  have hearlier : (since.plus d).nanos ≤ (start.plus d).nanos := Nat.add_le_add_left hsince _
  rw [Instant.metBy_iff] at hpassed ⊢
  have hmet : (since.plus d).ceilTick ≤ now.tick := by
    unfold ceilTick at hpassed ⊢
    exact Nat.le_trans (Nat.div_le_div_right (Nat.add_le_add_left hearlier _)) hpassed
  have hreached : (since.plus d).nanos ≤ now.nanos := by
    unfold ceilTick tick nanosPerMilli at hmet
    omega
  have hcounts : (since.plus d).countable = true := by
    unfold countable at hcountable ⊢
    rw [decide_eq_true_iff] at hcountable ⊢
    exact Nat.lt_of_le_of_lt hreached hcountable
  unfold deadline later?
  rw [if_pos hcounts]
  exact hmet

namespace Channel

open Broker (DirectQueue ConsumerId)

/-! ## Every step is a step forward -/

namespace Subscription

/-- How far the listener is from an attached consumer: it has to declare its subscription, and
before that it has to see that it has lost its consumer. -/
def distance (s : Subscription) (b : Broker) (name : String) : Nat :=
  match s.phase.consumer? with
  | none => 1
  | some c => if b.standing c = some (name, true) then 0 else 2

/-- How much is still to do: every message on its way has to be brought through the stages that are
before it. -/
def effort (s : Subscription) (b : Broker) (name : String) : Nat :=
  3 * (b.line name s.phase.consumer?).length + 2 * s.phase.carried.length +
    s.inbox.toList.length + s.distance b name

variable {s s' : Subscription} {q : DirectQueue} {settings : ChannelSettings} {now : Instant}
  {b b' : Broker}

theorem distance_le (s : Subscription) (b : Broker) (name : String) : s.distance b name ≤ 2 := by
  unfold distance
  split
  · decide
  · split <;> decide

theorem effort_le (s : Subscription) (b : Broker) (name : String) :
    s.effort b name ≤ 3 * (s.ahead b name).length + 2 := by
  have hdistance := s.distance_le b name
  unfold effort ahead
  simp only [List.length_append]
  omega

theorem distance_of_vacant {name : String} (h : s.phase.consumer? = none) :
    s.distance b name = 1 := by
  unfold distance
  rw [h]

theorem distance_of_consumer {name : String} {c : ConsumerId} (h : s.phase.consumer? = some c) :
    s.distance b name = if b.standing c = some (name, true) then 0 else 2 := by
  unfold distance
  rw [h]

theorem distance_congr {name : String} (hconsumer : s'.phase.consumer? = s.phase.consumer?)
    (hstanding : b'.standing = b.standing) : s'.distance b' name = s.distance b name := by
  unfold distance
  rw [hconsumer, hstanding]

theorem effort_receive {name : String} {inbox : Mailbox Message} {m : Message}
    (h : s.inbox.toList = m :: inbox.toList) :
    ({ s with inbox } : Subscription).effort b name < s.effort b name := by
  have hdistance : ({ s with inbox } : Subscription).distance b name = s.distance b name := rfl
  unfold effort
  rw [hdistance, h, List.length_cons]
  dsimp only
  omega

/-- A listener that does something leaves less to do, if the broker accepts its consumer. -/
theorem Serves.effort_listens (h : s.Serves q settings now b)
    (hroom : (b.waiting q.name).length ≤ Broker.consumerBuffer)
    (haccepts : ∃ opened, (b.openConsumer q.binding).2 = .ok opened)
    (hmoves : ¬s.Waits now b) (hstep : s.Listens now settings.reconnectDelay b b' s') :
    s'.effort b' q.name < s.effort b q.name := by
  have hkeeps := h.keeps
  unfold effort
  cases hstep with
  | established hdeclares hopened =>
      rcases hdeclares.without_consumer with ⟨hnone, hcarried, _⟩
      rw [hnone] at hkeeps
      rw [h.binding] at hopened
      rcases hkeeps.openConsumer hopened hroom with ⟨_, hline, hstanding, _⟩
      rw [distance_of_vacant hnone, distance_of_consumer rfl, if_pos hstanding, hnone, hcarried]
      dsimp only [Phase.consumer?, Phase.carried]
      rw [hline]
      omega
  | rejected _ hrefused =>
      rcases haccepts with ⟨opened, hopened⟩
      rw [← h.binding, hrefused] at hopened
      cases hopened
  | @lost c hphase hended =>
      rw [hphase] at hkeeps
      rcases hkeeps.close hended with ⟨_, hline⟩
      have hdetached : b.standing c ≠ some (q.name, true) := by
        intro hstanding
        rw [Broker.hasEnded_eq hstanding] at hended
        cases hended
      have hconsumer : s.phase.consumer? = some c := by
        rw [hphase]
        rfl
      rw [distance_of_vacant rfl, distance_of_consumer hconsumer, if_neg hdetached, hphase]
      dsimp only [Phase.consumer?, Phase.carried]
      rw [hline]
      omega
  | @brought c _ m inbox hphase htook _ hholds _ =>
      rw [hphase] at hkeeps
      rcases hkeeps.take htook with ⟨_, hline⟩
      have hstanding := standing_of_took htook
      have hconsumer : (Phase.receiving c).consumer? = s.phase.consumer? := by rw [hphase]
      rw [distance_congr hconsumer hstanding, hphase]
      dsimp only [Phase.consumer?, Phase.carried]
      rw [hline, hholds]
      simp only [List.length_append, List.length_cons, List.length_nil]
      omega
  | @parked c _ m inbox t hphase htook _ hholds _ =>
      rw [hphase] at hkeeps
      rcases hkeeps.take htook with ⟨_, hline⟩
      have hstanding := standing_of_took htook
      have hconsumer : (Phase.forwarding c t m).consumer? = s.phase.consumer? := by
        rw [hphase]
        rfl
      rw [distance_congr hconsumer hstanding, hphase]
      dsimp only [Phase.consumer?, Phase.carried]
      rw [hline, hholds]
      simp only [List.length_cons, List.length_nil]
      omega
  | @handed c t m inbox hphase _ hholds _ =>
      have hconsumer : (Phase.receiving c).consumer? = s.phase.consumer? := by
        rw [hphase]
        rfl
      rw [distance_congr hconsumer rfl, hphase]
      dsimp only [Phase.consumer?, Phase.carried]
      rw [hholds]
      simp only [List.length_append, List.length_cons, List.length_nil]
      omega
  | waited hwaits => exact absurd hwaits hmoves

theorem refusing_listens (hstep : s.Listens now settings.reconnectDelay b b' s') :
    b'.refusing = b.refusing := by
  have htaken : ∀ {c m}, b.take c = (b', some m) → b'.refusing = b.refusing := by
    intro c m htook
    rcases frame_of_took htook with ⟨consumers, hframe⟩
    rw [hframe]
  cases hstep with
  | established _ hopened =>
      have hrefusing := Broker.refusing_openConsumer b s.binding
      rw [hopened] at hrefusing
      exact hrefusing
  | rejected _ hrefused => rw [eq_of_refused hrefused]
  | lost => rfl
  | brought _ htook => exact htaken htook
  | parked _ htook => exact htaken htook
  | handed => rfl
  | waited => rfl

theorem Serves.accepts_listens (h : s.Serves q settings now b)
    (hroom : (b.waiting q.name).length ≤ Broker.consumerBuffer)
    (haccepts : ∃ opened, (b.openConsumer q.binding).2 = .ok opened)
    (hstep : s.Listens now settings.reconnectDelay b b' s') :
    ∃ opened, (b'.openConsumer q.binding).2 = .ok opened := by
  have hrefusing := refusing_listens hstep
  have htaken : ∀ {c m}, b.take c = (b', some m) → b'.exchanges = b.exchanges := by
    intro c m htook
    rcases frame_of_took htook with ⟨consumers, hframe⟩
    rw [hframe]
  cases hstep with
  | established hdeclares hopened =>
      have hkeeps := h.keeps
      rw [hdeclares.without_consumer.1] at hkeeps
      rw [h.binding] at hopened
      rcases hkeeps.openConsumer hopened hroom with ⟨hheld, _, _, hname⟩
      rw [Broker.openConsumer_ok_iff] at haccepts ⊢
      constructor
      · exact hrefusing.trans haccepts.1
      · intro kind hkind
        exact Option.some.inj (hkind.symm.trans (hheld.bound hname).1)
  | rejected _ hrefused =>
      rw [eq_of_refused hrefused]
      exact haccepts
  | lost => exact Broker.openConsumer_ok_of_congr (b := b) rfl rfl haccepts
  | brought _ htook => exact Broker.openConsumer_ok_of_congr hrefusing (htaken htook) haccepts
  | parked _ htook => exact Broker.openConsumer_ok_of_congr hrefusing (htaken htook) haccepts
  | handed => exact haccepts
  | waited => exact haccepts

/-- A listener that waits for its consumer has an attached one, and nothing is in front of it. -/
theorem Serves.attached_of_empty (h : s.Serves q settings now b) {c : ConsumerId}
    (hphase : s.phase = .receiving c) (hnothing : b.hasMessage c = false)
    (hgoesOn : b.hasEnded c = false) :
    b.standing c = some (q.name, true) ∧ b.line q.name (some c) = [] := by
  have hread : b.unread c = [] := by
    rw [Broker.hasMessage_eq, Bool.not_eq_false', List.isEmpty_iff] at hnothing
    exact hnothing
  have hheld := h.keeps.held
  rw [hphase] at hheld
  cases hheld with
  | attached hstanding _ hwaiting =>
      refine ⟨hstanding, ?_⟩
      unfold Broker.line
      rw [hwaiting]
      exact congrArg (· ++ []) hread
  | detached hstanding =>
      rw [Broker.hasEnded_eq hstanding, hread] at hgoesOn
      cases hgoesOn

/-- The broker accepts consumers, and once the queue was declared the listener reads it or pauses
since a moment that is not after the given one. -/
structure Settled (s : Subscription) (q : DirectQueue) (settings : ChannelSettings)
    (start : Instant) (b : Broker) : Prop where
  accepting : b.refusing = false
  attached : q.name ∈ b.queues →
    (∃ c ∈ s.phase.consumer?, b.standing c = some (q.name, true)) ∨
      ∃ since : Instant, since.nanos ≤ start.nanos ∧
        s.phase = .pausing (since.deadline settings.reconnectDelay)

theorem Settled.reads {start : Instant} (h : s.Settled q settings start b)
    (hname : q.name ∈ b.queues) {c : ConsumerId} (hc : s.phase.consumer? = some c) :
    b.standing c = some (q.name, true) := by
  rcases h.attached hname with ⟨c', hc', hstanding⟩ | ⟨since, _, hphase⟩
  · rw [hc] at hc'
    cases hc'
    exact hstanding
  · rw [hphase] at hc
    cases hc

theorem Settled.listens {start : Instant} (hsettled : s.Settled q settings start b)
    (h : s.Serves q settings now b)
    (hroom : (b.waiting q.name).length ≤ Broker.consumerBuffer)
    (hstep : s.Listens now settings.reconnectDelay b b' s') :
    s'.Settled q settings start b' := by
  have haccepting := (refusing_listens hstep).trans hsettled.accepting
  refine ⟨haccepting, fun hname => ?_⟩
  cases hstep with
  | established hdeclares hopened =>
      have hkeeps := h.keeps
      rw [hdeclares.without_consumer.1] at hkeeps
      rw [h.binding] at hopened
      exact Or.inl ⟨_, rfl, (hkeeps.openConsumer hopened hroom).2.2.1⟩
  | rejected _ hrefused =>
      rw [eq_of_refused hrefused] at hname haccepting
      have hdirect := (h.keeps.bound hname).1
      have haccepts : ∃ opened, (b.openConsumer q.binding).2 = .ok opened := by
        rw [Broker.openConsumer_ok_iff]
        exact ⟨haccepting, fun kind hkind => Option.some.inj (hkind.symm.trans hdirect)⟩
      rcases haccepts with ⟨opened, hopened⟩
      rw [← h.binding, hrefused] at hopened
      cases hopened
  | lost hphase hended =>
      have hstanding := hsettled.reads hname (by rw [hphase]; rfl)
      rw [Broker.hasEnded_eq hstanding] at hended
      cases hended
  | @brought c _ _ _ hphase htook =>
      rw [queues_of_took htook] at hname
      have hstanding := hsettled.reads hname (by rw [hphase]; rfl)
      exact Or.inl ⟨c, rfl, (congrFun (standing_of_took htook) c).trans hstanding⟩
  | @parked c _ _ _ _ hphase htook =>
      rw [queues_of_took htook] at hname
      have hstanding := hsettled.reads hname (by rw [hphase]; rfl)
      exact Or.inl ⟨c, rfl, (congrFun (standing_of_took htook) c).trans hstanding⟩
  | @handed c _ _ _ hphase =>
      exact Or.inl ⟨c, rfl, hsettled.reads hname (by rw [hphase]; rfl)⟩
  | waited => exact hsettled.attached hname

end Subscription

namespace Feed

/-- Whether the broker would open the consumer of the subscription now. -/
def Accepts (s : Feed) : Prop :=
  ∃ opened, (s.link.broker.openConsumer s.queue.binding).2 = .ok opened

/-- The listener and the reader can take a step; the others and the clock are left out. -/
def Ready (s : Feed) : Act → Prop
  | .listener _ => s.link.listenerReady s.id = true
  | .receive => s.link.channels.hasMessage s.id = true
  | .other _ => False
  | .pass _ => False

/-- The steps are taken one after the other, each when it is due. -/
def Takes : Feed → List Act → Prop
  | _, [] => True
  | s, a :: acts => s.Ready a ∧ (s.perform a).Takes acts

variable {s : Feed} {settings : ChannelSettings} {sub : Subscription}

theorem Flows.hasMessage_eq (h : s.Flows settings sub) :
    s.link.channels.hasMessage s.id = !sub.inbox.isEmpty := by
  unfold Channels.hasMessage
  rw [h.found]
  rfl

theorem Flows.effort_perform (h : s.Flows settings sub) (hbounded : s.Bounded)
    (haccepts : s.Accepts) {a : Act} (hready : s.Ready a) :
    ∃ sub', (s.perform a).Flows settings sub' ∧ (s.perform a).Bounded ∧ (s.perform a).Accepts ∧
      sub'.effort (s.perform a).link.broker (s.perform a).queue.name <
        sub.effort s.link.broker s.queue.name := by
  cases a with
  | other op => exact hready.elim
  | pass d => exact hready.elim
  | listener preference =>
      have hroom := h.length_waiting hbounded
      rcases h.listens hbounded preference with ⟨b', sub', hlistens, hleft, hflows⟩
      have hmoves : ¬sub.Waits s.link.common.now s.link.broker := by
        intro hwaits
        have hidle := (Link.listenerReady_eq_false_iff h.found h.running h.serves.alive
          h.serves.sole).mpr hwaits
        rw [show s.link.listenerReady s.id = true from hready] at hidle
        cases hidle
      have hbroker : (s.perform (.listener preference)).link.broker = b' := hleft.broker
      refine ⟨sub', hflows, hbounded, ?_, ?_⟩
      · unfold Accepts
        rw [hbroker]
        exact h.serves.accepts_listens hroom haccepts hlistens
      · rw [hbroker]
        exact h.serves.effort_listens hroom haccepts hmoves hlistens
  | receive =>
      rcases h.receive with ⟨hflows, hyielded⟩
      have hsome : sub.inbox.toList ≠ [] := by
        intro hnone
        have hmessage := h.hasMessage_eq.symm.trans hready
        rw [show sub.inbox.isEmpty = true from (Fifo.isEmpty_iff _).mpr hnone] at hmessage
        cases hmessage
      refine ⟨_, hflows, ?_, haccepts, ?_⟩
      · show s.accepted.length ≤ (s.perform .receive).yielded.length + Broker.consumerBuffer
        unfold Bounded at hbounded
        rw [hyielded, List.length_append]
        omega
      · cases htaken : sub.inbox.take.2 with
        | none => exact absurd (Mailbox.toList_of_take_none htaken) hsome
        | some m =>
            have hlist := sub.inbox.toList_take
            rw [htaken] at hlist
            exact Subscription.effort_receive hlist

/-- While the broker accepts consumers, the listener and the reader come to rest. -/
theorem Flows.length_takes (h : s.Flows settings sub) (hbounded : s.Bounded)
    (haccepts : s.Accepts) {steps : List Act} (htakes : s.Takes steps) :
    steps.length ≤ 3 * (s.accepted.length - s.yielded.length) + 2 := by
  have heffort : steps.length ≤ sub.effort s.link.broker s.queue.name := by
    induction steps generalizing s sub with
    | nil => exact Nat.zero_le _
    | cons a steps ih =>
        rcases h.effort_perform hbounded haccepts htakes.1 with
          ⟨sub', hflows, hnext, hstill, hless⟩
        exact Nat.lt_of_le_of_lt (ih hflows hnext hstill htakes.2) hless
  have hle := sub.effort_le s.link.broker s.queue.name
  have hlength := h.length_ahead
  omega

/-! ## At rest -/

/-- Neither the listener nor the reader can take a step. -/
def AtRest (s : Feed) : Prop := ∀ a, ¬s.Ready a

theorem atRest_iff {s : Feed} :
    s.AtRest ↔ s.link.listenerReady s.id = false ∧ s.link.channels.hasMessage s.id = false := by
  constructor
  · intro h
    exact ⟨Bool.eq_false_iff.mpr (h (.listener .goOn)), Bool.eq_false_iff.mpr (h .receive)⟩
  · rintro ⟨hlistener, hreader⟩ a hready
    cases a with
    | listener preference => exact Bool.eq_false_iff.mp hlistener hready
    | receive => exact Bool.eq_false_iff.mp hreader hready
    | other op => exact hready
    | pass d => exact hready

theorem Flows.waits (h : s.Flows settings sub) (hrest : s.AtRest) :
    sub.Waits s.link.common.now s.link.broker ∧ sub.inbox.toList = [] := by
  rcases atRest_iff.mp hrest with ⟨hlistener, hreader⟩
  constructor
  · rw [← Link.listenerReady_eq_false_iff h.found h.running h.serves.alive h.serves.sole]
    exact hlistener
  · rw [h.hasMessage_eq, Bool.not_eq_false'] at hreader
    exact (Fifo.isEmpty_iff _).mp hreader

/-- Nothing cancels consumers or refuses connections. -/
def Act.Calm : Act → Prop
  | .other .cancelAll => False
  | .other (.setRefusing refusing) => refusing = false
  | _ => True

theorem Flows.settled (h : s.Flows settings sub) (hbuffer : 0 < settings.deliveryBuffer)
    (haccepting : s.link.broker.refusing = false) (hrest : s.AtRest) :
    sub.Settled s.queue settings s.link.common.now s.link.broker := by
  rcases h.waits hrest with ⟨hwaits, hempty⟩
  refine ⟨haccepting, fun _ => ?_⟩
  cases hwaits with
  | @empty c hphase hnothing hgoesOn =>
      refine Or.inl ⟨c, ?_, (h.serves.attached_of_empty hphase hnothing hgoesOn).1⟩
      rw [hphase]
      rfl
  | full _ _ hfull =>
      rw [hempty, h.serves.capacity] at hfull
      exact absurd hbuffer (Nat.not_lt.mpr hfull)
  | early hphase =>
      rcases h.serves.paused _ hphase with ⟨since, hsince, hresume⟩
      exact Or.inr ⟨since, hsince, hresume ▸ hphase⟩

theorem refusing_perform {b : Broker} {op : Broker.Op} (hcalm : (Act.other op).Calm)
    (haccepting : b.refusing = false) : (b.perform op).refusing = false := by
  cases op with
  | openConsumer binding =>
      exact (Broker.refusing_openConsumer b binding).trans haccepting
  | publish m =>
      rcases (Broker.handsOut_publish b m).frame with ⟨queues, consumers, hframe⟩
      show (b.publish m).1.refusing = false
      rw [hframe]
      exact haccepting
  | take id =>
      rcases Broker.take_frame b id with ⟨consumers, hframe⟩
      show (b.take id).1.refusing = false
      rw [hframe]
      exact haccepting
  | close id => exact haccepting
  | cancelAll => exact hcalm.elim
  | setRefusing refusing => exact hcalm

theorem Flows.stays_settled (h : s.Flows settings sub) {start : Instant}
    (hsettled : sub.Settled s.queue settings start s.link.broker) (hbounded : s.Bounded) {a : Act}
    (hpermits : s.Permits a) (hnext : (s.perform a).Bounded) (hcalm : a.Calm) :
    ∃ sub', (s.perform a).Flows settings sub' ∧
      sub'.Settled (s.perform a).queue settings start (s.perform a).link.broker := by
  cases a with
  | other op =>
      have hkeeps := h.serves.keeps
      have hop : op ≠ .cancelAll := by
        intro heq
        rw [heq] at hcalm
        exact hcalm
      refine ⟨sub, h.other hpermits hnext, refusing_perform hcalm hsettled.accepting, ?_⟩
      intro hname
      rcases hsettled.attached ((hkeeps.mem_queues_perform hpermits).mp hname) with
        ⟨c, hc, hstanding⟩ | hpausing
      · exact Or.inl ⟨c, hc, (hkeeps.standing_perform hpermits hop hc).trans hstanding⟩
      · exact Or.inr hpausing
  | listener preference =>
      rcases h.listens hbounded preference with ⟨b', sub', hlistens, hleft, hflows⟩
      have hbroker : (s.perform (.listener preference)).link.broker = b' := hleft.broker
      refine ⟨sub', hflows, ?_⟩
      rw [hbroker]
      exact hsettled.listens h.serves (h.length_waiting hbounded) hlistens
  | receive => exact ⟨_, h.receive.1, hsettled.accepting, hsettled.attached⟩
  | pass d => exact ⟨sub, h.pass d, hsettled⟩

theorem Flows.run_settled (h : s.Flows settings sub) {start : Instant}
    (hsettled : sub.Settled s.queue settings start s.link.broker) (hbounded : s.Bounded)
    {acts : List Act} (hpermitted : s.Permitted acts) (hcalm : ∀ a ∈ acts, a.Calm) :
    ∃ sub', (s.run acts).Flows settings sub' ∧
      sub'.Settled (s.run acts).queue settings start (s.run acts).link.broker := by
  induction acts generalizing s sub with
  | nil => exact ⟨sub, h, hsettled⟩
  | cons a acts ih =>
      rcases hpermitted with ⟨hpermits, hnext, hrest⟩
      rcases h.stays_settled hsettled hbounded hpermits hnext (hcalm a List.mem_cons_self) with
        ⟨sub', hflows, hstays⟩
      exact ih hflows hstays hnext hrest fun a' ha' => hcalm a' (List.mem_cons_of_mem a ha')

theorem Flows.accepting_perform (h : s.Flows settings sub) (hbounded : s.Bounded) {a : Act}
    (hcalm : a.Calm) (haccepting : s.link.broker.refusing = false) :
    (s.perform a).link.broker.refusing = false := by
  cases a with
  | other op => exact refusing_perform hcalm haccepting
  | listener preference =>
      rcases h.listens hbounded preference with ⟨b', sub', hlistens, hleft, _⟩
      have hbroker : (s.perform (.listener preference)).link.broker = b' := hleft.broker
      rw [hbroker]
      exact (Subscription.refusing_listens hlistens).trans haccepting
  | receive => exact haccepting
  | pass d => exact haccepting

theorem Flows.accepting_run (h : s.Flows settings sub) (hbounded : s.Bounded) {acts : List Act}
    (hpermitted : s.Permitted acts) (hcalm : ∀ a ∈ acts, a.Calm)
    (haccepting : s.link.broker.refusing = false) : (s.run acts).link.broker.refusing = false := by
  induction acts generalizing s sub with
  | nil => exact haccepting
  | cons a acts ih =>
      rcases hpermitted with ⟨hpermits, hnext, hrest⟩
      have hothers := fun a' ha' => hcalm a' (List.mem_cons_of_mem a ha')
      rcases h.perform hbounded hpermits hnext with ⟨sub', hflows⟩
      apply ih hflows hnext hrest hothers
      exact h.accepting_perform hbounded (hcalm a List.mem_cons_self) haccepting

/-- Once the pause has passed and both are at rest again, the reader was given everything. -/
theorem Flows.complete (h : s.Flows settings sub) (hbuffer : 0 < settings.deliveryBuffer)
    {start : Instant} (hsettled : sub.Settled s.queue settings start s.link.broker)
    (hrest : s.AtRest)
    (hpassed : (start.plus settings.reconnectDelay).metBy s.link.common.now = true)
    (hcountable : s.link.common.now.countable = true) : s.yielded = s.accepted := by
  rcases h.waits hrest with ⟨hwaits, hempty⟩
  by_cases hnone : s.accepted = []
  · have hlength := h.length_ahead
    rw [hnone, List.length_nil] at hlength
    have hnothing : s.yielded = [] := List.eq_nil_of_length_eq_zero (by omega)
    rw [hnone, hnothing]
  · cases hwaits with
    | @empty c hphase hnothing hgoesOn =>
        rw [h.line, Subscription.ahead_of_receiving hphase, hempty,
          (h.serves.attached_of_empty hphase hnothing hgoesOn).2, List.append_nil, List.append_nil]
    | full _ _ hfull =>
        rw [hempty, h.serves.capacity] at hfull
        exact absurd hbuffer (Nat.not_lt.mpr hfull)
    | early hphase hunmet =>
        -- The pause began before the first rest, so it is over.
        rcases hsettled.attached (h.declared hnone) with ⟨c, hc, _⟩ | ⟨since, hsince, hpausing⟩
        · rw [hphase] at hc
          cases hc
        · rw [hphase] at hpausing
          cases hpausing
          rw [Instant.metBy_deadline hsince hpassed hcountable] at hunmet
          cases hunmet

/-! ## The subscription as its reader sees it -/

theorem bounded_start (queue : DirectQueue) (settings : ChannelSettings) (common : Commons) :
    (start queue settings common).Bounded := Nat.zero_le _

/-- Whatever happens, as long as others spare the queue and the messages on their way are not too
many: the reader is given the accepted messages in their order, each one once and unchanged, and is
never told that there are no more.

While the broker accepts the consumer, the listener and the reader come to rest after few steps.
When they have come to rest, the reconnect delay has passed without another outage and they have
come to rest again, the reader has been given every accepted message. -/
theorem yields_accepted (queue : DirectQueue) (settings : ChannelSettings) (common : Commons)
    (acts : List Act) (hpermitted : (start queue settings common).Permitted acts) :
    let s := (start queue settings common).run acts
    s.yielded <+: s.accepted ∧ s.hasEnded = false ∧
      (s.Accepts → ∀ steps, s.Takes steps →
        steps.length ≤ 3 * (s.accepted.length - s.yielded.length) + 2) ∧
      (0 < settings.deliveryBuffer → s.Accepts →
        ∀ more later, s.Permitted (more ++ later) → (∀ a ∈ more ++ later, a.Calm) →
          let rested := s.run more
          let after := rested.run later
          rested.AtRest → after.AtRest →
            (rested.link.common.now.plus settings.reconnectDelay).metBy after.link.common.now =
              true →
            after.link.common.now.countable = true → after.yielded = after.accepted) := by
  intro s
  rcases flows_start queue settings common with ⟨sub₀, hstart⟩
  rcases hstart.run (bounded_start queue settings common) hpermitted with
    ⟨⟨sub, hflows⟩, hbounded⟩
  refine ⟨hflows.yielded_first, hflows.hasEnded_eq_false, ?_, ?_⟩
  · intro haccepts steps htakes
    exact hflows.length_takes hbounded haccepts htakes
  · intro hbuffer haccepts more later hmore hcalm rested after hrested hafter hpassed hcountable
    rcases permitted_append.mp hmore with ⟨hfirst, hsecond⟩
    have hcalmFirst := fun a ha => hcalm a (List.mem_append_left later ha)
    have hcalmSecond := fun a ha => hcalm a (List.mem_append_right more ha)
    have haccepting := ((Broker.openConsumer_ok_iff _ _).mp haccepts).1
    rcases hflows.run hbounded hfirst with ⟨⟨subRested, hflowsRested⟩, hboundedRested⟩
    have haccepting' := hflows.accepting_run hbounded hfirst hcalmFirst haccepting
    have hsettled := hflowsRested.settled hbuffer haccepting' hrested
    rcases hflowsRested.run_settled hsettled hboundedRested hsecond hcalmSecond with
      ⟨subAfter, hflowsAfter, hsettledAfter⟩
    exact hflowsAfter.complete hbuffer hsettledAfter hafter hpassed hcountable

def replies : DirectQueue := ⟨"reply", "replies", true, ["rts"]⟩

/-- An instance with room for one message in an inbox has just subscribed. -/
def subscribed : Feed :=
  start replies { deliveryBuffer := 1 }
    { journal := { service := "rts" }, outbox := { capacity := 1 } }

def reply (correlation : String) : Message := ⟨"reply", "rts", { msgType := "1", correlation }⟩

/-- Two replies come, the listener waits for room in the inbox with the second one, all consumers
are cancelled, and a third reply comes. -/
def outage : List Act :=
  [.listener .goOn, .other (.publish (reply "a")), .other (.publish (reply "b")),
    .listener .goOn, .listener .goOn, .other .cancelAll, .other (.publish (reply "c"))]

/-- The listener brings the second reply and sees that it has lost its consumer. -/
def noticing : List Act := [.receive, .listener .goOn, .receive, .listener .goOn]

def resuming : List Act :=
  [.pass (Duration.ofSecs 5), .listener .goOn, .listener .goOn, .receive]

theorem permitted_outage : subscribed.Permitted outage := by
  have ha : (reply "a").envelope.Fits := by constructor <;> decide
  have hb : (reply "b").envelope.Fits := by constructor <;> decide
  have hc : (reply "c").envelope.Fits := by constructor <;> decide
  refine ⟨trivial, by decide +kernel, ha, by decide +kernel, hb, by decide +kernel, trivial,
    by decide +kernel, trivial, by decide +kernel, trivial, by decide +kernel, hc,
    by decide +kernel, trivial⟩

theorem permitted_recovery : (subscribed.run outage).Permitted (noticing ++ resuming) := by
  refine ⟨trivial, ?_, trivial, ?_, trivial, ?_, trivial, ?_, trivial, ?_, trivial, ?_, trivial, ?_,
    trivial, ?_, trivial⟩ <;> decide +kernel

theorem yields_accepted_after_outage :
    subscribed.Permitted outage ∧
      (((subscribed.run outage).run noticing).run resuming).yielded =
        [reply "a", reply "b", reply "c"] := by
  have haccepts : (subscribed.run outage).Accepts := ⟨("replies", 1), by decide +kernel⟩
  have hcalm : ∀ a ∈ noticing ++ resuming, a.Calm := by
    simp [noticing, resuming, Act.Calm]
  have hrested : ((subscribed.run outage).run noticing).AtRest :=
    atRest_iff.mpr (by decide +kernel)
  have hafter : (((subscribed.run outage).run noticing).run resuming).AtRest :=
    atRest_iff.mpr (by decide +kernel)
  have hpassed : (((subscribed.run outage).run noticing).link.common.now.plus
      (Duration.ofSecs 5)).metBy
        (((subscribed.run outage).run noticing).run resuming).link.common.now = true := by
    decide +kernel
  have hyields := yields_accepted replies { deliveryBuffer := 1 }
    { journal := { service := "rts" }, outbox := { capacity := 1 } } outage permitted_outage
  have hall : (((subscribed.run outage).run noticing).run resuming).yielded =
      (((subscribed.run outage).run noticing).run resuming).accepted :=
    hyields.2.2.2 (by decide) haccepts noticing resuming permitted_recovery hcalm hrested hafter
      hpassed (by decide +kernel)
  exact ⟨permitted_outage, hall.trans (by decide +kernel)⟩

end Feed
end Channel
end MetricGateway
