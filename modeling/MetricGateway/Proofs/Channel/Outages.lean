import MetricGateway.Proofs.Broker.Runs
import MetricGateway.Proofs.Channel.Incidents

/-!
# Outages and the health of the broker

The listeners of an instance are watched through all that can happen before they are told to stop.
Every step of a listener comes to at most one incident, and what else happens to a link has nothing
to do with outages.
-/

namespace MetricGateway
namespace Channel

/-! ## The watched link -/

/-- The link of an instance, and what its listeners have met. -/
structure Watch where
  link : Link
  incidents : Incidents := []

namespace Watch

def start (network : Network) (settings : ChannelSettings) (common : Commons) : Watch where
  link := { network with channels := .start settings, common }

inductive Act where
  | listen (binding : Broker.Binding)
  | task (t : Link.Task) (preference : Preference)
  | receive (id : SubscriptionId)
  | unsubscribe (id : SubscriptionId)
  | other (op : Broker.Op)
  | join (binding : Broker.Binding) (role : Broker.ClientRole)
  | pass (d : Duration)
  | elsewhere (f : Commons → Commons)

def met (before after : Link) : Link.Task → Incidents
  | .listener id =>
      match before.channels.subscriptions[id]?, after.channels.subscriptions[id]? with
      | some s, some s' => ((s.incident? before.common.now s').map fun i => (id, i)).toList
      | _, _ => []
  | _ => []

def perform (w : Watch) : Act → Watch
  | .listen binding =>
      { w with link := { w.link with channels := (w.link.channels.listen binding).1 } }
  | .task t preference =>
      let link := w.link.step t preference
      { link, incidents := met w.link link t ++ w.incidents }
  | .receive id => { w with link := { w.link with channels := (w.link.channels.receive id).1 } }
  | .unsubscribe id => { w with link := { w.link with channels := w.link.channels.unsubscribe id } }
  | .other op => { w with link := { w.link with broker := w.link.broker.perform op } }
  | .join binding role => { w with link := (w.link.join binding role).1 }
  | .pass d => { w with link := w.link.onCommon fun c => { c with now := c.now.plus d } }
  | .elsewhere f => { w with link := w.link.onCommon f }

def run (w : Watch) (acts : List Act) : Watch := acts.foldl perform w

def report? (w : Watch) : Option ComponentHealth :=
  w.link.common.health.components[Component.broker.label]?

/-- The other parts of the instance neither report about the broker nor count reconnects. -/
def Permits (w : Watch) : Act → Prop
  | .elsewhere f =>
      (w.perform (.elsewhere f)).report? = w.report? ∧
        (f w.link.common).metrics.channelReconnects = w.link.common.metrics.channelReconnects
  | _ => True

/-- No listener was without a consumer so often in a row that its own count starts over. -/
def Countable (w : Watch) : Prop := ∀ id, w.incidents.streak id < 2 ^ 32

/-- All along the run the other parts keep to their own and the counts can be kept. -/
def Permitted : Watch → List Act → Prop
  | _, [] => True
  | w, a :: acts => w.Permits a ∧ (w.perform a).Countable ∧ (w.perform a).Permitted acts

end Watch

end Channel

namespace Link

open Channel

variable {l l' : Link} {log : Incidents} {reconnects : Nat} {id : SubscriptionId}
  {s s' : Subscription}

/-! ## The steps of a listener -/

/-- What a listener that was not told to stop meets when it takes a step, and what the step
leaves. -/
inductive Meets (l : Link) (id : SubscriptionId) (s : Subscription) :
    Option Incident → Link → Prop where
  | lost (b : Broker) (up : s.isPausing = false) :
      Meets l id s (some (.lost s.binding.exchange)) ({ l with broker := b }.retreat id s)
  | failed (b : Broker) (pausing : s.isPausing = true) :
      Meets l id s (some .failed) ({ l with broker := b }.retreat id s)
  | reopened (b : Broker) (c : Broker.ConsumerId) (pausing : s.isPausing = true) :
      Meets l id s (some .reopened) ({ l with broker := b }.establish id s c)
  | opened (b : Broker) (c : Broker.ConsumerId) (up : s.isPausing = false) :
      Meets l id s none ({ l with broker := b }.establish id s c)
  | served {s' : Subscription} (b : Broker) (up : s.isPausing = false)
      (still : s'.isPausing = false) (down : s'.down = s.down)
      (failures : s'.failures = s.failures) :
      Meets l id s none ({ l with broker := b }.setSubscription id s')
  | waited (quiet : s.incident? l.common.now s = none) : Meets l id s none l

theorem isPausing_of_ne {phase : Subscription.Phase} (hphase : s.phase = phase)
    (hne : ∀ resume, phase ≠ .pausing resume) : s.isPausing = false := by
  unfold Subscription.isPausing
  rw [hphase]
  cases phase with
  | pausing resume => exact absurd rfl (hne resume)
  | _ => rfl

theorem incident?_of_up {now : Instant} (hup : s.isPausing = false)
    (hstill : s'.isPausing = false) : s.incident? now s' = none := by
  unfold Subscription.incident?
  rw [hup, hstill]
  rfl

/-- What the step of a listener adds to the incidents is what the listener meets. -/
theorem met_of_replaces {i : Option Incident} (hs : l.channels.subscriptions[id]? = some s)
    (hreplaces : l.Replaces id s' l') (hi : s.incident? l.common.now s' = i) :
    Watch.met l l' (.listener id) = (i.map fun i => (id, i)).toList := by
  have hs' : l'.channels.subscriptions[id]? = some s' := by
    rw [hreplaces.subscriptions]
    exact Std.ExtTreeMap.getElem?_insert_self
  unfold Watch.met
  dsimp only
  rw [hs, hs', ← hi]

/-- A listener that declares its subscription was not pausing, or its pause has passed. -/
theorem cases_declares (h : s.phase.Declares l.common.now) :
    s.isPausing = false ∨ s.isPausing = true ∧ s.alarm?.all (·.metBy l.common.now) = true := by
  unfold Subscription.isPausing Subscription.alarm?
  cases hphase : s.phase <;> rw [hphase] at h <;> cases h
  · exact Or.inl rfl
  · next hmet => exact Or.inr ⟨rfl, hmet⟩

/-- The step of a listener, and the incident that its subscription shows. -/
def Turns (l : Link) (id : SubscriptionId) (s : Subscription) (l' : Link) : Prop :=
  ∃ i, l.Meets id s i l' ∧ Watch.met l l' (.listener id) = (i.map fun i => (id, i)).toList

theorem turns_retreat (b : Broker) (hs : l.channels.subscriptions[id]? = some s)
    (hdue : s.isPausing = false ∨
      s.isPausing = true ∧ s.alarm?.all (·.metBy l.common.now) = true) :
    l.Turns id s ({ l with broker := b }.retreat id s) := by
  have hreplaces : l.Replaces id (l.retreated s) ({ l with broker := b }.retreat id s) :=
    ⟨(replaces_retreat _ id s).stopping, (replaces_retreat _ id s).made,
      (replaces_retreat _ id s).subscriptions⟩
  rcases hdue with hup | ⟨hpausing, hpassed⟩
  · exists _, .lost b hup
    apply met_of_replaces hs hreplaces
    unfold Subscription.incident?
    rw [hup]
    rfl
  · exists _, .failed b hpausing
    apply met_of_replaces hs hreplaces
    unfold Subscription.incident?
    rw [hpausing, hpassed]
    rfl

theorem turns_establish (b : Broker) (c : Broker.ConsumerId)
    (hs : l.channels.subscriptions[id]? = some s) :
    l.Turns id s ({ l with broker := b }.establish id s c) := by
  have hreplaces : l.Replaces id (established s c) ({ l with broker := b }.establish id s c) :=
    ⟨(replaces_establish _ id s c).stopping, (replaces_establish _ id s c).made,
      (replaces_establish _ id s c).subscriptions⟩
  cases hpausing : s.isPausing with
  | false =>
      exists _, .opened b c hpausing
      apply met_of_replaces hs hreplaces
      exact incident?_of_up hpausing rfl
  | true =>
      exists _, .reopened b c hpausing
      apply met_of_replaces hs hreplaces
      unfold Subscription.incident?
      rw [hpausing]
      rfl

theorem turns_served {s' : Subscription} (b : Broker) (hs : l.channels.subscriptions[id]? = some s)
    (hup : s.isPausing = false) (hstill : s'.isPausing = false) (hdown : s'.down = s.down)
    (hfailures : s'.failures = s.failures) :
    l.Turns id s ({ l with broker := b }.setSubscription id s') := by
  exists _, .served b hup hstill hdown hfailures
  exact met_of_replaces hs ⟨rfl, rfl, rfl⟩ (incident?_of_up hup hstill)

theorem turns_waited (hs : l.channels.subscriptions[id]? = some s)
    (hquiet : s.incident? l.common.now s = none) : l.Turns id s l := by
  exists _, .waited hquiet
  unfold Watch.met
  dsimp only
  rw [hs]
  dsimp only
  rw [hquiet]

theorem turns_forwarded (b : Broker) (hs : l.channels.subscriptions[id]? = some s)
    (hup : s.isPausing = false) (c : Broker.ConsumerId) (m : Message)
    (offered : Mailbox Message × Mailbox.Offer) :
    l.Turns id s ({ l with broker := b }.forwarded id s c m offered) := by
  rcases offered with ⟨inbox, offer⟩
  cases offer with
  | accepted => exact turns_served b hs hup rfl rfl rfl
  | parked ticket => exact turns_served b hs hup rfl rfl rfl
  | refused => exact turns_served (b.close c) hs hup rfl rfl rfl

theorem StepsTo.turns (h : l.StepsTo id s l') (hs : l.channels.subscriptions[id]? = some s)
    (hrunning : l.channels.stopping = false) : l.Turns id s l' := by
  cases h with
  | established => exact turns_establish _ _ hs
  | rejected hdeclares => exact turns_retreat _ hs (cases_declares hdeclares)
  | lost hphase => exact turns_retreat _ hs (Or.inl (isPausing_of_ne hphase nofun))
  | took hphase => exact turns_forwarded _ hs (isPausing_of_ne hphase nofun) _ _ _
  | retried hphase => exact turns_forwarded l.broker hs (isPausing_of_ne hphase nofun) _ _ _
  | quit _ htold => exact absurd htold (hrunning ▸ Bool.false_ne_true)
  | stopped _ htold => exact absurd htold (hrunning ▸ Bool.false_ne_true)
  | empty hphase =>
      have hup := isPausing_of_ne hphase nofun
      exact turns_waited hs (incident?_of_up hup hup)
  | early hphase hunmet =>
      apply turns_waited hs
      unfold Subscription.incident? Subscription.isPausing Subscription.alarm?
      rw [hphase]
      simp [hunmet]
  | halted hphase =>
      have hup := isPausing_of_ne hphase nofun
      exact turns_waited hs (incident?_of_up hup hup)

theorem Mirrors.turns (h : l.Mirrors log reconnects) (hs : l.channels.subscriptions[id]? = some s)
    (hturns : l.Turns id s l') (hfits : (Watch.met l l' (.listener id) ++ log).streak id < 2 ^ 32) :
    l'.Mirrors (Watch.met l l' (.listener id) ++ log) reconnects := by
  rcases hturns with ⟨i, hmeets, hmet⟩
  rw [hmet] at hfits ⊢
  have hnetwork : ∀ b : Broker, ({ l with broker := b } : Link).Mirrors log reconnects :=
    fun b => h.of_unmoved (unmoved_network l { l.toNetwork with broker := b })
  cases hmeets with
  | lost b hup => exact (hnetwork b).lost hs hup hfits
  | failed b hpausing => exact (hnetwork b).failed hs hpausing hfits
  | reopened b c hpausing => exact (hnetwork b).reopened hs hpausing c
  | opened b c hup => exact (hnetwork b).opened hs hup c
  | served b hup hstill hdown hfailures =>
      exact (hnetwork b).replace hs (hstill.trans hup.symm) hdown hfailures
  | waited => exact h

theorem Mirrors.listener (h : l.Mirrors log reconnects) (id : SubscriptionId)
    (preference : Preference)
    (hfits : (Watch.met l (l.stepListener id preference) (.listener id) ++ log).streak id <
      2 ^ 32) :
    (l.stepListener id preference).Mirrors
      (Watch.met l (l.stepListener id preference) (.listener id) ++ log) reconnects := by
  cases hs : l.channels.subscriptions[id]? with
  | some s =>
      have hsteps := stepsTo_stepListener hs preference
      exact h.turns hs (hsteps.turns hs h.running) hfits
  | none =>
      have hstays := stepListener_of_none hs preference
      have hnothing : Watch.met l l (.listener id) = [] := by
        unfold Watch.met
        dsimp only
        rw [hs]
      rw [hstays, hnothing]
      exact h

/-! ## The other steps -/

theorem unmoved_publish (l : Link) (m : Message) : l.Unmoved (l.publish m) := by
  unfold publish
  rcases l.broker.publish m with ⟨b, e | _⟩
  · exact ⟨rfl, rfl, rfl, rfl, rfl, rfl⟩
  · exact ⟨rfl, rfl, rfl, rfl, rfl, rfl⟩

theorem unmoved_stepSender (l : Link) (id : SenderId) (preference : Preference) :
    l.Unmoved (l.stepSender id preference) := by
  unfold stepSender
  split
  · split
    · unfold stopSender
      dsimp only
      split
      · exact ⟨rfl, rfl, rfl, rfl, rfl, rfl⟩
      · exact ⟨rfl, rfl, rfl, rfl, rfl, rfl⟩
    · unfold sendNext Commons.takeSent
      rcases l.common.outbox.take with ⟨outbox, _ | m⟩
      · exact unmoved_refl l
      · have htaken : l.Unmoved { l with
            common := { l.common with outbox }
            channels := { l.channels with senders := l.channels.senders.tail ++ [id] } } :=
          ⟨rfl, rfl, rfl, rfl, rfl, rfl⟩
        exact htaken.trans (unmoved_publish _ m)
  · exact unmoved_refl l

theorem unmoved_stepClient (l : Link) (id : Broker.ClientId) : l.Unmoved (l.stepClient id) := by
  unfold stepClient
  split
  · exact unmoved_refl l
  · exact ⟨rfl, rfl, rfl, rfl, rfl, rfl⟩

theorem unmoved_join (l : Link) (binding : Broker.Binding) (role : Broker.ClientRole) :
    l.Unmoved (l.join binding role).1 := by
  unfold join
  rcases l.broker.openConsumer binding with ⟨b, e | ⟨queue, c⟩⟩
  · exact ⟨rfl, rfl, rfl, rfl, rfl, rfl⟩
  · exact ⟨rfl, rfl, rfl, rfl, rfl, rfl⟩

theorem Mirrors.listen (h : l.Mirrors log reconnects) (binding : Broker.Binding) :
    ({ l with channels := (l.channels.listen binding).1 } : Link).Mirrors log reconnects := by
  rcases h.unmade (Nat.le_refl _) with ⟨hfresh, hstreak⟩
  let made : Subscription :=
    { binding, inbox := { capacity := l.channels.settings.deliveryBuffer } }
  have hpausing : (l.channels.listen binding).1.pausing = l.channels.pausing := by
    have hcount := countP_values_insert l.channels.subscriptions l.channels.made made (·.isPausing)
    rw [hfresh] at hcount
    exact hcount
  constructor
  · exact h.running
  · intro id s hs
    have hlooked : (l.channels.subscriptions.insert l.channels.made made)[id]? = some s := hs
    rw [lookup_insert] at hlooked
    split at hlooked
    next heq =>
      cases hlooked
      rw [← heq, hstreak]
      exact ⟨rfl, rfl, rfl⟩
    next => exact h.marked hlooked
  · intro id hid
    have hmade : l.channels.made < id := hid
    have hlooked : (l.channels.subscriptions.insert l.channels.made made)[id]? = none :=
      (lookup_insert_of_ne _ (Nat.ne_of_gt hmade) _).trans (h.unmade (Nat.le_of_lt hmade)).1
    exact ⟨hlooked, (h.unmade (Nat.le_of_lt hmade)).2⟩
  · show l.channels.down = (l.channels.listen binding).1.pausing
    rw [hpausing]
    exact h.down
  · show ∃ health, _ ∧ Told log (l.channels.listen binding).1.pausing health
    rw [hpausing]
    exact h.told
  · exact h.reconnects

theorem Mirrors.receive (h : l.Mirrors log reconnects) (id : SubscriptionId) :
    ({ l with channels := (l.channels.receive id).1 } : Link).Mirrors log reconnects := by
  unfold Channels.receive
  cases hs : l.channels.subscriptions[id]? with
  | none => exact h
  | some s => exact h.replace hs rfl rfl rfl

theorem Mirrors.unsubscribe (h : l.Mirrors log reconnects) (id : SubscriptionId) :
    ({ l with channels := l.channels.unsubscribe id } : Link).Mirrors log reconnects := by
  unfold Channels.unsubscribe
  cases hs : l.channels.subscriptions[id]? with
  | none => exact h
  | some s => exact h.replace hs rfl rfl rfl

end Link

/-! ## The health of the broker along a run -/

namespace Channel
namespace Watch

open Link

variable {w : Watch} {reconnects : Nat}

theorem mirrors_start (network : Network) (settings : ChannelSettings) {common : Commons}
    {health : ComponentHealth}
    (hreport : common.health.components[Component.broker.label]? = some health)
    (hhealthy : health.status = .healthy) :
    (start network settings common).link.Mirrors [] common.metrics.channelReconnects := by
  constructor
  · rfl
  · intro id s hs
    cases hs
  · intro id _
    exact ⟨rfl, rfl⟩
  · rfl
  · exact ⟨health, hreport, .well rfl hhealthy⟩
  · rfl

theorem mirrors_perform (h : w.link.Mirrors w.incidents reconnects) {a : Act}
    (hpermits : w.Permits a) (hcountable : (w.perform a).Countable) :
    (w.perform a).link.Mirrors (w.perform a).incidents reconnects := by
  cases a with
  | listen binding => exact h.listen binding
  | task t preference =>
      cases t with
      | sender id => exact h.of_unmoved (unmoved_stepSender w.link id preference)
      | listener id => exact h.listener id preference (hcountable id)
      | client id => exact h.of_unmoved (unmoved_stepClient w.link id)
  | receive id => exact h.receive id
  | unsubscribe id => exact h.unsubscribe id
  | other op => exact h.of_unmoved (unmoved_network w.link _)
  | join binding role => exact h.of_unmoved (unmoved_join w.link binding role)
  | pass d => exact h.of_unmoved ⟨rfl, rfl, rfl, rfl, rfl, rfl⟩
  | elsewhere f => exact h.of_unmoved ⟨rfl, rfl, rfl, rfl, hpermits.1, hpermits.2⟩

theorem mirrors_run (h : w.link.Mirrors w.incidents reconnects) {acts : List Act}
    (hpermitted : w.Permitted acts) :
    (w.run acts).link.Mirrors (w.run acts).incidents reconnects := by
  induction acts generalizing w with
  | nil => exact h
  | cons a acts ih =>
      rcases hpermitted with ⟨hpermits, hcountable, hrest⟩
      exact ih (mirrors_perform h hpermits hcountable) hrest

/-! A listener has to be without a consumer more than four thousand million times in a row before
its own count starts over, so this does not happen in a run that is shorter. -/

theorem length_met (before after : Link) (t : Link.Task) : (met before after t).length ≤ 1 := by
  cases t with
  | listener id =>
      unfold met
      dsimp only
      split
      · exact Option.length_toList_le
      · exact Nat.zero_le 1
  | _ => exact Nat.zero_le 1

theorem length_incidents_perform (w : Watch) (a : Act) :
    (w.perform a).incidents.length ≤ w.incidents.length + 1 := by
  cases a with
  | task t preference =>
      show (met _ _ t ++ w.incidents).length ≤ _
      rw [List.length_append, Nat.add_comm]
      exact Nat.add_le_add_left (length_met _ _ t) _
  | _ => exact Nat.le_succ _

theorem permitted_of_short {acts : List Act} (hpermits : ∀ a ∈ acts, ∀ w : Watch, w.Permits a)
    (hshort : w.incidents.length + acts.length < 2 ^ 32) : w.Permitted acts := by
  induction acts generalizing w with
  | nil => trivial
  | cons a acts ih =>
      have hlength := length_incidents_perform w a
      rw [List.length_cons] at hshort
      have hnext : (w.perform a).incidents.length + acts.length < 2 ^ 32 := by omega
      constructor
      · exact hpermits a List.mem_cons_self w
      constructor
      · intro id
        exact Nat.lt_of_le_of_lt (Incidents.streak_le_length _ id)
          (Nat.lt_of_le_of_lt (Nat.le_add_right _ _) hnext)
      · exact ih (fun a' ha' => hpermits a' (List.mem_cons_of_mem a ha')) hnext

/-- The broker is reported as degraded while a listener pauses, and as healthy while none does; the
common count is the number of listeners that pause; and the counter of reconnects has grown by the
number of times that a listener left its pause with a consumer. -/
theorem health_mirrors_listeners (network : Network) (settings : ChannelSettings)
    (common : Commons) {health : ComponentHealth}
    (hreport : common.health.components[Component.broker.label]? = some health)
    (hhealthy : health.status = .healthy) (acts : List Act)
    (hpermitted : (start network settings common).Permitted acts) :
    let w := (start network settings common).run acts
    (w.report?.map (·.status)) =
        some (if w.link.channels.pausing = 0 then .healthy else .degraded) ∧
      w.link.channels.down = w.link.channels.pausing ∧
      w.link.common.metrics.channelReconnects =
        common.metrics.channelReconnects + w.incidents.reopenings := by
  intro w
  have hmirrors := mirrors_run (mirrors_start network settings hreport hhealthy) hpermitted
  rcases hmirrors.told with ⟨told, hlooked, htold⟩
  constructor
  · have hnow : w.report? = some told := hlooked
    rw [hnow, Option.map_some, htold.status_eq]
  · exact ⟨hmirrors.down, hmirrors.reconnects⟩

def registered : Commons :=
  ({ journal := { service := "rts" }, outbox := { capacity := 1 } } : Commons).registerParts

/-- The broker refuses connections.  One listener fails to declare its subscription, two seconds
later another one does; then the broker accepts connections again. -/
def twoOutages : List Act :=
  [.other (.setRefusing true), .listen (.direct "reply" "replies" "rts"),
    .task (.listener 0) .goOn, .pass (Duration.ofSecs 2),
    .listen (.direct "events" "audit" "x"), .task (.listener 1) .goOn, .other (.setRefusing false)]

/-- The pause of the first listener has passed, the pause of the second one has not. -/
def oneRecovery : List Act := [.pass (Duration.ofSecs 4), .task (.listener 0) .goOn]

theorem permitted_twoOutages :
    (start {} {} registered).Permitted (twoOutages ++ oneRecovery) := by
  apply permitted_of_short
  · simp [twoOutages, oneRecovery, Permits]
  · decide

theorem health_mirrors_listeners_one_up :
    let w := (start {} {} registered).run (twoOutages ++ oneRecovery)
    w.link.channels.pausing = 1 ∧ w.report?.map (·.status) = some .degraded ∧
      w.link.channels.down = 1 ∧ w.link.common.metrics.channelReconnects = 1 := by
  intro w
  have hpausing : w.link.channels.pausing = 1 := by decide +kernel
  have hreport : registered.health.components[Component.broker.label]? =
      some { status := .healthy, checkedAt := 0 } := by decide +kernel
  rcases health_mirrors_listeners {} {} registered hreport rfl (twoOutages ++ oneRecovery)
    permitted_twoOutages with ⟨hstatus, hdown, hreconnects⟩
  have hreopenings : w.incidents.reopenings = 1 := by decide +kernel
  constructor
  · exact hpausing
  constructor
  · exact hstatus.trans (by rw [if_neg (hpausing ▸ Nat.one_ne_zero)])
  · exact ⟨hdown.trans hpausing, hreconnects.trans (congrArg (0 + ·) hreopenings)⟩

end Watch
end Channel
end MetricGateway
