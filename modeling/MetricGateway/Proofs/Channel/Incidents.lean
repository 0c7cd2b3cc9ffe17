import MetricGateway.Proofs.Channel.Listening
import MetricGateway.Proofs.Maps

/-!
# Incidents of listeners

A listener loses its consumer, fails to get it back, or gets it back.  What a step of a listener
means for the outage of its subscription is read off where the listener stands before and after the
step, and not off the counts that the listener keeps.

The counts agree with that record.  The flags of a subscription say whether its listener pauses, the
common count is the number of listeners that pause, and the report about the broker follows the
count.
-/

namespace MetricGateway
namespace Channel

/-! ## Incidents -/

/-- What a step of a listener can mean for the outage of its subscription. -/
inductive Incident where
  /-- The listener has no consumer and begins to pause. -/
  | lost (exchange : String)
  /-- It tried again after a pause, and pauses once more. -/
  | failed
  | reopened
deriving DecidableEq

def Subscription.incident? (now : Instant) (before after : Subscription) : Option Incident :=
  if after.isPausing then
    if !before.isPausing then some (.lost before.binding.exchange)
    else if before.alarm?.all (·.metBy now) then some .failed
    else none
  else if before.isPausing && after.phase.consumer?.isSome then some .reopened
  else none

/-- The incidents of some listeners, newest first. -/
abbrev Incidents := List (SubscriptionId × Incident)

namespace Incidents

/-- How often a listener was without a consumer since it last left a pause. -/
def streak : Incidents → SubscriptionId → Nat
  | [], _ => 0
  | (other, .reopened) :: log, id => if other = id then 0 else streak log id
  | (other, _) :: log, id => if other = id then streak log id + 1 else streak log id

theorem streak_le_length (log : Incidents) (id : SubscriptionId) : streak log id ≤ log.length := by
  induction log with
  | nil => exact Nat.le_refl 0
  | cons entry log ih =>
      rcases entry with ⟨other, i⟩
      have hlonger : streak log id ≤ log.length + 1 := Nat.le_succ_of_le ih
      cases i with
      | reopened =>
          show (if other = id then 0 else streak log id) ≤ log.length + 1
          split
          · exact Nat.zero_le _
          · exact hlonger
      | _ =>
          show (if other = id then streak log id + 1 else streak log id) ≤ log.length + 1
          split
          · exact Nat.succ_le_succ ih
          · exact hlonger

def reopenings : Incidents → Nat
  | [] => 0
  | (_, .reopened) :: log => reopenings log + 1
  | _ :: log => reopenings log

def lastLost? : Incidents → Option String
  | [] => none
  | (_, .lost exchange) :: _ => some exchange
  | _ :: log => lastLost? log

/-- How often listeners left their pauses since a subscription was lost. -/
def reopenedSinceLoss : Incidents → Nat
  | [] => 0
  | (_, .lost _) :: _ => 0
  | (_, .reopened) :: log => reopenedSinceLoss log + 1
  | (_, .failed) :: log => reopenedSinceLoss log

end Incidents

/-! ## Counts that agree with the record -/

/-- The flags of a subscription whose listener was without a consumer some times in a row. -/
structure Subscription.Marked (s : Subscription) (streak : Nat) : Prop where
  down : s.down = s.isPausing
  failures : s.failures.toNat = streak
  pausing : s.isPausing = decide (0 < streak)

/-- What is reported about the broker while some listeners pause. -/
inductive Told (log : Incidents) (pausing : Nat) : ComponentHealth → Prop where
  | well {health : ComponentHealth} (up : pausing = 0) (status : health.status = .healthy) :
      Told log pausing health
  | ill {health : ComponentHealth} {exchange : String} (down : 0 < pausing)
      (status : health.status = .degraded) (last : log.lastLost? = some exchange)
      (message : health.message =
        some (Link.downReport (pausing + log.reopenedSinceLoss) exchange)) :
      Told log pausing health

namespace Told

variable {log : Incidents} {pausing : Nat} {health : ComponentHealth}

theorem status_eq (h : Told log pausing health) :
    health.status = if pausing = 0 then .healthy else .degraded := by
  cases h with
  | well hup hstatus => rw [if_pos hup, hstatus]
  | ill hdown hstatus => rw [if_neg (Nat.ne_of_gt hdown), hstatus]

theorem failed (h : Told log pausing health) (id : SubscriptionId) :
    Told ((id, .failed) :: log) pausing health := by
  cases h with
  | well hup hstatus => exact .well hup hstatus
  | ill hdown hstatus hlast hmessage => exact .ill hdown hstatus hlast hmessage

theorem reopened (h : Told log (pausing + 1) health) (hmore : pausing ≠ 0) (id : SubscriptionId) :
    Told ((id, .reopened) :: log) pausing health := by
  cases h with
  | well hup => cases hup
  | ill _ hstatus hlast hmessage =>
      have hcount : pausing + 1 + log.reopenedSinceLoss =
          pausing + Incidents.reopenedSinceLoss ((id, .reopened) :: log) :=
        (Nat.add_assoc _ _ _).trans (congrArg (pausing + ·) (Nat.add_comm _ _))
      rw [hcount] at hmessage
      exact .ill (Nat.pos_of_ne_zero hmore) hstatus hlast hmessage

end Told

end Channel

namespace Link

open Channel

/-- The counts of a link agree with what its listeners have met. -/
structure Mirrors (l : Link) (log : Incidents) (reconnects : Nat) : Prop where
  running : l.channels.stopping = false
  marked : ∀ {id : SubscriptionId} {s : Subscription},
    l.channels.subscriptions[id]? = some s → s.Marked (log.streak id)
  unmade : ∀ {id : SubscriptionId}, l.channels.made ≤ id →
    l.channels.subscriptions[id]? = none ∧ log.streak id = 0
  down : l.channels.down = l.channels.pausing
  told : ∃ health, l.common.health.components[Component.broker.label]? = some health ∧
    Told log l.channels.pausing health
  reconnects : l.common.metrics.channelReconnects = reconnects + log.reopenings

/-- The links differ at most in what has nothing to do with outages. -/
structure Unmoved (l l' : Link) : Prop where
  stopping : l'.channels.stopping = l.channels.stopping
  subscriptions : l'.channels.subscriptions = l.channels.subscriptions
  made : l'.channels.made = l.channels.made
  down : l'.channels.down = l.channels.down
  report : l'.common.health.components[Component.broker.label]? =
    l.common.health.components[Component.broker.label]?
  reconnects : l'.common.metrics.channelReconnects = l.common.metrics.channelReconnects

theorem Unmoved.trans {l l' l'' : Link} (h : l.Unmoved l') (h' : l'.Unmoved l'') :
    l.Unmoved l'' where
  stopping := h'.stopping.trans h.stopping
  subscriptions := h'.subscriptions.trans h.subscriptions
  made := h'.made.trans h.made
  down := h'.down.trans h.down
  report := h'.report.trans h.report
  reconnects := h'.reconnects.trans h.reconnects

theorem unmoved_refl (l : Link) : l.Unmoved l := ⟨rfl, rfl, rfl, rfl, rfl, rfl⟩

theorem unmoved_network (l : Link) (n : Network) : l.Unmoved { l with toNetwork := n } :=
  ⟨rfl, rfl, rfl, rfl, rfl, rfl⟩

variable {l l' : Link} {log : Incidents} {reconnects : Nat} {id : SubscriptionId}
  {s s' : Subscription}

theorem Mirrors.of_unmoved (h : l.Mirrors log reconnects) (hsame : l.Unmoved l') :
    l'.Mirrors log reconnects where
  running := hsame.stopping.trans h.running
  marked hs := by
    rw [hsame.subscriptions] at hs
    exact h.marked hs
  unmade hid := by
    rw [hsame.made] at hid
    rw [hsame.subscriptions]
    exact h.unmade hid
  down := by
    unfold Channels.pausing
    rw [hsame.down, hsame.subscriptions]
    exact h.down
  told := by
    unfold Channels.pausing
    rw [hsame.report, hsame.subscriptions]
    exact h.told
  reconnects := hsame.reconnects.trans h.reconnects

/-- The number of listeners that pause changes with the one whose subscription is replaced. -/
theorem pausing_setSubscription {c : Channels} (hs : c.subscriptions[id]? = some s)
    (s' : Subscription) :
    (c.setSubscription id s').pausing + s.isPausing.toNat = c.pausing + s'.isPausing.toNat := by
  have hcount := countP_values_insert c.subscriptions id s' (·.isPausing)
  rw [hs] at hcount
  exact hcount

/-- A step of a listener replaces its subscription, and no other one. -/
structure Replaces (l : Link) (id : SubscriptionId) (s : Subscription) (l' : Link) : Prop where
  stopping : l'.channels.stopping = l.channels.stopping
  made : l'.channels.made = l.channels.made
  subscriptions : l'.channels.subscriptions = l.channels.subscriptions.insert id s

theorem replaces_setSubscription (l : Link) (id : SubscriptionId) (s : Subscription) :
    l.Replaces id s (l.setSubscription id s) := ⟨rfl, rfl, rfl⟩

/-- The counts go on to agree when a listener replaces its subscription.  What it met is no matter
of the others. -/
theorem Mirrors.turn (h : l.Mirrors log reconnects) {log' : Incidents}
    (hs : l.channels.subscriptions[id]? = some s) (hreplaces : l.Replaces id s' l')
    (hothers : ∀ other, id ≠ other → log'.streak other = log.streak other)
    (hmarked : s'.Marked (log'.streak id))
    (hdown : l'.channels.down + s.isPausing.toNat = l.channels.down + s'.isPausing.toNat)
    (htold : ∃ health, l'.common.health.components[Component.broker.label]? = some health ∧
      Told log' l'.channels.down health)
    (hreconnects : l'.common.metrics.channelReconnects = reconnects + log'.reopenings) :
    l'.Mirrors log' reconnects := by
  have hpausing : l'.channels.down = l'.channels.pausing := by
    have hcount := countP_values_insert l.channels.subscriptions id s' (·.isPausing)
    rw [hs, ← hreplaces.subscriptions] at hcount
    have hbefore : l.channels.down = l.channels.subscriptions.values.countP (·.isPausing) := h.down
    rw [hbefore, ← hcount] at hdown
    exact Nat.add_right_cancel hdown
  constructor
  · exact hreplaces.stopping.trans h.running
  · intro other sub hsub
    rw [hreplaces.subscriptions, lookup_insert] at hsub
    split at hsub
    next heq =>
      cases hsub
      rw [← heq]
      exact hmarked
    next hne =>
      rw [hothers other hne]
      exact h.marked hsub
  · intro other hother
    rw [hreplaces.made] at hother
    have hne : id ≠ other := by
      intro heq
      rw [heq, (h.unmade hother).1] at hs
      cases hs
    rw [hreplaces.subscriptions, lookup_insert, if_neg hne, hothers other hne]
    exact h.unmade hother
  · exact hpausing
  · rw [← hpausing]
    exact htold
  · exact hreconnects

theorem Mirrors.replace (h : l.Mirrors log reconnects)
    (hs : l.channels.subscriptions[id]? = some s) (hpausing : s'.isPausing = s.isPausing)
    (hdown : s'.down = s.down) (hfailures : s'.failures = s.failures) :
    (l.setSubscription id s').Mirrors log reconnects := by
  apply h.turn hs (replaces_setSubscription l id s')
  · intro other _
    rfl
  · have hmarked := h.marked hs
    constructor
    · rw [hdown, hpausing]
      exact hmarked.down
    · rw [hfailures]
      exact hmarked.failures
    · rw [hpausing]
      exact hmarked.pausing
  · rw [hpausing]
    rfl
  · have htold := h.told
    rw [← h.down] at htold
    exact htold
  · exact h.reconnects

/-! ## Listeners without a consumer -/

theorem streak_cons_of_ne {other : SubscriptionId} (h : id ≠ other) (i : Incident) :
    Incidents.streak ((id, i) :: log) other = log.streak other := by
  cases i with
  | lost exchange => exact if_neg h
  | failed => exact if_neg h
  | reopened => exact if_neg h

/-- What a subscription becomes when its listener is without a consumer. -/
def retreated (l : Link) (s : Subscription) : Subscription :=
  { s with
    failures := s.failures + 1
    down := true
    phase := .pausing (l.common.now.deadline l.channels.settings.reconnectDelay) }

theorem retreat_of_up (id : SubscriptionId) (h : s.down = false) :
    l.retreat id s = (l.lost s.binding.exchange).setSubscription id (l.retreated s) := by
  unfold retreat
  rw [h]
  rfl

theorem retreat_of_down (id : SubscriptionId) (h : s.down = true) :
    l.retreat id s = l.setSubscription id (l.retreated s) := by
  unfold retreat
  rw [h]
  rfl

theorem replaces_retreat (l : Link) (id : SubscriptionId) (s : Subscription) :
    l.Replaces id (l.retreated s) (l.retreat id s) := by
  cases hdown : s.down with
  | false =>
      rw [retreat_of_up id hdown]
      exact ⟨rfl, rfl, rfl⟩
  | true =>
      rw [retreat_of_down id hdown]
      exact ⟨rfl, rfl, rfl⟩

theorem marked_retreated {streak : Nat} (h : s.Marked streak) (hfits : streak + 1 < 2 ^ 32) :
    (l.retreated s).Marked (streak + 1) where
  down := rfl
  failures := by
    show (s.failures + 1).toNat = streak + 1
    rw [UInt32.toNat_add, h.failures]
    exact Nat.mod_eq_of_lt hfits
  pausing := (decide_eq_true (Nat.succ_pos streak)).symm

theorem Mirrors.lost (h : l.Mirrors log reconnects) (hs : l.channels.subscriptions[id]? = some s)
    (hup : s.isPausing = false)
    (hfits : Incidents.streak ((id, .lost s.binding.exchange) :: log) id < 2 ^ 32) :
    (l.retreat id s).Mirrors ((id, .lost s.binding.exchange) :: log) reconnects := by
  have hmarked := h.marked hs
  have hstreak : Incidents.streak ((id, .lost s.binding.exchange) :: log) id = log.streak id + 1 :=
    if_pos rfl
  rw [hstreak] at hfits
  have hreplaces : l.Replaces id (l.retreated s)
      ((l.lost s.binding.exchange).setSubscription id (l.retreated s)) := ⟨rfl, rfl, rfl⟩
  rw [retreat_of_up id (hmarked.down.trans hup)]
  apply h.turn hs hreplaces
  · intro other hne
    exact streak_cons_of_ne hne _
  · rw [hstreak]
    exact marked_retreated hmarked hfits
  · rw [hup]
    rfl
  · exact ⟨_, (HealthBoard.getElem?_update _ _ _ _).trans (if_pos rfl),
      .ill (Nat.succ_pos _) rfl rfl rfl⟩
  · exact h.reconnects

theorem Mirrors.failed (h : l.Mirrors log reconnects) (hs : l.channels.subscriptions[id]? = some s)
    (hpausing : s.isPausing = true)
    (hfits : Incidents.streak ((id, .failed) :: log) id < 2 ^ 32) :
    (l.retreat id s).Mirrors ((id, .failed) :: log) reconnects := by
  have hmarked := h.marked hs
  have hstreak : Incidents.streak ((id, .failed) :: log) id = log.streak id + 1 := if_pos rfl
  rw [hstreak] at hfits
  rw [retreat_of_down id (hmarked.down.trans hpausing)]
  apply h.turn hs (replaces_setSubscription l id _)
  · intro other hne
    exact streak_cons_of_ne hne _
  · rw [hstreak]
    exact marked_retreated hmarked hfits
  · rw [hpausing]
    rfl
  · rcases h.told with ⟨health, hreport, htold⟩
    rw [← h.down] at htold
    exact ⟨health, hreport, htold.failed id⟩
  · exact h.reconnects

/-! ## Listeners with a consumer -/

def established (s : Subscription) (c : Broker.ConsumerId) : Subscription :=
  { s with failures := 0, down := false, phase := .receiving c }

theorem marked_established (s : Subscription) (c : Broker.ConsumerId) :
    (established s c).Marked 0 := ⟨rfl, rfl, rfl⟩

theorem Mirrors.opened (h : l.Mirrors log reconnects)
    (hs : l.channels.subscriptions[id]? = some s) (hup : s.isPausing = false)
    (c : Broker.ConsumerId) : (l.establish id s c).Mirrors log reconnects := by
  have hmarked := h.marked hs
  have hstreak : log.streak id = 0 := by
    have hnot := hmarked.pausing
    rw [hup] at hnot
    exact Nat.eq_zero_of_not_pos (of_decide_eq_false hnot.symm)
  have hfailures : s.failures = 0 := by
    rw [← UInt32.toNat_inj, hmarked.failures, hstreak]
    rfl
  have hestablish : l.establish id s c = l.setSubscription id (established s c) := by
    unfold establish
    rw [hfailures, hmarked.down, hup]
    rfl
  rw [hestablish]
  apply h.replace hs
  · exact hup.symm
  · exact (hmarked.down.trans hup).symm
  · exact hfailures.symm

theorem channels_restored (l : Link) :
    l.restored.channels = { l.channels with down := l.channels.down - 1 } := by
  unfold restored
  dsimp only
  split <;> rfl

theorem channels_establish (l : Link) (id : SubscriptionId) (s : Subscription)
    (c : Broker.ConsumerId) :
    (l.establish id s c).channels =
      { l.channels with
        down := if s.down then l.channels.down - 1 else l.channels.down
        subscriptions := l.channels.subscriptions.insert id (established s c) } := by
  have hcounted :
      (if 0 < s.failures then l.onCommon (·.count Metrics.addChannelReconnect) else l).channels =
        l.channels := by
    split <;> rfl
  cases hdown : s.down with
  | false =>
      unfold establish
      rw [hdown]
      exact congrArg (·.setSubscription id (established s c)) hcounted
  | true =>
      unfold establish
      rw [hdown]
      show (restored _).channels.setSubscription id (established s c) = _
      rw [channels_restored, hcounted]
      rfl

theorem replaces_establish (l : Link) (id : SubscriptionId) (s : Subscription)
    (c : Broker.ConsumerId) : l.Replaces id (established s c) (l.establish id s c) := by
  constructor <;> rw [channels_establish]

/-- The report about the broker changes when the last subscription is up again. -/
theorem report_restored (l : Link) :
    l.restored.common.health.components[Component.broker.label]? =
      if l.channels.down - 1 = 0 then
        some { status := .healthy, checkedAt := l.common.wall }
      else l.common.health.components[Component.broker.label]? := by
  unfold restored
  dsimp only
  split
  · exact (HealthBoard.getElem?_update _ _ _ _).trans (if_pos rfl)
  · rfl

theorem reconnects_restored (l : Link) :
    l.restored.common.metrics.channelReconnects = l.common.metrics.channelReconnects := by
  unfold restored
  dsimp only
  split <;> rfl

theorem Mirrors.reopened (h : l.Mirrors log reconnects)
    (hs : l.channels.subscriptions[id]? = some s) (hpausing : s.isPausing = true)
    (c : Broker.ConsumerId) :
    (l.establish id s c).Mirrors ((id, .reopened) :: log) reconnects := by
  have hmarked := h.marked hs
  have hstreak : Incidents.streak ((id, .reopened) :: log) id = 0 := if_pos rfl
  have hfailures : 0 < s.failures := by
    have hpositive := hmarked.pausing
    rw [hpausing] at hpositive
    rw [UInt32.lt_iff_toNat_lt, hmarked.failures]
    exact of_decide_eq_true hpositive.symm
  have hsome : 0 < l.channels.down := by
    have hcount := pausing_setSubscription hs (established s c)
    rw [hpausing] at hcount
    have hgone : (established s c).isPausing = false := rfl
    rw [hgone, ← h.down] at hcount
    exact Nat.lt_of_lt_of_eq (Nat.succ_pos _) hcount
  have hdown : s.down = true := hmarked.down.trans hpausing
  have hcommon : (l.establish id s c).common =
      (l.onCommon (·.count Metrics.addChannelReconnect)).restored.common := by
    unfold establish
    rw [if_pos hfailures, hdown]
    rfl
  have hless : (l.establish id s c).channels.down = l.channels.down - 1 := by
    rw [channels_establish, hdown]
    rfl
  apply h.turn hs (replaces_establish l id s c)
  · intro other hne
    exact streak_cons_of_ne hne _
  · rw [hstreak]
    exact marked_established s c
  · rw [hless, hpausing]
    exact Nat.sub_add_cancel hsome
  · rw [hcommon, hless, report_restored]
    split
    next hlast => exact ⟨_, rfl, .well hlast rfl⟩
    next hmore =>
      rcases h.told with ⟨health, hreport, htold⟩
      rw [← h.down, ← Nat.sub_add_cancel hsome] at htold
      exact ⟨health, hreport, htold.reopened hmore id⟩
  · rw [hcommon, reconnects_restored]
    exact congrArg (· + 1) h.reconnects

end Link
end MetricGateway
