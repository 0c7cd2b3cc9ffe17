import MetricGateway.Proofs.Pulling.Rows
import MetricGateway.Proofs.Pulling.Tickers

/-!
# Where a metric is polled

A group is known by its container and its interval in whole milliseconds.  The first metric that
asks for such a group decides where its polls go: a metric that is added later joins the group as it
is, also where its own target names another translator or another kind of container.  What is polled
for a metric therefore follows the target that the group was created for, for as long as the metric
stays in that group.
-/

namespace MetricGateway
namespace Pulling

namespace Group

theorem toList_eq (g : Group) : g.toList = g.entries.toList.map (·.2) := by
  rcases g with ⟨target, ⟨⟨entries⟩⟩, state⟩
  induction entries using Quotient.ind with
  | _ entries =>
      show entries.inner.values =
        (Std.DTreeMap.Internal.Impl.Const.toList entries.inner).map (·.2)
      rw [Std.DTreeMap.Internal.Impl.values_eq_map_snd,
        Std.DTreeMap.Internal.Impl.Const.toList_eq_toListModel_map, List.map_map]
      rfl

theorem mem_toList_iff (g : Group) (e : Entry) :
    e ∈ g.toList ↔ ∃ metric : MetricId, g.entries[metric]? = some e := by
  rw [toList_eq, List.mem_map]
  constructor
  · rintro ⟨⟨metric, entry⟩, hmem, rfl⟩
    exact ⟨metric, Std.ExtTreeMap.mem_toList_iff_getElem?_eq_some.mp hmem⟩
  · rintro ⟨metric, hentry⟩
    exact ⟨(metric, e), Std.ExtTreeMap.mem_toList_iff_getElem?_eq_some.mpr hentry, rfl⟩

theorem Sound.metrics_request {g : Group} (h : g.Sound) :
    g.request.metrics.map (·.metric) = g.entries.keys := by
  show (g.toList.map (·.selector)).map (·.metric) = g.entries.keys
  rw [toList_eq, List.map_map, List.map_map, ← Std.ExtTreeMap.map_fst_toList_eq_keys]
  apply List.map_congr_left
  rintro ⟨number, e⟩ hmem
  exact h.metric_eq (Std.ExtTreeMap.mem_toList_iff_getElem?_eq_some.mp hmem)

theorem Sound.mem_request_iff {g : Group} (h : g.Sound) (metric : MetricId) :
    metric ∈ g.request.metrics.map (·.metric) ↔ metric ∈ g.entries := by
  rw [h.metrics_request, Std.ExtTreeMap.mem_keys]

end Group

namespace Registry

/-- The target that the group of a target polls by: that of the group that is there already, if
there is one. -/
def targetOnAdd (r : Registry) (target : Target) : Target :=
  r.groups[target.groupKey]?.elim target fun slot => slot.group.target

/-- Whether a metric is polled by the group that is meant. -/
def Polls (r : Registry) (ref : GroupRef) (metric : MetricId) : Prop :=
  ∃ slot, r.groups[ref.key]? = some slot ∧ slot.generation = ref.generation ∧
    metric ∈ slot.group.entries

theorem Consistent.slot_add {r r' : Registry} (h : r.Consistent) {target : Target}
    {metric : MetricId} {valueKind : ValueKind} {budget : UInt16} {report : AddReport}
    (hadd : r.add target metric valueKind budget = .ok (r', report)) :
    ∃ slot, r'.groups[target.groupKey]? = some slot ∧
      slot.group.entries[metric]? = some (.new metric valueKind budget) := by
  have hrow := h.row_add hadd
  unfold row at hrow
  rcases Option.bind_eq_some_iff.mp hrow with ⟨key, _, hmapped⟩
  rcases Option.map_eq_some_iff.mp hmapped with ⟨e, hentry, heq⟩
  cases heq
  exact Option.bind_eq_some_iff.mp hentry

theorem target_add {r r' : Registry} {target : Target} {metric : MetricId}
    {valueKind : ValueKind} {budget : UInt16} {report : AddReport}
    (hadd : r.add target metric valueKind budget = .ok (r', report)) {slot : Slot}
    (hslot : r'.groups[target.groupKey]? = some slot) :
    slot.group.target = r.targetOnAdd target := by
  unfold targetOnAdd
  by_cases hmem : target.groupKey ∈ r.groups
  · rcases (thins_add hadd hmem).1.slot hslot with ⟨before, hbefore, _, htarget⟩
    rw [hbefore]
    exact htarget.symm
  · have hnew := (creates_add hadd hmem).2.2 hslot
    rw [if_pos rfl] at hnew
    rw [Std.ExtTreeMap.getElem?_eq_none hmem]
    exact hnew.2

end Registry

namespace Polling

/-!
## Rounds of a group
-/

/-- A round publishes nothing, or one request for the metrics of the group that is meant. -/
theorem tick_publishes {p : Polling} (h : p.registry.Consistent) (ref : GroupRef) :
    ((p.tick ref).2 = none ∧ ∀ metric, ¬p.registry.Polls ref metric) ∨
      ∃ slot correlation, p.registry.groups[ref.key]? = some slot ∧
        slot.generation = ref.generation ∧
        (p.tick ref).2 =
          some (p.pollMessage slot.group.target.key correlation slot.group.request) := by
  unfold tick
  rcases h.tick_cases ref with
    ⟨hround, hstale⟩ | ⟨slot, hslot, hcurrent, ⟨hgo, hround⟩ | ⟨_, expired, _, _, hreport⟩⟩
  · rw [hround]
    refine Or.inl ⟨rfl, ?_⟩
    rintro metric ⟨slot, hslot, hcurrent, _⟩
    exact hstale slot hslot hcurrent
  · rw [hround]
    refine Or.inl ⟨rfl, ?_⟩
    rintro metric ⟨slot', hslot', _, hmem⟩
    have hsound := (h.valid hslot).sound
    cases hslot.symm.trans hslot'
    have hempty : slot.group.isEmpty = true := by
      rcases hgo with hstopped | hempty
      · rw [hsound.state_eq] at hstopped
        split at hstopped <;> cases hstopped
      · exact hempty
    rw [Std.ExtTreeMap.isEmpty_iff.mp hempty] at hmem
    exact Std.ExtTreeMap.not_mem_empty hmem
  · cases hround : p.registry.tick ref with
    | mk r report =>
        rw [hround] at hreport
        dsimp only at hreport
        subst hreport
        exact Or.inr ⟨slot, _, hslot, hcurrent, rfl⟩

/-!
## What is polled for a metric
-/

/-- A metric is polled by a group, and all its polls go where a target says. -/
structure PolledBy (lapsed : Duration → Prop) (p : Polling) (metric : MetricId) (ref : GroupRef)
    (target : Target) : Prop where
  key_eq : target.groupKey = ref.key
  listed : p.registry.groupOf? metric = some ref.key
  /-- The next round of the group asks the translator of the target for the metric. -/
  asks : ∃ correlation request,
    (p.tick ref).2 = some (p.pollMessage target.key correlation request) ∧
      request.container = target.container ∧ request.containerKind = target.containerKind ∧
      metric ∈ request.metrics.map (·.metric)
  only : ∀ other m, (p.tick other).2 = some m → other = ref ∨
    ∃ key correlation request, m = p.pollMessage key correlation request ∧
      metric ∉ request.metrics.map (·.metric)
  /-- The ticker of the group runs at the interval of the target. -/
  ticker : ∀ t, p.tickers[ref.generation]? = some t →
    t.ref = ref ∧ t.period = target.interval ∧ t.cancelled = false
  alive : ref.generation ∈ p.tickers ∨ lapsed target.interval

variable {lapsed : Duration → Prop} {p : Polling}

theorem Tended.polledBy (h : p.Tended lapsed) (hrunning : p.shutDown = false) {metric : MetricId}
    {ref : GroupRef} {slot : Slot} (hslot : p.registry.groups[ref.key]? = some slot)
    (hcurrent : slot.generation = ref.generation) (hmem : metric ∈ slot.group.entries) :
    PolledBy lapsed p metric ref slot.group.target := by
  have hvalid := h.consistent.valid hslot
  constructor
  · exact hvalid.key_eq
  · exact (h.consistent.index_iff metric ref.key).mpr ⟨slot, hslot, hmem⟩
  · rcases tick_publishes h.consistent ref with ⟨_, hidle⟩ | ⟨slot', correlation, hslot', _, hpoll⟩
    · exact absurd ⟨slot, hslot, hcurrent, hmem⟩ (hidle metric)
    · cases hslot.symm.trans hslot'
      exact ⟨correlation, slot.group.request, hpoll, rfl, rfl,
        (hvalid.sound.mem_request_iff metric).mpr hmem⟩
  · intro other m hm
    rcases tick_publishes h.consistent other with
      ⟨hnone, _⟩ | ⟨slot', correlation, hslot', hcurrent', hpoll⟩
    · rw [hnone] at hm
      cases hm
    · by_cases hholds : metric ∈ slot'.group.entries
      · -- One group polls the metric, so both rounds are rounds of that group.
        have hkey := (h.consistent.index_iff metric other.key).mpr ⟨slot', hslot', hholds⟩
        rw [(h.consistent.index_iff metric ref.key).mpr ⟨slot, hslot, hmem⟩] at hkey
        left
        cases other
        cases ref
        cases hkey
        cases hslot.symm.trans hslot'
        rw [GroupRef.mk.injEq]
        exact ⟨rfl, hcurrent'.symm.trans hcurrent⟩
      · right
        rw [hpoll] at hm
        cases hm
        refine ⟨_, correlation, slot'.group.request, rfl, ?_⟩
        rw [(h.consistent.valid hslot').sound.mem_request_iff]
        exact hholds
  · intro t ht
    have hnumber := (h.numbered ht).1
    rcases h.tended hslot (hcurrent ▸ ht) with ⟨hkey, hperiod, hcancelled⟩
    refine ⟨?_, hperiod, ?_⟩
    · cases href : t.ref
      rw [href] at hkey hnumber
      cases ref
      rw [GroupRef.mk.injEq]
      exact ⟨hkey, hnumber⟩
    · cases hflag : t.cancelled with
      | false => rfl
      | true =>
          rw [hcancelled hflag] at hrunning
          cases hrunning
  · rw [← hcurrent]
    exact h.alive hrunning hslot

/-!
## Runs
-/

theorem descends_perform (h : p.registry.Consistent) (op : Op) :
    p.registry.Descends (p.perform op).registry := by
  cases op with
  | add target metric valueKind budget =>
      show p.registry.Descends (p.add target metric valueKind budget).1.registry
      cases hadd : p.registry.add target metric valueKind budget with
      | error e =>
          rw [add_of_error hadd]
          exact (Registry.thins_refl _).descends
      | ok added =>
          rw [registry_add_of_ok hadd]
          exact Registry.descends_add hadd
  | refresh metric => exact (Registry.thins_refresh _ metric).descends
  | remove metric =>
      show p.registry.Descends (p.remove metric).1.registry
      rw [registry_remove]
      exact (Registry.thins_remove _ metric).descends
  | stopContainer container => exact (Registry.thins_dropGroups _ _).descends
  | stopAll => exact (Registry.thins_dropGroups _ _).descends
  | shutdown => exact (Registry.thins_dropGroups _ _).descends
  | tick ref =>
      show p.registry.Descends (p.tick ref).1.registry
      rw [registry_tick]
      exact (h.thins_tick ref).descends
  | turn generation preference =>
      show p.registry.Descends (p.stepTicker generation preference).registry
      rcases registry_stepTicker p generation preference with hsame | ⟨ref, hround⟩
      · rw [hsame]
        exact (Registry.thins_refl _).descends
      · rw [hround]
        exact (h.thins_tick ref).descends

theorem descends_follow (h : p.registry.Consistent) (moves : List Move) :
    p.registry.Descends (p.follow moves).registry := by
  induction moves generalizing p with
  | nil => exact (Registry.thins_refl _).descends
  | cons m moves ih =>
      cases m with
      | perform op => exact (descends_perform h op).trans (ih (consistent_perform h op))
      | share f => exact ih (p := p.onCommon f) h

/-- The polls of a metric go where the target of its group says, as long as it stays there. -/
theorem Tended.polledBy_follow (h : p.Tended (p.Lapsed [])) {moves : List Move} (more : List Move)
    {ref : GroupRef} {slot : Slot}
    (hslot : (p.follow moves).registry.groups[ref.key]? = some slot)
    (hcurrent : slot.generation = ref.generation) {metric : MetricId}
    (hrunning : ((p.follow moves).follow more).shutDown = false)
    (hpolls : ((p.follow moves).follow more).registry.Polls ref metric) :
    PolledBy (p.Lapsed (moves ++ more)) ((p.follow moves).follow more) metric ref
      slot.group.target := by
  rcases hpolls with ⟨slot', hslot', hcurrent', hmem⟩
  have hconsistent := (h.follow moves).consistent
  have hold : slot'.generation ≤ (p.follow moves).registry.generations := by
    rw [hcurrent', ← hcurrent]
    exact (hconsistent.valid hslot).generation_le
  rcases (descends_follow hconsistent more).slot hslot' hold with ⟨before, hbefore, _, htarget⟩
  cases hslot.symm.trans hbefore
  have htended := h.follow (moves ++ more)
  rw [follow_append] at htended
  rw [htarget]
  exact htended.polledBy hrunning hslot' hcurrent' hmem

theorem add_of_ok {target : Target} {metric : MetricId} {valueKind : ValueKind} {budget : UInt16}
    {outcome : AddOutcome} (h : (p.add target metric valueKind budget).2 = .ok outcome) :
    ∃ report, p.registry.add target metric valueKind budget =
      .ok ((p.add target metric valueKind budget).1.registry, report) := by
  cases hadd : p.registry.add target metric valueKind budget with
  | error e =>
      rw [add_of_error hadd] at h
      cases h
  | ok added => exact ⟨added.2, by rw [registry_add_of_ok hadd]⟩

theorem shutDown_add (p : Polling) (target : Target) (metric : MetricId) (valueKind : ValueKind)
    (budget : UInt16) : (p.add target metric valueKind budget).1.shutDown = p.shutDown := by
  unfold add
  split
  · rfl
  · dsimp only
    split <;> rfl

/-- A metric that was added is polled, with its full budget, by the group of its container and
interval, and the target that this group was created for says where its polls go and how often: the
given one where the group is new, else the one of the group that was there.  So it stays for as
long as the metric is in that group and polling is not shut down. -/
theorem add_polls_by_target (common : Commons) (exchange replyKey : String)
    (messageTtl : Duration) (moves : List Move) (target : Target) (metric : MetricId)
    (valueKind : ValueKind) (budget : UInt16) {outcome : AddOutcome} :
    let start : Polling := { common, exchange, replyKey, messageTtl }
    let before := start.follow moves
    let after := (before.add target metric valueKind budget).1
    let chosen := before.registry.targetOnAdd target
    let added := moves ++ [.perform (.add target metric valueKind budget)]
    before.shutDown = false →
    (before.add target metric valueKind budget).2 = .ok outcome →
      ∃ generation,
        after.registry.entry? metric = some (.new metric valueKind budget) ∧
        after.PolledBy (start.Lapsed added) metric ⟨target.groupKey, generation⟩ chosen ∧
        ∀ more, (after.follow more).shutDown = false →
          (after.follow more).registry.Polls ⟨target.groupKey, generation⟩ metric →
            (after.follow more).PolledBy (start.Lapsed (added ++ more)) metric
              ⟨target.groupKey, generation⟩ chosen := by
  intro start before after chosen added hrunning hok
  rcases add_of_ok hok with ⟨report, hadd⟩
  have htended : start.Tended (start.Lapsed []) :=
    tended_empty common exchange replyKey messageTtl _
  have hbefore : before.registry.Consistent := (htended.follow moves).consistent
  rcases hbefore.slot_add hadd with ⟨slot, hslot, hentry⟩
  have htarget : slot.group.target = chosen := Registry.target_add hadd hslot
  have hmem : metric ∈ slot.group.entries := mem_of_lookup hentry
  have hafter : start.follow added = after := by
    rw [follow_append]
    rfl
  have hlater : ∀ more, (after.follow more).shutDown = false →
      (after.follow more).registry.Polls ⟨target.groupKey, slot.generation⟩ metric →
        (after.follow more).PolledBy (start.Lapsed (added ++ more)) metric
          ⟨target.groupKey, slot.generation⟩ chosen := by
    intro more hrunning' hpolls
    have hstart : (start.follow added).registry.groups[target.groupKey]? = some slot := by
      rw [hafter]
      exact hslot
    rw [← hafter] at hrunning' hpolls ⊢
    rw [← htarget]
    exact htended.polledBy_follow more hstart rfl hrunning' hpolls
  refine ⟨slot.generation, ?_, ?_, hlater⟩
  · have hlisted := (hbefore.add hadd).index_iff metric target.groupKey
    show (after.registry.index[metric]?.bind fun key => after.registry.groups[key]?.bind
      fun slot => slot.group.entries[metric]?) = _
    rw [hlisted.mpr ⟨slot, hslot, hmem⟩, Option.bind_some, hslot, Option.bind_some, hentry]
  · have hnow := hlater [] ((shutDown_add before target metric valueKind budget).trans hrunning)
      ⟨slot, hslot, rfl, hmem⟩
    rw [List.append_nil] at hnow
    exact hnow

/-!
## A group that is shared

Two translators handle the same container.  Both metrics are polled every second, so the second one
joins the group of the first one, and its polls go to the translator of the first one.
-/

def viaSnmp : Target := ⟨7, .snmpV2c, "snmp", Duration.ofSecs 1⟩

def viaFlex : Target := ⟨7, .flexLegacy, "flex-legacy", Duration.ofSecs 1⟩

def unused : Polling where
  common := { journal := { service := "rts" }, outbox := { capacity := 1 } }
  exchange := "fetch"
  replyKey := "rts"
  messageTtl := Duration.ofSecs 30

def pollsOne : List Move := [.perform (.add viaSnmp 1 .int 1)]

theorem add_polls_by_target_joined :
    let start := unused
    let joining : Op := .add viaFlex 2 .int 3
    ∃ generation, ((start.follow pollsOne).perform joining).PolledBy
      (start.Lapsed (pollsOne ++ [.perform joining])) 2 ⟨viaFlex.groupKey, generation⟩ viaSnmp := by
  have hadded : ((unused.follow pollsOne).add viaFlex 2 .int 3).2 = .ok .inserted := rfl
  rcases add_polls_by_target unused.common unused.exchange unused.replyKey unused.messageTtl
    pollsOne viaFlex 2 .int 3 rfl hadded with ⟨generation, _, hpolled, _⟩
  exact ⟨generation, hpolled⟩

theorem joined_group_keeps_target :
    let before := unused.follow pollsOne
    let after := before.perform (.add viaFlex 2 .int 3)
    before.shutDown = false ∧ (before.add viaFlex 2 .int 3).2 = .ok .inserted ∧
      (∀ key slot, after.registry.groupOf? 2 = some key → after.registry.groups[key]? = some slot →
        slot.group.target ≠ viaFlex) ∧
      (after.tick ⟨viaFlex.groupKey, 1⟩).2.map (·.key) = some viaSnmp.key := by
  refine ⟨rfl, rfl, ?_, rfl⟩
  intro key slot hlisted hslot
  have hkey : some viaFlex.groupKey = some key := hlisted
  cases hkey
  have htarget : some viaSnmp = some slot.group.target :=
    congrArg (Option.map fun slot : Slot => slot.group.target) hslot
  rw [← Option.some.inj htarget]
  decide

end Polling
end Pulling
end MetricGateway
