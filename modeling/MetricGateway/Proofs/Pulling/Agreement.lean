import Mathlib.Data.List.Nodup
import MetricGateway.Api
import MetricGateway.Proofs.Pulling.Refinement

/-!
# Views of what is polled

What is polled can be read from the gauges, from the counts of the registry, metric by metric, and
from the page of groups.  The counts come from the index in one place and from the groups in another
one, and the gauges are set by the operations that change them, not by every operation.  All these
views agree: the index and the groups do, and whatever leaves the gauges alone changes no count.
-/

namespace MetricGateway

def Metrics.sample? (m : Metrics) (name : String) : Option Nat := m.samples.lookup name

theorem Metrics.sample?_groups (m : Metrics) :
    m.sample? "rts_pulling_groups" = some m.pullingGroups := rfl

theorem Metrics.sample?_entries (m : Metrics) :
    m.sample? "rts_pulling_entries" = some m.pullingEntries := rfl

/-- All metrics on a page of groups, each with the key of the group that it stands under. -/
def Api.listed (page : List GroupRow) : List (String × MetricRow) :=
  page.flatMap fun g => g.metrics.map fun m => (g.key, m)

theorem filter_eq_singleton {α β : Type} [DecidableEq β] {mark : α → β} {l : List α}
    (h : (l.map mark).Nodup) {a : α} (ha : a ∈ l) :
    l.filter (fun b => mark b = mark a) = [a] := by
  induction l with
  | nil => cases ha
  | cons b l ih =>
      rcases List.nodup_cons.mp h with ⟨hfirst, hrest⟩
      rcases List.mem_cons.mp ha with rfl | hlater
      · rw [List.filter_cons_of_pos (by simp), List.filter_eq_nil_iff.mpr]
        intro b hb hsame
        rw [decide_eq_true_iff] at hsame
        exact hfirst (hsame ▸ List.mem_map_of_mem hb)
      · have hne : mark b ≠ mark a := fun heq => hfirst (heq ▸ List.mem_map_of_mem hlater)
        rw [List.filter_cons_of_neg (by simpa using hne)]
        exact ih hrest hlater

namespace Pulling
namespace Registry

def inventory (r : Registry) : List (GroupKey × MetricId × Entry) :=
  r.groups.toList.flatMap fun g => g.2.group.entries.toList.map fun polled => (g.1, polled)

/-- All views of the registry, and the gauges, agree. -/
structure Agrees (r : Registry) (m : Metrics) : Prop where
  groups_gauge : m.sample? "rts_pulling_groups" = some r.groupCount
  groups_page : (Api.pulling r).length = r.groupCount
  entries_gauge : m.sample? "rts_pulling_entries" = some r.entryCount
  entries_page : (Api.listed (Api.pulling r)).length = r.entryCount
  /-- The groups are in the order of their containers, and of their intervals within a container. -/
  keys_page : (Api.pulling r).map (fun g => (g.key, g.intervalMs)) =
    r.keys.map fun key => (key.text, key.intervalMs)
  keys_ascend : r.keys.Pairwise fun key later => key.container < later.container ∨
    key.container = later.container ∧ key.intervalMs < later.intervalMs
  metrics_ascend : ∀ g ∈ Api.pulling r, g.metrics.Pairwise fun m later => m.metric < later.metric
  /-- A metric that is listed is on the page once, under the key of its group and with its entry. -/
  listed : ∀ metric key, r.groupOf? metric = some key → ∃ e, r.entry? metric = some e ∧
    (Api.listed (Api.pulling r)).filter (·.2.metric = metric) =
      [(key.text, { metric, remaining := e.remaining, budget := e.budget })]
  unlisted : ∀ metric, r.groupOf? metric = none → r.entry? metric = none ∧
    (Api.listed (Api.pulling r)).filter (·.2.metric = metric) = []

variable {r : Registry}

/-!
## The page of groups
-/

theorem views_eq (r : Registry) : r.views = r.groups.toList.map fun g =>
    { key := g.1
      state := g.2.group.state
      interval := g.2.group.target.interval
      entries := g.2.group.toList } := by
  unfold views keys
  rw [← Std.ExtTreeMap.map_fst_toList_eq_keys, List.filterMap_map, ← List.filterMap_eq_map]
  apply List.filterMap_congr
  rintro ⟨key, slot⟩ hmem
  have hslot := Std.ExtTreeMap.mem_toList_iff_getElem?_eq_some.mp hmem
  show r.view? key = _
  unfold view?
  rw [hslot]
  rfl

theorem pulling_eq (r : Registry) : Api.pulling r = r.groups.toList.map fun g =>
    { key := g.1.text
      intervalMs := g.2.group.target.interval.millisWord
      metrics := g.2.group.entries.toList.map fun polled => .ofEntry polled.2 } := by
  unfold Api.pulling
  rw [views_eq, List.map_map]
  apply List.map_congr_left
  intro g _
  show Api.GroupRow.mk _ _ (g.2.group.toList.map _) = _
  rw [Group.toList_eq, List.map_map]
  rfl

theorem listed_pulling (r : Registry) : Api.listed (Api.pulling r) =
    r.inventory.map fun polled => (polled.1.text, .ofEntry polled.2.2) := by
  unfold Api.listed inventory
  rw [pulling_eq, List.flatMap_map, List.map_flatMap]
  simp only [List.map_map]
  rfl

/-!
## Every entry once
-/

theorem mem_inventory_iff (key : GroupKey) (metric : MetricId) (e : Entry) :
    (key, metric, e) ∈ r.inventory ↔ r.entryUnder key metric = some e := by
  unfold inventory entryUnder
  rw [List.mem_flatMap, Option.bind_eq_some_iff]
  constructor
  · rintro ⟨⟨key', slot⟩, hgroup, hmem⟩
    rcases List.mem_map.mp hmem with ⟨polled, hpolled, heq⟩
    cases heq
    exact ⟨slot, Std.ExtTreeMap.mem_toList_iff_getElem?_eq_some.mp hgroup,
      Std.ExtTreeMap.mem_toList_iff_getElem?_eq_some.mp hpolled⟩
  · rintro ⟨slot, hslot, he⟩
    refine ⟨(key, slot), Std.ExtTreeMap.mem_toList_iff_getElem?_eq_some.mpr hslot, ?_⟩
    exact List.mem_map.mpr
      ⟨(metric, e), Std.ExtTreeMap.mem_toList_iff_getElem?_eq_some.mpr he, rfl⟩

theorem Consistent.metric_of_entryUnder (h : r.Consistent) {key : GroupKey} {metric : MetricId}
    {e : Entry} (he : r.entryUnder key metric = some e) : e.metric = metric := by
  rcases Option.bind_eq_some_iff.mp he with ⟨slot, hslot, hentry⟩
  exact (h.valid hslot).sound.metric_eq hentry

theorem Consistent.listed_of_entryUnder (h : r.Consistent) {key : GroupKey} {metric : MetricId}
    {e : Entry} (he : r.entryUnder key metric = some e) : r.groupOf? metric = some key :=
  (h.index_iff metric key).mpr ((holds_iff_entryUnder r key metric).mpr ⟨e, he⟩)

theorem Consistent.nodup_inventory (h : r.Consistent) :
    (r.inventory.map fun polled => polled.2.1).Nodup := by
  have hmem : ∀ {key : GroupKey} {slot : Slot} {metric : MetricId},
      (key, slot) ∈ r.groups.toList → metric ∈ slot.group.entries.keys →
        r.groupOf? metric = some key := by
    intro key slot metric hgroup hentry
    have hslot := Std.ExtTreeMap.mem_toList_iff_getElem?_eq_some.mp hgroup
    exact (h.index_iff metric key).mpr ⟨slot, hslot, Std.ExtTreeMap.mem_keys.mp hentry⟩
  have hmetrics : (r.inventory.map fun polled => polled.2.1) =
      r.groups.toList.flatMap fun g => g.2.group.entries.keys := by
    unfold inventory
    rw [List.map_flatMap]
    apply List.flatMap_congr
    intro g _
    rw [List.map_map, ← Std.ExtTreeMap.map_fst_toList_eq_keys]
    rfl
  rw [hmetrics, List.nodup_flatMap]
  constructor
  · intro g _
    exact Std.ExtTreeMap.nodup_keys
  · refine List.Pairwise.imp_of_mem ?_ Std.ExtTreeMap.distinct_keys_toList
    rintro ⟨key, slot⟩ ⟨other, slot'⟩ hgroup hgroup' hne metric hhere hthere
    have hsame : key = other :=
      Option.some.inj ((hmem hgroup hhere).symm.trans (hmem hgroup' hthere))
    rw [hsame] at hne
    exact hne Std.ReflCmp.compare_self

theorem Consistent.length_inventory (h : r.Consistent) : r.inventory.length = r.entryCount := by
  have hmetrics : (r.inventory.map fun polled => polled.2.1).Perm r.index.keys := by
    rw [List.perm_ext_iff_of_nodup h.nodup_inventory Std.ExtTreeMap.nodup_keys]
    intro metric
    rw [List.mem_map, Std.ExtTreeMap.mem_keys]
    constructor
    · rintro ⟨⟨key, _, e⟩, hmem, rfl⟩
      exact mem_of_lookup (h.listed_of_entryUnder ((mem_inventory_iff key _ e).mp hmem))
    · intro hlisted
      rcases exists_lookup_of_mem hlisted with ⟨key, hkey⟩
      rcases (holds_iff_entryUnder r key metric).mp ((h.index_iff metric key).mp hkey) with ⟨e, he⟩
      exact ⟨(key, metric, e), (mem_inventory_iff key metric e).mpr he, rfl⟩
  unfold entryCount
  rw [← Std.ExtTreeMap.length_keys, ← hmetrics.length_eq, List.length_map]

/-- The metrics on the page that have a number are the entries that the inventory has for it. -/
theorem Consistent.filter_listed (h : r.Consistent) (metric : MetricId) :
    (Api.listed (Api.pulling r)).filter (·.2.metric = metric) =
      (r.inventory.filter (·.2.1 = metric)).map fun polled => (polled.1.text, .ofEntry polled.2.2) := by
  rw [listed_pulling, List.filter_map]
  congr 1
  apply List.filter_congr
  rintro ⟨key, m, e⟩ hmem
  have hmetric := h.metric_of_entryUnder ((mem_inventory_iff key m e).mp hmem)
  show decide (e.metric = metric) = decide (m = metric)
  rw [hmetric]

theorem entry?_of_listed {metric : MetricId} {key : GroupKey} (hlisted : r.groupOf? metric = some key) :
    r.entry? metric = r.entryUnder key metric := by
  have hindex : r.index[metric]? = some key := hlisted
  rw [entry?_eq]
  unfold row
  rw [hindex, Option.bind_some, Option.map_map]
  exact Option.map_id_apply

theorem GroupKey.lt_iff (key later : GroupKey) : compare key later = .lt ↔
    key.container < later.container ∨
      key.container = later.container ∧ key.intervalMs < later.intervalMs := by
  rw [GroupKey.compare_eq, Ordering.then_eq_lt, Std.compare_eq_lt, Std.compare_eq_lt,
    Std.LawfulEqOrd.compare_eq_iff_eq]

theorem Consistent.agrees (h : r.Consistent) {m : Metrics} (hgroups : m.pullingGroups = r.groupCount)
    (hentries : m.pullingEntries = r.entryCount) : r.Agrees m where
  groups_gauge := m.sample?_groups.trans (congrArg some hgroups)
  groups_page := by
    rw [pulling_eq, List.length_map, Std.ExtTreeMap.length_toList]
    rfl
  entries_gauge := m.sample?_entries.trans (congrArg some hentries)
  entries_page := by
    rw [listed_pulling, List.length_map, h.length_inventory]
  keys_page := by
    unfold keys
    rw [pulling_eq, ← Std.ExtTreeMap.map_fst_toList_eq_keys, List.map_map, List.map_map]
    apply List.map_congr_left
    rintro ⟨key, slot⟩ hgroup
    have hslot := Std.ExtTreeMap.mem_toList_iff_getElem?_eq_some.mp hgroup
    have hkey : slot.group.target.groupKey = key := (h.valid hslot).key_eq
    show (key.text, slot.group.target.groupKey.intervalMs) = (key.text, key.intervalMs)
    rw [hkey]
  keys_ascend := Std.ExtTreeMap.ordered_keys.imp fun hlt => (GroupKey.lt_iff _ _).mp hlt
  metrics_ascend := by
    intro g hg
    rw [pulling_eq] at hg
    rcases List.mem_map.mp hg with ⟨⟨key, slot⟩, hgroup, rfl⟩
    have hslot := Std.ExtTreeMap.mem_toList_iff_getElem?_eq_some.mp hgroup
    have hmetric : ∀ polled ∈ slot.group.entries.toList, polled.2.metric = polled.1 :=
      fun polled hmem => (h.valid hslot).sound.metric_eq
        (Std.ExtTreeMap.mem_toList_iff_getElem?_eq_some.mp hmem)
    rw [List.pairwise_map]
    refine List.Pairwise.imp_of_mem ?_ Std.ExtTreeMap.ordered_keys_toList
    intro polled later hmem hmem' hlt
    show polled.2.metric < later.2.metric
    rw [hmetric polled hmem, hmetric later hmem']
    exact Std.compare_eq_lt.mp hlt
  listed := by
    intro metric key hlisted
    rcases (holds_iff_entryUnder r key metric).mp ((h.index_iff metric key).mp hlisted) with ⟨e, he⟩
    have hmem : (key, metric, e) ∈ r.inventory := (mem_inventory_iff key metric e).mpr he
    refine ⟨e, (entry?_of_listed hlisted).trans he, ?_⟩
    rw [h.filter_listed, filter_eq_singleton h.nodup_inventory hmem, List.map_singleton,
      ← h.metric_of_entryUnder he]
    rfl
  unlisted := by
    intro metric hunlisted
    have hindex : r.index[metric]? = none := hunlisted
    constructor
    · rw [entry?_eq]
      unfold row
      rw [hindex]
      rfl
    · rw [h.filter_listed, List.filter_eq_nil_iff.mpr]
      · rfl
      · rintro ⟨key, m, e⟩ hmem hsame
        rw [decide_eq_true_iff] at hsame
        have hlisted := h.listed_of_entryUnder ((mem_inventory_iff key m e).mp hmem)
        have hm : m = metric := hsame
        rw [hm, hunlisted] at hlisted
        cases hlisted

theorem counts_refresh (r : Registry) (metric : MetricId) :
    (r.refresh metric).1.groupCount = r.groupCount ∧
      (r.refresh metric).1.entryCount = r.entryCount := by
  cases hlisted : r.index[metric]? with
  | none => rw [refresh_of_none hlisted]; exact ⟨rfl, rfl⟩
  | some key =>
      cases hslot : r.groups[key]? with
      | none =>
          unfold refresh
          rw [hlisted]
          dsimp only
          rw [hslot]
          exact ⟨rfl, rfl⟩
      | some slot =>
          rw [refresh_of_some hlisted hslot]
          exact ⟨size_eq_of_mem_iff (mem_groups_replace hslot _), rfl⟩

end Registry

namespace Polling

/-!
## The gauges
-/

/-- The gauges show the counts of the registry. -/
structure Gauged (p : Polling) : Prop where
  groups : p.common.metrics.pullingGroups = p.registry.groupCount
  entries : p.common.metrics.pullingEntries = p.registry.entryCount

/-- A change of what is shared that leaves the gauges of polling alone. -/
structure SparesGauges (f : Commons → Commons) : Prop where
  groups : ∀ c, (f c).metrics.pullingGroups = c.metrics.pullingGroups
  entries : ∀ c, (f c).metrics.pullingEntries = c.metrics.pullingEntries

variable {p q : Polling}

theorem gauged_setRegistry (p : Polling) (r : Registry) : (p.setRegistry r).Gauged where
  groups := rfl
  entries := rfl

theorem Gauged.congr (h : p.Gauged) (hregistry : q.registry = p.registry)
    (hmetrics : q.common.metrics = p.common.metrics) : q.Gauged where
  groups := by
    rw [hmetrics, hregistry]
    exact h.groups
  entries := by
    rw [hmetrics, hregistry]
    exact h.entries

theorem Gauged.onCommon (h : p.Gauged) {f : Commons → Commons} (hf : SparesGauges f) :
    (p.onCommon f).Gauged where
  groups := (hf.groups p.common).trans h.groups
  entries := (hf.entries p.common).trans h.entries

theorem metrics_foldl_record (c : Commons) (event : GroupRef → Event) (dropped : List GroupRef) :
    (dropped.foldl (fun c ref => c.record (event ref)) c).metrics = c.metrics := by
  induction dropped generalizing c with
  | nil => rfl
  | cons ref dropped ih => exact ih (c.record (event ref))

theorem gauged_announce (p : Polling) (r : Registry) (reason : String)
    (dropped stopped : List GroupRef) :
    (((p.setRegistry r).cancel dropped).recordStopped reason stopped).Gauged :=
  (gauged_setRegistry p r).congr rfl
    (metrics_foldl_record _ (fun ref => .groupStopped ref.key.text reason) stopped)

theorem add_cases (p : Polling) (target : Target) (metric : MetricId) (valueKind : ValueKind)
    (budget : UInt16) : (∃ e, p.add target metric valueKind budget = (p, .error e)) ∨
      (p.add target metric valueKind budget).1.Gauged := by
  unfold add
  split
  next e _ => exact Or.inl ⟨e, rfl⟩
  next r report _ =>
    right
    have hannounced := gauged_announce p r "metric moved to another interval"
      report.dropped.toList report.dropped.toList
    dsimp only
    split
    · exact hannounced.congr rfl rfl
    · exact hannounced

theorem gauged_add_of_ok {target : Target} {metric : MetricId} {valueKind : ValueKind}
    {budget : UInt16} {outcome : AddOutcome}
    (h : (p.add target metric valueKind budget).2 = .ok outcome) :
    (p.add target metric valueKind budget).1.Gauged := by
  rcases add_cases p target metric valueKind budget with ⟨e, hrefused⟩ | hgauged
  · rw [hrefused] at h
    cases h
  · exact hgauged

theorem Gauged.add (h : p.Gauged) (target : Target) (metric : MetricId) (valueKind : ValueKind)
    (budget : UInt16) : (p.add target metric valueKind budget).1.Gauged := by
  rcases add_cases p target metric valueKind budget with ⟨e, hrefused⟩ | hgauged
  · rw [hrefused]
    exact h
  · exact hgauged

theorem Gauged.refresh (h : p.Gauged) (metric : MetricId) : (p.refresh metric).1.Gauged where
  groups := h.groups.trans (Registry.counts_refresh p.registry metric).1.symm
  entries := h.entries.trans (Registry.counts_refresh p.registry metric).2.symm

theorem Gauged.remove (h : p.Gauged) (metric : MetricId) : (p.remove metric).1.Gauged := by
  unfold Polling.remove
  split
  · exact h
  · exact gauged_announce p _ _ _ _

theorem Gauged.tick (h : p.Gauged) (ref : GroupRef) : (p.tick ref).1.Gauged := by
  unfold Polling.tick
  split
  next => exact h
  next r report _ =>
    dsimp only
    split
    · exact gauged_announce p r _ _ _
    · exact (gauged_setRegistry p r).congr rfl rfl

theorem sparesGauges_published : SparesGauges fun c => c.count Metrics.addPollPublished where
  groups _ := rfl
  entries _ := rfl

theorem Gauged.answered (h : p.Gauged) {common : Commons}
    (hmetrics : common.metrics = p.common.metrics) : Gauged { p with common } :=
  h.congr rfl hmetrics

theorem Gauged.published (h : p.Gauged) {common : Commons}
    (hmetrics : common.metrics = p.common.metrics) :
    Gauged { p with common := common.count Metrics.addPollPublished } :=
  (h.answered hmetrics).onCommon sparesGauges_published

theorem Gauged.fire (h : p.Gauged) (g : Generation) (t : Ticker) (due : Instant) :
    (p.fire g t due).Gauged := by
  have hticked := h.tick t.ref
  unfold Polling.fire
  cases hround : p.tick t.ref with
  | mk p' polled =>
      rw [hround] at hticked
      cases polled with
      | none => exact hticked.congr rfl rfl
      | some m =>
          have hmetrics : (p'.common.send m).1.metrics = p'.common.metrics := rfl
          dsimp only
          cases hoffer : p'.common.send m with
          | mk common offer =>
              rw [hoffer] at hmetrics
              cases offer with
              | accepted => exact (hticked.published hmetrics).congr rfl rfl
              | parked ticket => exact (hticked.answered hmetrics).congr rfl rfl
              | refused => exact (hticked.answered hmetrics).congr rfl rfl

theorem Gauged.stepTicker (h : p.Gauged) (g : Generation) (preference : Preference) :
    (p.stepTicker g preference).Gauged := by
  unfold Polling.stepTicker
  cases p.tickers[g]? with
  | none => exact h
  | some t =>
      dsimp only
      cases t.phase with
      | starting =>
          dsimp only
          split <;> exact h.congr rfl rfl
      | sleeping due =>
          dsimp only
          split
          · exact h.congr rfl rfl
          · split
            · exact h.fire g t due
            · exact h
      | publishing ticket m due =>
          have hmetrics : (p.common.resend ticket m).1.metrics = p.common.metrics := rfl
          dsimp only
          cases hoffer : p.common.resend ticket m with
          | mk common offer =>
              rw [hoffer] at hmetrics
              cases offer with
              | accepted => exact (h.published hmetrics).congr rfl rfl
              | refused => exact (h.answered hmetrics).congr rfl rfl
              | parked ticket' => exact h

theorem Gauged.perform (h : p.Gauged) (op : Op) : (p.perform op).Gauged := by
  cases op with
  | add target metric valueKind budget => exact h.add target metric valueKind budget
  | refresh metric => exact h.refresh metric
  | remove metric => exact h.remove metric
  | stopContainer container => exact gauged_announce p _ _ _ _
  | stopAll => exact (gauged_setRegistry p _).congr rfl rfl
  | shutdown => exact (gauged_setRegistry p _).congr rfl rfl
  | tick ref => exact h.tick ref
  | turn generation preference => exact h.stepTicker generation preference

theorem Gauged.follow (h : p.Gauged) {moves : List Move}
    (hspares : ∀ f, Move.share f ∈ moves → SparesGauges f) : (p.follow moves).Gauged := by
  induction moves generalizing p with
  | nil => exact h
  | cons m moves ih =>
      have hlater : ∀ f, Move.share f ∈ moves → SparesGauges f :=
        fun f hmem => hspares f (List.mem_cons_of_mem m hmem)
      cases m with
      | perform op => exact ih (h.perform op) hlater
      | share f => exact ih (h.onCommon (hspares f List.mem_cons_self)) hlater

/-- Once a metric was added, all views of what is polled agree after every operation and every step
of a ticker, as long as nobody else sets the gauges: what is shared may change in any other way, and
before the metric was added in this way too. -/
theorem views_agree (common : Commons) (exchange replyKey : String) (messageTtl : Duration)
    (before after : List Move) (target : Target) (metric : MetricId) (valueKind : ValueKind)
    (budget : UInt16) {outcome : AddOutcome} :
    let start : Polling := { common, exchange, replyKey, messageTtl }
    let added := (start.follow before).add target metric valueKind budget
    let p := added.1.follow after
    added.2 = .ok outcome → (∀ f, Move.share f ∈ after → SparesGauges f) →
      p.registry.Agrees p.common.metrics := by
  intro start added p hok hspares
  have htended : p.Tended (start.Lapsed
      (before ++ .perform (.add target metric valueKind budget) :: after)) := by
    have hrun := (tended_empty common exchange replyKey messageTtl (start.Lapsed [])).follow
      (before ++ .perform (.add target metric valueKind budget) :: after)
    rw [follow_append] at hrun
    exact hrun
  have hgauged : p.Gauged := (gauged_add_of_ok hok).follow hspares
  exact htended.consistent.agrees hgauged.groups hgauged.entries

/-!
## Two groups

The first metric has one poll left after its round.  The other one is polled less often, so its
group comes second on the page.
-/

def pollsTwo : List Move :=
  [.perform (.turn 1 .goOn), .perform (.add { viaFlex with interval := Duration.ofSecs 60 } 2 .int 3),
    .share fun c => { c with now := ⟨nanosPerSec⟩ }, .perform (.turn 1 .goOn)]

theorem views_agree_two :
    let p := (unused.add viaSnmp 1 .int 2).1.follow pollsTwo
    p.registry.Agrees p.common.metrics ∧
      Api.pulling p.registry = [⟨"7_1000", 1000, [⟨1, 1, 2⟩]⟩, ⟨"7_60000", 60000, [⟨2, 3, 3⟩]⟩] ∧
      p.common.metrics.sample? "rts_pulling_groups" = some 2 := by
  intro p
  have hadded : ((unused.follow []).add viaSnmp 1 .int 2).2 = .ok .inserted := rfl
  have hspares : ∀ f, Move.share f ∈ pollsTwo → SparesGauges f := by
    intro f hmem
    simp only [pollsTwo, List.mem_cons, List.not_mem_nil, reduceCtorEq, false_or, or_false,
      Move.share.injEq] at hmem
    rw [hmem]
    exact ⟨fun _ => rfl, fun _ => rfl⟩
  have hagrees := views_agree unused.common unused.exchange unused.replyKey unused.messageTtl []
    pollsTwo viaSnmp 1 .int 2 hadded hspares
  have hcount : p.registry.groupCount = 2 := by decide +kernel
  exact ⟨hagrees, by decide +kernel, hagrees.groups_gauge.trans (congrArg some hcount)⟩

end Polling
end Pulling
end MetricGateway
