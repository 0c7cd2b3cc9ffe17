import MetricGateway.Proofs.Pulling.Roster
import MetricGateway.Proofs.Pulling.Stale

/-!
# Background polling against its roster

The roster of a registry forgets the groups: a metric has the row that its group keeps for it, and
the live keys are those of the groups.  Every operation of background polling does to the roster
what the operation of that name does there, and gives the same answer.  What makes this more than a
change of names is that the registry works on one group at a time, with a second map that has to
follow, while the roster speaks of all rows under a key.
-/

namespace MetricGateway
namespace Pulling

def Roster.Row.ofEntry (key : GroupKey) (e : Entry) : Roster.Row where
  key := key
  valueKind := e.valueKind
  remaining := e.remaining
  budget := e.budget

/-- Spending a poll of a row is spending one of its entry, which leaves with its last one. -/
theorem Roster.Row.spend_ofEntry (key : GroupKey) (e : Entry) (row : Roster.Row) :
    (Roster.Row.ofEntry key e).spend = some row ↔
      e.spend.exhausted = false ∧ Roster.Row.ofEntry key e.spend = row := by
  have hlast : e.remaining ≤ 1 ↔ e.spend.exhausted = true := by
    unfold Entry.exhausted
    rw [decide_eq_true_iff, ← UInt16.toNat_inj, Entry.toNat_remaining_spend,
      UInt16.le_iff_toNat_le]
    show e.remaining.toNat ≤ 1 ↔ e.remaining.toNat - 1 = 0
    omega
  unfold Roster.Row.spend
  split
  next hle =>
    have hexhausted := hlast.mp hle
    constructor
    · intro hnone
      cases hnone
    · rintro ⟨hleft, _⟩
      rw [hexhausted] at hleft
      cases hleft
  next hmore =>
    have hleft : e.spend.exhausted = false := by
      rw [← Bool.not_eq_true, ← hlast]
      exact hmore
    have hne : e.remaining ≠ 0 := by
      intro hzero
      apply hmore
      show e.remaining ≤ 1
      rw [hzero]
      decide
    have hspent : Roster.Row.ofEntry key e.spend =
        { Roster.Row.ofEntry key e with remaining := e.remaining - 1 } := by
      unfold Entry.spend
      rw [if_neg hne]
      rfl
    rw [hspent, Option.some.injEq]
    exact ⟨fun heq => ⟨hleft, heq⟩, And.right⟩

theorem Group.refresh_found {g : Group} {metric : MetricId} {e : Entry}
    (he : g.entries[metric]? = some e) : (g.refresh metric).2 = true := by
  unfold Group.refresh
  rw [he]

namespace Registry

def roster (r : Registry) : Roster where
  rows := r.index.filterMap fun metric key =>
    (r.entryUnder key metric).map (Roster.Row.ofEntry key)
  live := ⟨r.groups.map fun _ _ => ()⟩

variable {r r' : Registry}

/-!
## The roster of a registry
-/

theorem mem_live_roster (r : Registry) (key : GroupKey) : key ∈ r.roster.live ↔ key ∈ r.groups :=
  Std.ExtTreeMap.mem_map

theorem toList_live_roster (r : Registry) : r.roster.live.toList = r.keys :=
  Std.ExtTreeMap.keys_map

theorem lookup_roster (r : Registry) (metric : MetricId) :
    r.roster.rows[metric]? =
      (r.row metric).map fun placed => Roster.Row.ofEntry placed.1 placed.2 := by
  unfold roster row
  rw [Std.ExtTreeMap.getElem?_filterMap']
  cases r.index[metric]? with
  | none => rfl
  | some key =>
      rw [Option.bind_some, Option.bind_some, Option.map_map]
      rfl

/-- Between two operations a row is what the group under its key keeps for the metric. -/
theorem Consistent.lookup_roster_iff (h : r.Consistent) (metric : MetricId) (row : Roster.Row) :
    r.roster.rows[metric]? = some row ↔
      ∃ e, r.entryUnder row.key metric = some e ∧ Roster.Row.ofEntry row.key e = row := by
  rw [lookup_roster]
  unfold Registry.row
  constructor
  · intro hrow
    rcases Option.map_eq_some_iff.mp hrow with ⟨⟨key, e⟩, hplaced, rfl⟩
    rcases Option.bind_eq_some_iff.mp hplaced with ⟨listed, _, hmapped⟩
    rcases Option.map_eq_some_iff.mp hmapped with ⟨_, hentry, heq⟩
    cases heq
    exact ⟨e, hentry, rfl⟩
  · rintro ⟨e, hentry, hrow⟩
    rcases Option.bind_eq_some_iff.mp hentry with ⟨slot, hslot, he⟩
    rw [(h.index_iff metric row.key).mpr ⟨slot, hslot, mem_of_lookup he⟩, Option.bind_some, hentry,
      Option.map_some, Option.map_some, hrow]

theorem holds_iff_entryUnder (r : Registry) (key : GroupKey) (metric : MetricId) :
    r.Holds key metric ↔ ∃ e, r.entryUnder key metric = some e := by
  constructor
  · rintro ⟨slot, hslot, hmem⟩
    rcases exists_lookup_of_mem hmem with ⟨e, he⟩
    exact ⟨e, Option.bind_eq_some_iff.mpr ⟨slot, hslot, he⟩⟩
  · rintro ⟨e, hentry⟩
    rcases Option.bind_eq_some_iff.mp hentry with ⟨slot, hslot, he⟩
    exact ⟨slot, hslot, mem_of_lookup he⟩

theorem Consistent.lists_iff (h : r.Consistent) (key : GroupKey) (metric : MetricId) :
    r.roster.Lists key metric ↔ r.Holds key metric := by
  rw [holds_iff_entryUnder]
  constructor
  · rintro ⟨row, hrow, rfl⟩
    rcases (h.lookup_roster_iff metric row).mp hrow with ⟨e, hentry, _⟩
    exact ⟨e, hentry⟩
  · rintro ⟨e, hentry⟩
    exact ⟨.ofEntry key e, (h.lookup_roster_iff metric _).mpr ⟨e, hentry, rfl⟩, rfl⟩

theorem Consistent.lookup_roster_of_entry (h : r.Consistent) {key : GroupKey} {slot : Slot}
    {metric : MetricId} {e : Entry} (hslot : r.groups[key]? = some slot)
    (he : slot.group.entries[metric]? = some e) :
    r.roster.rows[metric]? = some (.ofEntry key e) :=
  (h.lookup_roster_iff metric _).mpr ⟨e, Option.bind_eq_some_iff.mpr ⟨slot, hslot, he⟩, rfl⟩

theorem Consistent.lookup_roster_of_listed (h : r.Consistent) {key : GroupKey} {metric : MetricId}
    (hlisted : r.index[metric]? = some key) :
    ∃ slot e, r.groups[key]? = some slot ∧ slot.group.entries[metric]? = some e ∧
      r.roster.rows[metric]? = some (.ofEntry key e) := by
  rcases (h.index_iff metric key).mp hlisted with ⟨slot, hslot, hmem⟩
  rcases exists_lookup_of_mem hmem with ⟨e, he⟩
  exact ⟨slot, e, hslot, he, h.lookup_roster_of_entry hslot he⟩

theorem lookup_roster_of_unlisted {metric : MetricId} (hunlisted : r.index[metric]? = none) :
    r.roster.rows[metric]? = none := by
  rw [lookup_roster]
  unfold Registry.row
  rw [hunlisted]
  rfl

theorem lookup_roster_congr {metric : MetricId} (h : r'.row metric = r.row metric) :
    r'.roster.rows[metric]? = r.roster.rows[metric]? := by
  rw [lookup_roster, lookup_roster, h]

theorem roster_eq {f : Roster}
    (hrows : ∀ metric : MetricId, r.roster.rows[metric]? = f.rows[metric]?)
    (hlive : ∀ key, key ∈ r.groups ↔ key ∈ f.live) : r.roster = f := by
  have hmaps : r.roster.rows = f.rows := Std.ExtTreeMap.ext_getElem? hrows
  have hsets : r.roster.live = f.live := by
    apply Std.ExtTreeSet.ext_mem
    intro key
    rw [mem_live_roster]
    exact hlive key
  cases f
  cases hmaps
  cases hsets
  rfl

theorem Consistent.under_roster (h : r.Consistent) {key : GroupKey} {slot : Slot}
    (hslot : r.groups[key]? = some slot) :
    r.roster.under key = slot.group.entries.map fun _ e => Roster.Row.ofEntry key e := by
  apply Std.ExtTreeMap.ext_getElem?
  intro metric
  apply Option.ext
  intro row
  rw [Roster.lookup_under, Option.filter_eq_some_iff, h.lookup_roster_iff,
    Std.ExtTreeMap.getElem?_map, Option.map_eq_some_iff, decide_eq_true_iff]
  constructor
  · rintro ⟨⟨e, hentry, hrow⟩, rfl⟩
    unfold entryUnder at hentry
    rw [hslot] at hentry
    exact ⟨e, hentry, hrow⟩
  · rintro ⟨e, he, rfl⟩
    exact ⟨⟨e, Option.bind_eq_some_iff.mpr ⟨slot, hslot, he⟩, rfl⟩, rfl⟩

theorem Consistent.isEmpty_under_roster (h : r.Consistent) {key : GroupKey} {slot : Slot}
    (hslot : r.groups[key]? = some slot) :
    (r.roster.under key).isEmpty = slot.group.isEmpty := by
  rw [h.under_roster hslot, ← Std.ExtTreeMap.isEmpty_keys, Std.ExtTreeMap.keys_map,
    Std.ExtTreeMap.isEmpty_keys]
  rfl

/-!
## Refreshing and removing a metric
-/

theorem mem_groups_replace {key : GroupKey} {slot : Slot} (hslot : r.groups[key]? = some slot)
    (replaced : Slot) (other : GroupKey) :
    other ∈ r.groups.insert key replaced ↔ other ∈ r.groups := by
  rw [Std.ExtTreeMap.mem_insert, Std.LawfulEqOrd.compare_eq_iff_eq]
  constructor
  · rintro (rfl | hmem)
    · exact mem_of_lookup hslot
    · exact hmem
  · exact Or.inr

theorem Consistent.roster_refresh (h : r.Consistent) (metric : MetricId) :
    r.roster.refresh metric = ((r.refresh metric).1.roster, (r.refresh metric).2) := by
  unfold Roster.refresh
  cases hlisted : r.index[metric]? with
  | none => rw [lookup_roster_of_unlisted hlisted, refresh_of_none hlisted]
  | some key =>
      rcases h.lookup_roster_of_listed hlisted with ⟨slot, e, hslot, he, hrow⟩
      have hafter := h.refresh metric
      rw [refresh_of_some hlisted hslot] at hafter ⊢
      rw [hrow]
      refine Prod.ext (roster_eq ?_ ?_).symm (Group.refresh_found he).symm
      · intro other
        rw [lookup_insert]
        by_cases hother : metric = other
        · subst hother
          rw [if_pos rfl]
          refine hafter.lookup_roster_of_entry (e := e.refresh) Std.ExtTreeMap.getElem?_insert_self ?_
          rw [Group.getElem?_refresh, if_pos rfl, he, Option.map_some]
        · rw [if_neg hother]
          apply lookup_roster_congr
          apply row_eq_of_ne
          · rfl
          · apply entryUnder_replace hslot
            rw [Group.getElem?_refresh, if_neg hother]
      · intro other
        rw [mem_groups_replace hslot, mem_live_roster]

theorem mem_groups_dropEntry (r : Registry) (key : GroupKey) (metric : MetricId)
    (other : GroupKey) :
    other ∈ (r.dropEntry key metric).1.groups ↔
      other ∈ r.groups ∧ (other = key → ∃ m, metric ≠ m ∧ r.Holds key m) := by
  cases hslot : r.groups[key]? with
  | none =>
      rw [dropEntry_of_none hslot]
      refine ⟨fun hmem => ⟨hmem, ?_⟩, And.left⟩
      rintro rfl
      rcases exists_lookup_of_mem hmem with ⟨slot, hslot'⟩
      cases hslot.symm.trans hslot'
  | some slot =>
      have hleft : (slot.group.remove metric).1.isEmpty = true ↔
          ¬∃ m, metric ≠ m ∧ r.Holds key m := by
        unfold Group.isEmpty
        rw [Std.ExtTreeMap.isEmpty_iff, Std.ExtTreeMap.eq_empty_iff_forall_not_mem, not_exists]
        simp only [Group.mem_remove, holds_iff_mem hslot]
      rw [dropEntry_of_some hslot]
      dsimp only
      split
      next hempty =>
        rw [groups_dropGroup, Std.ExtTreeMap.mem_erase, mem_groups_replace hslot, Ne,
          Std.LawfulEqOrd.compare_eq_iff_eq]
        constructor
        · rintro ⟨hne, hmem⟩
          exact ⟨hmem, fun heq => absurd heq.symm hne⟩
        · rintro ⟨hmem, hothers⟩
          exact ⟨fun heq => hleft.mp hempty (hothers heq.symm), hmem⟩
      next hothers =>
        rw [hleft, Classical.not_not] at hothers
        rw [mem_groups_replace hslot]
        exact ⟨fun hmem => ⟨hmem, fun _ => hothers⟩, And.left⟩

theorem Consistent.roster_remove (h : r.Consistent) (metric : MetricId) :
    r.roster.remove metric = ((r.remove metric).1.roster, (r.remove metric).2.isSome) := by
  unfold Roster.remove
  cases hlisted : r.index[metric]? with
  | none =>
      rw [lookup_roster_of_unlisted hlisted, remove_of_none hlisted]
      rfl
  | some key =>
      rcases h.lookup_roster_of_listed hlisted with ⟨slot, e, hslot, he, hrow⟩
      rw [hrow, remove_of_some hlisted]
      refine Prod.ext (roster_eq ?_ ?_).symm rfl
      · intro other
        rw [Roster.rows_release, lookup_erase]
        split
        next heq =>
          subst heq
          apply lookup_roster_of_unlisted
          rw [index_dropEntry]
          exact Std.ExtTreeMap.getElem?_erase_self
        next hne =>
          apply lookup_roster_congr
          apply row_eq_of_ne
          · rw [index_dropEntry, lookup_erase, if_neg hne]
          · intro under
            exact entryUnder_dropEntry_of_ne _ key under hne
      · intro other
        rw [mem_groups_dropEntry, Roster.mem_live_release, mem_live_roster]
        refine and_congr_right' (imp_congr_right fun _ => exists_congr fun m => ?_)
        rw [Roster.lists_erase, h.lists_iff]
        rfl

/-!
## Adding a metric
-/

theorem mem_groups_ensureGroup (r : Registry) (target : Target) (key : GroupKey) :
    key ∈ (r.ensureGroup target).1.groups ↔ key = target.groupKey ∨ key ∈ r.groups := by
  rw [Std.ExtTreeMap.mem_iff_isSome_getElem?, groups_ensureGroup]
  split
  next hnew => simp [hnew.1]
  next hthere =>
    rw [← Std.ExtTreeMap.mem_iff_isSome_getElem?]
    constructor
    · exact Or.inr
    · rintro (rfl | hmem)
      · by_contra hnot
        exact hthere ⟨rfl, hnot⟩
      · exact hmem

theorem mem_groups_add {target : Target} {metric : MetricId} {valueKind : ValueKind}
    {budget : UInt16} {report : AddReport}
    (hadd : r.add target metric valueKind budget = .ok (r', report)) (key : GroupKey) :
    key ∈ r'.groups ↔
      key = target.groupKey ∨ key ∈ (r.leaveOther target.groupKey metric).1.groups := by
  rcases add_steps hadd with ⟨hr', _, _⟩
  rcases mem_ensureGroup (r.leaveOther target.groupKey metric).1 target with ⟨slot, hslot⟩
  rw [hr', enter_of_some hslot]
  show key ∈ Std.ExtTreeMap.insert _ _ _ ↔ _
  rw [mem_groups_replace hslot, mem_groups_ensureGroup]

/-- A metric is refreshed rather than inserted if the group of its target polls it already. -/
theorem Consistent.outcome_add (h : r.Consistent) {target : Target} {metric : MetricId}
    {valueKind : ValueKind} {budget : UInt16} {report : AddReport}
    (hadd : r.add target metric valueKind budget = .ok (r', report)) :
    report.outcome =
      if r.index[metric]? = some target.groupKey then .refreshed else .inserted := by
  have hleft := h.leaveOther target.groupKey metric
  rcases mem_ensureGroup (r.leaveOther target.groupKey metric).1 target with ⟨slot, hslot⟩
  have hthere : metric ∈ slot.group.entries ↔ r.index[metric]? = some target.groupKey := by
    rw [← holds_iff_mem hslot, holds_ensureGroup, ← hleft.index_iff]
    rcases stays_or_moves r target.groupKey metric with hstays | ⟨previous, hlisted, hne⟩
    · rw [leaveOther_of_stays hstays]
    · rw [leaveOther_of_moves hlisted hne, index_dropEntry, hlisted]
      simp [hne]
  have houtcome : report.outcome =
      ((((r.leaveOther target.groupKey metric).1.ensureGroup target).1.enter
        target.groupKey metric valueKind budget)).2 := by
    unfold Registry.add at hadd
    split at hadd
    · cases hadd
    · cases hadd
      rfl
  rw [houtcome]
  unfold Registry.enter
  rw [hslot]
  show (if metric ∈ slot.group.entries then AddOutcome.refreshed else .inserted) = _
  simp only [hthere]

theorem Consistent.roster_add (h : r.Consistent) {target : Target} {metric : MetricId}
    {valueKind : ValueKind} {budget : UInt16} {report : AddReport}
    (hadd : r.add target metric valueKind budget = .ok (r', report)) :
    r.roster.add target.groupKey metric valueKind budget = (r'.roster, report.outcome) := by
  have houtcome := h.outcome_add hadd
  have hlive := mem_groups_add hadd
  have hrows : ∀ other : MetricId, r'.roster.rows[other]? = (r.roster.enter metric
      { key := target.groupKey, valueKind, remaining := budget, budget }).rows[other]? := by
    intro other
    unfold Roster.enter
    rw [lookup_insert]
    split
    next heq =>
      subst heq
      rw [lookup_roster, h.row_add hadd]
      rfl
    next hne => exact lookup_roster_congr (row_add_of_ne hne hadd)
  unfold Roster.add
  dsimp only
  rcases stays_or_moves r target.groupKey metric with hstays | ⟨previous, hlisted, hne⟩
  · have hentered : r'.roster = r.roster.enter metric
        { key := target.groupKey, valueKind, remaining := budget, budget } := by
      apply roster_eq hrows
      intro key
      rw [hlive, leaveOther_of_stays hstays, Roster.mem_live_enter, mem_live_roster]
    rcases hstays with hunlisted | hlisted
    · rw [hunlisted, if_neg (by simp)] at houtcome
      rw [lookup_roster_of_unlisted hunlisted, hentered, houtcome]
    · rcases h.lookup_roster_of_listed hlisted with ⟨_, e, _, _, hrow⟩
      have hsame : (Roster.Row.ofEntry target.groupKey e).key = target.groupKey := rfl
      rw [hlisted, if_pos rfl] at houtcome
      rw [hrow, hentered, houtcome]
      dsimp only
      rw [if_pos hsame]
  · rcases h.lookup_roster_of_listed hlisted with ⟨_, e, _, _, hrow⟩
    have hmoves : (Roster.Row.ofEntry previous e).key ≠ target.groupKey := hne
    have hreleased : r'.roster = (r.roster.enter metric
        { key := target.groupKey, valueKind, remaining := budget, budget }).release previous := by
      apply roster_eq
      · intro other
        rw [Roster.rows_release, hrows]
      · intro key
        rw [hlive, leaveOther_of_moves hlisted hne, mem_groups_dropEntry, Roster.mem_live_release,
          Roster.mem_live_enter, mem_live_roster]
        have hothers : (∃ m, (r.roster.enter metric
            { key := target.groupKey, valueKind, remaining := budget, budget }).Lists previous m) ↔
            ∃ m, metric ≠ m ∧ r.Holds previous m := by
          refine exists_congr fun m => ?_
          rw [← h.lists_iff]
          exact Roster.lists_enter r.roster metric m hne.symm
        rw [hothers]
        constructor
        · rintro (rfl | ⟨hmem, hothers⟩)
          · exact ⟨Or.inl rfl, fun heq => absurd heq.symm hne⟩
          · exact ⟨Or.inr hmem, hothers⟩
        · rintro ⟨rfl | hmem, hothers⟩
          · exact Or.inl rfl
          · exact Or.inr ⟨hmem, hothers⟩
    rw [hlisted, if_neg (by simpa using hne)] at houtcome
    rw [hrow, hreleased, houtcome]
    dsimp only
    rw [if_neg hmoves]
    rfl

/-!
## Stopping groups
-/

theorem length_dropGroups (r : Registry) {keys : List GroupKey} (hkeys : keys.Nodup)
    (hthere : ∀ key ∈ keys, key ∈ r.groups) : (r.dropGroups keys).2.length = keys.length := by
  induction keys generalizing r with
  | nil => rfl
  | cons key keys ih =>
      rcases List.nodup_cons.mp hkeys with ⟨hfirst, hrest⟩
      rcases exists_lookup_of_mem (hthere key List.mem_cons_self) with ⟨slot, hslot⟩
      have hlater : ∀ other ∈ keys, other ∈ (r.dropGroup key).1.groups := by
        intro other hother
        rw [groups_dropGroup, Std.ExtTreeMap.mem_erase, Ne, Std.LawfulEqOrd.compare_eq_iff_eq]
        refine ⟨?_, hthere other (List.mem_cons_of_mem _ hother)⟩
        rintro rfl
        exact hfirst hother
      show ((r.dropGroup key).2.toList ++ ((r.dropGroup key).1.dropGroups keys).2).length = _
      rw [List.length_append, dropped_of_some hslot, ih _ hrest hlater, List.length_cons, Nat.add_comm]
      rfl

theorem nodup_keys (r : Registry) : r.keys.Nodup := by
  refine List.Pairwise.imp ?_ (Std.ExtTreeMap.distinct_keys (t := r.groups))
  intro key other hne heq
  subst heq
  exact hne Std.ReflOrd.compare_self

theorem mem_keys_of_container (r : Registry) (container : ContainerId) (key : GroupKey) :
    key ∈ r.keys.filter (·.container = container) ↔
      key ∈ r.groups ∧ key.container = container := by
  rw [List.mem_filter, decide_eq_true_iff]
  exact and_congr_left' Std.ExtTreeMap.mem_keys

/-- When groups were stopped, their keys are live no more and their rows are gone. -/
theorem Consistent.roster_dropGroups (h : r.Consistent) (keys : List GroupKey) (metric : MetricId) :
    (r.dropGroups keys).1.roster.rows[metric]? =
      r.roster.rows[metric]?.filter (·.key ∉ keys) := by
  apply Option.ext
  intro row
  rw [(h.dropGroups keys).lookup_roster_iff, Option.filter_eq_some_iff, h.lookup_roster_iff,
    decide_eq_true_iff]
  unfold entryUnder
  rw [groups_dropGroups]
  by_cases hmem : row.key ∈ keys <;> simp [hmem]

theorem Consistent.key_mem_of_row (h : r.Consistent) {metric : MetricId} {row : Roster.Row}
    (hrow : r.roster.rows[metric]? = some row) : row.key ∈ r.groups := by
  rcases (h.lookup_roster_iff metric row).mp hrow with ⟨e, hentry, _⟩
  rcases Option.bind_eq_some_iff.mp hentry with ⟨slot, hslot, _⟩
  exact mem_of_lookup hslot

theorem mem_groups_dropGroups (r : Registry) (keys : List GroupKey) (key : GroupKey) :
    key ∈ (r.dropGroups keys).1.groups ↔ key ∉ keys ∧ key ∈ r.groups := by
  rw [Std.ExtTreeMap.mem_iff_isSome_getElem?, groups_dropGroups,
    Std.ExtTreeMap.mem_iff_isSome_getElem?]
  by_cases hmem : key ∈ keys <;> simp [hmem]

theorem Consistent.roster_stopContainer (h : r.Consistent) (container : ContainerId) :
    r.roster.stopContainer container =
      ((r.stopContainer container).1.roster, (r.stopContainer container).2.length) := by
  have hkeys : ∀ key, key ∈ r.keys.filter (·.container = container) ↔
      key ∈ r.groups ∧ key.container = container := r.mem_keys_of_container container
  unfold Roster.stopContainer Registry.stopContainer
  refine Prod.ext (roster_eq ?_ ?_).symm ?_
  · intro metric
    rw [h.roster_dropGroups, Std.ExtTreeMap.getElem?_filter']
    cases hrow : r.roster.rows[metric]? with
    | none => rfl
    | some row =>
        have hthere := h.key_mem_of_row hrow
        simp [Option.filter, hkeys, hthere]
  · intro key
    rw [mem_groups_dropGroups, hkeys]
    show _ ↔ key ∈ r.roster.live.filter (·.container ≠ container)
    rw [Roster.mem_live_filter, mem_live_roster, decide_eq_true_iff]
    exact ⟨fun hkept => ⟨hkept.2, fun hstopped => hkept.1 ⟨hkept.2, hstopped⟩⟩,
      fun hkept => ⟨fun hstopped => hkept.2 hstopped.2, hkept.1⟩⟩
  · rw [length_dropGroups r ((nodup_keys r).filter _) fun key hkey => ((hkeys key).mp hkey).1]
    show (r.roster.live.filter (·.container = container)).size = _
    rw [← Std.ExtTreeSet.length_toList, Std.ExtTreeSet.toList_filter, toList_live_roster]

theorem Consistent.roster_stopAll (h : r.Consistent) :
    r.roster.stopAll = (r.stopAll.1.roster, r.stopAll.2.length) := by
  have hkeys : ∀ key, key ∈ r.keys ↔ key ∈ r.groups := fun key => Std.ExtTreeMap.mem_keys
  unfold Roster.stopAll Registry.stopAll
  refine Prod.ext (roster_eq ?_ ?_).symm ?_
  · intro metric
    rw [h.roster_dropGroups]
    cases hrow : r.roster.rows[metric]? with
    | none => rfl
    | some row =>
        have hthere := h.key_mem_of_row hrow
        simp [Option.filter, hkeys, hthere]
  · intro key
    rw [mem_groups_dropGroups, hkeys]
    simp
  · rw [length_dropGroups r (nodup_keys r) fun key => (hkeys key).mp,
      ← Std.ExtTreeSet.length_toList, toList_live_roster]

/-!
## Rounds
-/

theorem Consistent.selectors_roster (h : r.Consistent) {key : GroupKey} {slot : Slot}
    (hslot : r.groups[key]? = some slot) :
    r.roster.selectors key = slot.group.request.metrics := by
  unfold Roster.selectors
  rw [h.under_roster hslot, Std.ExtTreeMap.toList_map, List.map_map]
  show _ = slot.group.toList.map (·.selector)
  rw [Group.toList_eq, List.map_map]
  apply List.map_congr_left
  rintro ⟨metric, e⟩ hmem
  have he := Std.ExtTreeMap.mem_toList_iff_getElem?_eq_some.mp hmem
  show ({ metric, valueKind := e.valueKind } : MetricSelector) = ⟨e.metric, e.valueKind⟩
  rw [(h.valid hslot).sound.metric_eq he]

theorem Consistent.roster_tick_of_isEmpty (h : r.Consistent) {ref : GroupRef} {slot : Slot}
    (hslot : r.groups[ref.key]? = some slot) (hcurrent : slot.generation = ref.generation)
    (hempty : slot.group.isEmpty = true) :
    (r.tick ref).1.roster = { r.roster with live := r.roster.live.erase ref.key } := by
  have hstop : slot.group.tick.2 = .stop := by rw [Group.tick_of_stop (Or.inr hempty)]
  rw [h.tick_of_stop hslot hcurrent hstop]
  apply roster_eq
  · intro metric
    apply lookup_roster_congr
    apply row_eq_of_ne
    · rw [index_dropGroup_of_isEmpty hslot hempty]
    · intro key
      exact entryUnder_dropGroup_of_isEmpty hslot hempty key metric
  · intro key
    rw [groups_dropGroup, Std.ExtTreeMap.mem_erase, Roster.mem_live_erase, mem_live_roster, Ne,
      Std.LawfulEqOrd.compare_eq_iff_eq, eq_comm]

/-- A round of a group with metrics spends one poll of each row under its key. -/
theorem Consistent.roster_tick_of_poll (h : r.Consistent) {ref : GroupRef} {slot : Slot}
    (hslot : r.groups[ref.key]? = some slot) (hcurrent : slot.generation = ref.generation)
    (hfull : slot.group.isEmpty = false) :
    (r.tick ref).1.roster = { r.roster with
      rows := r.roster.rows.filterMap fun _ row =>
        if row.key = ref.key then row.spend else some row } := by
  have hgo : ¬(slot.group.state = .stopped ∨ slot.group.isEmpty = true) := by
    rintro (hstopped | hempty)
    · exact (h.valid hslot).sound.state_ne_stopped hstopped
    · rw [hfull] at hempty
      cases hempty
  have hafter := h.tick ref
  have hregistry := tick_of_poll hslot hcurrent (Group.tick_of_poll hgo)
  have hgroups : (r.tick ref).1.groups =
      r.groups.insert ref.key { slot with group := slot.group.tick.1 } := by rw [hregistry]
  have hentry : ∀ (key : GroupKey) (metric : MetricId), (r.tick ref).1.entryUnder key metric =
      if key = ref.key then
        ((r.entryUnder key metric).map Entry.spend).filter fun e => !e.exhausted
      else r.entryUnder key metric := by
    intro key metric
    unfold entryUnder
    rw [hgroups, lookup_insert]
    by_cases hkey : key = ref.key
    · subst hkey
      rw [if_pos rfl, if_pos rfl, hslot, Option.bind_some, Option.bind_some]
      exact Group.getElem?_tick hgo metric
    · rw [if_neg (Ne.symm hkey), if_neg hkey]
  apply roster_eq
  · intro metric
    apply Option.ext
    intro row
    rw [hafter.lookup_roster_iff, Std.ExtTreeMap.getElem?_filterMap', Option.bind_eq_some_iff,
      hentry]
    constructor
    · rintro ⟨e', he', hrow⟩
      by_cases hkey : row.key = ref.key
      · rw [if_pos hkey, Option.filter_eq_some_iff, Option.map_eq_some_iff] at he'
        rcases he' with ⟨⟨e, he, rfl⟩, hleft⟩
        refine ⟨.ofEntry row.key e, (h.lookup_roster_iff metric _).mpr ⟨e, he, rfl⟩, ?_⟩
        rw [if_pos (show (Roster.Row.ofEntry row.key e).key = ref.key from hkey),
          Roster.Row.spend_ofEntry]
        exact ⟨by simpa using hleft, hrow⟩
      · rw [if_neg hkey] at he'
        exact ⟨row, (h.lookup_roster_iff metric row).mpr ⟨e', he', hrow⟩, if_neg hkey⟩
    · rintro ⟨before, hbefore, hafter'⟩
      rcases (h.lookup_roster_iff metric before).mp hbefore with ⟨e, he, hof⟩
      split at hafter'
      next hkey =>
        rw [← hof, Roster.Row.spend_ofEntry] at hafter'
        rcases hafter' with ⟨hleft, rfl⟩
        refine ⟨e.spend, ?_, rfl⟩
        rw [if_pos (show (Roster.Row.ofEntry before.key e.spend).key = ref.key from hkey),
          Option.filter_eq_some_iff]
        exact ⟨Option.map_eq_some_iff.mpr ⟨e, he, rfl⟩, by simpa using hleft⟩
      next hkey =>
        cases hafter'
        exact ⟨e, by rw [if_neg hkey]; exact he, hof⟩
  · intro key
    rw [hgroups, mem_groups_replace hslot, mem_live_roster]

theorem Consistent.roster_tick (h : r.Consistent) {ref : GroupRef} {slot : Slot}
    (hslot : r.groups[ref.key]? = some slot) (hcurrent : slot.generation = ref.generation) :
    (r.tick ref).1.roster = (r.roster.tick ref.key).1 := by
  unfold Roster.tick
  rw [h.isEmpty_under_roster hslot]
  cases hempty : slot.group.isEmpty with
  | true => exact h.roster_tick_of_isEmpty hslot hcurrent hempty
  | false => exact h.roster_tick_of_poll hslot hcurrent hempty

end Registry

namespace Polling

variable {p : Polling}

/-- What an operation of background polling, called now, does and answers. -/
structure KeepsRoster (p : Polling) : Prop where
  add : ∀ (target : Target) (metric : MetricId) (valueKind : ValueKind) (budget : UInt16),
    1 ≤ target.interval.wholeMillis →
      let roster := p.registry.roster.add target.groupKey metric valueKind budget
      (p.add target metric valueKind budget).1.registry.roster = roster.1 ∧
        (p.add target metric valueKind budget).2 = .ok roster.2
  refresh : ∀ metric,
    let roster := p.registry.roster.refresh metric
    (p.refresh metric).1.registry.roster = roster.1 ∧ (p.refresh metric).2 = roster.2
  remove : ∀ metric,
    let roster := p.registry.roster.remove metric
    (p.remove metric).1.registry.roster = roster.1 ∧ (p.remove metric).2 = roster.2
  stopContainer : ∀ container,
    let roster := p.registry.roster.stopContainer container
    (p.stopContainer container).1.registry.roster = roster.1 ∧
      (p.stopContainer container).2 = roster.2
  stopAll :
    let roster := p.registry.roster.stopAll
    p.stopAll.1.registry.roster = roster.1 ∧ p.stopAll.2 = roster.2
  /-- A round of a group by its present ticker asks for the metrics under the key, the lowest number
  first, each with its type. -/
  tick : ∀ (ref : GroupRef) (slot : Slot), p.registry.groups[ref.key]? = some slot →
    slot.generation = ref.generation →
      let roster := p.registry.roster.tick ref.key
      (p.tick ref).1.registry.roster = roster.1 ∧
        match roster.2 with
        | none => (p.tick ref).2 = none
        | some selectors =>
            (∃ correlation, (p.tick ref).2 =
              some (p.pollMessage slot.group.target.key correlation
                { container := ref.key.container
                  containerKind := slot.group.target.containerKind
                  metrics := selectors })) ∧
            (selectors.Pairwise fun selector later => selector.metric < later.metric) ∧
            ∀ selector, selector ∈ selectors ↔
              ∃ row, p.registry.roster.rows[selector.metric]? = some row ∧ row.key = ref.key ∧
                row.valueKind = selector.valueKind
  late : ∀ ref, p.registry.Stale ref → p.tick ref = (p, none)

/-- A round publishes the request of a group that has metrics, and nothing for one without. -/
theorem message_tick (h : p.registry.Consistent) {ref : GroupRef} {slot : Slot}
    (hslot : p.registry.groups[ref.key]? = some slot)
    (hcurrent : slot.generation = ref.generation) :
    if slot.group.isEmpty then (p.tick ref).2 = none
    else ∃ correlation, (p.tick ref).2 =
      some (p.pollMessage slot.group.target.key correlation slot.group.request) := by
  have hrunning := (h.valid hslot).sound.state_ne_stopped
  unfold tick
  rcases h.tick_cases ref with
    ⟨_, hstale⟩ | ⟨slot', hslot', _, ⟨hgo, hround⟩ | ⟨hgo, expired, _, _, hreport⟩⟩
  · exact absurd hcurrent (hstale slot hslot)
  · cases hslot.symm.trans hslot'
    rw [hround, if_pos (hgo.resolve_left hrunning)]
  · cases hslot.symm.trans hslot'
    rw [if_neg fun hempty => hgo (Or.inr hempty)]
    cases hround : p.registry.tick ref with
    | mk r report =>
        rw [hround] at hreport
        dsimp only at hreport
        subst hreport
        exact ⟨_, rfl⟩

theorem keepsRoster (h : p.registry.Consistent) : p.KeepsRoster where
  add := by
    intro target metric valueKind budget hinterval roster
    rcases Registry.add_of_accepted p.registry (Nat.one_le_iff_ne_zero.mp hinterval) metric
      valueKind budget with ⟨report, hadd⟩
    have hroster : roster = _ := h.roster_add hadd
    rw [registry_add_of_ok hadd, hroster]
    refine ⟨rfl, ?_⟩
    unfold Polling.add
    rw [hadd]
  refresh := by
    intro metric roster
    have hroster : roster = _ := h.roster_refresh metric
    rw [hroster]
    exact ⟨rfl, rfl⟩
  remove := by
    intro metric roster
    have hroster : roster = _ := h.roster_remove metric
    rw [registry_remove, hroster]
    refine ⟨rfl, ?_⟩
    unfold Polling.remove
    cases p.registry.remove metric with
    | mk r dropped => cases dropped <;> rfl
  stopContainer := by
    intro container roster
    have hroster : roster = _ := h.roster_stopContainer container
    rw [hroster]
    exact ⟨rfl, rfl⟩
  stopAll := by
    intro roster
    have hroster : roster = _ := h.roster_stopAll
    rw [hroster]
    exact ⟨rfl, rfl⟩
  tick := by
    intro ref slot hslot hcurrent roster
    rw [registry_tick]
    refine ⟨h.roster_tick hslot hcurrent, ?_⟩
    have hmessage := message_tick h hslot hcurrent
    have hrequest : slot.group.request =
        { container := ref.key.container
          containerKind := slot.group.target.containerKind
          metrics := p.registry.roster.selectors ref.key } := by
      rw [h.selectors_roster hslot, ← (h.valid hslot).key_eq]
      rfl
    unfold roster Roster.tick
    rw [h.isEmpty_under_roster hslot]
    cases hempty : slot.group.isEmpty with
    | true =>
        rw [hempty, if_pos rfl] at hmessage
        exact hmessage
    | false =>
        rw [hempty, if_neg Bool.false_ne_true, hrequest] at hmessage
        exact ⟨hmessage, Roster.pairwise_selectors _ ref.key, Roster.mem_selectors_iff _ ref.key⟩
  late := fun _ hstale => tick_of_stale hstale

/-!
## Runs
-/

/-- A round, late or not, leaves the roster alone or is a round of a key there. -/
theorem roster_tick_cases (h : p.registry.Consistent) (ref : GroupRef) :
    (p.registry.tick ref).1.roster = p.registry.roster ∨
      (p.registry.tick ref).1.roster = (p.registry.roster.tick ref.key).1 := by
  rcases h.tick_cases ref with ⟨hround, _⟩ | ⟨slot, hslot, hcurrent, _⟩
  · rw [hround]
    exact Or.inl rfl
  · exact Or.inr (h.roster_tick hslot hcurrent)

theorem roster_perform (h : p.registry.Consistent) (op : Op) :
    (p.perform op).registry.roster = p.registry.roster ∨
      ∃ order, (p.perform op).registry.roster = p.registry.roster.perform order := by
  have hkeeps := keepsRoster h
  have hround : ∀ ref, (p.registry.tick ref).1.roster = p.registry.roster ∨
      ∃ order, (p.registry.tick ref).1.roster = p.registry.roster.perform order := by
    intro ref
    rcases roster_tick_cases h ref with hsame | hticked
    · exact Or.inl hsame
    · exact Or.inr ⟨.tick ref.key, hticked⟩
  cases op with
  | add target metric valueKind budget =>
      by_cases hinterval : target.interval.wholeMillis = 0
      · left
        show (p.add target metric valueKind budget).1.registry.roster = _
        rw [add_of_error (Registry.add_of_refused hinterval metric valueKind budget)]
      · exact Or.inr ⟨.add target.groupKey metric valueKind budget,
          (hkeeps.add target metric valueKind budget (Nat.one_le_iff_ne_zero.mpr hinterval)).1⟩
  | refresh metric => exact Or.inr ⟨.refresh metric, (hkeeps.refresh metric).1⟩
  | remove metric => exact Or.inr ⟨.remove metric, (hkeeps.remove metric).1⟩
  | stopContainer container => exact Or.inr ⟨.stopContainer container, (hkeeps.stopContainer _).1⟩
  | stopAll => exact Or.inr ⟨.stopAll, hkeeps.stopAll.1⟩
  | shutdown => exact Or.inr ⟨.stopAll, hkeeps.stopAll.1⟩
  | tick ref =>
      show (p.tick ref).1.registry.roster = _ ∨ ∃ order, (p.tick ref).1.registry.roster = _
      rw [registry_tick]
      exact hround ref
  | turn generation preference =>
      show (p.stepTicker generation preference).registry.roster = _ ∨
        ∃ order, (p.stepTicker generation preference).registry.roster = _
      rcases registry_stepTicker p generation preference with hsame | ⟨ref, hticked⟩
      · rw [hsame]
        exact Or.inl rfl
      · rw [hticked]
        exact hround ref

theorem roster_follow (h : p.registry.Consistent) (moves : List Move) :
    (p.follow moves).registry.Consistent ∧
      ∃ orders, (p.follow moves).registry.roster = p.registry.roster.run orders := by
  induction moves using List.reverseRecOn with
  | nil => exact ⟨h, [], rfl⟩
  | append_singleton moves last ih =>
      rcases ih with ⟨hconsistent, orders, horders⟩
      rw [follow_append]
      cases last with
      | perform op =>
          refine ⟨consistent_perform hconsistent op, ?_⟩
          rcases roster_perform hconsistent op with hsame | ⟨order, horder⟩
          · exact ⟨orders, hsame.trans horders⟩
          · refine ⟨orders ++ [order], ?_⟩
            rw [Roster.run_concat, ← horders]
            exact horder
      | share f => exact ⟨hconsistent, orders, horders⟩

end Polling
end Pulling
end MetricGateway
