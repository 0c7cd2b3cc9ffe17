import MetricGateway.Proofs.Pulling.Consistency

/-!
# Which metrics are polled, and how

The row of a metric is the key of the group that polls it together with its entry there.  Adding a
metric gives it a new row and leaves the rows of the others alone, also where the metric moves
between groups and a group is dropped on the way.
-/

namespace MetricGateway
namespace Pulling
namespace Registry

def entryUnder (r : Registry) (key : GroupKey) (metric : MetricId) : Option Entry :=
  r.groups[key]?.bind fun slot => slot.group.entries[metric]?

def row (r : Registry) (metric : MetricId) : Option (GroupKey × Entry) :=
  r.index[metric]?.bind fun key => (r.entryUnder key metric).map fun e => (key, e)

theorem entry?_eq (r : Registry) (metric : MetricId) : r.entry? metric = (r.row metric).map (·.2) := by
  unfold row entry? entryUnder
  cases hlisted : r.index[metric]? with
  | none => rfl
  | some key =>
      rw [Option.bind_some, Option.map_map]
      exact (Option.map_id_apply).symm

theorem entryUnder_of_groups_eq {r r' : Registry} {key : GroupKey}
    (h : r'.groups[key]? = r.groups[key]?) (metric : MetricId) :
    r'.entryUnder key metric = r.entryUnder key metric := by
  unfold entryUnder
  rw [h]

theorem row_eq_of_ne {r r' : Registry} {metric : MetricId}
    (hindex : r'.index[metric]? = r.index[metric]?)
    (hentry : ∀ key, r'.entryUnder key metric = r.entryUnder key metric) :
    r'.row metric = r.row metric := by
  unfold row
  rw [hindex]
  cases r.index[metric]? with
  | none => rfl
  | some key => rw [Option.bind_some, Option.bind_some, hentry]

theorem Consistent.row_eq_none_iff {r : Registry} (h : r.Consistent) (metric : MetricId) :
    r.row metric = none ↔ ∀ key, ¬r.Holds key metric := by
  unfold row
  constructor
  · intro hrow key hholds
    rw [(h.index_iff metric key).mpr hholds, Option.bind_some] at hrow
    rcases hholds with ⟨slot, hslot, hmem⟩
    rw [Std.ExtTreeMap.mem_iff_isSome_getElem?] at hmem
    simp [entryUnder, hslot] at hrow
    simp [hrow] at hmem
  · intro hfree
    cases hlisted : r.index[metric]? with
    | none => rfl
    | some key => exact absurd ((h.index_iff metric key).mp hlisted) (hfree key)

/-!
## Adding a metric
-/

theorem entryUnder_dropGroup_of_isEmpty {r : Registry} {key : GroupKey} {slot : Slot}
    (hslot : r.groups[key]? = some slot) (hempty : slot.group.isEmpty = true) (other : GroupKey)
    (metric : MetricId) :
    (r.dropGroup key).1.entryUnder other metric = r.entryUnder other metric := by
  by_cases heq : key = other
  · subst heq
    have hnone : slot.group.entries[metric]? = none := by
      unfold Group.isEmpty at hempty
      rw [Std.ExtTreeMap.isEmpty_iff.mp hempty]
      exact Std.ExtTreeMap.getElem?_empty
    simp [entryUnder, groups_dropGroup, hslot, hnone]
  · apply entryUnder_of_groups_eq
    rw [groups_dropGroup]
    simp [Std.ExtTreeMap.getElem?_erase, heq]

theorem entryUnder_replace {r : Registry} {key : GroupKey} {slot : Slot}
    (hslot : r.groups[key]? = some slot) {group : Group} {metric : MetricId}
    (h : group.entries[metric]? = slot.group.entries[metric]?) (other : GroupKey) :
    Registry.entryUnder { r with groups := r.groups.insert key { slot with group } } other metric =
      r.entryUnder other metric := by
  unfold entryUnder
  by_cases heq : key = other
  · subst heq
    rw [Std.ExtTreeMap.getElem?_insert_self, hslot]
    exact h
  · simp [Std.ExtTreeMap.getElem?_insert, heq]

theorem entryUnder_dropEntry_of_ne (r : Registry) (key other : GroupKey) {metric m : MetricId}
    (hne : metric ≠ m) :
    (r.dropEntry key metric).1.entryUnder other m = r.entryUnder other m := by
  cases hslot : r.groups[key]? with
  | none => rw [dropEntry_of_none hslot]
  | some slot =>
      have hkept : (slot.group.remove metric).1.entries[m]? = slot.group.entries[m]? := by
        rw [Group.getElem?_remove, if_neg hne]
      rw [dropEntry_of_some hslot]
      dsimp only
      split
      next hempty =>
        rw [entryUnder_dropGroup_of_isEmpty Std.ExtTreeMap.getElem?_insert_self hempty]
        exact entryUnder_replace hslot hkept other
      next => exact entryUnder_replace hslot hkept other

theorem entryUnder_leaveOther_of_ne (r : Registry) (key other : GroupKey) {metric m : MetricId}
    (hne : metric ≠ m) :
    (r.leaveOther key metric).1.entryUnder other m = r.entryUnder other m := by
  rcases stays_or_moves r key metric with hstays | ⟨previous, hlisted, hmoves⟩
  · rw [leaveOther_of_stays hstays]
  · rw [leaveOther_of_moves hlisted hmoves]
    exact entryUnder_dropEntry_of_ne _ previous other hne

theorem entryUnder_ensureGroup (r : Registry) (target : Target) (key : GroupKey)
    (metric : MetricId) :
    (r.ensureGroup target).1.entryUnder key metric = r.entryUnder key metric := by
  unfold entryUnder
  rw [groups_ensureGroup]
  split
  next hnew =>
    rcases hnew with ⟨rfl, hnot⟩
    rw [Std.ExtTreeMap.getElem?_eq_none hnot]
    simp [Group.new]
  next => rfl

theorem Consistent.row_enter {r : Registry} (h : r.Consistent) {key : GroupKey} {slot : Slot}
    (hslot : r.groups[key]? = some slot) (metric : MetricId) (valueKind : ValueKind)
    (budget : UInt16) :
    (r.enter key metric valueKind budget).1.row metric =
      some (key, .new metric valueKind budget) := by
  have hsound := (h.valid hslot).sound
  rw [enter_of_some hslot]
  unfold row entryUnder
  simp only [Std.ExtTreeMap.getElem?_insert_self, Option.bind_some, Group.getElem?_add, if_true,
    Option.map_some]
  rw [hsound.entryOnAdd_eq]

theorem row_enter_of_ne {r : Registry} {key : GroupKey} {slot : Slot}
    (hslot : r.groups[key]? = some slot) {metric m : MetricId} (hne : metric ≠ m)
    (valueKind : ValueKind) (budget : UInt16) :
    (r.enter key metric valueKind budget).1.row m = r.row m := by
  rw [enter_of_some hslot]
  apply row_eq_of_ne
  · simp [Std.ExtTreeMap.getElem?_insert, hne]
  · intro other
    have hkept : (slot.group.add metric valueKind budget).1.entries[m]? =
        slot.group.entries[m]? := by
      rw [Group.getElem?_add, if_neg hne]
    exact entryUnder_replace hslot hkept other

/-- A metric that was added is polled by the group of its target, with a full budget. -/
theorem Consistent.row_add {r r' : Registry} (h : r.Consistent) {target : Target}
    {metric : MetricId} {valueKind : ValueKind} {budget : UInt16} {report : AddReport}
    (hadd : r.add target metric valueKind budget = .ok (r', report)) :
    r'.row metric = some (target.groupKey, .new metric valueKind budget) := by
  by_cases hrefused : target.interval.wholeMillis = 0
  · rw [add_of_refused hrefused] at hadd
    cases hadd
  · rcases add_of_accepted r hrefused metric valueKind budget with ⟨report', haccepted⟩
    rw [haccepted] at hadd
    cases hadd
    have hready := (h.leaveOther target.groupKey metric).ensureGroup
      (Nat.one_le_iff_ne_zero.mpr hrefused)
    rcases mem_ensureGroup (r.leaveOther target.groupKey metric).1 target with ⟨slot, hslot⟩
    exact hready.row_enter hslot metric valueKind budget

theorem row_add_of_ne {r r' : Registry} {target : Target} {metric m : MetricId}
    (hne : metric ≠ m) {valueKind : ValueKind} {budget : UInt16} {report : AddReport}
    (hadd : r.add target metric valueKind budget = .ok (r', report)) :
    r'.row m = r.row m := by
  by_cases hrefused : target.interval.wholeMillis = 0
  · rw [add_of_refused hrefused] at hadd
    cases hadd
  · rcases add_of_accepted r hrefused metric valueKind budget with ⟨report', haccepted⟩
    rw [haccepted] at hadd
    cases hadd
    rcases mem_ensureGroup (r.leaveOther target.groupKey metric).1 target with ⟨slot, hslot⟩
    rw [row_enter_of_ne hslot hne]
    apply row_eq_of_ne
    · rw [index_ensureGroup]
      exact index_leaveOther_of_ne r target.groupKey hne
    · intro key
      rw [entryUnder_ensureGroup]
      exact entryUnder_leaveOther_of_ne r target.groupKey key hne

/-!
## Dropping groups
-/

theorem groups_dropGroups (r : Registry) (keys : List GroupKey) (key : GroupKey) :
    (r.dropGroups keys).1.groups[key]? = if key ∈ keys then none else r.groups[key]? := by
  induction keys generalizing r with
  | nil => simp [dropGroups]
  | cons first rest ih =>
      show ((r.dropGroup first).1.dropGroups rest).1.groups[key]? = _
      rw [ih, groups_dropGroup]
      by_cases heq : first = key
      · simp [heq]
      · simp [Std.ExtTreeMap.getElem?_erase, heq, Ne.symm heq]

theorem groups_stopAll (r : Registry) (key : GroupKey) : r.stopAll.1.groups[key]? = none := by
  unfold stopAll
  rw [groups_dropGroups]
  split
  next => rfl
  next hnot =>
    apply Std.ExtTreeMap.getElem?_eq_none
    intro hmem
    exact hnot (Std.ExtTreeMap.mem_keys.mpr hmem)

theorem row_stopAll (r : Registry) (metric : MetricId) : r.stopAll.1.row metric = none := by
  unfold row entryUnder
  cases r.stopAll.1.index[metric]? with
  | none => rfl
  | some key => rw [Option.bind_some, groups_stopAll, Option.bind_none, Option.map_none]

end Registry
end Pulling
end MetricGateway
