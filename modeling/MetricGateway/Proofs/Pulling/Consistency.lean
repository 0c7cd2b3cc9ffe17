import MetricGateway.Pulling.Registry
import MetricGateway.Proofs.Pulling.Groups

/-!
# Index and groups agree

The registry keeps two maps: the groups, and for every polled metric the key of its group.  This
module shows that every operation of the registry leaves them in agreement, together with what holds
of each group.  Moving and removing a metric break the agreement for that metric for a moment; the
lemma about `dropEntry` therefore assumes it for the others only.
-/

namespace MetricGateway
namespace Pulling

/-- What holds of a registered group under its key. -/
structure Slot.Valid (s : Slot) (key : GroupKey) (newest : Generation) : Prop where
  key_eq : s.group.key = key
  interval : 1 ≤ s.group.target.interval.wholeMillis
  sound : s.group.Sound
  generation_le : s.generation ≤ newest

namespace Registry

/-- Whether the group under a key polls a metric. -/
def Holds (r : Registry) (key : GroupKey) (metric : MetricId) : Prop :=
  ∃ slot, r.groups[key]? = some slot ∧ metric ∈ slot.group.entries

/-- What holds of the groups, whatever the index says. -/
structure SlotsValid (r : Registry) : Prop where
  valid : ∀ {key : GroupKey} {slot : Slot},
    r.groups[key]? = some slot → slot.Valid key r.generations
  distinct : ∀ {key other : GroupKey} {slot slot' : Slot},
    r.groups[key]? = some slot → r.groups[other]? = some slot' →
      slot.generation = slot'.generation → key = other

/-- What holds of a registry between two operations. -/
structure Consistent (r : Registry) : Prop extends r.SlotsValid where
  /-- A metric is listed under a key if and only if the group under the key polls it. -/
  index_iff : ∀ (metric : MetricId) (key : GroupKey),
    r.index[metric]? = some key ↔ r.Holds key metric

theorem consistent_empty : ({} : Registry).Consistent where
  valid := by simp
  distinct := by simp
  index_iff := by simp [Holds]

/-!
## Changes of the groups
-/

theorem SlotsValid.of_groups_eq {r r' : Registry} (h : r.SlotsValid)
    (hgroups : r'.groups = r.groups) (hnewest : r'.generations = r.generations) :
    r'.SlotsValid := by
  constructor
  · intro key slot hslot
    rw [hgroups] at hslot
    rw [hnewest]
    exact h.valid hslot
  · intro key other slot slot' hslot hslot'
    rw [hgroups] at hslot hslot'
    exact h.distinct hslot hslot'

theorem SlotsValid.erase {r : Registry} (h : r.SlotsValid) (key : GroupKey) :
    { r with groups := r.groups.erase key }.SlotsValid := by
  have hsub : ∀ {k : GroupKey} {s : Slot}, (r.groups.erase key)[k]? = some s →
      r.groups[k]? = some s := by
    intro k s hs
    rw [Std.ExtTreeMap.getElem?_erase] at hs
    split at hs
    · cases hs
    · exact hs
  constructor
  · intro k s hs
    exact h.valid (hsub hs)
  · intro k k' s s' hs hs'
    exact h.distinct (hsub hs) (hsub hs')

theorem SlotsValid.replace {r : Registry} (h : r.SlotsValid) {key : GroupKey} {slot : Slot}
    (hslot : r.groups[key]? = some slot) {group : Group} (hsound : group.Sound)
    (htarget : group.target = slot.group.target) :
    { r with groups := r.groups.insert key { slot with group } }.SlotsValid := by
  have hvalid := h.valid hslot
  have hold : ∀ {k : GroupKey} {s : Slot},
      (r.groups.insert key { slot with group })[k]? = some s →
      s.Valid k r.generations ∧
        ∃ s₀, r.groups[k]? = some s₀ ∧ s₀.generation = s.generation := by
    intro k s hs
    rw [Std.ExtTreeMap.getElem?_insert] at hs
    split at hs
    next heq =>
      rw [Std.LawfulEqOrd.compare_eq_iff_eq] at heq
      cases heq
      cases hs
      refine ⟨⟨?_, ?_, hsound, hvalid.generation_le⟩, slot, hslot, rfl⟩
      · show group.target.groupKey = key
        rw [htarget]
        exact hvalid.key_eq
      · show 1 ≤ group.target.interval.wholeMillis
        rw [htarget]
        exact hvalid.interval
    next => exact ⟨h.valid hs, s, hs, rfl⟩
  constructor
  · intro k s hs
    exact (hold hs).1
  · intro k k' s s' hs hs' hgeneration
    rcases (hold hs).2 with ⟨s₀, hs₀, heq⟩
    rcases (hold hs').2 with ⟨s₀', hs₀', heq'⟩
    exact h.distinct hs₀ hs₀' (by rw [heq, heq', hgeneration])

theorem holds_erase (r : Registry) (key other : GroupKey) (metric : MetricId) :
    { r with groups := r.groups.erase key }.Holds other metric ↔
      key ≠ other ∧ r.Holds other metric := by
  unfold Holds
  simp only [Std.ExtTreeMap.getElem?_erase, Std.LawfulEqOrd.compare_eq_iff_eq]
  by_cases heq : key = other <;> simp [heq]

theorem holds_replace (r : Registry) (key : GroupKey) (slot : Slot) (group : Group)
    (other : GroupKey) (metric : MetricId) :
    { r with groups := r.groups.insert key { slot with group } }.Holds other metric ↔
      if key = other then metric ∈ group.entries else r.Holds other metric := by
  unfold Holds
  simp only [Std.ExtTreeMap.getElem?_insert, Std.LawfulEqOrd.compare_eq_iff_eq]
  by_cases heq : key = other <;> simp [heq]

theorem holds_iff_mem {r : Registry} {key : GroupKey} {slot : Slot}
    (hslot : r.groups[key]? = some slot) (metric : MetricId) :
    r.Holds key metric ↔ metric ∈ slot.group.entries := by
  unfold Holds
  rw [hslot]
  simp

theorem holds_of_groups_eq {r r' : Registry} (h : r'.groups = r.groups) (key : GroupKey)
    (metric : MetricId) : r'.Holds key metric ↔ r.Holds key metric := by
  unfold Holds
  rw [h]

/-!
## Dropping a group
-/

theorem dropGroup_of_none {r : Registry} {key : GroupKey} (h : r.groups[key]? = none) :
    r.dropGroup key = (r, none) := by
  unfold dropGroup
  rw [h]

theorem dropped_of_some {r : Registry} {key : GroupKey} {slot : Slot}
    (hslot : r.groups[key]? = some slot) :
    (r.dropGroup key).2 = some ⟨key, slot.generation⟩ := by
  unfold dropGroup
  rw [hslot]

theorem groups_dropGroup (r : Registry) (key : GroupKey) :
    (r.dropGroup key).1.groups = r.groups.erase key := by
  cases hslot : r.groups[key]? with
  | none =>
      rw [dropGroup_of_none hslot]
      apply Std.ExtTreeMap.ext_getElem?
      intro other
      rw [Std.ExtTreeMap.getElem?_erase]
      split
      next heq =>
        rw [Std.LawfulEqOrd.compare_eq_iff_eq] at heq
        rw [← heq, hslot]
      next => rfl
  | some slot =>
      unfold dropGroup
      rw [hslot]

theorem generations_dropGroup (r : Registry) (key : GroupKey) :
    (r.dropGroup key).1.generations = r.generations := by
  unfold dropGroup
  split <;> rfl

theorem index_dropGroup {r : Registry} (h : r.Consistent) (key other : GroupKey)
    (metric : MetricId) :
    (r.dropGroup key).1.index[metric]? = some other ↔
      key ≠ other ∧ r.index[metric]? = some other := by
  have hunder : r.index[metric]? = some other ↔ r.Holds other metric := h.index_iff metric other
  cases hslot : r.groups[key]? with
  | none =>
      rw [dropGroup_of_none hslot, hunder]
      constructor
      · intro hholds
        refine ⟨?_, hholds⟩
        intro heq
        rcases hholds with ⟨slot, hslot', _⟩
        rw [heq, hslot'] at hslot
        cases hslot
      · exact And.right
  | some slot =>
      unfold dropGroup
      simp only [hslot, Std.ExtTreeMap.getElem?_filter', Option.filter_eq_some_iff, hunder]
      by_cases heq : key = other
      · subst heq
        simp [holds_iff_mem hslot]
      · simp [heq, Ne.symm heq]

theorem Consistent.dropGroup {r : Registry} (h : r.Consistent) (key : GroupKey) :
    (r.dropGroup key).1.Consistent where
  toSlotsValid :=
    (h.toSlotsValid.erase key).of_groups_eq (groups_dropGroup r key) (generations_dropGroup r key)
  index_iff := by
    intro metric other
    rw [index_dropGroup h, h.index_iff, ← holds_erase]
    exact (holds_of_groups_eq (groups_dropGroup r key) other metric).symm

/-!
## Dropping an entry

A group that loses its last entry goes at once.  Nothing is listed under it any more by then, so the
index stays as it is.
-/

theorem dropEntry_of_none {r : Registry} {key : GroupKey} (h : r.groups[key]? = none)
    (metric : MetricId) : r.dropEntry key metric = (r, none) := by
  unfold dropEntry
  rw [h]

theorem dropEntry_of_some {r : Registry} {key : GroupKey} {slot : Slot}
    (h : r.groups[key]? = some slot) (metric : MetricId) :
    r.dropEntry key metric =
      let group := (slot.group.remove metric).1
      let left := { r with groups := r.groups.insert key { slot with group } }
      if group.isEmpty then left.dropGroup key else (left, none) := by
  unfold dropEntry
  rw [h]

theorem index_dropGroup_of_isEmpty {r : Registry} {key : GroupKey} {slot : Slot}
    (hslot : r.groups[key]? = some slot) (hempty : slot.group.isEmpty = true) :
    (r.dropGroup key).1.index = r.index := by
  have hnone : slot.group.entries = ∅ := Std.ExtTreeMap.isEmpty_iff.mp hempty
  unfold Registry.dropGroup
  rw [hslot]
  show r.index.filter _ = r.index
  rw [Std.ExtTreeMap.filter_eq_self_iff]
  simp [hnone]

theorem index_dropEntry (r : Registry) (key : GroupKey) (metric : MetricId) :
    (r.dropEntry key metric).1.index = r.index := by
  cases hslot : r.groups[key]? with
  | none => rw [dropEntry_of_none hslot]
  | some slot =>
      rw [dropEntry_of_some hslot]
      dsimp only
      split
      next hempty =>
        rw [index_dropGroup_of_isEmpty Std.ExtTreeMap.getElem?_insert_self hempty]
      next => rfl

theorem Consistent.dropEntry {r : Registry} (hslots : r.SlotsValid) {key : GroupKey}
    {metric : MetricId} (hgone : r.index[metric]? = none)
    (honly : ∀ other, r.Holds other metric → other = key)
    (hrest : ∀ m, metric ≠ m → ∀ other, r.index[m]? = some other ↔ r.Holds other m) :
    (r.dropEntry key metric).1.Consistent := by
  cases hslot : r.groups[key]? with
  | none =>
      rw [dropEntry_of_none hslot]
      refine { toSlotsValid := hslots, index_iff := ?_ }
      intro m other
      by_cases hm : metric = m
      · subst hm
        rw [hgone]
        constructor
        · intro hlisted
          cases hlisted
        · intro hholds
          rcases hholds with ⟨slot, hslot', hmem⟩
          rw [honly other ⟨slot, hslot', hmem⟩, hslot] at hslot'
          cases hslot'
      · exact hrest m hm other
  | some slot =>
      have hleft : Consistent { r with
          groups := r.groups.insert key { slot with group := (slot.group.remove metric).1 } } := by
        refine {
          toSlotsValid := hslots.replace hslot ((hslots.valid hslot).sound.remove metric) rfl
          index_iff := ?_ }
        intro m other
        rw [holds_replace, Group.mem_remove]
        show r.index[m]? = some other ↔ _
        by_cases hm : metric = m
        · subst hm
          rw [hgone]
          by_cases hkey : key = other
          · simp [hkey]
          · have hno : ¬r.Holds other metric := fun hholds => hkey (honly other hholds).symm
            simp [hkey, hno]
        · rw [hrest m hm other]
          by_cases hkey : key = other
          · subst hkey
            simp [hm, holds_iff_mem hslot]
          · simp [hkey]
      rw [dropEntry_of_some hslot]
      dsimp only
      split
      next => exact hleft.dropGroup key
      next => exact hleft

/-- The registry without the index entry of a metric is ready for the entry itself to go. -/
theorem Consistent.dropListed {r : Registry} (h : r.Consistent) {key : GroupKey}
    {metric : MetricId} (hlisted : r.index[metric]? = some key) :
    ({ r with index := r.index.erase metric }.dropEntry key metric).1.Consistent := by
  apply Consistent.dropEntry
  · exact h.toSlotsValid.of_groups_eq rfl rfl
  · simp
  · intro other hholds
    have hother : r.index[metric]? = some other := (h.index_iff metric other).mpr hholds
    rw [hlisted] at hother
    cases hother
    rfl
  · intro m hm other
    show (r.index.erase metric)[m]? = some other ↔ r.Holds other m
    rw [← h.index_iff m other]
    simp [Std.ExtTreeMap.getElem?_erase, hm]

/-!
## Adding a metric

The metric leaves the group that it is polled by, the group of the target is made sure of, and the
metric enters it.
-/

theorem leaveOther_of_stays {r : Registry} {key : GroupKey} {metric : MetricId}
    (h : r.index[metric]? = none ∨ r.index[metric]? = some key) :
    r.leaveOther key metric = (r, none) := by
  unfold leaveOther
  rcases h with h | h <;> simp [h]

theorem leaveOther_of_moves {r : Registry} {key previous : GroupKey} {metric : MetricId}
    (h : r.index[metric]? = some previous) (hne : previous ≠ key) :
    r.leaveOther key metric =
      { r with index := r.index.erase metric }.dropEntry previous metric := by
  unfold leaveOther
  simp [h, hne]

/-- A metric stays in the group under a key, or moves there, or is polled by no group at all. -/
theorem stays_or_moves (r : Registry) (key : GroupKey) (metric : MetricId) :
    (r.index[metric]? = none ∨ r.index[metric]? = some key) ∨
      ∃ previous, r.index[metric]? = some previous ∧ previous ≠ key := by
  cases hlisted : r.index[metric]? with
  | none => exact Or.inl (Or.inl rfl)
  | some previous =>
      by_cases heq : previous = key
      · exact Or.inl (Or.inr (by rw [heq]))
      · exact Or.inr ⟨previous, rfl, heq⟩

theorem Consistent.leaveOther {r : Registry} (h : r.Consistent) (key : GroupKey)
    (metric : MetricId) : (r.leaveOther key metric).1.Consistent := by
  rcases stays_or_moves r key metric with hstays | ⟨previous, hlisted, hne⟩
  · rw [leaveOther_of_stays hstays]
    exact h
  · rw [leaveOther_of_moves hlisted hne]
    exact h.dropListed hlisted

theorem index_leaveOther (r : Registry) (key : GroupKey) (metric : MetricId) :
    (r.leaveOther key metric).1.index[metric]? = none ∨
      (r.leaveOther key metric).1.index[metric]? = some key := by
  rcases stays_or_moves r key metric with hstays | ⟨previous, hlisted, hne⟩
  · rw [leaveOther_of_stays hstays]
    exact hstays
  · rw [leaveOther_of_moves hlisted hne, index_dropEntry]
    exact Or.inl Std.ExtTreeMap.getElem?_erase_self

theorem index_leaveOther_of_ne (r : Registry) (key : GroupKey) {metric other : MetricId}
    (h : metric ≠ other) :
    (r.leaveOther key metric).1.index[other]? = r.index[other]? := by
  rcases stays_or_moves r key metric with hstays | ⟨previous, hlisted, hne⟩
  · rw [leaveOther_of_stays hstays]
  · rw [leaveOther_of_moves hlisted hne, index_dropEntry]
    simp [Std.ExtTreeMap.getElem?_erase, h]

theorem index_ensureGroup (r : Registry) (target : Target) :
    (r.ensureGroup target).1.index = r.index := by
  unfold ensureGroup
  dsimp only
  split <;> rfl

theorem groups_ensureGroup (r : Registry) (target : Target) (key : GroupKey) :
    (r.ensureGroup target).1.groups[key]? =
      if target.groupKey = key ∧ key ∉ r.groups then
        some { group := Group.new target, generation := r.generations + 1 }
      else r.groups[key]? := by
  unfold ensureGroup
  dsimp only
  split
  next hmem =>
    rw [if_neg]
    rintro ⟨rfl, hnot⟩
    exact hnot hmem
  next hnot =>
    simp only [Std.ExtTreeMap.getElem?_insert, Std.LawfulEqOrd.compare_eq_iff_eq]
    by_cases heq : target.groupKey = key
    · subst heq
      simp [hnot]
    · simp [heq]

theorem mem_ensureGroup (r : Registry) (target : Target) :
    ∃ slot, (r.ensureGroup target).1.groups[target.groupKey]? = some slot := by
  rw [groups_ensureGroup]
  split
  next => exact ⟨_, rfl⟩
  next hmem =>
    rw [← Option.isSome_iff_exists, ← Std.ExtTreeMap.mem_iff_isSome_getElem?]
    simpa using hmem

theorem holds_ensureGroup (r : Registry) (target : Target) (key : GroupKey) (metric : MetricId) :
    (r.ensureGroup target).1.Holds key metric ↔ r.Holds key metric := by
  unfold Holds
  rw [groups_ensureGroup]
  split
  next hnew =>
    rcases hnew with ⟨rfl, hnot⟩
    rw [Std.ExtTreeMap.getElem?_eq_none hnot]
    simp [Group.new]
  next => exact Iff.rfl

theorem Consistent.ensureGroup {r : Registry} (h : r.Consistent) {target : Target}
    (hinterval : 1 ≤ target.interval.wholeMillis) : (r.ensureGroup target).1.Consistent := by
  refine { valid := ?_, distinct := ?_, index_iff := ?_ }
  · intro key slot hslot
    have hnewest : r.generations ≤ (r.ensureGroup target).1.generations := by
      unfold Registry.ensureGroup
      dsimp only
      split
      · exact Nat.le_refl _
      · exact Nat.le_succ _
    rw [groups_ensureGroup] at hslot
    split at hslot
    next hnew =>
      cases hslot
      have hcount : (r.ensureGroup target).1.generations = r.generations + 1 := by
        unfold Registry.ensureGroup
        rw [if_neg (hnew.1 ▸ hnew.2)]
      exact ⟨hnew.1, hinterval, Group.sound_new target, Nat.le_of_eq hcount.symm⟩
    next =>
      have hvalid := h.valid hslot
      exact ⟨hvalid.key_eq, hvalid.interval, hvalid.sound,
        Nat.le_trans hvalid.generation_le hnewest⟩
  · intro key other slot slot' hslot hslot' heq
    rw [groups_ensureGroup] at hslot hslot'
    split at hslot <;> split at hslot'
    next hnew hnew' => exact hnew.1.symm.trans hnew'.1
    next =>
      cases hslot
      have hle := (h.valid hslot').generation_le
      rw [← heq] at hle
      exact absurd hle (Nat.not_succ_le_self _)
    next =>
      cases hslot'
      have hle := (h.valid hslot).generation_le
      rw [heq] at hle
      exact absurd hle (Nat.not_succ_le_self _)
    next => exact h.distinct hslot hslot' heq
  · intro metric key
    rw [index_ensureGroup, holds_ensureGroup]
    exact h.index_iff metric key

theorem enter_of_some {r : Registry} {key : GroupKey} {slot : Slot}
    (h : r.groups[key]? = some slot) (metric : MetricId) (valueKind : ValueKind)
    (budget : UInt16) :
    (r.enter key metric valueKind budget).1 =
      { r with
        index := r.index.insert metric key
        groups := r.groups.insert key
          { slot with group := (slot.group.add metric valueKind budget).1 } } := by
  unfold enter
  rw [h]

theorem Consistent.enter {r : Registry} (h : r.Consistent) {key : GroupKey} {slot : Slot}
    (hslot : r.groups[key]? = some slot) {metric : MetricId}
    (hstays : r.index[metric]? = none ∨ r.index[metric]? = some key) (valueKind : ValueKind)
    (budget : UInt16) : (r.enter key metric valueKind budget).1.Consistent := by
  have hsound := (h.valid hslot).sound.add metric valueKind budget
  rw [enter_of_some hslot]
  refine {
    toSlotsValid := (h.toSlotsValid.replace hslot hsound rfl).of_groups_eq rfl rfl
    index_iff := ?_ }
  intro m other
  change (r.index.insert metric key)[m]? = some other ↔ Holds { r with
    groups := r.groups.insert key
      { slot with group := (slot.group.add metric valueKind budget).1 } } other m
  rw [holds_replace, Group.mem_add]
  simp only [Std.ExtTreeMap.getElem?_insert, Std.LawfulEqOrd.compare_eq_iff_eq]
  by_cases hm : metric = m
  · subst hm
    by_cases hkey : key = other
    · simp [hkey]
    · have hno : ¬r.Holds other metric := by
        rw [← h.index_iff]
        intro hlisted
        rcases hstays with hstays | hstays <;> rw [hstays] at hlisted
        · cases hlisted
        · cases hlisted
          exact hkey rfl
      simp [hkey, hno]
  · rw [if_neg hm, h.index_iff]
    by_cases hkey : key = other
    · subst hkey
      simp [hm, holds_iff_mem hslot]
    · simp [hkey]

theorem add_of_refused {r : Registry} {target : Target} (h : target.interval.wholeMillis = 0)
    (metric : MetricId) (valueKind : ValueKind) (budget : UInt16) :
    r.add target metric valueKind budget =
      .error (.notConfigured .container target.container) := by
  unfold add
  rw [if_pos h]

theorem add_of_accepted (r : Registry) {target : Target} (h : target.interval.wholeMillis ≠ 0)
    (metric : MetricId) (valueKind : ValueKind) (budget : UInt16) :
    ∃ report, r.add target metric valueKind budget =
      .ok ((((r.leaveOther target.groupKey metric).1.ensureGroup target).1.enter
        target.groupKey metric valueKind budget).1, report) := by
  unfold add
  rw [if_neg h]
  exact ⟨_, rfl⟩

theorem Consistent.add {r r' : Registry} (h : r.Consistent) {target : Target} {metric : MetricId}
    {valueKind : ValueKind} {budget : UInt16} {report : AddReport}
    (hadd : r.add target metric valueKind budget = .ok (r', report)) : r'.Consistent := by
  by_cases hrefused : target.interval.wholeMillis = 0
  · rw [add_of_refused hrefused] at hadd
    cases hadd
  · rcases add_of_accepted r hrefused metric valueKind budget with ⟨report', haccepted⟩
    rw [haccepted] at hadd
    cases hadd
    have hleft := h.leaveOther target.groupKey metric
    have hready := hleft.ensureGroup (Nat.one_le_iff_ne_zero.mpr hrefused)
    rcases mem_ensureGroup (r.leaveOther target.groupKey metric).1 target with ⟨slot, hslot⟩
    apply hready.enter hslot
    rw [index_ensureGroup]
    exact index_leaveOther r target.groupKey metric

/-!
## Refreshing, removing, stopping
-/

theorem refresh_of_none {r : Registry} {metric : MetricId} (h : r.index[metric]? = none) :
    r.refresh metric = (r, false) := by
  unfold refresh
  rw [h]

theorem refresh_of_some {r : Registry} {metric : MetricId} {key : GroupKey} {slot : Slot}
    (hlisted : r.index[metric]? = some key) (hslot : r.groups[key]? = some slot) :
    r.refresh metric =
      ({ r with
          groups := r.groups.insert key { slot with group := (slot.group.refresh metric).1 } },
        (slot.group.refresh metric).2) := by
  unfold refresh
  rw [hlisted]
  dsimp only
  rw [hslot]

theorem Consistent.refresh {r : Registry} (h : r.Consistent) (metric : MetricId) :
    (r.refresh metric).1.Consistent := by
  cases hlisted : r.index[metric]? with
  | none =>
      rw [refresh_of_none hlisted]
      exact h
  | some key =>
      rcases (h.index_iff metric key).mp hlisted with ⟨slot, hslot, _⟩
      rw [refresh_of_some hlisted hslot]
      refine {
        toSlotsValid := h.toSlotsValid.replace hslot ((h.valid hslot).sound.refresh metric)
          (Group.target_refresh _ _)
        index_iff := ?_ }
      intro m other
      rw [holds_replace, Group.mem_refresh]
      show r.index[m]? = some other ↔ _
      rw [h.index_iff]
      by_cases hkey : key = other
      · subst hkey
        simp [holds_iff_mem hslot]
      · simp [hkey]

theorem remove_of_none {r : Registry} {metric : MetricId} (h : r.index[metric]? = none) :
    r.remove metric = (r, none) := by
  unfold remove
  rw [h]

theorem remove_of_some {r : Registry} {metric : MetricId} {key : GroupKey}
    (h : r.index[metric]? = some key) :
    r.remove metric =
      (({ r with index := r.index.erase metric }.dropEntry key metric).1,
        some ({ r with index := r.index.erase metric }.dropEntry key metric).2) := by
  unfold remove
  rw [h]

theorem Consistent.remove {r : Registry} (h : r.Consistent) (metric : MetricId) :
    (r.remove metric).1.Consistent := by
  cases hlisted : r.index[metric]? with
  | none =>
      rw [remove_of_none hlisted]
      exact h
  | some key =>
      rw [remove_of_some hlisted]
      exact h.dropListed hlisted

theorem Consistent.dropGroups {r : Registry} (h : r.Consistent) (keys : List GroupKey) :
    (r.dropGroups keys).1.Consistent := by
  induction keys generalizing r with
  | nil => exact h
  | cons key keys ih => exact ih (h.dropGroup key)

theorem Consistent.stopContainer {r : Registry} (h : r.Consistent) (container : ContainerId) :
    (r.stopContainer container).1.Consistent :=
  h.dropGroups _

theorem Consistent.stopAll {r : Registry} (h : r.Consistent) : r.stopAll.1.Consistent :=
  h.dropGroups _

/-!
## Rounds

A round that polls takes the expired entries out of the group and out of the index alike; a round
that finds nothing to poll drops the group.
-/

theorem tick_of_stale {r : Registry} {ref : GroupRef}
    (h : ∀ slot, r.groups[ref.key]? = some slot → slot.generation ≠ ref.generation) :
    r.tick ref = (r, none) := by
  unfold tick
  cases hslot : r.groups[ref.key]? with
  | none => rfl
  | some slot =>
      dsimp only
      rw [if_neg (h slot hslot)]

theorem tick_none {r r' : Registry} {ref : GroupRef} (h : r.tick ref = (r', none)) : r' = r := by
  unfold tick at h
  split at h
  next =>
    cases h
    rfl
  next =>
    split at h
    next =>
      dsimp only at h
      split at h <;> cases h
    next =>
      cases h
      rfl

theorem stop_of_tick {g : Group} (h : g.Sound) (hstop : g.tick.2 = .stop) :
    g.isEmpty = true ∧ g.tick.1.entries = g.entries := by
  by_cases hgo : g.state = .stopped ∨ g.isEmpty = true
  · rw [Group.tick_of_stop hgo]
    exact ⟨hgo.resolve_left h.state_ne_stopped, rfl⟩
  · rw [Group.tick_of_poll hgo] at hstop
    cases hstop

theorem Consistent.tick_of_stop {r : Registry} (h : r.Consistent) {ref : GroupRef} {slot : Slot}
    (hslot : r.groups[ref.key]? = some slot) (hcurrent : slot.generation = ref.generation)
    (hstop : slot.group.tick.2 = .stop) : (r.tick ref).1 = (r.dropGroup ref.key).1 := by
  rcases stop_of_tick (h.valid hslot).sound hstop with ⟨_, hentries⟩
  have herase : (r.groups.insert ref.key { slot with group := slot.group.tick.1 }).erase ref.key =
      r.groups.erase ref.key := by
    apply Std.ExtTreeMap.ext_getElem?
    intro key
    simp only [Std.ExtTreeMap.getElem?_erase, Std.ExtTreeMap.getElem?_insert]
    split <;> rfl
  unfold Registry.tick Registry.dropGroup
  rw [hslot]
  dsimp only
  rw [if_pos hcurrent, hstop]
  simp [hentries, herase]

theorem tick_of_poll {r : Registry} {ref : GroupRef} {slot : Slot} {request : BatchRequest}
    {expired : List MetricId} (hslot : r.groups[ref.key]? = some slot)
    (hcurrent : slot.generation = ref.generation)
    (hpoll : slot.group.tick.2 = .poll request expired) :
    (r.tick ref).1 =
      { r with
        groups := r.groups.insert ref.key { slot with group := slot.group.tick.1 }
        index := r.index.filter fun metric k => !(k = ref.key ∧ metric ∈ expired) } := by
  unfold tick
  rw [hslot]
  dsimp only
  rw [if_pos hcurrent, hpoll]

theorem Consistent.tick {r : Registry} (h : r.Consistent) (ref : GroupRef) :
    (r.tick ref).1.Consistent := by
  by_cases hmeant : ∃ slot, r.groups[ref.key]? = some slot ∧ slot.generation = ref.generation
  · rcases hmeant with ⟨slot, hslot, hcurrent⟩
    have hsound := (h.valid hslot).sound
    cases hround : slot.group.tick.2 with
    | stop =>
        rw [h.tick_of_stop hslot hcurrent hround]
        exact h.dropGroup ref.key
    | poll request expired =>
        rw [tick_of_poll hslot hcurrent hround]
        have hreplaced := h.toSlotsValid.replace hslot (hsound.tick hround)
          (Group.target_tick slot.group)
        refine { toSlotsValid := hreplaced.of_groups_eq rfl rfl, index_iff := ?_ }
        intro m other
        change (r.index.filter fun metric k => !(k = ref.key ∧ metric ∈ expired))[m]? = some other ↔
          Holds { r with
            groups := r.groups.insert ref.key { slot with group := slot.group.tick.1 } } other m
        rw [holds_replace, Group.mem_tick hround, Std.ExtTreeMap.getElem?_filter',
          Option.filter_eq_some_iff, h.index_iff]
        by_cases hkey : ref.key = other
        · subst hkey
          simp [holds_iff_mem hslot]
        · simp [hkey, Ne.symm hkey]
  · rw [tick_of_stale]
    · exact h
    · intro slot hslot hcurrent
      exact hmeant ⟨slot, hslot, hcurrent⟩

end Registry
end Pulling
end MetricGateway
