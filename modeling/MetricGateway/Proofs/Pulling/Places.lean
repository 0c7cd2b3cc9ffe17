import MetricGateway.Proofs.Pulling.Descent
import MetricGateway.Proofs.Pulling.Rows

/-!
# Where a metric is polled

The place of a metric is the very group that polls it, told from others under the same key by its
generation, together with the target that the group polls by and the entry of the metric.  Adding a
metric leaves the places of the others alone, and adding it as it is polled already changes nothing
at all.
-/

namespace MetricGateway
namespace Pulling

/-- The group that polls a metric, its target, and the entry of the metric. -/
structure Place where
  group : GroupRef
  target : Target
  entry : Entry
deriving DecidableEq

theorem Group.Sound.add_of_entry {g : Group} (h : g.Sound) {metric : MetricId}
    {valueKind : ValueKind} {budget : UInt16}
    (he : g.entries[metric]? = some (.new metric valueKind budget)) :
    (g.add metric valueKind budget).1 = g := by
  have hfilled : g.isEmpty = false := by
    unfold Group.isEmpty
    rw [Std.ExtTreeMap.isEmpty_eq_false_iff]
    intro hnone
    rw [hnone, Std.ExtTreeMap.getElem?_empty] at he
    cases he
  have hactive : g.state = .active := by
    rw [h.state_eq, hfilled]
    rfl
  unfold Group.add
  rw [h.entryOnAdd_eq, insert_of_lookup he, hactive, if_neg (by decide), ← hactive]

namespace Registry

variable {r r' : Registry} {target : Target} {metric other : MetricId} {valueKind : ValueKind}
  {budget : UInt16} {report : AddReport}

def place (r : Registry) (metric : MetricId) : Option Place :=
  r.index[metric]?.bind fun key =>
    r.groups[key]?.bind fun slot =>
      (slot.group.entries[metric]?).map fun entry =>
        { group := { key, generation := slot.generation }, target := slot.group.target, entry }

theorem place_eq_some_iff {p : Place} :
    r.place metric = some p ↔ r.index[metric]? = some p.group.key ∧
      ∃ slot, r.groups[p.group.key]? = some slot ∧ slot.generation = p.group.generation ∧
        slot.group.target = p.target ∧ slot.group.entries[metric]? = some p.entry := by
  unfold place
  constructor
  · intro h
    rcases Option.bind_eq_some_iff.mp h with ⟨key, hindex, h⟩
    rcases Option.bind_eq_some_iff.mp h with ⟨slot, hslot, h⟩
    rcases Option.map_eq_some_iff.mp h with ⟨entry, hentry, rfl⟩
    exact ⟨hindex, slot, hslot, rfl, rfl, hentry⟩
  · rintro ⟨hindex, slot, hslot, hgeneration, htarget, hentry⟩
    rw [hindex, Option.bind_some, hslot, Option.bind_some, hentry, hgeneration, htarget]
    rfl

theorem row_eq_place (r : Registry) (metric : MetricId) :
    r.row metric = (r.place metric).map fun p => (p.group.key, p.entry) := by
  unfold row entryUnder place
  cases r.index[metric]? with
  | none => rfl
  | some key =>
      rw [Option.bind_some, Option.bind_some]
      cases r.groups[key]? with
      | none => rfl
      | some slot =>
          rw [Option.bind_some, Option.bind_some, Option.map_map]
          rfl

theorem slot_of_row {key : GroupKey} {e : Entry} (h : r.row metric = some (key, e)) :
    r.index[metric]? = some key ∧
      ∃ slot, r.groups[key]? = some slot ∧ slot.group.entries[metric]? = some e := by
  rw [row_eq_place] at h
  rcases Option.map_eq_some_iff.mp h with ⟨p, hp, heq⟩
  cases heq
  rcases place_eq_some_iff.mp hp with ⟨hindex, slot, hslot, _, _, hentry⟩
  exact ⟨hindex, slot, hslot, hentry⟩

/-- A group that was there is the same one after a metric was added, if it still is there. -/
theorem slot_add (hadd : r.add target metric valueKind budget = .ok (r', report)) {key : GroupKey}
    {slot slot' : Slot} (hslot : r.groups[key]? = some slot)
    (hslot' : r'.groups[key]? = some slot') :
    slot'.generation = slot.generation ∧ slot'.group.target = slot.group.target := by
  have hsame : ∃ before, r.groups[key]? = some before ∧
      before.generation = slot'.generation ∧ before.group.target = slot'.group.target := by
    by_cases hmem : target.groupKey ∈ r.groups
    · exact (thins_add hadd hmem).1.slot hslot'
    · have hold : key ≠ target.groupKey := fun heq => hmem (heq ▸ mem_of_lookup hslot)
      have hbefore := (creates_add hadd hmem).2.2 hslot'
      rw [if_neg hold] at hbefore
      exact hbefore
  rcases hsame with ⟨before, hbefore, hgeneration, htarget⟩
  cases hslot.symm.trans hbefore
  exact ⟨hgeneration.symm, htarget.symm⟩

theorem place_add_of_ne (hne : metric ≠ other)
    (hadd : r.add target metric valueKind budget = .ok (r', report)) :
    r'.place other = r.place other := by
  have hrow := row_add_of_ne hne hadd
  cases hplace : r.place other with
  | none =>
      rw [row_eq_place, row_eq_place, hplace] at hrow
      exact Option.map_eq_none_iff.mp hrow
  | some p =>
      rcases place_eq_some_iff.mp hplace with ⟨_, slot, hslot, hgeneration, htarget, _⟩
      rw [row_eq_place r, hplace] at hrow
      rcases slot_of_row hrow with ⟨hindex, slot', hslot', hentry⟩
      rcases slot_add hadd hslot hslot' with ⟨hgeneration', htarget'⟩
      exact place_eq_some_iff.mpr ⟨hindex, slot', hslot', hgeneration'.trans hgeneration,
        htarget'.trans htarget, hentry⟩

/-! ## Adding a metric again -/

theorem leaveOther_of_row {e : Entry} (h : r.row metric = some (target.groupKey, e)) :
    r.leaveOther target.groupKey metric = (r, none) :=
  leaveOther_of_stays (Or.inr (slot_of_row h).1)

theorem ensureGroup_of_row {e : Entry} (h : r.row metric = some (target.groupKey, e)) :
    r.ensureGroup target = (r, none) := by
  rcases (slot_of_row h).2 with ⟨slot, hslot, _⟩
  exact if_pos (mem_of_lookup hslot)

/-- A metric that is polled in full by the group of a target is there already: adding it changes
nothing. -/
theorem Consistent.add_of_row (h : r.Consistent) (hlong : target.interval.wholeMillis ≠ 0)
    (hrow : r.row metric = some (target.groupKey, .new metric valueKind budget)) :
    ∃ report, r.add target metric valueKind budget = .ok (r, report) := by
  rcases slot_of_row hrow with ⟨hindex, slot, hslot, hentry⟩
  rcases add_of_accepted r hlong metric valueKind budget with ⟨report, hadd⟩
  refine ⟨report, hadd.trans ?_⟩
  rw [leaveOther_of_row hrow, ensureGroup_of_row hrow, enter_of_some hslot,
    (h.valid hslot).sound.add_of_entry hentry, insert_of_lookup hindex, insert_of_lookup hslot]

end Registry
end Pulling
end MetricGateway
