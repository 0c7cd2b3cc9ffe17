import MetricGateway.Proofs.Maps
import MetricGateway.Proofs.Pulling.Consistency

/-!
# Where groups come from

An operation of the registry leaves a group where it is, with the target and the generation that it
was created with, or drops it.  Only adding a metric can create a group, and the group that it
creates has a generation of its own.
-/

namespace MetricGateway
namespace Pulling
namespace Registry

/-- Every group was there before, under the same key and with the same generation and target. -/
structure Thins (r r' : Registry) : Prop where
  generations : r'.generations = r.generations
  slot : ∀ {key : GroupKey} {slot' : Slot}, r'.groups[key]? = some slot' →
    ∃ slot, r.groups[key]? = some slot ∧ slot.generation = slot'.generation ∧
      slot.group.target = slot'.group.target

theorem thins_refl (r : Registry) : r.Thins r where
  generations := rfl
  slot := fun hslot => ⟨_, hslot, rfl, rfl⟩

theorem Thins.trans {r r' r'' : Registry} (h : r.Thins r') (h' : r'.Thins r'') : r.Thins r'' where
  generations := h'.generations.trans h.generations
  slot := by
    intro key slot'' hslot''
    rcases h'.slot hslot'' with ⟨slot', hslot', hgeneration', htarget'⟩
    rcases h.slot hslot' with ⟨slot, hslot, hgeneration, htarget⟩
    exact ⟨slot, hslot, hgeneration.trans hgeneration', htarget.trans htarget'⟩

theorem thins_of_groups_eq {r r' : Registry} (hgenerations : r'.generations = r.generations)
    (hgroups : r'.groups = r.groups) : r.Thins r' where
  generations := hgenerations
  slot := fun hslot => ⟨_, hgroups ▸ hslot, rfl, rfl⟩

theorem thins_replace {r r' : Registry} {key : GroupKey} {slot : Slot}
    (hslot : r.groups[key]? = some slot) {group : Group}
    (htarget : group.target = slot.group.target) (hgenerations : r'.generations = r.generations)
    (hgroups : r'.groups = r.groups.insert key { slot with group }) : r.Thins r' where
  generations := hgenerations
  slot := by
    intro other slot' hslot'
    rw [hgroups, lookup_insert] at hslot'
    split at hslot'
    next heq =>
      cases hslot'
      exact ⟨slot, heq ▸ hslot, rfl, htarget.symm⟩
    next => exact ⟨slot', hslot', rfl, rfl⟩

/-!
## Dropping groups
-/

theorem thins_dropGroup (r : Registry) (key : GroupKey) : r.Thins (r.dropGroup key).1 where
  generations := generations_dropGroup r key
  slot := by
    intro other slot' hslot'
    rw [groups_dropGroup, lookup_erase] at hslot'
    split at hslot'
    · cases hslot'
    · exact ⟨slot', hslot', rfl, rfl⟩

theorem key_of_dropGroup {r : Registry} {key : GroupKey} {ref : GroupRef}
    (h : (r.dropGroup key).2 = some ref) : ref.key = key := by
  unfold dropGroup at h
  split at h
  · cases h
  · cases h
    rfl

theorem gone_dropGroup (r : Registry) (key : GroupKey) :
    (r.dropGroup key).1.groups[key]? = none := by
  rw [groups_dropGroup]
  exact Std.ExtTreeMap.getElem?_erase_self

theorem thins_dropGroups (r : Registry) (keys : List GroupKey) : r.Thins (r.dropGroups keys).1 := by
  induction keys generalizing r with
  | nil => exact thins_refl r
  | cons key keys ih => exact (thins_dropGroup r key).trans (ih (r.dropGroup key).1)

theorem Thins.gone {r r' : Registry} (h : r.Thins r') {key : GroupKey}
    (hgone : r.groups[key]? = none) : r'.groups[key]? = none := by
  cases hslot' : r'.groups[key]? with
  | none => rfl
  | some slot' =>
      rcases h.slot hslot' with ⟨slot, hslot, _⟩
      rw [hgone] at hslot
      cases hslot

theorem gone_dropGroups {r : Registry} {keys : List GroupKey} {ref : GroupRef}
    (h : ref ∈ (r.dropGroups keys).2) : (r.dropGroups keys).1.groups[ref.key]? = none := by
  induction keys generalizing r with
  | nil => cases h
  | cons key keys ih =>
      rcases List.mem_append.mp h with hfirst | hmore
      · rw [key_of_dropGroup (Option.mem_toList.mp hfirst)]
        exact (thins_dropGroups _ keys).gone (gone_dropGroup r key)
      · exact ih hmore

theorem thins_dropEntry (r : Registry) (key : GroupKey) (metric : MetricId) :
    r.Thins (r.dropEntry key metric).1 := by
  cases hslot : r.groups[key]? with
  | none =>
      rw [dropEntry_of_none hslot]
      exact thins_refl r
  | some slot =>
      rw [dropEntry_of_some hslot]
      have hreplaced : r.Thins { r with
          groups := r.groups.insert key { slot with group := (slot.group.remove metric).1 } } :=
        thins_replace hslot (Group.target_remove slot.group metric) rfl rfl
      dsimp only
      split
      · exact hreplaced.trans (thins_dropGroup _ key)
      · exact hreplaced

theorem key_of_dropEntry {r : Registry} {key : GroupKey} {metric : MetricId} {ref : GroupRef}
    (h : (r.dropEntry key metric).2 = some ref) :
    ref.key = key ∧ (r.dropEntry key metric).1.groups[key]? = none := by
  cases hslot : r.groups[key]? with
  | none =>
      rw [dropEntry_of_none hslot] at h
      cases h
  | some slot =>
      rw [dropEntry_of_some hslot] at h ⊢
      dsimp only at h ⊢
      split at h
      next hempty =>
        rw [if_pos hempty]
        exact ⟨key_of_dropGroup h, gone_dropGroup _ key⟩
      next => cases h

/-!
## The other operations
-/

theorem thins_leaveOther (r : Registry) (key : GroupKey) (metric : MetricId) :
    r.Thins (r.leaveOther key metric).1 := by
  rcases stays_or_moves r key metric with hstays | ⟨previous, hlisted, hne⟩
  · rw [leaveOther_of_stays hstays]
    exact thins_refl r
  · rw [leaveOther_of_moves hlisted hne]
    have herased : r.Thins { r with index := r.index.erase metric } := thins_of_groups_eq rfl rfl
    exact herased.trans (thins_dropEntry _ previous metric)

theorem gone_leaveOther {r : Registry} {key : GroupKey} {metric : MetricId} {ref : GroupRef}
    (h : (r.leaveOther key metric).2 = some ref) :
    ref.key ≠ key ∧ (r.leaveOther key metric).1.groups[ref.key]? = none := by
  rcases stays_or_moves r key metric with hstays | ⟨previous, hlisted, hne⟩
  · rw [leaveOther_of_stays hstays] at h
    cases h
  · rw [leaveOther_of_moves hlisted hne] at h ⊢
    rcases key_of_dropEntry h with ⟨hkey, hgone⟩
    rw [hkey]
    exact ⟨hne, hgone⟩

theorem thins_enter {r : Registry} {key : GroupKey} {slot : Slot}
    (hslot : r.groups[key]? = some slot) (metric : MetricId) (valueKind : ValueKind)
    (budget : UInt16) : r.Thins (r.enter key metric valueKind budget).1 := by
  rw [enter_of_some hslot]
  exact thins_replace hslot (Group.target_add slot.group metric valueKind budget) rfl rfl

theorem thins_refresh (r : Registry) (metric : MetricId) : r.Thins (r.refresh metric).1 := by
  unfold refresh
  split
  · exact thins_refl r
  · split
    · exact thins_refl r
    next slot hslot => exact thins_replace hslot (Group.target_refresh slot.group metric) rfl rfl

theorem thins_remove (r : Registry) (metric : MetricId) : r.Thins (r.remove metric).1 := by
  cases hlisted : r.index[metric]? with
  | none =>
      rw [remove_of_none hlisted]
      exact thins_refl r
  | some key =>
      rw [remove_of_some hlisted]
      have herased : r.Thins { r with index := r.index.erase metric } := thins_of_groups_eq rfl rfl
      exact herased.trans (thins_dropEntry _ key metric)

theorem gone_remove {r : Registry} {metric : MetricId} {dropped : Option GroupRef} {ref : GroupRef}
    (h : (r.remove metric).2 = some dropped) (hdropped : dropped = some ref) :
    (r.remove metric).1.groups[ref.key]? = none := by
  cases hlisted : r.index[metric]? with
  | none =>
      rw [remove_of_none hlisted] at h
      cases h
  | some key =>
      rw [remove_of_some hlisted] at h ⊢
      rw [← Option.some.inj h] at hdropped
      rcases key_of_dropEntry hdropped with ⟨hkey, hgone⟩
      exact hkey ▸ hgone

/-- What a round does: nothing where another group or none is there, the end of a group that holds
nothing, or a poll of the metrics of the group. -/
theorem Consistent.tick_cases {r : Registry} (h : r.Consistent) (ref : GroupRef) :
    (r.tick ref = (r, none) ∧
      ∀ slot, r.groups[ref.key]? = some slot → slot.generation ≠ ref.generation) ∨
    ∃ slot, r.groups[ref.key]? = some slot ∧ slot.generation = ref.generation ∧
      ((slot.group.state = .stopped ∨ slot.group.isEmpty = true) ∧
          r.tick ref = ((r.dropGroup ref.key).1,
            some { outcome := .stop, key := slot.group.target.key, dropped := some ref }) ∨
        ¬(slot.group.state = .stopped ∨ slot.group.isEmpty = true) ∧
        ∃ expired, (r.tick ref).1.groups = r.groups.insert ref.key
            { slot with group := slot.group.tick.1 } ∧
          (r.tick ref).1.generations = r.generations ∧
          (r.tick ref).2 = some { outcome := .poll slot.group.request expired,
                                  key := slot.group.target.key, dropped := none }) := by
  by_cases hmeant : ∃ slot, r.groups[ref.key]? = some slot ∧ slot.generation = ref.generation
  · rcases hmeant with ⟨slot, hslot, hcurrent⟩
    refine Or.inr ⟨slot, hslot, hcurrent, ?_⟩
    by_cases hgo : slot.group.state = .stopped ∨ slot.group.isEmpty = true
    · left
      have hstop : slot.group.tick.2 = .stop := by rw [Group.tick_of_stop hgo]
      have hregistry := h.tick_of_stop hslot hcurrent hstop
      refine ⟨hgo, Prod.ext hregistry ?_⟩
      unfold Registry.tick
      rw [hslot]
      dsimp only
      rw [if_pos hcurrent, hstop]
      dsimp only
      unfold Registry.dropGroup
      rw [Std.ExtTreeMap.getElem?_insert_self]
      dsimp only
      rw [hcurrent]
    · right
      have hround : ∃ expired, slot.group.tick.2 = .poll slot.group.request expired :=
        ⟨_, Group.tick_of_poll hgo⟩
      rcases hround with ⟨expired, hpoll⟩
      have hregistry := tick_of_poll hslot hcurrent hpoll
      refine ⟨hgo, expired, ?_, ?_, ?_⟩
      · rw [hregistry]
      · rw [hregistry]
      · unfold Registry.tick
        rw [hslot]
        dsimp only
        rw [if_pos hcurrent, hpoll]
  · have hstale : ∀ slot, r.groups[ref.key]? = some slot → slot.generation ≠ ref.generation := by
      intro slot hslot hcurrent
      exact hmeant ⟨slot, hslot, hcurrent⟩
    exact Or.inl ⟨tick_of_stale hstale, hstale⟩

theorem Consistent.thins_tick {r : Registry} (h : r.Consistent) (ref : GroupRef) :
    r.Thins (r.tick ref).1 := by
  rcases h.tick_cases ref with
    ⟨hstale, _⟩ | ⟨slot, hslot, _, ⟨_, hstop⟩ | ⟨_, _, hgroups, hgenerations, _⟩⟩
  · rw [hstale]
    exact thins_refl r
  · rw [hstop]
    exact thins_dropGroup r ref.key
  · exact thins_replace hslot (Group.target_tick slot.group) hgenerations hgroups

/-!
## Adding a metric
-/

theorem groups_dropEntry_of_ne (r : Registry) {key other : GroupKey} (h : key ≠ other)
    (metric : MetricId) : (r.dropEntry key metric).1.groups[other]? = r.groups[other]? := by
  cases hslot : r.groups[key]? with
  | none => rw [dropEntry_of_none hslot]
  | some slot =>
      rw [dropEntry_of_some hslot]
      dsimp only
      split
      · rw [groups_dropGroup, lookup_erase, if_neg h, lookup_insert_of_ne _ h.symm]
      · exact lookup_insert_of_ne _ h.symm _

/-- The group that a metric is to enter stays as it is while the metric leaves another one. -/
theorem groups_leaveOther_self (r : Registry) (key : GroupKey) (metric : MetricId) :
    (r.leaveOther key metric).1.groups[key]? = r.groups[key]? := by
  rcases stays_or_moves r key metric with hstays | ⟨previous, hlisted, hne⟩
  · rw [leaveOther_of_stays hstays]
  · rw [leaveOther_of_moves hlisted hne, groups_dropEntry_of_ne _ hne]

theorem mem_leaveOther_self (r : Registry) (key : GroupKey) (metric : MetricId) :
    key ∈ (r.leaveOther key metric).1.groups ↔ key ∈ r.groups := by
  rw [Std.ExtTreeMap.mem_iff_isSome_getElem?, groups_leaveOther_self,
    Std.ExtTreeMap.mem_iff_isSome_getElem?]

section Add

variable {r r' : Registry} {target : Target} {metric : MetricId} {valueKind : ValueKind}
  {budget : UInt16} {report : AddReport}

theorem add_steps (hadd : r.add target metric valueKind budget = .ok (r', report)) :
    let left := r.leaveOther target.groupKey metric
    let ready := left.1.ensureGroup target
    r' = (ready.1.enter target.groupKey metric valueKind budget).1 ∧ report.dropped = left.2 ∧
      report.created = ready.2 := by
  unfold add at hadd
  split at hadd
  · cases hadd
  · cases hadd
    exact ⟨rfl, rfl, rfl⟩

theorem thins_add (hadd : r.add target metric valueKind budget = .ok (r', report))
    (hmem : target.groupKey ∈ r.groups) : r.Thins r' ∧ report.created = none := by
  rcases add_steps hadd with ⟨hr', _, hcreated⟩
  have hready : (r.leaveOther target.groupKey metric).1.ensureGroup target =
      ((r.leaveOther target.groupKey metric).1, none) := by
    unfold ensureGroup
    rw [if_pos ((mem_leaveOther_self r target.groupKey metric).mpr hmem)]
  rw [hready] at hr' hcreated
  rcases exists_lookup_of_mem ((mem_leaveOther_self r target.groupKey metric).mpr hmem) with
    ⟨slot, hslot⟩
  rw [hr']
  exact ⟨(thins_leaveOther r target.groupKey metric).trans
    (thins_enter hslot metric valueKind budget), hcreated⟩

/-- Adding a metric whose group is not there creates it, with the next generation. -/
theorem creates_add (hadd : r.add target metric valueKind budget = .ok (r', report))
    (hnew : target.groupKey ∉ r.groups) :
    report.created = some ⟨target.groupKey, r.generations + 1⟩ ∧
      r'.generations = r.generations + 1 ∧
      ∀ {key slot'}, r'.groups[key]? = some slot' →
        if key = target.groupKey then
          slot'.generation = r.generations + 1 ∧ slot'.group.target = target
        else ∃ slot, r.groups[key]? = some slot ∧ slot.generation = slot'.generation ∧
          slot.group.target = slot'.group.target := by
  rcases add_steps hadd with ⟨hr', _, hcreated⟩
  have hleft := thins_leaveOther r target.groupKey metric
  have hready : (r.leaveOther target.groupKey metric).1.ensureGroup target =
      ({ (r.leaveOther target.groupKey metric).1 with
          generations := r.generations + 1
          groups := (r.leaveOther target.groupKey metric).1.groups.insert target.groupKey
            { group := Group.new target, generation := r.generations + 1 } },
        some ⟨target.groupKey, r.generations + 1⟩) := by
    unfold ensureGroup
    rw [if_neg (fun hmem => hnew ((mem_leaveOther_self r target.groupKey metric).mp hmem)),
      hleft.generations]
  rw [hready] at hr' hcreated
  have hentered := thins_enter (r := { (r.leaveOther target.groupKey metric).1 with
    generations := r.generations + 1
    groups := (r.leaveOther target.groupKey metric).1.groups.insert target.groupKey
      { group := Group.new target, generation := r.generations + 1 } })
    Std.ExtTreeMap.getElem?_insert_self metric valueKind budget
  rw [← hr'] at hentered
  refine ⟨hcreated, hentered.generations, ?_⟩
  intro key slot' hslot'
  rcases hentered.slot hslot' with ⟨slot, hslot, hgeneration, htarget⟩
  rw [lookup_insert] at hslot
  split at hslot
  next heq =>
    cases hslot
    rw [if_pos heq.symm]
    exact ⟨hgeneration.symm, htarget.symm⟩
  next hne =>
    rw [if_neg (Ne.symm hne)]
    rcases hleft.slot hslot with ⟨before, hbefore, hgeneration', htarget'⟩
    exact ⟨before, hbefore, hgeneration'.trans hgeneration, htarget'.trans htarget⟩

theorem gone_add (hadd : r.add target metric valueKind budget = .ok (r', report)) {ref : GroupRef}
    (hdropped : report.dropped = some ref) : r'.groups[ref.key]? = none := by
  rcases add_steps hadd with ⟨hr', hreport, _⟩
  rcases gone_leaveOther (hreport.symm.trans hdropped) with ⟨hne, hgone⟩
  rcases mem_ensureGroup (r.leaveOther target.groupKey metric).1 target with ⟨slot, hslot⟩
  have hready : ((r.leaveOther target.groupKey metric).1.ensureGroup target).1.groups[ref.key]? =
      none := by
    rw [groups_ensureGroup, if_neg (fun h => hne h.1.symm)]
    exact hgone
  rw [hr']
  exact (thins_enter hslot metric valueKind budget).gone hready

end Add

/-!
## Along a run

What stands under a key in the end and is not newer than the start was there at the start.
-/

structure Descends (r r' : Registry) : Prop where
  generations : r.generations ≤ r'.generations
  slot : ∀ {key : GroupKey} {slot' : Slot}, r'.groups[key]? = some slot' →
    slot'.generation ≤ r.generations →
      ∃ slot, r.groups[key]? = some slot ∧ slot.generation = slot'.generation ∧
        slot.group.target = slot'.group.target

theorem Descends.trans {r r' r'' : Registry} (h : r.Descends r') (h' : r'.Descends r'') :
    r.Descends r'' where
  generations := Nat.le_trans h.generations h'.generations
  slot := by
    intro key slot'' hslot'' hold
    rcases h'.slot hslot'' (Nat.le_trans hold h.generations) with
      ⟨slot', hslot', hgeneration', htarget'⟩
    rcases h.slot hslot' (hgeneration' ▸ hold) with ⟨slot, hslot, hgeneration, htarget⟩
    exact ⟨slot, hslot, hgeneration.trans hgeneration', htarget.trans htarget'⟩

theorem Thins.descends {r r' : Registry} (h : r.Thins r') : r.Descends r' where
  generations := Nat.le_of_eq h.generations.symm
  slot := fun hslot' _ => h.slot hslot'

theorem descends_add {r r' : Registry} {target : Target} {metric : MetricId}
    {valueKind : ValueKind} {budget : UInt16} {report : AddReport}
    (hadd : r.add target metric valueKind budget = .ok (r', report)) : r.Descends r' := by
  by_cases hmem : target.groupKey ∈ r.groups
  · exact (thins_add hadd hmem).1.descends
  · rcases creates_add hadd hmem with ⟨_, hgenerations, hslots⟩
    constructor
    · rw [hgenerations]
      exact Nat.le_succ _
    · intro key slot' hslot' hold
      have hslot := hslots hslot'
      split at hslot
      next =>
        rw [hslot.1] at hold
        exact absurd hold (Nat.not_succ_le_self _)
      next => exact hslot

end Registry
end Pulling
end MetricGateway
