import MetricGateway.Proofs.Pulling.Refinement
import MetricGateway.Proofs.Pulling.Tickers

/-!
# Taking metrics and containers out of polling

A metric is taken out of polling with its entry, and a container with all of its groups.  What is
left can be said at once for the two maps of the registry, without dropping one group after the
other: some groups are gone, at most one has lost an entry, and nothing else is different.  A group
with nothing to poll goes with its container and stays where a metric is taken out.

The tickers that are told to stop are those of the groups that are gone.  Taking the same thing out
once more changes nothing.
-/

namespace MetricGateway
namespace Pulling

inductive Removal where
  | metric (metric : MetricId)
  /-- All groups of a container, at whatever intervals. -/
  | container (container : ContainerId)

namespace Slot

/-- A group without a metric; nothing where the metric was all that it polled. -/
def without? (s : Slot) (metric : MetricId) : Option Slot :=
  if metric ∈ s.group.entries then
    let entries := s.group.entries.erase metric
    if entries.isEmpty then none else some { s with group := { s.group with entries } }
  else some s

variable {s s' : Slot} {metric : MetricId}

theorem without?_of_not_mem (h : metric ∉ s.group.entries) : s.without? metric = some s :=
  if_neg h

theorem without?_of_mem (h : metric ∈ s.group.entries) :
    s.without? metric =
      if (s.group.remove metric).1.isEmpty then none
      else some { s with group := (s.group.remove metric).1 } := by
  unfold without? Group.remove Group.isEmpty
  rw [if_pos h]
  by_cases hlast : (s.group.entries.erase metric).isEmpty = true <;> simp [hlast]

theorem not_mem_of_without? (h : s.without? metric = some s') : metric ∉ s'.group.entries := by
  by_cases hmem : metric ∈ s.group.entries
  · rw [without?_of_mem hmem] at h
    split at h
    · cases h
    · cases h
      rw [Group.mem_remove]
      exact fun hleft => hleft.1 rfl
  · rw [without?_of_not_mem hmem] at h
    cases h
    exact hmem

end Slot

namespace Registry

def without (r : Registry) : Removal → Registry
  | .metric metric =>
      { r with
        groups := r.groups.filterMap fun _ slot => slot.without? metric
        index := r.index.erase metric }
  | .container container =>
      { r with
        groups := r.groups.filter fun key _ => key.container ≠ container
        index := r.index.filter fun _ key => key.container ≠ container }

def amount (r : Registry) : Removal → Nat
  | .metric metric => if (r.row metric).isSome then 1 else 0
  | .container container => r.keys.countP (·.container = container)

/-- The group that is meant is the one under its key. -/
def Registers (r : Registry) (ref : GroupRef) : Prop :=
  r.groups[ref.key]?.map (·.generation) = some ref.generation

/-- The group that is meant is registered, and gone after a removal. -/
def EndedBy (r : Registry) (x : Removal) (ref : GroupRef) : Prop :=
  r.Registers ref ∧ ref.key ∉ (r.without x).groups

instance (r : Registry) (x : Removal) (ref : GroupRef) : Decidable (r.EndedBy x ref) :=
  inferInstanceAs (Decidable (_ = _ ∧ ¬_))

variable {r r' : Registry} {metric : MetricId} {key : GroupKey} {slot : Slot}

theorem eq_of_lookups (hgroups : ∀ key : GroupKey, r'.groups[key]? = r.groups[key]?)
    (hindex : ∀ metric : MetricId, r'.index[metric]? = r.index[metric]?)
    (hnewest : r'.generations = r.generations) : r' = r := by
  cases r
  cases r'
  rw [mk.injEq]
  exact ⟨Std.ExtTreeMap.ext_getElem? hgroups, Std.ExtTreeMap.ext_getElem? hindex, hnewest⟩

/-!
## What is left
-/

theorem groups_without_metric (r : Registry) (metric : MetricId) (key : GroupKey) :
    (r.without (.metric metric)).groups[key]? = r.groups[key]?.bind (·.without? metric) :=
  Std.ExtTreeMap.getElem?_filterMap'

theorem groups_without_container (r : Registry) (container : ContainerId) (key : GroupKey) :
    (r.without (.container container)).groups[key]? =
      if key.container = container then none else r.groups[key]? := by
  show (r.groups.filter _)[key]? = _
  rw [Std.ExtTreeMap.getElem?_filter']
  by_cases hkey : key.container = container <;> cases r.groups[key]? <;> simp [Option.filter, hkey]

theorem index_without_container (r : Registry) (container : ContainerId) (metric : MetricId) :
    (r.without (.container container)).index[metric]? =
      r.index[metric]?.filter (·.container ≠ container) :=
  Std.ExtTreeMap.getElem?_filter'

theorem without_again (r : Registry) (x : Removal) : (r.without x).without x = r.without x := by
  cases x with
  | metric metric =>
      have hindex : ((r.without (.metric metric)).without (.metric metric)).index =
          (r.without (.metric metric)).index := erase_erase r.index metric
      refine eq_of_lookups ?_ (fun other => by rw [hindex]) rfl
      intro key
      rw [groups_without_metric, groups_without_metric, Option.bind_assoc]
      congr 1
      funext slot
      cases hleft : slot.without? metric with
      | none => rfl
      | some left => exact Slot.without?_of_not_mem (Slot.not_mem_of_without? hleft)
  | container container =>
      refine eq_of_lookups ?_ ?_ rfl
      · intro key
        simp only [groups_without_container]
        split <;> rfl
      · intro metric
        simp only [index_without_container]
        cases r.index[metric]? with
        | none => rfl
        | some key => by_cases hkey : key.container = container <;> simp [Option.filter, hkey]

theorem amount_again (r : Registry) (x : Removal) : (r.without x).amount x = 0 := by
  cases x with
  | metric metric =>
      have hgone : (r.without (.metric metric)).index[metric]? = none :=
        Std.ExtTreeMap.getElem?_erase_self
      have hnone : (r.without (.metric metric)).row metric = none := by
        unfold row
        rw [hgone]
        rfl
      show (if ((r.without (.metric metric)).row metric).isSome then 1 else 0) = 0
      rw [hnone]
      rfl
  | container container =>
      show (r.without (.container container)).keys.countP (·.container = container) = 0
      rw [List.countP_eq_zero]
      intro key hkey hof
      rcases exists_lookup_of_mem (Std.ExtTreeMap.mem_keys.mp hkey) with ⟨slot, hslot⟩
      rw [groups_without_container, if_pos (of_decide_eq_true hof)] at hslot
      cases hslot

theorem not_endedBy_again (r : Registry) (x : Removal) (ref : GroupRef) :
    ¬(r.without x).EndedBy x ref := by
  rintro ⟨hregistered, hgone⟩
  rw [without_again] at hgone
  unfold Registers at hregistered
  rw [Std.ExtTreeMap.getElem?_eq_none hgone] at hregistered
  cases hregistered

/-!
## Dropping groups
-/

theorem dropGroup_eq_some_iff (r : Registry) (key : GroupKey) (ref : GroupRef) :
    (r.dropGroup key).2 = some ref ↔ key = ref.key ∧ r.Registers ref := by
  unfold Registers
  cases hslot : r.groups[key]? with
  | none =>
      rw [dropGroup_of_none hslot]
      constructor
      · intro h
        cases h
      · rintro ⟨rfl, hregistered⟩
        rw [hslot] at hregistered
        cases hregistered
  | some slot =>
      rw [dropped_of_some hslot]
      constructor
      · intro h
        cases h
        exact ⟨rfl, by rw [hslot]; rfl⟩
      · rintro ⟨rfl, hregistered⟩
        rw [hslot] at hregistered
        have hgeneration : slot.generation = ref.generation := Option.some.inj hregistered
        rw [hgeneration]

theorem mem_dropped_iff (r : Registry) (keys : List GroupKey) (ref : GroupRef) :
    ref ∈ (r.dropGroups keys).2 ↔ ref.key ∈ keys ∧ r.Registers ref := by
  induction keys generalizing r with
  | nil => simp [dropGroups]
  | cons key keys ih =>
      show ref ∈ (r.dropGroup key).2.toList ++ ((r.dropGroup key).1.dropGroups keys).2 ↔ _
      rw [List.mem_append, Option.mem_toList, dropGroup_eq_some_iff, ih, List.mem_cons]
      unfold Registers
      rw [groups_dropGroup, lookup_erase]
      by_cases hkey : key = ref.key
      · simp [hkey]
      · simp [hkey, Ne.symm hkey]

theorem Consistent.stopContainer_eq (h : r.Consistent) (container : ContainerId) :
    (r.stopContainer container).1 = r.without (.container container) := by
  have hgroups : ∀ key : GroupKey, (r.stopContainer container).1.groups[key]? =
      (r.without (.container container)).groups[key]? := by
    intro key
    rw [groups_without_container]
    unfold Registry.stopContainer
    rw [groups_dropGroups]
    simp only [mem_keys_of_container]
    by_cases hthere : key ∈ r.groups <;> simp [hthere]
  refine eq_of_lookups hgroups ?_ (thins_dropGroups r _).generations
  intro metric
  apply Option.ext
  intro key
  rw [(h.stopContainer container).index_iff, index_without_container, Option.filter_eq_some_iff,
    h.index_iff]
  unfold Holds
  rw [hgroups, groups_without_container]
  by_cases hkey : key.container = container <;> simp [hkey]

theorem endedBy_container_iff (r : Registry) (container : ContainerId) (ref : GroupRef) :
    r.EndedBy (.container container) ref ↔ ref.key.container = container ∧ r.Registers ref := by
  constructor
  · rintro ⟨hregistered, hgone⟩
    refine ⟨?_, hregistered⟩
    by_contra hother
    apply hgone
    rcases Option.map_eq_some_iff.mp hregistered with ⟨slot, hslot, _⟩
    exact mem_of_lookup ((groups_without_container r container ref.key).trans
      ((if_neg hother).trans hslot))
  · rintro ⟨hof, hregistered⟩
    refine ⟨hregistered, ?_⟩
    intro hthere
    rcases exists_lookup_of_mem hthere with ⟨slot, hslot⟩
    rw [groups_without_container, if_pos hof] at hslot
    cases hslot

theorem mem_dropped_stopContainer (r : Registry) (container : ContainerId) (ref : GroupRef) :
    ref ∈ (r.stopContainer container).2 ↔ r.EndedBy (.container container) ref := by
  unfold stopContainer
  rw [mem_dropped_iff, endedBy_container_iff, mem_keys_of_container]
  constructor
  · rintro ⟨⟨_, hof⟩, hregistered⟩
    exact ⟨hof, hregistered⟩
  · rintro ⟨hof, hregistered⟩
    rcases Option.map_eq_some_iff.mp hregistered with ⟨slot, hslot, _⟩
    exact ⟨⟨mem_of_lookup hslot, hof⟩, hregistered⟩

theorem length_stopContainer (r : Registry) (container : ContainerId) :
    (r.stopContainer container).2.length = r.amount (.container container) := by
  have hthere : ∀ key ∈ r.keys.filter (·.container = container), key ∈ r.groups :=
    fun key hkey => ((r.mem_keys_of_container container key).mp hkey).1
  show (r.dropGroups _).2.length = r.keys.countP _
  rw [length_dropGroups r ((nodup_keys r).filter _) hthere, List.countP_eq_length_filter]

/-!
## Dropping an entry
-/

theorem Consistent.without_unlisted (h : r.Consistent) (hunlisted : r.index[metric]? = none) :
    r.without (.metric metric) = r := by
  refine eq_of_lookups ?_ ?_ rfl
  · intro key
    rw [groups_without_metric]
    cases hslot : r.groups[key]? with
    | none => rfl
    | some slot =>
        apply Slot.without?_of_not_mem
        intro hmem
        have hlisted := (h.index_iff metric key).mpr ⟨slot, hslot, hmem⟩
        rw [hunlisted] at hlisted
        cases hlisted
  · intro other
    show (r.index.erase metric)[other]? = r.index[other]?
    rw [lookup_erase]
    split
    next heq => rw [← heq, hunlisted]
    next => rfl

theorem Consistent.groups_without_listed (h : r.Consistent) (hlisted : r.index[metric]? = some key)
    (hslot : r.groups[key]? = some slot) (other : GroupKey) :
    (r.without (.metric metric)).groups[other]? =
      if key = other then slot.without? metric else r.groups[other]? := by
  rw [groups_without_metric]
  by_cases hkey : key = other
  · rw [← hkey, hslot, if_pos rfl]
    rfl
  · rw [if_neg hkey]
    cases hother : r.groups[other]? with
    | none => rfl
    | some slot' =>
        apply Slot.without?_of_not_mem
        intro hmem
        have hagain := (h.index_iff metric other).mpr ⟨slot', hother, hmem⟩
        exact hkey (Option.some.inj (hlisted.symm.trans hagain))

theorem Consistent.remove_eq (h : r.Consistent) (metric : MetricId) :
    (r.remove metric).1 = r.without (.metric metric) := by
  cases hlisted : r.index[metric]? with
  | none => rw [remove_of_none hlisted, h.without_unlisted hlisted]
  | some key =>
      rcases (h.index_iff metric key).mp hlisted with ⟨slot, hslot, hmem⟩
      refine eq_of_lookups ?_ ?_ (thins_remove r metric).generations
      · intro other
        rw [h.groups_without_listed hlisted hslot, Slot.without?_of_mem hmem,
          remove_of_some hlisted,
          dropEntry_of_some (r := { r with index := r.index.erase metric }) hslot]
        dsimp only
        split
        · rw [groups_dropGroup, lookup_erase, lookup_insert]
          split <;> rfl
        · exact lookup_insert _ _ _ _
      · intro other
        rw [remove_of_some hlisted, index_dropEntry]
        rfl

/-- Where a metric is taken out, no other group ends than the one that it was the last metric of. -/
theorem Consistent.endedBy_metric_iff (h : r.Consistent) (hlisted : r.index[metric]? = some key)
    (hslot : r.groups[key]? = some slot) (hmem : metric ∈ slot.group.entries) (ref : GroupRef) :
    r.EndedBy (.metric metric) ref ↔
      (slot.group.remove metric).1.isEmpty = true ∧ ref = ⟨key, slot.generation⟩ := by
  have hleft := h.groups_without_listed hlisted hslot ref.key
  rw [Slot.without?_of_mem hmem] at hleft
  constructor
  · rintro ⟨hregistered, hgone⟩
    rcases Option.map_eq_some_iff.mp hregistered with ⟨slot', hslot', hgeneration⟩
    rw [Std.ExtTreeMap.getElem?_eq_none hgone] at hleft
    by_cases hkey : key = ref.key
    · rw [if_pos hkey] at hleft
      rw [← hkey, hslot] at hslot'
      cases hslot'
      split at hleft
      next hempty => exact ⟨hempty, by rw [hkey, hgeneration]⟩
      next => cases hleft
    · rw [if_neg hkey, hslot'] at hleft
      cases hleft
  · rintro ⟨hempty, rfl⟩
    refine ⟨?_, ?_⟩
    · show r.groups[key]?.map _ = _
      rw [hslot]
      rfl
    · intro hthere
      rcases exists_lookup_of_mem hthere with ⟨slot', hslot'⟩
      rw [if_pos rfl, if_pos hempty, hslot'] at hleft
      cases hleft

theorem Consistent.not_endedBy_unlisted (h : r.Consistent) (hunlisted : r.index[metric]? = none)
    (ref : GroupRef) : ¬r.EndedBy (.metric metric) ref := by
  have hended := r.not_endedBy_again (.metric metric) ref
  rw [h.without_unlisted hunlisted] at hended
  exact hended

theorem Consistent.mem_dropped_remove (h : r.Consistent) {dropped : Option GroupRef}
    (hremoved : (r.remove metric).2 = some dropped) (ref : GroupRef) :
    ref ∈ dropped.toList ↔ r.EndedBy (.metric metric) ref := by
  cases hlisted : r.index[metric]? with
  | none =>
      rw [remove_of_none hlisted] at hremoved
      cases hremoved
  | some key =>
      rcases (h.index_iff metric key).mp hlisted with ⟨slot, hslot, hmem⟩
      rw [remove_of_some hlisted,
        dropEntry_of_some (r := { r with index := r.index.erase metric }) hslot] at hremoved
      cases hremoved
      rw [h.endedBy_metric_iff hlisted hslot hmem]
      dsimp only
      split
      next hempty =>
        rw [dropped_of_some Std.ExtTreeMap.getElem?_insert_self]
        simp [hempty]
      next hkept => simp [hkept]

theorem Consistent.amount_metric (h : r.Consistent) (metric : MetricId) :
    r.amount (.metric metric) = if (r.remove metric).2.isSome then 1 else 0 := by
  show (if (r.row metric).isSome then 1 else 0) = _
  cases hlisted : r.index[metric]? with
  | none =>
      have hnone : r.row metric = none := by
        unfold row
        rw [hlisted]
        rfl
      rw [remove_of_none hlisted, hnone]
      rfl
  | some key =>
      rcases (h.index_iff metric key).mp hlisted with ⟨slot, hslot, hmem⟩
      have hsome : (r.row metric).isSome = true := by
        unfold row entryUnder
        rw [hlisted, Option.bind_some, hslot, Option.bind_some, Option.isSome_map]
        exact Std.ExtTreeMap.mem_iff_isSome_getElem?.mp hmem
      rw [remove_of_some hlisted, if_pos hsome]
      rfl

end Registry

/-!
## Polling after a removal
-/

namespace Polling

/-- Takes a metric or the groups of a container out of polling; gives the number of entries or
groups that were dropped. -/
def takeOut (p : Polling) : Removal → Polling × Nat
  | .metric metric => ((p.remove metric).1, if (p.remove metric).2 then 1 else 0)
  | .container container => p.stopContainer container

/-- What a removal takes out is gone, the tickers of the groups that it ends are told to stop, and
nothing else is different but the counters and the journal. -/
structure TakesOut (p : Polling) (x : Removal) (q : Polling) : Prop where
  registry : q.registry = p.registry.without x
  tickers : q.tickers = p.tickers.map fun _ t =>
    if p.registry.EndedBy x t.ref then { t with cancelled := true } else t
  rest : ∃ metrics journal, q =
    { p with
      registry := q.registry
      tickers := q.tickers
      common := { p.common with metrics, journal } }

variable {p q : Polling} {x : Removal}

theorem exists_recorded (c : Commons) (event : GroupRef → Event) (dropped : List GroupRef) :
    ∃ journal, dropped.foldl (fun c ref => c.record (event ref)) c = { c with journal } := by
  induction dropped generalizing c with
  | nil => exact ⟨c.journal, rfl⟩
  | cons ref dropped ih =>
      rcases ih (c.record (event ref)) with ⟨journal, hrecorded⟩
      exact ⟨journal, hrecorded⟩

/-- Dropping exactly the groups that a removal ends, and announcing it, carries the removal out. -/
theorem takesOut_announce {r : Registry} (hleft : r = p.registry.without x)
    {dropped : List GroupRef} (hdropped : ∀ ref, ref ∈ dropped ↔ p.registry.EndedBy x ref)
    (reason : String) :
    p.TakesOut x (((p.setRegistry r).cancel dropped).recordStopped reason dropped) where
  registry := hleft
  tickers := by
    show p.tickers.map _ = p.tickers.map _
    congr 1
    funext _ t
    simp only [hdropped]
  rest := by
    rcases exists_recorded (p.setRegistry r).common (fun ref => .groupStopped ref.key.text reason)
      dropped with ⟨journal, hrecorded⟩
    exact ⟨(p.setRegistry r).common.metrics, journal,
      congrArg (fun common => { (p.setRegistry r).cancel dropped with common }) hrecorded⟩

theorem takesOut_nothing (hleft : p.registry.without x = p.registry)
    (hkept : ∀ ref, ¬p.registry.EndedBy x ref) : p.TakesOut x p where
  registry := hleft.symm
  tickers := by simp [hkept]
  rest := ⟨p.common.metrics, p.common.journal, rfl⟩

theorem TakesOut.noted (h : p.TakesOut x q) (f : Metrics → Metrics) (event : Event) :
    p.TakesOut x ((q.onCommon (·.count f)).onCommon (·.record event)) where
  registry := h.registry
  tickers := h.tickers
  rest := by
    rcases h.rest with ⟨metrics, journal, hrest⟩
    have hcommon : q.common = { p.common with metrics, journal } := congrArg common hrest
    have hnoted : (q.common.count f).record event = { p.common with
        metrics := f metrics
        journal := journal.record p.common.now event } := by
      rw [hcommon]
      rfl
    refine ⟨f metrics, journal.record p.common.now event, ?_⟩
    exact (congrArg (fun q' => { q' with common := (q.common.count f).record event }) hrest).trans
      (congrArg (fun common =>
        { p with registry := q.registry, tickers := q.tickers, common }) hnoted)

theorem takesOut_takeOut (h : p.registry.Consistent) (x : Removal) :
    p.TakesOut x (p.takeOut x).1 := by
  cases x with
  | container container =>
      exact takesOut_announce (h.stopContainer_eq container)
        (p.registry.mem_dropped_stopContainer container) "container changed"
  | metric metric =>
      show p.TakesOut (.metric metric) (p.remove metric).1
      unfold Polling.remove
      cases hlisted : p.registry.index[metric]? with
      | none =>
          rw [Registry.remove_of_none hlisted]
          exact takesOut_nothing (h.without_unlisted hlisted) (h.not_endedBy_unlisted hlisted)
      | some key =>
          have hremoved := Registry.remove_of_some hlisted
          have hleft := h.remove_eq metric
          rw [hremoved] at hleft ⊢
          exact takesOut_announce hleft (h.mem_dropped_remove (congrArg Prod.snd hremoved))
            "last metric removed"

theorem amount_takeOut (h : p.registry.Consistent) (x : Removal) :
    (p.takeOut x).2 = p.registry.amount x := by
  cases x with
  | container container => exact p.registry.length_stopContainer container
  | metric metric =>
      rw [h.amount_metric]
      show (if (p.remove metric).2 then 1 else 0) = _
      unfold Polling.remove
      split
      next hremoved =>
        rw [hremoved]
        rfl
      next hremoved =>
        rw [hremoved]
        rfl

end Polling
end Pulling
end MetricGateway
