import MetricGateway.Proofs.Maps
import MetricGateway.Proofs.Pulling.Consistency
import MetricGateway.Proofs.Pulling.Rows

/-!
# Which groups an operation creates and drops

Every operation of the registry says which groups it created and which it dropped.  Under each key
these are told in full: a group that is there afterwards and was not there before was created, and
one that was there and is gone was dropped, each of them once.
-/

namespace MetricGateway
namespace Pulling
namespace Registry

def standing (r : Registry) (key : GroupKey) : Nat := if key ∈ r.groups then 1 else 0

/-- The registries differ by the groups that were dropped and created. -/
def Turnover (r r' : Registry) (dropped created : List GroupRef) : Prop :=
  ∀ key, r'.standing key + dropped.countP (·.key = key) =
    r.standing key + created.countP (·.key = key)

variable {r r' r'' : Registry} {dropped dropped' created created' : List GroupRef}

theorem standing_congr {key : GroupKey} (h : key ∈ r'.groups ↔ key ∈ r.groups) :
    r'.standing key = r.standing key := by
  unfold standing
  simp only [h]

theorem standing_eq_zero_iff (r : Registry) (key : GroupKey) :
    r.standing key = 0 ↔ key ∉ r.groups := by
  unfold standing
  split
  next hmem => exact iff_of_false Nat.one_ne_zero (not_not_intro hmem)
  next hnot => exact iff_of_true rfl hnot

theorem Turnover.trans (h : r.Turnover r' dropped created)
    (h' : r'.Turnover r'' dropped' created') :
    r.Turnover r'' (dropped ++ dropped') (created ++ created') := by
  intro key
  have hfirst := h key
  have hsecond := h' key
  rw [List.countP_append, List.countP_append]
  omega

theorem turnover_of_mem_iff (h : ∀ key, key ∈ r'.groups ↔ key ∈ r.groups) :
    r.Turnover r' [] [] := by
  intro key
  exact standing_congr (h key)

theorem turnover_refl (r : Registry) : r.Turnover r [] [] := turnover_of_mem_iff fun _ => Iff.rfl

theorem turnover_replace {key : GroupKey} {slot slot' : Slot} (hslot : r.groups[key]? = some slot)
    (hgroups : r'.groups = r.groups.insert key slot') : r.Turnover r' [] [] := by
  apply turnover_of_mem_iff
  intro other
  rw [hgroups, Std.ExtTreeMap.mem_insert, Std.LawfulEqOrd.compare_eq_iff_eq]
  constructor
  · rintro (heq | hmem)
    · exact heq ▸ mem_of_lookup hslot
    · exact hmem
  · exact Or.inr

/-! ## Dropping -/

theorem turnover_dropGroup (r : Registry) (key : GroupKey) :
    r.Turnover (r.dropGroup key).1 (r.dropGroup key).2.toList [] := by
  cases hslot : r.groups[key]? with
  | none =>
      rw [dropGroup_of_none hslot]
      exact turnover_refl r
  | some slot =>
      have hdropped : (r.dropGroup key).2 = some ⟨key, slot.generation⟩ := dropped_of_some hslot
      intro other
      unfold standing
      rw [groups_dropGroup, hdropped, Option.toList_some, List.countP_singleton, List.countP_nil]
      simp only [Std.ExtTreeMap.mem_erase, ne_eq, Std.LawfulEqOrd.compare_eq_iff_eq,
        decide_eq_true_eq]
      by_cases heq : key = other
      · subst heq
        simp [mem_of_lookup hslot]
      · simp [heq]

theorem turnover_dropEntry (r : Registry) (key : GroupKey) (metric : MetricId) :
    r.Turnover (r.dropEntry key metric).1 (r.dropEntry key metric).2.toList [] := by
  cases hslot : r.groups[key]? with
  | none =>
      rw [dropEntry_of_none hslot]
      exact turnover_refl r
  | some slot =>
      rw [dropEntry_of_some hslot]
      dsimp only
      have hreplaced : r.Turnover
          { r with
            groups := r.groups.insert key { slot with group := (slot.group.remove metric).1 } }
          [] [] := turnover_replace hslot rfl
      split
      · exact hreplaced.trans (turnover_dropGroup _ key)
      · exact hreplaced

theorem turnover_leaveOther (r : Registry) (key : GroupKey) (metric : MetricId) :
    r.Turnover (r.leaveOther key metric).1 (r.leaveOther key metric).2.toList [] := by
  rcases stays_or_moves r key metric with hstays | ⟨previous, hlisted, hne⟩
  · rw [leaveOther_of_stays hstays]
    exact turnover_refl r
  · rw [leaveOther_of_moves hlisted hne]
    exact turnover_dropEntry { r with index := r.index.erase metric } previous metric

theorem turnover_dropGroups (r : Registry) (keys : List GroupKey) :
    r.Turnover (r.dropGroups keys).1 (r.dropGroups keys).2 [] := by
  induction keys generalizing r with
  | nil => exact turnover_refl r
  | cons key keys ih => exact (turnover_dropGroup r key).trans (ih _)

theorem standing_stopAll (r : Registry) (key : GroupKey) : r.stopAll.1.standing key = 0 := by
  rw [standing_eq_zero_iff]
  intro hmem
  rcases exists_lookup_of_mem hmem with ⟨slot, hslot⟩
  rw [groups_stopAll] at hslot
  cases hslot

/-! ## Adding -/

theorem turnover_ensureGroup (r : Registry) (target : Target) :
    r.Turnover (r.ensureGroup target).1 [] (r.ensureGroup target).2.toList := by
  unfold ensureGroup
  dsimp only
  split
  next => exact turnover_refl r
  next hnot =>
    intro other
    unfold standing
    simp only [Std.ExtTreeMap.mem_insert, Std.LawfulEqOrd.compare_eq_iff_eq, Option.toList_some,
      List.countP_singleton, List.countP_nil, decide_eq_true_eq]
    by_cases heq : target.groupKey = other
    · subst heq
      simp [hnot]
    · simp [heq]

theorem turnover_enter (r : Registry) (key : GroupKey) (metric : MetricId) (valueKind : ValueKind)
    (budget : UInt16) : r.Turnover (r.enter key metric valueKind budget).1 [] [] := by
  cases hslot : r.groups[key]? with
  | none =>
      unfold enter
      rw [hslot]
      exact turnover_refl r
  | some slot =>
      rw [enter_of_some hslot]
      exact turnover_replace hslot rfl

theorem turnover_add {target : Target} {metric : MetricId} {valueKind : ValueKind}
    {budget : UInt16} {report : AddReport}
    (h : r.add target metric valueKind budget = .ok (r', report)) :
    r.Turnover r' report.dropped.toList report.created.toList := by
  by_cases hrefused : target.interval.wholeMillis = 0
  · rw [add_of_refused hrefused] at h
    cases h
  · let left := r.leaveOther target.groupKey metric
    let ensured := left.1.ensureGroup target
    let entered := ensured.1.enter target.groupKey metric valueKind budget
    have haccepted : r.add target metric valueKind budget =
        .ok (entered.1, { outcome := entered.2, dropped := left.2, created := ensured.2 }) := by
      unfold add
      rw [if_neg hrefused]
    rw [haccepted] at h
    cases h
    have hsteps := ((turnover_leaveOther r target.groupKey metric).trans
      (turnover_ensureGroup left.1 target)).trans
      (turnover_enter ensured.1 target.groupKey metric valueKind budget)
    rw [List.append_nil, List.append_nil, List.append_nil, List.nil_append] at hsteps
    exact hsteps

/-! ## The other operations -/

theorem turnover_refresh (r : Registry) (metric : MetricId) :
    r.Turnover (r.refresh metric).1 [] [] := by
  cases hlisted : r.index[metric]? with
  | none =>
      rw [refresh_of_none hlisted]
      exact turnover_refl r
  | some key =>
      cases hslot : r.groups[key]? with
      | none =>
          unfold refresh
          rw [hlisted]
          dsimp only
          rw [hslot]
          exact turnover_refl r
      | some slot =>
          rw [refresh_of_some hlisted hslot]
          exact turnover_replace hslot rfl

theorem turnover_remove {metric : MetricId} {dropped : Option GroupRef}
    (h : r.remove metric = (r', some dropped)) : r.Turnover r' dropped.toList [] := by
  cases hlisted : r.index[metric]? with
  | none =>
      rw [remove_of_none hlisted] at h
      cases h
  | some key =>
      rw [remove_of_some hlisted] at h
      cases h
      exact turnover_dropEntry { r with index := r.index.erase metric } key metric

theorem turnover_tick {ref : GroupRef} {report : TickReport}
    (h : r.tick ref = (r', some report)) :
    r.Turnover r' (if report.outcome = .stop then [ref] else []) [] := by
  unfold tick at h
  cases hslot : r.groups[ref.key]? with
  | none =>
      rw [hslot] at h
      cases h
  | some slot =>
      rw [hslot] at h
      dsimp only at h
      split at h
      next hcurrent =>
        let left : Registry :=
          { r with groups := r.groups.insert ref.key { slot with group := slot.group.tick.1 } }
        have hleft : r.Turnover left [] [] := turnover_replace hslot rfl
        split at h
        next hstop =>
          cases h
          rw [if_pos hstop]
          have hdropped : (left.dropGroup ref.key).2 =
              some { key := ref.key, generation := slot.generation } := by
            have hthere : left.groups[ref.key]? = some { slot with group := slot.group.tick.1 } :=
              Std.ExtTreeMap.getElem?_insert_self
            unfold dropGroup
            rw [hthere]
          have hgone := turnover_dropGroup left ref.key
          rw [hdropped, hcurrent] at hgone
          exact hleft.trans hgone
        next request expired hpoll =>
          cases h
          rw [if_neg (by rw [hpoll]; nofun)]
          exact hleft
      next => cases h

end Registry
end Pulling
end MetricGateway
