import MetricGateway.Pulling.Group

/-!
# Groups between two operations

What each operation of a group does to its entries, and what holds of a group between any two
operations of its registry: it is active exactly while it has entries, every entry stands under the
number of its own metric, and no entry has more left than its budget.  A spent entry never stays,
unless its budget was empty from the start.
-/

namespace MetricGateway
namespace Pulling

namespace Entry

/-- What is left fits into the budget, and nothing is left only of an empty budget. -/
structure InBudget (e : Entry) : Prop where
  remaining_le : e.remaining ≤ e.budget
  budget_eq_zero : e.remaining = 0 → e.budget = 0

theorem inBudget_new (metric : MetricId) (valueKind : ValueKind) (budget : UInt16) :
    (new metric valueKind budget).InBudget where
  remaining_le := UInt16.le_refl _
  budget_eq_zero := id

theorem inBudget_refresh (e : Entry) : e.refresh.InBudget where
  remaining_le := UInt16.le_refl _
  budget_eq_zero := id

theorem inBudget_spend {e : Entry} (h : e.InBudget) (hleft : e.spend.exhausted = false) :
    e.spend.InBudget := by
  constructor
  · rw [UInt16.le_iff_toNat_le, toNat_remaining_spend, budget_spend]
    have hle := UInt16.le_iff_toNat_le.mp h.remaining_le
    omega
  · intro hzero
    simp [exhausted, hzero] at hleft

theorem renew_eq_new {e : Entry} {metric : MetricId} (h : e.metric = metric)
    (valueKind : ValueKind) (budget : UInt16) :
    e.renew valueKind budget = new metric valueKind budget := by
  cases e
  cases h
  rfl

end Entry

namespace Group

/-!
## Entries after an operation
-/

theorem getElem?_add (g : Group) (metric other : MetricId) (valueKind : ValueKind)
    (budget : UInt16) :
    (g.add metric valueKind budget).1.entries[other]? =
      if metric = other then some (g.entryOnAdd metric valueKind budget)
      else g.entries[other]? := by
  simp [add, Std.ExtTreeMap.getElem?_insert]

theorem getElem?_refresh (g : Group) (metric other : MetricId) :
    (g.refresh metric).1.entries[other]? =
      if metric = other then g.entries[other]?.map Entry.refresh else g.entries[other]? := by
  unfold refresh
  cases he : g.entries[metric]? with
  | none =>
      by_cases hother : metric = other
      · subst hother
        simp [he]
      · simp [hother]
  | some e =>
      by_cases hother : metric = other
      · subst hother
        simp [he]
      · simp [Std.ExtTreeMap.getElem?_insert, hother]

theorem getElem?_remove (g : Group) (metric other : MetricId) :
    (g.remove metric).1.entries[other]? =
      if metric = other then none else g.entries[other]? := by
  simp [remove, Std.ExtTreeMap.getElem?_erase]

theorem mem_add (g : Group) (metric other : MetricId) (valueKind : ValueKind) (budget : UInt16) :
    other ∈ (g.add metric valueKind budget).1.entries ↔ metric = other ∨ other ∈ g.entries := by
  simp [add]

theorem mem_refresh (g : Group) (metric other : MetricId) :
    other ∈ (g.refresh metric).1.entries ↔ other ∈ g.entries := by
  rw [Std.ExtTreeMap.mem_iff_isSome_getElem?, getElem?_refresh,
    Std.ExtTreeMap.mem_iff_isSome_getElem?]
  split <;> simp

theorem mem_remove (g : Group) (metric other : MetricId) :
    other ∈ (g.remove metric).1.entries ↔ metric ≠ other ∧ other ∈ g.entries := by
  simp [remove]

/-!
## Rounds

A round of a group that is neither stopped nor empty spends one poll of every entry.  The entries
that this exhausts are the expired ones, and they leave.
-/

theorem tick_of_stop {g : Group} (h : g.state = .stopped ∨ g.isEmpty = true) :
    g.tick = ({ g with state := .stopped }, .stop) := by
  unfold tick
  rw [if_pos h]

theorem tick_of_poll {g : Group} (h : ¬(g.state = .stopped ∨ g.isEmpty = true)) :
    g.tick.2 = .poll g.request
      ((g.entries.map fun _ e => e.spend).filter fun _ e => e.exhausted).keys := by
  unfold tick
  rw [if_neg h]

theorem getElem?_tick {g : Group} (h : ¬(g.state = .stopped ∨ g.isEmpty = true))
    (metric : MetricId) :
    g.tick.1.entries[metric]? =
      (g.entries[metric]?.map Entry.spend).filter fun e => !e.exhausted := by
  unfold tick
  rw [if_neg h]
  simp

theorem state_tick {g : Group} (h : ¬(g.state = .stopped ∨ g.isEmpty = true)) :
    g.tick.1.state = if g.tick.1.isEmpty then .empty else g.state := by
  unfold tick
  rw [if_neg h]
  rfl

theorem poll_of_tick {g : Group} {request : BatchRequest} {expired : List MetricId}
    (h : g.tick.2 = .poll request expired) : ¬(g.state = .stopped ∨ g.isEmpty = true) := by
  intro hstop
  rw [tick_of_stop hstop] at h
  cases h

theorem mem_expired {g : Group} {request : BatchRequest} {expired : List MetricId}
    (h : g.tick.2 = .poll request expired) (metric : MetricId) :
    metric ∈ expired ↔ ∃ e, g.entries[metric]? = some e ∧ e.spend.exhausted = true := by
  rw [tick_of_poll (poll_of_tick h)] at h
  cases h
  rw [Std.ExtTreeMap.mem_keys, Std.ExtTreeMap.mem_iff_isSome_getElem?,
    Std.ExtTreeMap.getElem?_filter', Std.ExtTreeMap.getElem?_map]
  cases g.entries[metric]? <;> simp [Option.filter]

theorem mem_tick {g : Group} {request : BatchRequest} {expired : List MetricId}
    (h : g.tick.2 = .poll request expired) (metric : MetricId) :
    metric ∈ g.tick.1.entries ↔ metric ∈ g.entries ∧ metric ∉ expired := by
  rw [mem_expired h, Std.ExtTreeMap.mem_iff_isSome_getElem?, getElem?_tick (poll_of_tick h),
    Std.ExtTreeMap.mem_iff_isSome_getElem?]
  cases g.entries[metric]? <;> simp [Option.filter]

/-!
## Soundness
-/

/-- What holds of a group between two operations of its registry. -/
structure Sound (g : Group) : Prop where
  state_eq : g.state = if g.isEmpty then .empty else .active
  metric_eq : ∀ {metric : MetricId} {e : Entry}, g.entries[metric]? = some e → e.metric = metric
  inBudget : ∀ {metric : MetricId} {e : Entry}, g.entries[metric]? = some e → e.InBudget

theorem Sound.state_ne_stopped {g : Group} (h : g.Sound) : g.state ≠ .stopped := by
  rw [h.state_eq]
  split <;> simp

theorem sound_new (target : Target) : (new target).Sound where
  state_eq := by simp [new, isEmpty]
  metric_eq := by simp [new]
  inBudget := by simp [new]

theorem Sound.entryOnAdd_eq {g : Group} (h : g.Sound) (metric : MetricId) (valueKind : ValueKind)
    (budget : UInt16) :
    g.entryOnAdd metric valueKind budget = .new metric valueKind budget := by
  unfold entryOnAdd
  cases he : g.entries[metric]? with
  | none => rfl
  | some e => exact Entry.renew_eq_new (h.metric_eq he) valueKind budget

theorem Sound.add {g : Group} (h : g.Sound) (metric : MetricId) (valueKind : ValueKind)
    (budget : UInt16) : (g.add metric valueKind budget).1.Sound where
  state_eq := by
    have hactive : (g.add metric valueKind budget).1.state = .active :=
      if_neg h.state_ne_stopped
    rw [hactive]
    simp [isEmpty, Group.add]
  metric_eq := by
    intro other e he
    rw [getElem?_add, h.entryOnAdd_eq] at he
    split at he
    next heq =>
      cases he
      exact heq
    next => exact h.metric_eq he
  inBudget := by
    intro other e he
    rw [getElem?_add, h.entryOnAdd_eq] at he
    split at he
    next =>
      cases he
      exact Entry.inBudget_new metric valueKind budget
    next => exact h.inBudget he

theorem state_refresh (g : Group) (metric : MetricId) :
    (g.refresh metric).1.state = g.state := by
  unfold refresh
  split <;> rfl

theorem isEmpty_refresh (g : Group) (metric : MetricId) :
    (g.refresh metric).1.isEmpty = g.isEmpty := by
  unfold refresh
  cases he : g.entries[metric]? with
  | none => rfl
  | some e =>
      have hne : g.entries.isEmpty = false := by
        rw [Std.ExtTreeMap.isEmpty_eq_false_iff]
        intro hnone
        simp [hnone] at he
      simp [isEmpty, hne]

theorem Sound.refresh {g : Group} (h : g.Sound) (metric : MetricId) :
    (g.refresh metric).1.Sound where
  state_eq := by
    rw [state_refresh, isEmpty_refresh]
    exact h.state_eq
  metric_eq := by
    intro other e he
    rw [getElem?_refresh] at he
    split at he
    next =>
      rcases Option.map_eq_some_iff.mp he with ⟨old, hold, rfl⟩
      rw [Entry.metric_refresh]
      exact h.metric_eq hold
    next => exact h.metric_eq he
  inBudget := by
    intro other e he
    rw [getElem?_refresh] at he
    split at he
    next =>
      rcases Option.map_eq_some_iff.mp he with ⟨old, _, rfl⟩
      exact Entry.inBudget_refresh old
    next => exact h.inBudget he

theorem Sound.remove {g : Group} (h : g.Sound) (metric : MetricId) :
    (g.remove metric).1.Sound where
  state_eq := by
    have hstate : (g.remove metric).1.state =
        if (g.remove metric).1.isEmpty ∧ g.state = .active then .empty else g.state := rfl
    rw [hstate, h.state_eq]
    cases hempty : g.isEmpty with
    | true =>
        have hnone : g.entries = ∅ := Std.ExtTreeMap.isEmpty_iff.mp hempty
        have hstill : (g.remove metric).1.isEmpty = true := by
          simp [isEmpty, Group.remove, hnone]
        simp [hstill]
    | false => simp
  metric_eq := by
    intro other e he
    rw [getElem?_remove] at he
    split at he
    next => cases he
    next => exact h.metric_eq he
  inBudget := by
    intro other e he
    rw [getElem?_remove] at he
    split at he
    next => cases he
    next => exact h.inBudget he

theorem Sound.tick {g : Group} (h : g.Sound) {request : BatchRequest} {expired : List MetricId}
    (hpoll : g.tick.2 = .poll request expired) : g.tick.1.Sound := by
  have hgo := poll_of_tick hpoll
  constructor
  · rw [state_tick hgo, h.state_eq]
    have hempty : g.isEmpty = false := by
      cases hempty : g.isEmpty with
      | false => rfl
      | true => exact absurd (Or.inr hempty) hgo
    simp [hempty]
  · intro metric e he
    rw [getElem?_tick hgo] at he
    rcases Option.filter_eq_some_iff.mp he with ⟨hspent, _⟩
    rcases Option.map_eq_some_iff.mp hspent with ⟨old, hold, rfl⟩
    rw [Entry.metric_spend]
    exact h.metric_eq hold
  · intro metric e he
    rw [getElem?_tick hgo] at he
    rcases Option.filter_eq_some_iff.mp he with ⟨hspent, hleft⟩
    rcases Option.map_eq_some_iff.mp hspent with ⟨old, hold, rfl⟩
    exact Entry.inBudget_spend (h.inBudget hold) (by simpa using hleft)

end Group
end Pulling
end MetricGateway
