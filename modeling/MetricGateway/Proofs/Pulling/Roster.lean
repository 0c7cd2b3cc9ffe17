import Std.Data.ExtTreeSet
import MetricGateway.Proofs.Maps
import MetricGateway.Pulling.Registry

/-!
# Rosters

A roster is what background polling looks like from outside.  It has one row for each polled metric,
with the container and the interval at which it is polled, its type and what is left of its budget,
and beside the rows the keys that are live.  There are no groups in it, and every operation speaks
of all rows at once.

A key without rows is given up at once where a metric was removed from it or moved away.  Where the
rows of a key were used up by a round, the key stays live until its next round.
-/

namespace MetricGateway
namespace Pulling

structure Roster.Row where
  key : GroupKey
  valueKind : ValueKind
  remaining : UInt16
  budget : UInt16
deriving DecidableEq

structure Roster where
  rows : Std.ExtTreeMap MetricId Roster.Row := ∅
  live : Std.ExtTreeSet GroupKey := ∅

namespace Roster

namespace Row

def full (row : Row) : Row := { row with remaining := row.budget }

def spend (row : Row) : Option Row :=
  if row.remaining ≤ 1 then none else some { row with remaining := row.remaining - 1 }

end Row

def under (f : Roster) (key : GroupKey) : Std.ExtTreeMap MetricId Row :=
  f.rows.filter fun _ row => row.key = key

def release (f : Roster) (key : GroupKey) : Roster :=
  if (f.under key).isEmpty then { f with live := f.live.erase key } else f

def enter (f : Roster) (metric : MetricId) (row : Row) : Roster :=
  { rows := f.rows.insert metric row, live := f.live.insert row.key }

/-- Sets the row of a metric to a key, with a full budget, and gives its former key up if no other
metric has it. -/
def add (f : Roster) (key : GroupKey) (metric : MetricId) (valueKind : ValueKind)
    (budget : UInt16) : Roster × AddOutcome :=
  let entered := f.enter metric { key, valueKind, remaining := budget, budget }
  match f.rows[metric]? with
  | none => (entered, .inserted)
  | some former =>
      if former.key = key then (entered, .refreshed) else (entered.release former.key, .inserted)

def refresh (f : Roster) (metric : MetricId) : Roster × Bool :=
  match f.rows[metric]? with
  | none => (f, false)
  | some row => ({ f with rows := f.rows.insert metric row.full }, true)

def remove (f : Roster) (metric : MetricId) : Roster × Bool :=
  match f.rows[metric]? with
  | none => (f, false)
  | some row => ({ f with rows := f.rows.erase metric }.release row.key, true)

def stopContainer (f : Roster) (container : ContainerId) : Roster × Nat :=
  ({ rows := f.rows.filter fun _ row => row.key.container ≠ container
     live := f.live.filter (·.container ≠ container) },
    (f.live.filter (·.container = container)).size)

def stopAll (f : Roster) : Roster × Nat := ({}, f.live.size)

def selectors (f : Roster) (key : GroupKey) : List MetricSelector :=
  (f.under key).toList.map fun entry => { metric := entry.1, valueKind := entry.2.valueKind }

/-- A round of a key, with what it asks for; nothing where it gives the key up. -/
def tick (f : Roster) (key : GroupKey) : Roster × Option (List MetricSelector) :=
  if (f.under key).isEmpty then ({ f with live := f.live.erase key }, none)
  else
    ({ f with rows := f.rows.filterMap fun _ row => if row.key = key then row.spend else some row },
      some (f.selectors key))

inductive Order where
  | add (key : GroupKey) (metric : MetricId) (valueKind : ValueKind) (budget : UInt16)
  | refresh (metric : MetricId)
  | remove (metric : MetricId)
  | stopContainer (container : ContainerId)
  | stopAll
  | tick (key : GroupKey)

def perform (f : Roster) : Order → Roster
  | .add key metric valueKind budget => (f.add key metric valueKind budget).1
  | .refresh metric => (f.refresh metric).1
  | .remove metric => (f.remove metric).1
  | .stopContainer container => (f.stopContainer container).1
  | .stopAll => f.stopAll.1
  | .tick key => (f.tick key).1

def run (f : Roster) (orders : List Order) : Roster := orders.foldl perform f

theorem run_concat (f : Roster) (orders : List Order) (order : Order) :
    f.run (orders ++ [order]) = (f.run orders).perform order := by
  unfold run
  rw [List.foldl_append]
  rfl

/-!
## What the operations leave
-/

theorem lookup_under (f : Roster) (key : GroupKey) (metric : MetricId) :
    (f.under key)[metric]? = f.rows[metric]?.filter (·.key = key) :=
  Std.ExtTreeMap.getElem?_filter'

/-- Whether a metric has its row under a key. -/
def Lists (f : Roster) (key : GroupKey) (metric : MetricId) : Prop :=
  ∃ row, f.rows[metric]? = some row ∧ row.key = key

theorem isEmpty_under_iff (f : Roster) (key : GroupKey) :
    (f.under key).isEmpty = true ↔ ¬∃ metric, f.Lists key metric := by
  rw [Std.ExtTreeMap.isEmpty_iff]
  constructor
  · rintro hempty ⟨metric, row, hrow, hkey⟩
    have hunder := lookup_under f key metric
    rw [hempty, hrow] at hunder
    exact Option.filter_eq_none_iff.mp hunder.symm row rfl (by simpa using hkey)
  · intro hnone
    apply Std.ExtTreeMap.ext_getElem?
    intro metric
    rw [lookup_under, Std.ExtTreeMap.getElem?_empty, Option.filter_eq_none_iff]
    intro row hrow
    simpa using fun hkey => hnone ⟨metric, row, hrow, hkey⟩

theorem lists_enter (f : Roster) (metric m : MetricId) {row : Row} {key : GroupKey}
    (hne : row.key ≠ key) : (f.enter metric row).Lists key m ↔ metric ≠ m ∧ f.Lists key m := by
  unfold Lists enter
  dsimp only
  rw [lookup_insert]
  by_cases hm : metric = m <;> simp [hm, hne]

theorem lists_erase (f : Roster) (metric m : MetricId) (key : GroupKey) :
    Lists { f with rows := f.rows.erase metric } key m ↔ metric ≠ m ∧ f.Lists key m := by
  unfold Lists
  dsimp only
  rw [lookup_erase]
  by_cases hm : metric = m <;> simp [hm]

theorem mem_live_enter (f : Roster) (metric : MetricId) (row : Row) (key : GroupKey) :
    key ∈ (f.enter metric row).live ↔ key = row.key ∨ key ∈ f.live := by
  unfold enter
  rw [Std.ExtTreeSet.mem_insert, Std.LawfulEqOrd.compare_eq_iff_eq, eq_comm]

theorem mem_live_filter (f : Roster) (keeps : GroupKey → Bool) (key : GroupKey) :
    key ∈ f.live.filter keeps ↔ key ∈ f.live ∧ keeps key = true := by
  rw [Std.ExtTreeSet.mem_filter]
  simp

@[simp] theorem rows_release (f : Roster) (key : GroupKey) : (f.release key).rows = f.rows := by
  unfold release
  split <;> rfl

theorem mem_live_erase (f : Roster) (key other : GroupKey) :
    other ∈ f.live.erase key ↔ other ≠ key ∧ other ∈ f.live := by
  rw [Std.ExtTreeSet.mem_erase, Ne, Std.LawfulEqOrd.compare_eq_iff_eq, eq_comm]

theorem mem_live_release (f : Roster) (key other : GroupKey) :
    other ∈ (f.release key).live ↔
      other ∈ f.live ∧ (other = key → ∃ metric, f.Lists key metric) := by
  unfold release
  split
  next hempty =>
    have hnone := (isEmpty_under_iff f key).mp hempty
    rw [mem_live_erase]
    constructor
    · rintro ⟨hne, hlive⟩
      exact ⟨hlive, fun heq => absurd heq hne⟩
    · rintro ⟨hlive, hlists⟩
      exact ⟨fun heq => hnone (hlists heq), hlive⟩
  next hrows =>
    rw [isEmpty_under_iff, Classical.not_not] at hrows
    exact ⟨fun hlive => ⟨hlive, fun _ => hrows⟩, And.left⟩

theorem mem_selectors_iff (f : Roster) (key : GroupKey) (selector : MetricSelector) :
    selector ∈ f.selectors key ↔
      ∃ row, f.rows[selector.metric]? = some row ∧ row.key = key ∧
        row.valueKind = selector.valueKind := by
  unfold selectors
  rw [List.mem_map]
  constructor
  · rintro ⟨⟨metric, row⟩, hmem, rfl⟩
    rw [Std.ExtTreeMap.mem_toList_iff_getElem?_eq_some, lookup_under,
      Option.filter_eq_some_iff] at hmem
    exact ⟨row, hmem.1, by simpa using hmem.2, rfl⟩
  · rintro ⟨row, hrow, hkey, hkind⟩
    refine ⟨(selector.metric, row), ?_, by rw [hkind]⟩
    rw [Std.ExtTreeMap.mem_toList_iff_getElem?_eq_some, lookup_under, Option.filter_eq_some_iff]
    exact ⟨hrow, by simpa using hkey⟩

theorem pairwise_selectors (f : Roster) (key : GroupKey) :
    (f.selectors key).Pairwise fun selector later => selector.metric < later.metric := by
  unfold selectors
  rw [List.pairwise_map]
  refine Std.ExtTreeMap.ordered_keys_toList.imp ?_
  intro entry later hlt
  exact Std.compare_eq_lt.mp hlt

end Roster
end Pulling
end MetricGateway
