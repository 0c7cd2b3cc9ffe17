import Std.Data.ExtTreeMap
import MetricGateway.Pulling.Entry

/-!
# Groups of polled metrics

A group is the metrics of one container that are polled at one interval.  Each round asks for all
of them at once and drops those whose budget it spent.  A group that lost its last metric in a round
stays until the next one, so that a metric added in between keeps it alive; a round that finds the
group empty stops it for good.
-/

namespace MetricGateway
namespace Pulling

/-- The identity of a group: a container, and an interval in milliseconds. -/
structure GroupKey where
  container : ContainerId
  intervalMs : UInt64
deriving DecidableEq, Inhabited

namespace GroupKey

def ofInterval (container : ContainerId) (interval : Duration) : GroupKey :=
  { container, intervalMs := interval.millisWord }

def text (k : GroupKey) : String :=
  toString k.container ++ "_" ++ toString k.intervalMs

/-- Keys are ordered by container, and by interval within a container. -/
instance : Ord GroupKey where
  compare := compareLex (compareOn GroupKey.container) (compareOn GroupKey.intervalMs)

theorem compare_eq (a b : GroupKey) :
    compare a b = (compare a.container b.container).then (compare a.intervalMs b.intervalMs) :=
  rfl

instance : Std.TransOrd GroupKey :=
  inferInstanceAs
    (Std.TransCmp (compareLex (compareOn GroupKey.container) (compareOn GroupKey.intervalMs)))

instance : Std.LawfulEqOrd GroupKey where
  compare_self := by
    intro a
    simp
  eq_of_compare := by
    intro a b h
    rw [compare_eq, Ordering.then_eq_eq] at h
    obtain ⟨hc, hi⟩ := h
    cases a
    cases b
    simp_all

end GroupKey

/-- Where a group polls, and how often. -/
structure Target where
  container : ContainerId
  containerKind : ContainerKind
  key : String
  interval : Duration
deriving DecidableEq

namespace Target

def groupKey (t : Target) : GroupKey := GroupKey.ofInterval t.container t.interval

end Target

inductive GroupState where
  | active
  | empty
  | stopped
deriving DecidableEq

inductive AddOutcome where
  | inserted
  | refreshed
deriving DecidableEq

inductive TickOutcome where
  /-- The request to publish, and the metrics that left the group in this round. -/
  | poll (request : BatchRequest) (expired : List MetricId)
  | stop
deriving DecidableEq

/-- The metrics of one container that are polled at one interval. -/
structure Group where
  target : Target
  entries : Std.ExtTreeMap MetricId Entry := ∅
  state : GroupState := .empty

namespace Group

def new (target : Target) : Group := { target }

def key (g : Group) : GroupKey := g.target.groupKey

def toList (g : Group) : List Entry := g.entries.values

def isEmpty (g : Group) : Bool := g.entries.isEmpty

/-- The entry of a metric after it was added: renewed where it is polled already. -/
def entryOnAdd (g : Group) (metric : MetricId) (valueKind : ValueKind) (budget : UInt16) : Entry :=
  match g.entries[metric]? with
  | some e => e.renew valueKind budget
  | none => .new metric valueKind budget

def add (g : Group) (metric : MetricId) (valueKind : ValueKind) (budget : UInt16) :
    Group × AddOutcome :=
  ({ g with
      entries := g.entries.insert metric (g.entryOnAdd metric valueKind budget)
      state := if g.state = .stopped then .stopped else .active },
    if metric ∈ g.entries then .refreshed else .inserted)

def refresh (g : Group) (metric : MetricId) : Group × Bool :=
  match g.entries[metric]? with
  | some e => ({ g with entries := g.entries.insert metric e.refresh }, true)
  | none => (g, false)

def remove (g : Group) (metric : MetricId) : Group × Option Entry :=
  let entries := g.entries.erase metric
  let state := if entries.isEmpty ∧ g.state = .active then .empty else g.state
  ({ g with entries, state }, g.entries[metric]?)

def request (g : Group) : BatchRequest where
  container := g.target.container
  containerKind := g.target.containerKind
  metrics := g.toList.map (·.selector)

def tick (g : Group) : Group × TickOutcome :=
  if g.state = .stopped ∨ g.isEmpty then
    ({ g with state := .stopped }, .stop)
  else
    let spent := g.entries.map fun _ e => e.spend
    let kept := spent.filter fun _ e => !e.exhausted
    let expired := (spent.filter fun _ e => e.exhausted).keys
    let state := if kept.isEmpty then .empty else g.state
    ({ g with entries := kept, state }, .poll g.request expired)

def stop (g : Group) : Group × List MetricId :=
  ({ g with state := .stopped, entries := ∅ }, g.entries.keys)

@[simp] theorem target_add (g : Group) (metric : MetricId) (valueKind : ValueKind)
    (budget : UInt16) : (g.add metric valueKind budget).1.target = g.target := rfl

@[simp] theorem target_refresh (g : Group) (metric : MetricId) :
    (g.refresh metric).1.target = g.target := by
  unfold refresh
  split <;> rfl

@[simp] theorem target_remove (g : Group) (metric : MetricId) :
    (g.remove metric).1.target = g.target := rfl

@[simp] theorem target_tick (g : Group) : g.tick.1.target = g.target := by
  unfold tick
  split <;> rfl

end Group
end Pulling
end MetricGateway
