import MetricGateway.Error
import MetricGateway.Pulling.Group

/-!
# The registry of groups

The registry holds every group under its key, and for every polled metric the key of the group that
polls it.  A metric is polled by one group at a time: adding it with another interval moves it.
A group that loses its last metric by removal or by such a move is dropped at once.  Each group gets
the next number, its generation, when it is created, so that a late tick of an earlier group under
the same key can be told from a tick of the present one.
-/

namespace MetricGateway
namespace Pulling

/-- The number of a group, in the order in which groups are created. -/
abbrev Generation := Nat

structure Slot where
  group : Group
  generation : Generation

/-- All groups, and the group of every polled metric. -/
structure Registry where
  groups : Std.ExtTreeMap GroupKey Slot := ∅
  index : Std.ExtTreeMap MetricId GroupKey := ∅
  generations : Generation := 0

/-- A group that an operation created or dropped. -/
structure GroupRef where
  key : GroupKey
  generation : Generation
deriving DecidableEq

/-- What adding a metric did to it and to the groups. -/
structure AddReport where
  outcome : AddOutcome
  /-- The group that the metric left without another one. -/
  dropped : Option GroupRef
  created : Option GroupRef
deriving DecidableEq

structure GroupView where
  key : GroupKey
  state : GroupState
  interval : Duration
  entries : List Entry
deriving DecidableEq

namespace Registry

/-- Drops a group, and the index entries of its metrics that point at it. -/
def dropGroup (r : Registry) (key : GroupKey) : Registry × Option GroupRef :=
  match r.groups[key]? with
  | none => (r, none)
  | some slot =>
      ({ r with
          groups := r.groups.erase key
          index := r.index.filter fun metric k => !(k = key ∧ metric ∈ slot.group.entries) },
        some { key, generation := slot.generation })

/-- Drops the entry of a metric from a group, and the group if that was its last one. -/
def dropEntry (r : Registry) (key : GroupKey) (metric : MetricId) : Registry × Option GroupRef :=
  match r.groups[key]? with
  | none => (r, none)
  | some slot =>
      let group := (slot.group.remove metric).1
      let r := { r with groups := r.groups.insert key { slot with group } }
      if group.isEmpty then r.dropGroup key else (r, none)

/-- Takes a metric out of the group it is polled by, unless that is the group under `key`. -/
def leaveOther (r : Registry) (key : GroupKey) (metric : MetricId) : Registry × Option GroupRef :=
  match r.index[metric]? with
  | none => (r, none)
  | some previous =>
      if previous = key then (r, none)
      else { r with index := r.index.erase metric }.dropEntry previous metric

def ensureGroup (r : Registry) (target : Target) : Registry × Option GroupRef :=
  let key := target.groupKey
  if key ∈ r.groups then (r, none)
  else
    let generation := r.generations + 1
    ({ r with
        generations := generation
        groups := r.groups.insert key { group := Group.new target, generation } },
      some { key, generation })

def enter (r : Registry) (key : GroupKey) (metric : MetricId) (valueKind : ValueKind)
    (budget : UInt16) : Registry × AddOutcome :=
  let index := r.index.insert metric key
  match r.groups[key]? with
  | some slot =>
      let (group, outcome) := slot.group.add metric valueKind budget
      ({ r with index, groups := r.groups.insert key { slot with group } }, outcome)
  | none => ({ r with index }, .inserted)

/-- Starts polling a metric, in the group of its target; an interval below one millisecond is
refused. -/
def add (r : Registry) (target : Target) (metric : MetricId) (valueKind : ValueKind)
    (budget : UInt16) : Except GatewayError (Registry × AddReport) :=
  if target.interval.wholeMillis = 0 then
    .error (.notConfigured .container target.container)
  else
    let (r, dropped) := r.leaveOther target.groupKey metric
    let (r, created) := r.ensureGroup target
    let (r, outcome) := r.enter target.groupKey metric valueKind budget
    .ok (r, { outcome, dropped, created })

def refresh (r : Registry) (metric : MetricId) : Registry × Bool :=
  match r.index[metric]? with
  | none => (r, false)
  | some key =>
      match r.groups[key]? with
      | none => (r, false)
      | some slot =>
          let (group, found) := slot.group.refresh metric
          ({ r with groups := r.groups.insert key { slot with group } }, found)

/-- Stops polling a metric; nothing where it is not polled, else the group that was dropped. -/
def remove (r : Registry) (metric : MetricId) : Registry × Option (Option GroupRef) :=
  match r.index[metric]? with
  | none => (r, none)
  | some key =>
      let (r, dropped) := { r with index := r.index.erase metric }.dropEntry key metric
      (r, some dropped)

def dropGroups (r : Registry) : List GroupKey → Registry × List GroupRef
  | [] => (r, [])
  | key :: keys =>
      let (r, dropped) := r.dropGroup key
      let (r, more) := r.dropGroups keys
      (r, dropped.toList ++ more)

def keys (r : Registry) : List GroupKey := r.groups.keys

def stopContainer (r : Registry) (container : ContainerId) : Registry × List GroupRef :=
  r.dropGroups (r.keys.filter (·.container = container))

def stopAll (r : Registry) : Registry × List GroupRef :=
  r.dropGroups r.keys

/-- What a tick did: the outcome of the round, the routing key of the translator, and the group if
it was dropped. -/
structure TickReport where
  outcome : TickOutcome
  key : String
  dropped : Option GroupRef
deriving DecidableEq

/-- One round of the group that is meant; nothing where the group is gone, or another one has taken
its key. -/
def tick (r : Registry) (ref : GroupRef) : Registry × Option TickReport :=
  match r.groups[ref.key]? with
  | none => (r, none)
  | some slot =>
      if slot.generation = ref.generation then
        let (group, outcome) := slot.group.tick
        let r := { r with groups := r.groups.insert ref.key { slot with group } }
        match outcome with
        | .stop =>
            let (r, dropped) := r.dropGroup ref.key
            (r, some { outcome, key := slot.group.target.key, dropped })
        | .poll _ expired =>
            ({ r with index := r.index.filter fun metric k => !(k = ref.key ∧ metric ∈ expired) },
              some { outcome, key := slot.group.target.key, dropped := none })
      else (r, none)

def groupCount (r : Registry) : Nat := r.groups.size

def entryCount (r : Registry) : Nat := r.index.size

def groupOf? (r : Registry) (metric : MetricId) : Option GroupKey := r.index[metric]?

def entry? (r : Registry) (metric : MetricId) : Option Entry := do
  let key ← r.index[metric]?
  let slot ← r.groups[key]?
  slot.group.entries[metric]?

def view? (r : Registry) (key : GroupKey) : Option GroupView :=
  r.groups[key]?.map fun slot =>
    { key
      state := slot.group.state
      interval := slot.group.target.interval
      entries := slot.group.toList }

def views (r : Registry) : List GroupView := r.keys.filterMap r.view?

end Registry
end Pulling
end MetricGateway
