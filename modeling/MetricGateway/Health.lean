import Std.Data.ExtTreeMap

/-!
# Health

Each long-running part of the service reports how it is; the service as a whole is as well as its
worst part.  It is ready once it has started and while no part is unhealthy.
-/

namespace MetricGateway

inductive Wellness where
  | healthy
  | degraded
  | unhealthy
deriving DecidableEq, Inhabited

namespace Wellness

def label : Wellness → String
  | healthy => "healthy"
  | degraded => "degraded"
  | unhealthy => "unhealthy"

def operational : Wellness → Bool
  | unhealthy => false
  | _ => true

def worse : Wellness → Wellness → Wellness
  | unhealthy, _ => unhealthy
  | _, unhealthy => unhealthy
  | degraded, _ => degraded
  | _, degraded => degraded
  | healthy, healthy => healthy

def worst (ws : List Wellness) : Wellness :=
  ws.foldl worse healthy

end Wellness

/-- What was last reported about a part of the service. -/
structure ComponentHealth where
  status : Wellness
  message : Option String := none
  /-- When it was reported, in seconds of the wall clock. -/
  checkedAt : Int64
deriving DecidableEq

/-- The parts of the service that report their health. -/
inductive Component where
  | broker
  /-- Degraded when the polled groups could not be rebuilt from the store. -/
  | resolver
deriving DecidableEq

namespace Component

def label : Component → String
  | broker => "broker"
  | resolver => "resolver"

def all : List Component := [broker, resolver]

end Component

/-- The reports about all parts, and whether the service has started. -/
structure HealthBoard where
  components : Std.ExtTreeMap String ComponentHealth := ∅
  started : Bool := false

/-- The health of the service as a whole, with its parts in the order of their names. -/
structure HealthReport where
  status : Wellness
  components : List (String × ComponentHealth)
deriving DecidableEq

inductive Unreadiness where
  | notStarted
  | unhealthyComponents (names : List String)
deriving DecidableEq

namespace Unreadiness

def message : Unreadiness → String
  | notStarted => "Service not yet started"
  | unhealthyComponents names => "Unhealthy components: " ++ String.intercalate ", " names

end Unreadiness

namespace HealthBoard

def update (b : HealthBoard) (name : String) (health : ComponentHealth) : HealthBoard :=
  { b with components := b.components.insert name health }

def setHealthy (b : HealthBoard) (name : String) (wall : Int64) : HealthBoard :=
  b.update name { status := .healthy, checkedAt := wall }

def setDegraded (b : HealthBoard) (name message : String) (wall : Int64) : HealthBoard :=
  b.update name { status := .degraded, message := some message, checkedAt := wall }

def setUnhealthy (b : HealthBoard) (name message : String) (wall : Int64) : HealthBoard :=
  b.update name { status := .unhealthy, message := some message, checkedAt := wall }

def registerAll (b : HealthBoard) (wall : Int64) : HealthBoard :=
  Component.all.foldl (fun b c => b.setHealthy c.label wall) b

def setStarted (b : HealthBoard) (started : Bool) : HealthBoard :=
  { b with started }

def report (b : HealthBoard) : HealthReport where
  status := Wellness.worst (b.components.toList.map (·.2.status))
  components := b.components.toList

def unreadiness? (b : HealthBoard) : Option Unreadiness :=
  if !b.started then some .notStarted
  else if !b.report.status.operational then
    some (.unhealthyComponents
      ((b.components.toList.filter fun c => !c.2.status.operational).map (·.1)))
  else none

@[simp] theorem getElem?_update (b : HealthBoard) (name other : String) (health : ComponentHealth) :
    (b.update name health).components[other]? =
      if name = other then some health else b.components[other]? := by
  simp [update, Std.ExtTreeMap.getElem?_insert]

end HealthBoard
end MetricGateway
