import MetricGateway.Health
import MetricGateway.Metrics
import MetricGateway.Pulling.Registry

/-!
# The web interface

Four pages can be read: the health of the service, whether it takes requests, the groups that are
polled with what is left of their budgets, and the counters.
-/

namespace MetricGateway
namespace Api

/-- Whether a page reports a working service. -/
inductive Outcome where
  | ok
  | unavailable
deriving DecidableEq

def Outcome.code : Outcome → Nat
  | ok => 200
  | unavailable => 503

def Outcome.ofCheck (passed : Bool) : Outcome := if passed then ok else unavailable

/-- The health page: the service is unavailable once a part of it is unhealthy. -/
def health (b : HealthBoard) : Outcome × HealthReport :=
  (.ofCheck b.report.status.operational, b.report)

/-- The readiness page, with the reason where the service takes no requests. -/
def readiness (b : HealthBoard) : Outcome × Option Unreadiness :=
  (.ofCheck b.unreadiness?.isNone, b.unreadiness?)

structure MetricRow where
  metric : MetricId
  remaining : UInt16
  budget : UInt16
deriving DecidableEq

structure GroupRow where
  key : String
  intervalMs : UInt64
  metrics : List MetricRow
deriving DecidableEq

def MetricRow.ofEntry (e : Pulling.Entry) : MetricRow :=
  { metric := e.metric, remaining := e.remaining, budget := e.budget }

def GroupRow.ofView (v : Pulling.GroupView) : GroupRow where
  key := v.key.text
  intervalMs := v.interval.millisWord
  metrics := v.entries.map .ofEntry

def pulling (r : Pulling.Registry) : List GroupRow := r.views.map .ofView

end Api
end MetricGateway
