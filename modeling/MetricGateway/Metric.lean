import MetricGateway.Time

/-!
# Metrics, requests and readings

A container is a device that is polled for metrics.  A requester asks for one metric; the gateway
asks a translator for one metric or for a batch; a translator answers with readings.  Notices tell
that a container, a metric or a data policy has changed.
-/

namespace MetricGateway

inductive ContainerKind where
  | generic
  | snmpV1
  | snmpV2c
  | snmpV3
  | flexLegacy
deriving DecidableEq, Inhabited

namespace ContainerKind

def all : List ContainerKind := [generic, snmpV1, snmpV2c, snmpV3, flexLegacy]

def label : ContainerKind → String
  | generic => "generic"
  | snmpV1 => "snmpv1"
  | snmpV2c => "snmpv2c"
  | snmpV3 => "snmpv3"
  | flexLegacy => "flex-legacy"

theorem mem_all (k : ContainerKind) : k ∈ all := by cases k <;> decide

end ContainerKind

inductive ValueKind where
  | int
  | float
  | text
  | bool
deriving DecidableEq, Inhabited

namespace ValueKind

def all : List ValueKind := [int, float, text, bool]

theorem mem_all (k : ValueKind) : k ∈ all := by cases k <;> decide

end ValueKind

/-- A sampled value.  A floating point value is kept as its 64 bits, so that every bit pattern,
also that of a value that is no number, is preserved. -/
inductive MetricValue where
  | int (value : Int64)
  | float (bits : UInt64)
  | text (value : String)
  | bool (value : Bool)
deriving DecidableEq

abbrev ContainerId := Int32

abbrev MetricId := Int32

/-- A request for one metric, with what is needed to route a fetch. -/
structure MetricRequest where
  container : ContainerId
  containerKind : ContainerKind
  metric : MetricId
  valueKind : ValueKind
  policy : Int32
deriving DecidableEq

structure MetricSelector where
  metric : MetricId
  valueKind : ValueKind
deriving DecidableEq

structure BatchRequest where
  container : ContainerId
  containerKind : ContainerKind
  metrics : List MetricSelector
deriving DecidableEq

/-- The reading of one metric; there is no value where the device has none. -/
structure Reading where
  container : ContainerId
  metric : MetricId
  valueKind : ValueKind
  value : Option MetricValue
  timestamp : Int64
deriving DecidableEq

namespace Reading

/-- The reading that answers a request nobody can fetch. -/
def noData (request : MetricRequest) (timestamp : Int64) : Reading where
  container := request.container
  metric := request.metric
  valueKind := request.valueKind
  value := none
  timestamp := timestamp

end Reading

structure ReadingBatch where
  container : ContainerId
  readings : List Reading
deriving DecidableEq

/-- The settings of a metric: how often it is polled before the interest in it lapses, and how long
a value of it may be served from the cache. -/
structure MetricSettings where
  budget : UInt16
  cacheFor : Duration
deriving DecidableEq

structure ContainerSettings where
  interval : Duration
deriving DecidableEq

/-- Tells that a container was changed or removed. -/
structure ContainerNotice where
  container : ContainerId
deriving DecidableEq

structure MetricNotice where
  container : ContainerId
  metric : MetricId
deriving DecidableEq

structure PolicyNotice where
  policy : Int32
deriving DecidableEq

end MetricGateway
