import MetricGateway.Metric

/-!
# The layout of the platform

The exchanges, queues and routing keys that the services of the platform have agreed on, and the
routing key of the translator that serves each kind of container.
-/

namespace MetricGateway

/-- The broadcasts about changes of the configuration. -/
inductive LifecycleTopic where
  | containerUpdated
  | containerDeleted
  | metricUpdated
  | metricDeleted
  | policyDeleted
deriving DecidableEq

namespace LifecycleTopic

def all : List LifecycleTopic :=
  [containerUpdated, containerDeleted, metricUpdated, metricDeleted, policyDeleted]

theorem mem_all (t : LifecycleTopic) : t ∈ all := by cases t <;> decide

end LifecycleTopic

structure LifecycleExchanges where
  containerUpdated : String := "container.updated"
  containerDeleted : String := "container.deleted"
  metricUpdated : String := "metric.updated"
  metricDeleted : String := "metric.deleted"
  policyDeleted : String := "data_policy.deleted"
deriving DecidableEq

namespace LifecycleTopic

def exchange (exchanges : LifecycleExchanges) : LifecycleTopic → String
  | containerUpdated => exchanges.containerUpdated
  | containerDeleted => exchanges.containerDeleted
  | metricUpdated => exchanges.metricUpdated
  | metricDeleted => exchanges.metricDeleted
  | policyDeleted => exchanges.policyDeleted

end LifecycleTopic

/-- The exchanges, queues and keys of the platform. -/
structure Topology where
  /-- Translators take requests from here, keyed by protocol. -/
  fetchExchange : String := "metric.fetch"
  responseExchange : String := "metric.response"
  requestExchange : String := "rts.request"
  requestQueue : String := "rts.metric.request"
  requestKey : String := "rts"
  pollReplyKey : String := "rts"
  pollReplyQueue : String := "rts.poll.response"
  lifecycle : LifecycleExchanges := {}
deriving DecidableEq

namespace Topology

def replyQueue (t : Topology) (service : String) : String :=
  t.responseExchange ++ "." ++ service

end Topology

/-- The routing key of the translator for each kind of container. -/
structure RoutingTable where
  routes : List (ContainerKind × String)
deriving DecidableEq

namespace RoutingTable

def empty : RoutingTable := ⟨[]⟩

/-- The routes of the platform: one translator for all versions of one protocol, and one for the
legacy one. -/
def standard : RoutingTable :=
  ⟨[(.snmpV1, "snmp"), (.snmpV2c, "snmp"), (.snmpV3, "snmp"), (.flexLegacy, "flex-legacy")]⟩

def withRoute (t : RoutingTable) (kind : ContainerKind) (key : String) : RoutingTable :=
  ⟨(kind, key) :: t.routes⟩

def key? (t : RoutingTable) (kind : ContainerKind) : Option String :=
  t.routes.lookup kind

end RoutingTable
end MetricGateway
