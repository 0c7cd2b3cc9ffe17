import MetricGateway.Envelope
import MetricGateway.Topology

/-!
# Events in the life of the configuration

A broadcast tells that a container, a metric or a data policy was changed or removed.  The topic on
which it arrives says which notice its body holds.
-/

namespace MetricGateway

inductive LifecycleEvent where
  | containerUpdated (container : ContainerId)
  | containerDeleted (container : ContainerId)
  | metricUpdated (container : ContainerId) (metric : MetricId)
  | metricDeleted (container : ContainerId) (metric : MetricId)
  | policyDeleted (policy : Int32)
deriving DecidableEq

namespace LifecycleEvent

def kind : LifecycleEvent → String
  | containerUpdated _ => "container_updated"
  | containerDeleted _ => "container_deleted"
  | metricUpdated _ _ => "metric_updated"
  | metricDeleted _ _ => "metric_deleted"
  | policyDeleted _ => "data_policy_deleted"

def subject : LifecycleEvent → Int32
  | containerUpdated container | containerDeleted container => container
  | metricUpdated _ metric | metricDeleted _ metric => metric
  | policyDeleted policy => policy

end LifecycleEvent

namespace LifecycleTopic

def decode (t : LifecycleTopic) (e : Envelope) : Except Wire.Fault LifecycleEvent :=
  match t with
  | containerUpdated =>
      (e.unpack : Except Wire.Fault ContainerNotice).map fun n => .containerUpdated n.container
  | containerDeleted =>
      (e.unpack : Except Wire.Fault ContainerNotice).map fun n => .containerDeleted n.container
  | metricUpdated =>
      (e.unpack : Except Wire.Fault MetricNotice).map fun n => .metricUpdated n.container n.metric
  | metricDeleted =>
      (e.unpack : Except Wire.Fault MetricNotice).map fun n => .metricDeleted n.container n.metric
  | policyDeleted =>
      (e.unpack : Except Wire.Fault PolicyNotice).map fun n => .policyDeleted n.policy

end LifecycleTopic
end MetricGateway
