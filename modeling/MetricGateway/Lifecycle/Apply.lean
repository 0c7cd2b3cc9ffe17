import MetricGateway.Lifecycle.Event
import MetricGateway.Resolver.Basic

/-!
# Applying changes of the configuration

A change of a container stops all groups of the container.  A change of a metric stops polling it
and forgets its cached settings.  The removal of a data policy stops all groups and builds them
again from the store; whether that worked is reported as the health of the resolver.
-/

namespace MetricGateway
namespace Resolver

/-- Stops polling a metric and forgets its cached settings; gives the number of entries that were
dropped. -/
def forgetMetric (r : Resolver) (metric : MetricId) : Resolver × Nat :=
  let (polling, removed) := r.polling.remove metric
  let (collaborators, _) := r.collaborators.forgetSettings metric
  ({ r with polling, collaborators }, if removed then 1 else 0)

def forgetContainer (r : Resolver) (container : ContainerId) : Resolver × Nat :=
  let (polling, n) := r.polling.stopContainer container
  ({ r with polling }, n)

/-- Stops all groups and builds them again from the store; gives the number that were stopped. -/
def rebuild (r : Resolver) : Resolver × Nat :=
  let (polling, n) := r.polling.stopAll
  match { r with polling }.reload with
  | (r, .ok _) => (r.onCommon (·.setHealthy .resolver), n)
  | (r, .error e) =>
      (r.onCommon (·.setDegraded .resolver ("Reload failed: " ++ e.message)), n)

/-- The effect of an event on the groups; gives the number of groups or entries it stopped. -/
def react (r : Resolver) : LifecycleEvent → Resolver × Nat
  | .containerUpdated container | .containerDeleted container => r.forgetContainer container
  | .metricUpdated _ metric | .metricDeleted _ metric => r.forgetMetric metric
  | .policyDeleted _ => r.rebuild

def apply (r : Resolver) (e : LifecycleEvent) : Resolver × Nat :=
  let (r, affected) := r.react e
  ((r.count (·.addLifecycleEvent e.kind)).onCommon
    (·.record (.lifecycleApplied e.kind e.subject affected)), affected)

end Resolver
end MetricGateway
