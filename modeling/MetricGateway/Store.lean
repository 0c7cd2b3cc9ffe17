import Std.Data.ExtTreeMap
import MetricGateway.Metric

/-!
# The store of settings

The store says which metrics are to be polled, with their settings, and how often each container is
polled.
-/

namespace MetricGateway

structure StoredMetric where
  request : MetricRequest
  settings : MetricSettings
deriving DecidableEq

structure Store where
  metrics : Std.ExtTreeMap MetricId StoredMetric
  containers : Std.ExtTreeMap ContainerId ContainerSettings
  keyed : ∀ (metric : MetricId) (stored : StoredMetric), metrics[metric]? = some stored →
    stored.request.metric = metric

namespace Store

def empty : Store := { metrics := ∅, containers := ∅, keyed := by simp }

def insertMetric (s : Store) (request : MetricRequest) (settings : MetricSettings) : Store :=
  { s with
    metrics := s.metrics.insert request.metric { request, settings }
    keyed := by
      intro metric stored h
      rw [Std.ExtTreeMap.getElem?_insert] at h
      split at h
      next heq =>
        cases h
        exact Std.LawfulEqOrd.compare_eq_iff_eq.mp heq
      next => exact s.keyed metric stored h }

def removeMetric (s : Store) (metric : MetricId) : Store :=
  { s with
    metrics := s.metrics.erase metric
    keyed := by
      intro other stored h
      rw [Std.ExtTreeMap.getElem?_erase] at h
      split at h
      next => cases h
      next => exact s.keyed other stored h }

def setInterval (s : Store) (container : ContainerId) (interval : Duration) : Store :=
  { s with containers := s.containers.insert container { interval } }

def metricSettings (s : Store) (metric : MetricId) : Option MetricSettings :=
  s.metrics[metric]?.map (·.settings)

def containerSettings (s : Store) (container : ContainerId) : Option ContainerSettings :=
  s.containers[container]?

def list (s : Store) : List MetricRequest := s.metrics.toList.map (·.2.request)

end Store
end MetricGateway
