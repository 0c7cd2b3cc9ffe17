import MetricGateway.Lifecycle.Apply
import MetricGateway.Proofs.Scheduling.Reload

/-!
# Rebuilding the groups from the store

The removal of a data policy stops all groups and schedules the metrics of the store anew.  The
resolver is reported healthy exactly if the store could be listed, also where single lookups failed.
The groups are then those that the lookups prescribe, and a lookup prefers the cached settings of a
metric to the ones in the store.
-/

namespace MetricGateway
namespace Resolver

def ReportedHealthy (r : Resolver) : Prop :=
  (r.common.health.components[Component.resolver.label]?).map (·.status) = some .healthy

theorem reportedHealthy_setHealthy (r : Resolver) :
    (r.onCommon (·.setHealthy .resolver)).ReportedHealthy := by
  show ((r.common.health.setHealthy Component.resolver.label
    r.common.wall).components[Component.resolver.label]?).map (·.status) = some .healthy
  simp [HealthBoard.setHealthy]

theorem not_reportedHealthy_setDegraded (r : Resolver) (message : String) :
    ¬(r.onCommon (·.setDegraded .resolver message)).ReportedHealthy := by
  show ¬((r.common.health.setDegraded Component.resolver.label message
    r.common.wall).components[Component.resolver.label]?).map (·.status) = some .healthy
  simp [HealthBoard.setDegraded]

def cleared (r : Resolver) : Resolver := { r with polling := r.polling.stopAll.1 }

theorem consistent_cleared {r : Resolver} (h : r.polling.registry.Consistent) :
    r.cleared.polling.registry.Consistent :=
  h.stopAll

theorem rowOnSchedule_cleared (r : Resolver) (lookup : Nat) (request : MetricRequest) :
    r.cleared.rowOnSchedule lookup request = r.collaborators.prescribed lookup request := by
  have hrow : r.cleared.polling.registry.row request.metric = none :=
    Pulling.Registry.row_stopAll r.polling.registry request.metric
  unfold rowOnSchedule
  rw [hrow, Option.or_none]
  rfl

theorem rebuild_of_fails {r : Resolver} (h : r.collaborators.fails .storeList = true) :
    ∃ message, r.rebuild.1 = r.cleared.onCommon (·.setDegraded .resolver message) := by
  unfold rebuild reload Collaborators.storedMetrics Collaborators.ask
  dsimp only
  rw [if_pos h]
  exact ⟨_, rfl⟩

theorem rebuild_of_lists {r : Resolver} (h : ¬r.collaborators.fails .storeList = true) :
    r.rebuild.1 = (r.cleared.scheduleAll r.collaborators.store.list).1.onCommon
      (·.setHealthy .resolver) := by
  unfold rebuild reload Collaborators.storedMetrics Collaborators.ask
  dsimp only
  rw [if_neg h]
  rfl

theorem reportedHealthy_rebuild_iff (r : Resolver) :
    r.rebuild.1.ReportedHealthy ↔ ¬r.collaborators.fails .storeList = true := by
  constructor
  · intro hhealthy hfails
    rcases rebuild_of_fails hfails with ⟨message, hrebuild⟩
    rw [hrebuild] at hhealthy
    exact not_reportedHealthy_setDegraded r.cleared message hhealthy
  · intro hlists
    rw [rebuild_of_lists hlists]
    exact reportedHealthy_setHealthy _

theorem apply_eq (r : Resolver) (e : LifecycleEvent) :
    (r.apply e).1.polling.registry = (r.react e).1.polling.registry ∧
      ((r.apply e).1.ReportedHealthy ↔ (r.react e).1.ReportedHealthy) := by
  unfold apply
  cases r.react e with
  | mk r' affected => exact ⟨rfl, Iff.rfl⟩

theorem rebuild_scheduledAll {r : Resolver} (hconsistent : r.polling.registry.Consistent)
    (hhealthy : r.rebuild.1.ReportedHealthy) :
    r.cleared.ScheduledAll r.collaborators.store.list r.rebuild.1 := by
  rw [rebuild_of_lists ((reportedHealthy_rebuild_iff r).mp hhealthy)]
  have hall := scheduleAll_scheduledAll (consistent_cleared hconsistent)
    r.collaborators.store.pairwise_list
  exact ⟨hall.consistent, hall.row, hall.row_of_ne⟩

/-!
## A store with one metric
-/

def temperature : MetricRequest := ⟨7, .snmpV2c, 42, .int, 1⟩

/-- A resolver that polls nothing yet, with a store that lists one metric. -/
def unscheduled (cache : Cache) : Resolver where
  polling := {
    common := { journal := { service := "rts" }, outbox := { capacity := 1 } }
    exchange := "fetch"
    replyKey := "rts"
    messageTtl := Duration.ofSecs 30 }
  collaborators := {
    cache
    store := (Store.empty.insertMetric temperature ⟨5, Duration.ofSecs 10⟩).setInterval 7
      (Duration.ofSecs 1) }

theorem reportedHealthy_unscheduled (cache : Cache) :
    ((unscheduled cache).apply (.policyDeleted 1)).1.ReportedHealthy := by
  rw [(apply_eq (unscheduled cache) (.policyDeleted 1)).2]
  exact (reportedHealthy_rebuild_iff (unscheduled cache)).mpr Bool.false_ne_true

/-!
## What is polled after a rebuild
-/

/-- When the removal of a data policy was applied and left the resolver healthy, every metric that
the store lists and a translator handles is polled as its lookup prescribes, in one group and with
its whole budget, or not at all where the lookup prescribes nothing; and no other metric is polled.
-/
theorem apply_policyDeleted_polls_prescribed {r : Resolver} (policy : Int32)
    (hconsistent : r.polling.registry.Consistent)
    (hhealthy : (r.apply (.policyDeleted policy)).1.ReportedHealthy) :
    let registry := (r.apply (.policyDeleted policy)).1.polling.registry
    let listed := r.routed r.collaborators.store.list
    registry.Consistent ∧
      (∀ (i : Nat) (request : MetricRequest), listed[i]? = some request →
        registry.row request.metric = r.collaborators.prescribed (r.lookupOf i) request) ∧
      ∀ metric : MetricId, (∀ request ∈ listed, request.metric ≠ metric) →
        ∀ key, ¬registry.Holds key metric := by
  rcases apply_eq r (.policyDeleted policy) with ⟨hregistry, hreported⟩
  have hall := rebuild_scheduledAll hconsistent (hreported.mp hhealthy)
  have hrebuilt : (r.apply (.policyDeleted policy)).1.polling.registry =
      r.rebuild.1.polling.registry := hregistry
  dsimp only
  rw [hrebuilt]
  refine ⟨hall.consistent, ?_, ?_⟩
  · intro i request hlisted
    rw [hall.row hlisted, rowOnSchedule_cleared]
    rfl
  · intro metric hother
    rw [← hall.consistent.row_eq_none_iff, hall.row_of_ne hother]
    exact Pulling.Registry.row_stopAll r.polling.registry metric

theorem apply_policyDeleted_polls_temperature :
    ((unscheduled {}).apply (.policyDeleted 1)).1.polling.registry.row 42 =
      some (⟨7, 1000⟩, ⟨42, .int, 5, 5⟩) := by
  have hpolled := apply_policyDeleted_polls_prescribed (r := unscheduled {}) 1
    Pulling.Registry.consistent_empty (reportedHealthy_unscheduled {})
  exact hpolled.2.1 0 temperature rfl

/-- The budget is not always the one in the store: settings that the cache still holds come first.
-/
theorem rebuild_prefers_cached_settings :
    ¬∀ (r : Resolver) (policy : Int32), r.polling.registry.Consistent →
      (r.apply (.policyDeleted policy)).1.ReportedHealthy →
      ∀ request ∈ r.collaborators.store.list, r.isRouted request = true →
      ∀ s interval, r.collaborators.store.metricSettings request.metric = some s →
        r.collaborators.store.containerSettings request.container = some ⟨interval⟩ →
        1 ≤ interval.wholeMillis →
        (r.apply (.policyDeleted policy)).1.polling.registry.row request.metric =
          some (.ofInterval request.container interval,
            .new request.metric request.valueKind s.budget) := by
  intro halways
  let cache := ({} : Cache).setSettings 42 ⟨9, Duration.ofSecs 10⟩
  have hhealthy := reportedHealthy_unscheduled cache
  have hstored := halways (unscheduled cache) 1 Pulling.Registry.consistent_empty hhealthy
    temperature List.mem_cons_self rfl ⟨5, Duration.ofSecs 10⟩ (Duration.ofSecs 1) rfl rfl (by decide)
  rcases apply_eq (unscheduled cache) (.policyDeleted 1) with ⟨hregistry, hreported⟩
  have hall := rebuild_scheduledAll (r := unscheduled cache) Pulling.Registry.consistent_empty
    (hreported.mp hhealthy)
  have hlisted : ((unscheduled cache).cleared.routed
      (unscheduled cache).collaborators.store.list)[0]? = some temperature := rfl
  have hcached := hall.row hlisted
  rw [rowOnSchedule_cleared] at hcached
  rw [hregistry] at hstored
  exact absurd (hstored.symm.trans hcached) (by decide)

end Resolver
end MetricGateway
