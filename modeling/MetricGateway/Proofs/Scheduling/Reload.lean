import MetricGateway.Proofs.Pulling.Rows
import MetricGateway.Proofs.Pulling.Runs
import MetricGateway.Proofs.Scheduling.Lookups
import MetricGateway.Resolver.Basic

/-!
# Scheduling the metrics of the store

A metric is scheduled where a translator handles its container and the lookups find its settings and
the interval.  It gets the row that these prescribe, or keeps the row that it has; the rows of other
metrics stay.  The metrics that the store lists are different ones, so that a reload settles the row
of each of them once, and what fails for one of them makes no difference to the others.
-/

namespace MetricGateway
namespace Resolver

open Pulling (GroupKey Entry)

def isRouted (r : Resolver) (request : MetricRequest) : Bool :=
  (r.routes.key? request.containerKind).isSome

/-- The row that a metric gets when it is scheduled. -/
def rowOnSchedule (r : Resolver) (lookup : Nat) (request : MetricRequest) :
    Option (GroupKey × Entry) :=
  (r.collaborators.prescribed lookup request).or (r.polling.registry.row request.metric)

/-!
## One metric
-/

/-- What scheduling a metric that a translator handles does. -/
structure Scheduled (r : Resolver) (request : MetricRequest) (r' : Resolver) : Prop where
  routes : r'.routes = r.routes
  collaborators : r'.collaborators = (r.collaborators.metricSettings request.metric).1
  consistent : r'.polling.registry.Consistent
  row : r'.polling.registry.row request.metric =
    r.rowOnSchedule (r.collaborators.lookups + 1) request
  row_of_ne : ∀ {metric : MetricId}, request.metric ≠ metric →
    r'.polling.registry.row metric = r.polling.registry.row metric

theorem scheduled_of_none {r : Resolver} (hconsistent : r.polling.registry.Consistent)
    {request : MetricRequest}
    (hnone : r.collaborators.prescribed (r.collaborators.lookups + 1) request = none) :
    r.Scheduled request
      { r with collaborators := (r.collaborators.metricSettings request.metric).1 } where
  routes := rfl
  collaborators := rfl
  consistent := hconsistent
  row := by
    unfold rowOnSchedule
    rw [hnone, Option.none_or]
  row_of_ne := fun _ => rfl

theorem scheduled_of_found {r : Resolver} (hconsistent : r.polling.registry.Consistent)
    {request : MetricRequest} {s : MetricSettings} {interval : Duration}
    (hsettings : r.collaborators.foundSettings (r.collaborators.lookups + 1) request.metric =
      some s)
    (hinterval : r.collaborators.foundInterval (r.collaborators.lookups + 1) request.container =
      some interval) (key : String) :
    ∃ outcome, (r.polling.add (target request key interval) request.metric request.valueKind
        s.budget).2 = .ok outcome ∧
      r.Scheduled request
        { r with
          collaborators := (r.collaborators.metricSettings request.metric).1
          polling := (r.polling.add (target request key interval) request.metric
            request.valueKind s.budget).1 } := by
  have hlong : (target request key interval).interval.wholeMillis ≠ 0 :=
    Collaborators.wholeMillis_of_foundInterval hinterval
  rcases Pulling.Registry.add_of_accepted r.polling.registry hlong request.metric
    request.valueKind s.budget with ⟨report, hadd⟩
  have hregistry := Pulling.Polling.registry_add_of_ok hadd
  refine ⟨report.outcome, ?_, ?_⟩
  · unfold Pulling.Polling.add
    rw [hadd]
  · refine { routes := rfl, collaborators := rfl, consistent := ?_, row := ?_, row_of_ne := ?_ }
    · rw [hregistry]
      exact hconsistent.add hadd
    · rw [hregistry, hconsistent.row_add hadd]
      unfold rowOnSchedule Collaborators.prescribed
      rw [hsettings, hinterval]
      rfl
    · intro metric hne
      rw [hregistry]
      exact Pulling.Registry.row_add_of_ne hne hadd

theorem subscribe_of_none {r : Resolver} {request : MetricRequest}
    (hnone : r.collaborators.prescribed (r.collaborators.lookups + 1) request = none)
    (key : String) :
    ∃ e, r.subscribe request key =
      ({ r with collaborators := (r.collaborators.metricSettings request.metric).1 },
        .error e) := by
  have hsettings := Collaborators.metricSettings_eq_ok_iff r.collaborators request.metric
  have hinterval := Collaborators.containerInterval_metricSettings r.collaborators request.metric
    request.container
  unfold subscribe
  cases hlookup : r.collaborators.metricSettings request.metric with
  | mk c result =>
      rw [hlookup] at hsettings hinterval
      cases result with
      | error e => exact ⟨e, rfl⟩
      | ok s =>
          dsimp only at hinterval ⊢
          cases hfound : c.containerInterval request.container with
          | error e => exact ⟨e, rfl⟩
          | ok interval =>
              unfold Collaborators.prescribed at hnone
              rw [(hsettings s).mp rfl, (hinterval interval).mp hfound] at hnone
              cases hnone

theorem subscribe_of_found {r : Resolver} {request : MetricRequest} {s : MetricSettings}
    {interval : Duration} {key : String} {outcome : Pulling.AddOutcome}
    (hsettings : r.collaborators.foundSettings (r.collaborators.lookups + 1) request.metric =
      some s)
    (hinterval : r.collaborators.foundInterval (r.collaborators.lookups + 1) request.container =
      some interval)
    (hadd : (r.polling.add (target request key interval) request.metric request.valueKind
      s.budget).2 = .ok outcome) :
    r.subscribe request key =
      ({ r with
          collaborators := (r.collaborators.metricSettings request.metric).1
          polling := (r.polling.add (target request key interval) request.metric
            request.valueKind s.budget).1 }, .ok s) := by
  rw [← Collaborators.metricSettings_eq_ok_iff] at hsettings
  rw [← Collaborators.containerInterval_metricSettings] at hinterval
  unfold subscribe
  cases hlookup : r.collaborators.metricSettings request.metric with
  | mk c result =>
      rw [hlookup] at hsettings hinterval
      cases hsettings
      dsimp only at hinterval ⊢
      rw [hinterval]
      dsimp only
      cases hresult : r.polling.add (target request key interval) request.metric
          request.valueKind s.budget with
      | mk polling result =>
          rw [hresult] at hadd
          cases hadd
          rfl

/-- A subscription schedules its metric, and succeeds if the lookups find what they look for. -/
theorem subscribe_scheduled {r : Resolver} (hconsistent : r.polling.registry.Consistent)
    (request : MetricRequest) (key : String) :
    r.Scheduled request (r.subscribe request key).1 ∧
      (r.subscribe request key).2.isOk =
        (r.collaborators.prescribed (r.collaborators.lookups + 1) request).isSome := by
  cases hsettings : r.collaborators.foundSettings (r.collaborators.lookups + 1) request.metric with
  | none =>
      have hnone : r.collaborators.prescribed (r.collaborators.lookups + 1) request = none := by
        rw [Collaborators.prescribed, hsettings, Option.bind_none]
      rcases subscribe_of_none hnone key with ⟨e, hsubscribe⟩
      rw [hsubscribe, hnone]
      exact ⟨scheduled_of_none hconsistent hnone, rfl⟩
  | some s =>
      cases hinterval : r.collaborators.foundInterval (r.collaborators.lookups + 1)
          request.container with
      | none =>
          have hnone : r.collaborators.prescribed (r.collaborators.lookups + 1) request = none := by
            rw [Collaborators.prescribed, hsettings, hinterval, Option.bind_some, Option.map_none]
          rcases subscribe_of_none hnone key with ⟨e, hsubscribe⟩
          rw [hsubscribe, hnone]
          exact ⟨scheduled_of_none hconsistent hnone, rfl⟩
      | some interval =>
          rcases scheduled_of_found hconsistent hsettings hinterval key with
            ⟨outcome, hadd, hscheduled⟩
          rw [subscribe_of_found hsettings hinterval hadd]
          refine ⟨hscheduled, ?_⟩
          rw [Collaborators.prescribed, hsettings, hinterval]
          rfl

theorem schedule_of_not_routed {r : Resolver} {request : MetricRequest}
    (h : r.isRouted request = false) : r.schedule request = (r, false) := by
  unfold isRouted at h
  rw [Option.isSome_eq_false_iff, Option.isNone_iff_eq_none] at h
  exact schedule_of_none h

theorem schedule_of_routed {r : Resolver} (hconsistent : r.polling.registry.Consistent)
    {request : MetricRequest} (h : r.isRouted request = true) :
    r.Scheduled request (r.schedule request).1 ∧
      (r.schedule request).2 =
        (r.collaborators.prescribed (r.collaborators.lookups + 1) request).isSome := by
  rcases Option.isSome_iff_exists.mp h with ⟨key, hkey⟩
  rw [schedule_of_some hkey]
  exact subscribe_scheduled hconsistent request key

/-!
## All metrics
-/

def routed (r : Resolver) (requests : List MetricRequest) : List MetricRequest :=
  requests.filter r.isRouted

/-- The lookup that is made for the `i`-th metric that a translator handles. -/
def lookupOf (r : Resolver) (i : Nat) : Nat := r.collaborators.lookups + 1 + i

structure ScheduledAll (r : Resolver) (requests : List MetricRequest) (r' : Resolver) : Prop where
  consistent : r'.polling.registry.Consistent
  row : ∀ {i : Nat} {request : MetricRequest}, (r.routed requests)[i]? = some request →
    r'.polling.registry.row request.metric = r.rowOnSchedule (r.lookupOf i) request
  row_of_ne : ∀ {metric : MetricId}, (∀ request ∈ r.routed requests, request.metric ≠ metric) →
    r'.polling.registry.row metric = r.polling.registry.row metric

theorem isRouted_eq {r r' : Resolver} (h : r'.routes = r.routes) : r'.isRouted = r.isRouted := by
  funext request
  unfold isRouted
  rw [h]

theorem routed_congr {r r' : Resolver} (h : r'.routes = r.routes) (requests : List MetricRequest) :
    r'.routed requests = r.routed requests := by
  unfold routed
  rw [isRouted_eq h]

theorem routed_cons {r : Resolver} {request : MetricRequest} (h : r.isRouted request = true)
    (requests : List MetricRequest) :
    r.routed (request :: requests) = request :: r.routed requests :=
  List.filter_cons_of_pos h

theorem routed_cons_of_not_routed {r : Resolver} {request : MetricRequest}
    (h : r.isRouted request = false) (requests : List MetricRequest) :
    r.routed (request :: requests) = r.routed requests :=
  List.filter_cons_of_neg (by simp [h])

theorem ScheduledAll.cons {r r' r'' : Resolver} {request : MetricRequest}
    {requests : List MetricRequest} (hrouted : r.isRouted request = true)
    (hdistinct : ∀ other ∈ requests, request.metric ≠ other.metric)
    (hfirst : r.Scheduled request r') (hrest : r'.ScheduledAll requests r'') :
    r.ScheduledAll (request :: requests) r'' := by
  have hsame := routed_congr hfirst.routes requests
  have hcons := routed_cons hrouted requests
  refine { consistent := hrest.consistent, row := ?_, row_of_ne := ?_ }
  · intro i other hother
    rw [hcons] at hother
    cases i with
    | zero =>
        cases hother
        rw [hrest.row_of_ne]
        · exact hfirst.row
        · intro other hmem heq
          rw [hsame] at hmem
          exact hdistinct other (List.mem_filter.mp hmem).1 heq.symm
    | succ i =>
        rw [List.getElem?_cons_succ] at hother
        have hne : request.metric ≠ other.metric :=
          hdistinct other (List.mem_filter.mp (List.mem_of_getElem? hother)).1
        rw [← hsame] at hother
        rw [hrest.row hother]
        unfold rowOnSchedule lookupOf
        rw [hfirst.row_of_ne hne, hfirst.collaborators,
          Collaborators.prescribed_metricSettings _ hne, Collaborators.lookups_metricSettings]
        congr 2
        omega
  · intro metric hother
    rw [hcons] at hother
    rw [hrest.row_of_ne]
    · exact hfirst.row_of_ne (hother request List.mem_cons_self)
    · intro other hmem
      rw [hsame] at hmem
      exact hother other (List.mem_cons_of_mem request hmem)

theorem ScheduledAll.skip {r r' : Resolver} {request : MetricRequest}
    {requests : List MetricRequest} (hrouted : r.isRouted request = false)
    (hrest : r.ScheduledAll requests r') : r.ScheduledAll (request :: requests) r' := by
  have hskip := routed_cons_of_not_routed hrouted requests
  constructor
  · exact hrest.consistent
  · rw [hskip]
    exact hrest.row
  · rw [hskip]
    exact hrest.row_of_ne

theorem scheduleAll_scheduledAll {r : Resolver} (hconsistent : r.polling.registry.Consistent)
    {requests : List MetricRequest} (hdistinct : requests.Pairwise (·.metric ≠ ·.metric)) :
    r.ScheduledAll requests (r.scheduleAll requests).1 := by
  induction requests generalizing r with
  | nil =>
      refine { consistent := hconsistent, row := ?_, row_of_ne := fun _ => rfl }
      intro i request h
      cases h
  | cons request requests ih =>
      cases hdistinct with
      | cons hne hdistinct =>
          show r.ScheduledAll (request :: requests)
            ((r.schedule request).1.scheduleAll requests).1
          cases hrouted : r.isRouted request with
          | false =>
              rw [schedule_of_not_routed hrouted]
              exact (ih hconsistent hdistinct).skip hrouted
          | true =>
              have hfirst := (schedule_of_routed hconsistent hrouted).1
              exact ScheduledAll.cons hrouted hne hfirst (ih hfirst.consistent hdistinct)

end Resolver
end MetricGateway
