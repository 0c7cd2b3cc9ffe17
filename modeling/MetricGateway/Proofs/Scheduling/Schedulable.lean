import Mathlib.Data.List.Pairwise
import MetricGateway.Proofs.Pulling.Places
import MetricGateway.Proofs.Scheduling.Rebuild
import MetricGateway.Proofs.Scheduling.Subscribing

/-!
# Which metrics a reload schedules

Of the metrics that the store lists, a reload schedules those that a translator handles and for
which the lookups find settings and an interval, whatever becomes of the others.  It gives their
number, polls each of them as the settings say, and leaves every other metric exactly where it is
polled.  What it finds does not depend on what it has found for other metrics, and the settings of a
metric are the same before and after a lookup; so a reload that is repeated adds every metric as it
is polled already, and changes nothing.
-/

namespace MetricGateway

open Pulling (GroupKey Entry Target)

/-!
## Looking up again
-/

namespace Collaborators

/-- The settings of a metric: those in the cache, else those in the store. -/
def settingsOf (c : Collaborators) (metric : MetricId) : Option MetricSettings :=
  (c.cache.getSettings metric).or (c.store.metricSettings metric)

/-- How a listed metric is to be polled where no call fails. -/
def intended (c : Collaborators) (request : MetricRequest) : Option (GroupKey × Entry) :=
  (c.settingsOf request.metric).bind fun settings =>
    (((c.store.containerSettings request.container).map (·.interval)).filter
      fun interval => 0 < interval.wholeMillis).map fun interval =>
      (.ofInterval request.container interval,
        .new request.metric request.valueKind settings.budget)

theorem settingsOf_of_found {c : Collaborators} {lookup : Nat} {metric : MetricId}
    {s : MetricSettings} (h : c.foundSettings lookup metric = some s) :
    c.settingsOf metric = some s := by
  unfold foundSettings at h
  unfold settingsOf
  split at h
  · cases h
  · cases hcached : c.cache.getSettings metric with
    | some cached =>
        rw [hcached] at h
        exact h
    | none =>
        rw [hcached, Option.none_or] at h
        split at h
        · cases h
        · exact h

theorem intended_of_prescribed {c : Collaborators} {lookup : Nat} {request : MetricRequest}
    {row : GroupKey × Entry} (h : c.prescribed lookup request = some row) :
    c.intended request = some row := by
  rcases Option.bind_eq_some_iff.mp h with ⟨settings, hsettings, hinterval⟩
  unfold intended
  rw [settingsOf_of_found hsettings, Option.bind_some]
  unfold foundInterval at hinterval
  split at hinterval
  · cases hinterval
  · exact hinterval

theorem store_metricSettings (c : Collaborators) (metric : MetricId) :
    (c.metricSettings metric).1.store = c.store := by
  rcases metricSettings_eq c metric with ⟨cache, heq, _⟩
  rw [heq]

theorem failsDuring_metricSettings (c : Collaborators) (metric : MetricId) :
    (c.metricSettings metric).1.failsDuring = c.failsDuring := by
  rcases metricSettings_eq c metric with ⟨cache, heq, _⟩
  rw [heq]
  rfl

/-- What a lookup writes back to the cache are the settings that the metric had already. -/
theorem intended_metricSettings (c : Collaborators) (metric : MetricId) (request : MetricRequest) :
    (c.metricSettings metric).1.intended request = c.intended request := by
  have hsettings : (c.metricSettings metric).1.settingsOf request.metric =
      c.settingsOf request.metric := by
    unfold settingsOf
    rw [store_metricSettings]
    rcases settings_metricSettings c metric request.metric with heq | ⟨hsame, hnone, hback⟩
    · rw [heq]
    · rw [hsame, hnone, hback, Option.or_self, Option.none_or]
  unfold intended
  rw [hsettings, store_metricSettings]

theorem metricSettings_of_not_found {c : Collaborators} {metric : MetricId}
    (h : c.foundSettings (c.lookups + 1) metric = none) :
    (c.metricSettings metric).1 = c.beginLookup := by
  have hfails : ∀ s, (c.metricSettings metric).2 ≠ .ok s := by
    intro s hok
    rw [metricSettings_eq_ok_iff, h] at hok
    cases hok
  unfold metricSettings at hfails ⊢
  dsimp only at hfails ⊢
  split
  next => rfl
  next => rfl
  next hcached =>
    rw [hcached] at hfails
    dsimp only at hfails
    split
    next => rfl
    next => rfl
    next s hstored =>
      rw [hstored] at hfails
      exact absurd rfl (hfails s)

theorem foundSettings_again {c : Collaborators} {metric : MetricId} {lookup : Nat}
    (hsame : c.failsDuring lookup = c.failsDuring (c.lookups + 1)) :
    (c.metricSettings metric).1.foundSettings lookup metric =
      c.foundSettings (c.lookups + 1) metric := by
  cases hfound : c.foundSettings (c.lookups + 1) metric with
  | none =>
      have hbegun : c.beginLookup.foundSettings lookup metric = c.foundSettings lookup metric := rfl
      rw [metricSettings_of_not_found hfound, hbegun, ← hfound]
      unfold foundSettings
      rw [hsame]
  | some s =>
      unfold foundSettings at hfound ⊢
      rw [failsDuring_metricSettings, store_metricSettings, hsame]
      split at hfound
      · cases hfound
      next hget =>
        rw [if_neg hget]
        rcases settings_metricSettings c metric metric with heq | ⟨_, hnone, hback⟩
        · rw [heq]
          exact hfound
        · rw [hnone, Option.none_or] at hfound
          split at hfound
          · cases hfound
          next hstore => rw [hback, hfound, Option.some_or]

theorem prescribed_again {c : Collaborators} {request : MetricRequest} {lookup : Nat}
    (hsame : c.failsDuring lookup = c.failsDuring (c.lookups + 1)) :
    (c.metricSettings request.metric).1.prescribed lookup request =
      c.prescribed (c.lookups + 1) request := by
  unfold prescribed foundInterval
  rw [foundSettings_again hsame, failsDuring_metricSettings, store_metricSettings, hsame]

/-!
## Looking up one metric after the other
-/

/-- The metrics for which lookups find how they are to be polled; one lookup is made for each of
them. -/
def findings (c : Collaborators) (lookup : Nat) :
    List MetricRequest → List (MetricRequest × GroupKey × Entry)
  | [] => []
  | request :: requests =>
      ((c.prescribed lookup request).map (request, ·)).toList ++ c.findings (lookup + 1) requests

theorem findings_cons (c : Collaborators) (lookup : Nat) (request : MetricRequest)
    (requests : List MetricRequest) :
    c.findings lookup (request :: requests) =
      ((c.prescribed lookup request).map (request, ·)).toList ++
        c.findings (lookup + 1) requests := rfl

theorem findings_congr {c c' : Collaborators} {requests : List MetricRequest}
    (h : ∀ request ∈ requests, ∀ lookup,
      c'.prescribed lookup request = c.prescribed lookup request) (lookup : Nat) :
    c'.findings lookup requests = c.findings lookup requests := by
  induction requests generalizing lookup with
  | nil => rfl
  | cons request requests ih =>
      rw [findings_cons, findings_cons, h request List.mem_cons_self,
        ih (fun other hother => h other (List.mem_cons_of_mem request hother))]

theorem mem_findings_iff {c : Collaborators} {lookup : Nat} {requests : List MetricRequest}
    {p : MetricRequest × GroupKey × Entry} :
    p ∈ c.findings lookup requests ↔
      ∃ i, requests[i]? = some p.1 ∧ c.prescribed (lookup + i) p.1 = some p.2 := by
  induction requests generalizing lookup with
  | nil => simp [findings]
  | cons request requests ih =>
      have hfirst : p ∈ ((c.prescribed lookup request).map (request, ·)).toList ↔
          request = p.1 ∧ c.prescribed lookup p.1 = some p.2 := by
        rw [Option.mem_toList, Option.map_eq_some_iff]
        constructor
        · rintro ⟨row, hrow, rfl⟩
          exact ⟨rfl, hrow⟩
        · rintro ⟨rfl, hrow⟩
          exact ⟨p.2, hrow, rfl⟩
      rw [findings_cons, List.mem_append, hfirst, ih]
      constructor
      · rintro (⟨rfl, hrow⟩ | ⟨i, hi, hrow⟩)
        · exact ⟨0, rfl, hrow⟩
        · refine ⟨i + 1, hi, ?_⟩
          rw [← Nat.add_assoc, Nat.add_right_comm]
          exact hrow
      · rintro ⟨i, hi, hrow⟩
        cases i with
        | zero => exact Or.inl ⟨Option.some.inj hi, hrow⟩
        | succ i =>
            refine Or.inr ⟨i, hi, ?_⟩
            rw [Nat.add_right_comm]
            exact hrow

end Collaborators

namespace Resolver

variable {r : Resolver} {request : MetricRequest} {requests : List MetricRequest}

/-!
## Scheduling one metric
-/

/-- The listed metrics that are scheduled, with their rows: those that a translator handles and for
which the lookups find what they look for. -/
def schedulable (r : Resolver) (requests : List MetricRequest) :
    List (MetricRequest × GroupKey × Entry) :=
  r.collaborators.findings (r.lookupOf 0) (r.routed requests)

theorem mem_schedulable_iff {p : MetricRequest × GroupKey × Entry} :
    p ∈ r.schedulable requests ↔ ∃ i, (r.routed requests)[i]? = some p.1 ∧
      r.collaborators.prescribed (r.lookupOf i) p.1 = some p.2 :=
  Collaborators.mem_findings_iff

theorem schedule_frame (r : Resolver) (request : MetricRequest) :
    (r.schedule request).1.routes = r.routes ∧
      (r.schedule request).1.collaborators =
        if r.isRouted request then (r.collaborators.metricSettings request.metric).1
        else r.collaborators := by
  cases hrouted : r.isRouted request with
  | false =>
      rw [schedule_of_not_routed hrouted]
      exact ⟨rfl, rfl⟩
  | true =>
      rcases Option.isSome_iff_exists.mp hrouted with ⟨key, hkey⟩
      rw [schedule_of_some hkey, subscribe_eq]
      cases r.collaborators.lookUp request <;> exact ⟨rfl, rfl⟩

/-- What scheduling a metric does to the registry: it adds the metric as it is prescribed, if it is
scheduled at all. -/
theorem registry_schedule (hconsistent : r.polling.registry.Consistent)
    (hrouted : r.isRouted request = true) :
    (r.collaborators.prescribed (r.lookupOf 0) request = none ∧
      (r.schedule request).1.polling.registry = r.polling.registry) ∨
    ∃ (target : Target) (budget : UInt16) (report : Pulling.AddReport),
      r.collaborators.prescribed (r.lookupOf 0) request =
          some (target.groupKey, .new request.metric request.valueKind budget) ∧
        target.interval.wholeMillis ≠ 0 ∧
        r.polling.registry.add target request.metric request.valueKind budget =
          .ok ((r.schedule request).1.polling.registry, report) := by
  rcases Option.isSome_iff_exists.mp hrouted with ⟨key, hkey⟩
  rw [schedule_of_some hkey]
  dsimp only
  cases hrow : r.collaborators.prescribed (r.lookupOf 0) request with
  | none =>
      rcases subscribe_of_none hrow key with ⟨e, hsubscribe⟩
      rw [hsubscribe]
      exact Or.inl ⟨rfl, rfl⟩
  | some row =>
      rcases Option.bind_eq_some_iff.mp hrow with ⟨s, hsettings, hmapped⟩
      rcases Option.map_eq_some_iff.mp hmapped with ⟨interval, hinterval, rfl⟩
      rcases scheduled_of_found hconsistent hsettings hinterval key with ⟨outcome, hok, _⟩
      have hlong : (target request key interval).interval.wholeMillis ≠ 0 :=
        Collaborators.wholeMillis_of_foundInterval hinterval
      rcases r.polling.registry.add_of_accepted hlong request.metric request.valueKind s.budget with
        ⟨report, hadd⟩
      refine Or.inr ⟨target request key interval, s.budget, report, rfl, hlong, ?_⟩
      rw [subscribe_of_found hsettings hinterval hok,
        Pulling.Polling.registry_add_of_ok hadd]
      exact hadd

theorem routed_schedule (r : Resolver) (request : MetricRequest) (requests : List MetricRequest) :
    (r.schedule request).1.routed requests = r.routed requests :=
  routed_congr (schedule_frame r request).1 requests

theorem collaborators_schedule (hrouted : r.isRouted request = true) :
    (r.schedule request).1.collaborators =
      (r.collaborators.metricSettings request.metric).1 := by
  rw [(schedule_frame r request).2, if_pos hrouted]

theorem lookupOf_schedule (hrouted : r.isRouted request = true) (i : Nat) :
    (r.schedule request).1.lookupOf i = r.lookupOf (i + 1) := by
  unfold lookupOf
  rw [collaborators_schedule hrouted, Collaborators.lookups_metricSettings]
  omega

theorem schedulable_cons (hrouted : r.isRouted request = true)
    (hne : ∀ other ∈ requests, request.metric ≠ other.metric) :
    r.schedulable (request :: requests) =
      ((r.collaborators.prescribed (r.lookupOf 0) request).map (request, ·)).toList ++
        (r.schedule request).1.schedulable requests := by
  have hothers : ∀ other ∈ r.routed requests, ∀ lookup,
      (r.schedule request).1.collaborators.prescribed lookup other =
        r.collaborators.prescribed lookup other := by
    intro other hother lookup
    rw [collaborators_schedule hrouted]
    exact Collaborators.prescribed_metricSettings _ (hne other (List.mem_filter.mp hother).1) _
  unfold schedulable
  rw [routed_cons hrouted, routed_schedule, lookupOf_schedule hrouted,
    Collaborators.findings_congr hothers]
  rfl

theorem schedulable_cons_of_not_routed (hrouted : r.isRouted request = false) :
    r.schedulable (request :: requests) = r.schedulable requests := by
  unfold schedulable
  rw [routed_cons_of_not_routed hrouted]

theorem mem_schedulable_of_rest (hne : ∀ other ∈ requests, request.metric ≠ other.metric)
    {p : MetricRequest × GroupKey × Entry}
    (hp : p ∈ (r.schedule request).1.schedulable requests) :
    p ∈ r.schedulable (request :: requests) := by
  cases hrouted : r.isRouted request with
  | false =>
      rw [schedule_of_not_routed hrouted] at hp
      rw [schedulable_cons_of_not_routed hrouted]
      exact hp
  | true =>
      rw [schedulable_cons hrouted hne]
      exact List.mem_append_right _ hp

/-- The registry after the first metric of a list: it is as it was, or the metric was added to it
as it is scheduled. -/
theorem registry_schedule_cases (hconsistent : r.polling.registry.Consistent)
    (hne : ∀ other ∈ requests, request.metric ≠ other.metric) :
    (r.schedule request).1.polling.registry = r.polling.registry ∨
    ∃ (target : Target) (budget : UInt16) (report : Pulling.AddReport),
      (request, target.groupKey, .new request.metric request.valueKind budget) ∈
          r.schedulable (request :: requests) ∧
        target.interval.wholeMillis ≠ 0 ∧
        r.polling.registry.add target request.metric request.valueKind budget =
          .ok ((r.schedule request).1.polling.registry, report) := by
  cases hrouted : r.isRouted request with
  | false =>
      rw [schedule_of_not_routed hrouted]
      exact Or.inl rfl
  | true =>
      rcases registry_schedule hconsistent hrouted with
        ⟨_, hsame⟩ | ⟨target, budget, report, hrow, hlong, hadd⟩
      · exact Or.inl hsame
      · refine Or.inr ⟨target, budget, report, ?_, hlong, hadd⟩
        rw [schedulable_cons hrouted hne, hrow]
        exact List.mem_append_left _ List.mem_cons_self

/-!
## Scheduling a list
-/

theorem scheduleAll_cons (r : Resolver) (request : MetricRequest) (requests : List MetricRequest) :
    r.scheduleAll (request :: requests) =
      (((r.schedule request).1.scheduleAll requests).1,
        ((r.schedule request).1.scheduleAll requests).2 +
          if (r.schedule request).2 then 1 else 0) := rfl

theorem consistent_schedule (hconsistent : r.polling.registry.Consistent)
    (request : MetricRequest) : (r.schedule request).1.polling.registry.Consistent := by
  cases hrouted : r.isRouted request with
  | false =>
      rw [schedule_of_not_routed hrouted]
      exact hconsistent
  | true => exact (schedule_of_routed hconsistent hrouted).1.consistent

theorem intended_schedule (r : Resolver) (request other : MetricRequest) :
    (r.schedule request).1.collaborators.intended other = r.collaborators.intended other := by
  rw [(schedule_frame r request).2]
  split
  · exact Collaborators.intended_metricSettings _ _ _
  · rfl

theorem scheduleAll_count (hconsistent : r.polling.registry.Consistent)
    (hdistinct : requests.Pairwise (·.metric ≠ ·.metric)) :
    (r.scheduleAll requests).2 = (r.schedulable requests).length := by
  induction requests generalizing r with
  | nil => rfl
  | cons request requests ih =>
      rcases List.pairwise_cons.mp hdistinct with ⟨hne, hrest⟩
      rw [scheduleAll_cons]
      dsimp only
      rw [ih (consistent_schedule hconsistent request) hrest]
      cases hrouted : r.isRouted request with
      | false =>
          rw [schedule_of_not_routed hrouted, schedulable_cons_of_not_routed hrouted]
          rfl
      | true =>
          have hfirst : (r.schedule request).2 =
              (r.collaborators.prescribed (r.lookupOf 0) request).isSome :=
            (schedule_of_routed hconsistent hrouted).2
          rw [hfirst, schedulable_cons hrouted hne, List.length_append, Nat.add_comm]
          cases r.collaborators.prescribed (r.lookupOf 0) request <;> rfl

theorem place_scheduleAll (hconsistent : r.polling.registry.Consistent)
    (hdistinct : requests.Pairwise (·.metric ≠ ·.metric)) {metric : MetricId}
    (hother : ∀ p ∈ r.schedulable requests, p.1.metric ≠ metric) :
    (r.scheduleAll requests).1.polling.registry.place metric =
      r.polling.registry.place metric := by
  induction requests generalizing r with
  | nil => rfl
  | cons request requests ih =>
      rcases List.pairwise_cons.mp hdistinct with ⟨hne, hrest⟩
      have hlater := ih (consistent_schedule hconsistent request) hrest fun p hp =>
        hother p (mem_schedulable_of_rest hne hp)
      refine hlater.trans ?_
      rcases registry_schedule_cases hconsistent hne with
        hsame | ⟨target, budget, report, hscheduled, _, hadd⟩
      · rw [hsame]
      · exact Pulling.Registry.place_add_of_ne (hother _ hscheduled) hadd

theorem registry_scheduleAll_of_rows (hconsistent : r.polling.registry.Consistent)
    (hdistinct : requests.Pairwise (·.metric ≠ ·.metric))
    (hrows : ∀ p ∈ r.schedulable requests, r.polling.registry.row p.1.metric = some p.2) :
    (r.scheduleAll requests).1.polling.registry = r.polling.registry := by
  induction requests generalizing r with
  | nil => rfl
  | cons request requests ih =>
      rcases List.pairwise_cons.mp hdistinct with ⟨hne, hrest⟩
      have hsame : (r.schedule request).1.polling.registry = r.polling.registry := by
        rcases registry_schedule_cases hconsistent hne with
          hsame | ⟨target, budget, report, hscheduled, hlong, hadd⟩
        · exact hsame
        · rcases hconsistent.add_of_row hlong (hrows _ hscheduled) with ⟨report', hagain⟩
          rw [hadd] at hagain
          exact congrArg Prod.fst (Except.ok.inj hagain)
      have hlater := ih (consistent_schedule hconsistent request) hrest fun p hp => by
        rw [hsame]
        exact hrows p (mem_schedulable_of_rest hne hp)
      exact hlater.trans hsame

theorem intended_scheduleAll (r : Resolver) (requests : List MetricRequest)
    (other : MetricRequest) :
    (r.scheduleAll requests).1.collaborators.intended other = r.collaborators.intended other := by
  induction requests generalizing r with
  | nil => rfl
  | cons request requests ih =>
      exact (ih (r.schedule request).1).trans (intended_schedule r request other)

/-!
## Scheduling a list again
-/

theorem routed_scheduleAll (r : Resolver) (requests listed : List MetricRequest) :
    (r.scheduleAll requests).1.routed listed = r.routed listed := by
  induction requests generalizing r with
  | nil => rfl
  | cons request requests ih =>
      exact (ih (r.schedule request).1).trans (routed_schedule r request listed)

theorem prescribed_scheduleAll_of_ne (hother : ∀ other ∈ requests, request.metric ≠ other.metric)
    (lookup : Nat) :
    (r.scheduleAll requests).1.collaborators.prescribed lookup request =
      r.collaborators.prescribed lookup request := by
  induction requests generalizing r with
  | nil => rfl
  | cons other requests ih =>
      have hrest := ih (r := (r.schedule other).1) fun q hq =>
        hother q (List.mem_cons_of_mem other hq)
      refine hrest.trans ?_
      rw [(schedule_frame r other).2]
      split
      · exact Collaborators.prescribed_metricSettings _ (hother other List.mem_cons_self).symm _
      · rfl

theorem findings_again (hdistinct : requests.Pairwise (·.metric ≠ ·.metric)) {lookup : Nat}
    (hsame : ∀ i, r.collaborators.failsDuring (lookup + i) =
      r.collaborators.failsDuring (r.lookupOf i)) :
    (r.scheduleAll requests).1.collaborators.findings lookup (r.routed requests) =
      r.schedulable requests := by
  induction requests generalizing r lookup with
  | nil => rfl
  | cons request requests ih =>
      rcases List.pairwise_cons.mp hdistinct with ⟨hne, hrest⟩
      show ((r.schedule request).1.scheduleAll requests).1.collaborators.findings lookup
        (r.routed (request :: requests)) = _
      cases hrouted : r.isRouted request with
      | false =>
          rw [schedule_of_not_routed hrouted, routed_cons_of_not_routed hrouted,
            schedulable_cons_of_not_routed hrouted]
          exact ih hrest hsame
      | true =>
          have hfirst : ((r.schedule request).1.scheduleAll requests).1.collaborators.prescribed
              lookup request = r.collaborators.prescribed (r.lookupOf 0) request := by
            rw [prescribed_scheduleAll_of_ne hne, collaborators_schedule hrouted]
            exact Collaborators.prescribed_again (hsame 0)
          have hlater : ∀ i, (r.schedule request).1.collaborators.failsDuring (lookup + 1 + i) =
              (r.schedule request).1.collaborators.failsDuring
                ((r.schedule request).1.lookupOf i) := by
            intro i
            rw [lookupOf_schedule hrouted, collaborators_schedule hrouted,
              Collaborators.failsDuring_metricSettings, ← hsame (i + 1), Nat.add_right_comm,
              Nat.add_assoc]
          rw [routed_cons hrouted, Collaborators.findings_cons, hfirst,
            schedulable_cons hrouted hne, ← ih hrest hlater, routed_schedule]

theorem schedulable_again (hdistinct : requests.Pairwise (·.metric ≠ ·.metric))
    (hsame : ∀ i, r.collaborators.failsDuring ((r.scheduleAll requests).1.lookupOf i) =
      r.collaborators.failsDuring (r.lookupOf i)) :
    (r.scheduleAll requests).1.schedulable requests = r.schedulable requests := by
  unfold schedulable
  rw [routed_scheduleAll]
  exact findings_again hdistinct hsame

/-!
## Reloads
-/

/-- A reload of what the store lists, or of a listing that has failed. -/
def reloadFrom (r : Resolver) : Except String (List MetricRequest) →
    Resolver × Except GatewayError Nat
  | .error reason => (r, .error (.store reason))
  | .ok requests => ((r.scheduleAll requests).1, .ok (r.scheduleAll requests).2)

theorem reload_eq (r : Resolver) : r.reload = r.reloadFrom r.collaborators.storedMetrics := by
  unfold reload reloadFrom
  cases r.collaborators.storedMetrics <;> rfl

theorem eq_of_metric_eq (hdistinct : requests.Pairwise (·.metric ≠ ·.metric))
    {a b : MetricRequest} (ha : a ∈ requests) (hb : b ∈ requests) (heq : a.metric = b.metric) :
    a = b := by
  have hsymmetric : Std.Symm fun a b : MetricRequest => a.metric ≠ b.metric :=
    ⟨fun _ _ hmetric => hmetric.symm⟩
  apply Decidable.byContradiction
  intro hne
  exact hdistinct.forall ha hb hne heq

theorem row_scheduleAll (hconsistent : r.polling.registry.Consistent)
    (hdistinct : requests.Pairwise (·.metric ≠ ·.metric)) {p : MetricRequest × GroupKey × Entry}
    (hp : p ∈ r.schedulable requests) :
    (r.scheduleAll requests).1.polling.registry.row p.1.metric = some p.2 := by
  rcases mem_schedulable_iff.mp hp with ⟨i, hrouted, hprescribed⟩
  rw [(scheduleAll_scheduledAll hconsistent hdistinct).row hrouted]
  unfold rowOnSchedule
  rw [hprescribed, Option.some_or]

/-- A reload that finds no metric that the last one did not find changes nothing. -/
theorem registry_scheduleAll_again (hconsistent : r.polling.registry.Consistent)
    (hdistinct : requests.Pairwise (·.metric ≠ ·.metric))
    (hfound : ∀ p ∈ (r.scheduleAll requests).1.schedulable requests,
      ∃ q ∈ r.schedulable requests, q.1.metric = p.1.metric) :
    ((r.scheduleAll requests).1.scheduleAll requests).1.polling.registry =
      (r.scheduleAll requests).1.polling.registry := by
  have hlisted : ∀ {r : Resolver} {p : MetricRequest × GroupKey × Entry},
      p ∈ r.schedulable requests →
        p.1 ∈ requests ∧ r.collaborators.intended p.1 = some p.2 := by
    intro r p hp
    rcases mem_schedulable_iff.mp hp with ⟨i, hrouted, hprescribed⟩
    exact ⟨(List.mem_filter.mp (List.mem_of_getElem? hrouted)).1,
      Collaborators.intended_of_prescribed hprescribed⟩
  apply registry_scheduleAll_of_rows (scheduleAll_scheduledAll hconsistent hdistinct).consistent
    hdistinct
  intro p hp
  rcases hfound p hp with ⟨q, hq, heq⟩
  rcases hlisted hp with ⟨hpListed, hpRow⟩
  rcases hlisted hq with ⟨hqListed, hqRow⟩
  have hsame : q.1 = p.1 := eq_of_metric_eq hdistinct hqListed hpListed heq
  rw [intended_scheduleAll, ← hsame, hqRow] at hpRow
  rw [← hsame, row_scheduleAll hconsistent hdistinct hq, hpRow]

/-- A reload schedules exactly the metrics of the list that a translator handles and for which the
lookups find settings, in the cache or else in the store, and an interval of at least a millisecond.
It gives their number, and each of them is polled in full by the group of its container and its
interval, whatever the lookups of the others come to; every other metric stays in the very group
that polls it, with the entry that it has.  A second reload changes nothing, as long as it finds no
metric that the first one did not find; where the same lookups fail again, it also gives the same
number.  When the metrics cannot be listed, nothing changes. -/
theorem reload_schedules_schedulable {r : Resolver} {requests : List MetricRequest}
    (hconsistent : r.polling.registry.Consistent)
    (hdistinct : requests.Pairwise (·.metric ≠ ·.metric)) :
    let found := r.schedulable requests
    let after := (r.reloadFrom (.ok requests)).1
    let again := after.reloadFrom (.ok requests)
    r.reload = r.reloadFrom r.collaborators.storedMetrics ∧
      (∀ reason, r.reloadFrom (.error reason) = (r, .error (.store reason))) ∧
      (r.reloadFrom (.ok requests)).2 = .ok found.length ∧
      after.polling.registry.Consistent ∧
      (∀ p ∈ found, after.polling.registry.row p.1.metric = some p.2) ∧
      (∀ metric, (∀ p ∈ found, p.1.metric ≠ metric) →
        after.polling.registry.place metric = r.polling.registry.place metric) ∧
      ((∀ p ∈ after.schedulable requests, ∃ q ∈ found, q.1.metric = p.1.metric) →
        again.1.polling.registry = after.polling.registry) ∧
      ((∀ i, r.collaborators.failsDuring (after.lookupOf i) =
          r.collaborators.failsDuring (r.lookupOf i)) →
        again.2 = .ok found.length ∧ again.1.polling.registry = after.polling.registry) := by
  intro found after again
  have hall := scheduleAll_scheduledAll hconsistent hdistinct
  refine ⟨reload_eq r, fun _ => rfl, ?_, hall.consistent, ?_, ?_, ?_, ?_⟩
  · exact congrArg Except.ok (scheduleAll_count hconsistent hdistinct)
  · intro p hp
    exact row_scheduleAll hconsistent hdistinct hp
  · intro metric hother
    exact place_scheduleAll hconsistent hdistinct hother
  · exact registry_scheduleAll_again hconsistent hdistinct
  · intro hsame
    have hfound : after.schedulable requests = found := schedulable_again hdistinct hsame
    constructor
    · rw [← hfound]
      exact congrArg Except.ok (scheduleAll_count hall.consistent hdistinct)
    · apply registry_scheduleAll_again hconsistent hdistinct
      intro p hp
      have hbefore : p ∈ found := by
        rw [← hfound]
        exact hp
      exact ⟨p, hbefore, rfl⟩

/-- The listed metric that has settings is scheduled between one that has none and one that no
translator handles. -/
theorem reload_schedules_temperature :
    let requests : List MetricRequest :=
      [⟨7, .snmpV2c, 41, .int, 1⟩, temperature, ⟨7, .generic, 43, .int, 1⟩]
    let once := (unscheduled {}).reloadFrom (.ok requests)
    let twice := once.1.reloadFrom (.ok requests)
    once.2 = .ok 1 ∧ once.1.polling.registry.row 42 = some (⟨7, 1000⟩, ⟨42, .int, 5, 5⟩) ∧
      once.1.polling.registry.place 43 = none ∧
      twice.2 = .ok 1 ∧ twice.1.polling.registry = once.1.polling.registry := by
  intro requests once twice
  have hfound : (unscheduled {}).schedulable requests =
      [(temperature, ⟨7, 1000⟩, ⟨42, .int, 5, 5⟩)] := rfl
  have hconsistent : (unscheduled {}).polling.registry.Consistent :=
    Pulling.Registry.consistent_empty
  have hdistinct : requests.Pairwise (·.metric ≠ ·.metric) := by decide
  have hreload := reload_schedules_schedulable hconsistent hdistinct
  dsimp only at hreload
  rw [hfound] at hreload
  rcases hreload with ⟨_, _, hcount, _, hrow, hplace, _, hagain⟩
  rcases hagain fun _ => rfl with ⟨hcountAgain, hsame⟩
  refine ⟨hcount, hrow _ List.mem_cons_self, ?_, hcountAgain, hsame⟩
  exact hplace 43 (by decide)

end Resolver
end MetricGateway
