import MetricGateway.Proofs.Fetching.Polled
import MetricGateway.Proofs.Fetching.Replies
import MetricGateway.Proofs.Pulling.Removals

/-!
# Changes of containers and metrics

An event about a container takes the container out of polling, and an event about a metric takes
out the metric, whatever container its notice names.  The latter also makes the cache forget the
settings of the metric, if the cache can be reached.  Nothing else comes of such an event but that
it is counted and recorded, and the event finds nothing to do when it comes again.
-/

namespace MetricGateway

open Pulling (Polling Removal)

/-- What an event about a container or a metric takes out of polling. -/
def LifecycleEvent.removal? : LifecycleEvent → Option Removal
  | .containerUpdated container | .containerDeleted container => some (.container container)
  | .metricUpdated _ metric | .metricDeleted _ metric => some (.metric metric)
  | .policyDeleted _ => none

namespace Collaborators

def withoutSettings (c : Collaborators) (metric : MetricId) : Collaborators :=
  { c with cache := { c.cache with settings := c.cache.settings.erase metric } }

/-- The systems when something was taken out of polling: the settings of a metric are forgotten,
unless the cache cannot be reached. -/
def without (c : Collaborators) : Removal → Collaborators
  | .metric metric => if c.fails .cacheSettingsDelete then c else c.withoutSettings metric
  | .container _ => c

variable {c : Collaborators}

theorem without_of_fails (h : c.fails .cacheSettingsDelete = true) (metric : MetricId) :
    c.without (.metric metric) = c :=
  if_pos h

theorem without_of_reached (h : ¬c.fails .cacheSettingsDelete = true) (metric : MetricId) :
    c.without (.metric metric) = c.withoutSettings metric :=
  if_neg h

theorem forgetSettings_eq (c : Collaborators) (metric : MetricId) :
    (c.forgetSettings metric).1 = c.without (.metric metric) := by
  unfold forgetSettings dropSettings
  by_cases hfails : c.fails .cacheSettingsDelete = true
  · rw [if_pos hfails, without_of_fails hfails]
  · rw [if_neg hfails, without_of_reached hfails]
    rfl

theorem withoutSettings_again (c : Collaborators) (metric : MetricId) :
    (c.withoutSettings metric).withoutSettings metric = c.withoutSettings metric := by
  unfold withoutSettings
  rw [erase_erase]

theorem without_again (c : Collaborators) (x : Removal) :
    (c.without x).without x = c.without x := by
  cases x with
  | container container => rfl
  | metric metric =>
      by_cases hfails : c.fails .cacheSettingsDelete = true
      · rw [without_of_fails hfails, without_of_fails hfails]
      · have hlater : ¬(c.withoutSettings metric).fails .cacheSettingsDelete = true := hfails
        rw [without_of_reached hfails, without_of_reached hlater, withoutSettings_again]

end Collaborators

/-!
## The effect of an event
-/

namespace Resolver

variable {r : Resolver} {e : LifecycleEvent} {x : Removal}

theorem react_of_removal (r : Resolver) (he : e.removal? = some x) :
    r.react e = ({ r with
        polling := (r.polling.takeOut x).1
        collaborators := r.collaborators.without x }, (r.polling.takeOut x).2) := by
  cases e with
  | containerUpdated container | containerDeleted container =>
      cases he
      rfl
  | metricUpdated container metric | metricDeleted container metric =>
      cases he
      rw [← Collaborators.forgetSettings_eq]
      rfl
  | policyDeleted policy => cases he

/-- An event does what a removal does to polling and to the cached settings, tells how much it took
out of polling, and leaves everything else as it is. -/
structure CarriesOut (r : Resolver) (e : LifecycleEvent) (x : Removal) : Prop where
  polling : r.polling.TakesOut x (r.apply e).1.polling
  amount : (r.apply e).2 = r.polling.registry.amount x
  collaborators : (r.apply e).1.collaborators = r.collaborators.without x
  rest : (r.apply e).1 =
    { r with
      polling := (r.apply e).1.polling
      collaborators := (r.apply e).1.collaborators }

theorem carriesOut_apply (h : r.polling.registry.Consistent) (he : e.removal? = some x) :
    r.CarriesOut e x := by
  have htaken := Pulling.Polling.takesOut_takeOut h x
  have hamount := Pulling.Polling.amount_takeOut h x
  have happly : r.apply e = ((({ r with
        polling := (r.polling.takeOut x).1
        collaborators := r.collaborators.without x } : Resolver).count
          (·.addLifecycleEvent e.kind)).onCommon (·.record
            (.lifecycleApplied e.kind e.subject (r.polling.takeOut x).2)),
      (r.polling.takeOut x).2) := by
    unfold apply
    rw [react_of_removal r he]
  refine ⟨?_, ?_, ?_, ?_⟩ <;> rw [happly]
  · exact htaken.noted (·.addLifecycleEvent e.kind) _
  · exact hamount
  · rfl
  · rfl

/-- Where an event has been applied, it finds nothing in the registry that it could take out, also
when other things have changed since. -/
theorem CarriesOut.nothing_again (h : r.CarriesOut e x) (he : e.removal? = some x) {q : Resolver}
    (hconsistent : q.polling.registry.Consistent)
    (hsame : q.polling.registry = (r.apply e).1.polling.registry) :
    (q.apply e).2 = 0 ∧ (q.apply e).1.polling.registry = q.polling.registry ∧
      (q.apply e).1.polling.tickers = q.polling.tickers := by
  have hagain := carriesOut_apply hconsistent he
  have hleft : q.polling.registry = r.polling.registry.without x := hsame.trans h.polling.registry
  refine ⟨?_, ?_, ?_⟩
  · rw [hagain.amount, hleft]
    exact Pulling.Registry.amount_again r.polling.registry x
  · rw [hagain.polling.registry, hleft]
    exact Pulling.Registry.without_again r.polling.registry x
  · rw [hagain.polling.tickers, hleft]
    simp [Pulling.Registry.not_endedBy_again]

end Resolver

/-!
## Any event
-/

namespace Fetching

/-- Whatever has happened before, an event about a container takes out all groups of the container
with their metrics, and an event about a metric takes out the entry of the metric, with its group if
that has no other one, and forgets the cached settings of the metric if the cache can be reached.
It tells how many groups these were, or whether the metric was polled.  The tickers of the groups
that are gone are told to stop.  Every other group, entry, budget and ticker is as it was, and the
same event comes to nothing when it is applied again. -/
theorem events_take_out_exactly {start : Recorded Resolver}
    (hempty : start.host.polling.registry = {}) (acts : List Act) {e : LifecycleEvent}
    {x : Removal} (he : e.removal? = some x) :
    let r := (run start acts).host
    let after := (r.apply e).1
    r.CarriesOut e x ∧
      (∀ q : Resolver, q.polling.registry = after.polling.registry →
        (q.apply e).2 = 0 ∧ (q.apply e).1.polling.registry = q.polling.registry ∧
          (q.apply e).1.polling.tickers = q.polling.tickers) ∧
      (after.apply e).1.collaborators = after.collaborators := by
  intro r after
  have hcarries := Resolver.carriesOut_apply (registry_consistent_of_run hempty acts) he
  have hafter : after.polling.registry.Consistent := by
    have hconsistent := registry_consistent_of_run hempty (acts ++ [.apply e])
    rw [run_append] at hconsistent
    exact hconsistent
  refine ⟨hcarries, ?_, ?_⟩
  · intro q hsame
    exact hcarries.nothing_again he (hsame ▸ hafter) hsame
  · rw [(Resolver.carriesOut_apply hafter he).collaborators, hcarries.collaborators]
    exact Collaborators.without_again r.collaborators x

/-- Two groups of one container, at different intervals, and one of another container. -/
def threeGroups : List Act :=
  [.polling (.add ⟨7, .snmpV2c, "snmp", Duration.ofSecs 1⟩ 42 .int 5),
    .polling (.add ⟨7, .snmpV2c, "snmp", Duration.ofSecs 10⟩ 43 .int 5),
    .polling (.add ⟨8, .snmpV2c, "snmp", Duration.ofSecs 1⟩ 50 .int 5)]

theorem events_take_out_exactly_container :
    let r := (run unasked threeGroups).host
    let after := (r.apply (.containerDeleted 7)).1
    r.polling.registry.keys = [⟨7, 1000⟩, ⟨7, 10000⟩, ⟨8, 1000⟩] ∧
      (r.apply (.containerDeleted 7)).2 = 2 ∧ after.polling.registry.keys = [⟨8, 1000⟩] ∧
      (after.apply (.containerDeleted 7)).2 = 0 ∧ (r.apply (.metricUpdated 9 43)).2 = 1 := by
  intro r after
  have hkeys : (r.polling.registry.without (.container 7)).keys = [⟨8, 1000⟩] := by decide +kernel
  have hcontainer : r.polling.registry.amount (.container 7) = 2 := by decide +kernel
  have hmetric : r.polling.registry.amount (.metric 43) = 1 := by decide +kernel
  have hempty : unasked.host.polling.registry = {} := rfl
  rcases events_take_out_exactly hempty threeGroups (e := .containerDeleted 7) rfl with
    ⟨hcarries, hagain, _⟩
  have hupdated := events_take_out_exactly hempty threeGroups (e := .metricUpdated 9 43) rfl
  refine ⟨by decide +kernel, hcarries.amount.trans hcontainer, ?_, (hagain after rfl).1,
    hupdated.1.amount.trans hmetric⟩
  rw [hcarries.polling.registry]
  exact hkeys

end Fetching
end MetricGateway
