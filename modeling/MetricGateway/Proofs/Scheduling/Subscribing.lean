import MetricGateway.Proofs.Caching.Lookups
import MetricGateway.Proofs.Scheduling.Reload

/-!
# What becomes of a subscription

A subscription looks up the settings of its metric and the interval of its container, and does what
these allow.  The registry never refuses an interval that a lookup has found.  Whoever has asked the
other systems has changed nothing that anybody can see, but for settings of the store that were
written back to the cache.
-/

namespace MetricGateway

open Pulling (Polling Target)

/-!
## Looking up
-/

namespace Collaborators

def lookUp (c : Collaborators) (request : MetricRequest) :
    Except GatewayError (MetricSettings × Duration) :=
  match c.metricSettings request.metric with
  | (_, .error e) => .error e
  | (c, .ok settings) => (c.containerInterval request.container).map (settings, ·)

theorem add_of_containerInterval {c : Collaborators} {container : ContainerId}
    {interval : Duration} (h : c.containerInterval container = .ok interval) (p : Polling)
    {target : Target} (htarget : target.interval = interval) (metric : MetricId)
    (valueKind : ValueKind) (budget : UInt16) :
    ∃ outcome, (p.add target metric valueKind budget).2 = .ok outcome := by
  have hlong : target.interval.wholeMillis ≠ 0 := by
    rw [htarget]
    exact wholeMillis_of_foundInterval ((c.containerInterval_eq_ok_iff container interval).mp h)
  rcases p.registry.add_of_accepted hlong metric valueKind budget with ⟨report, hadd⟩
  refine ⟨report.outcome, ?_⟩
  unfold Polling.add
  rw [hadd]

theorem eq_of_ask {α : Type} {c : Collaborators} {call : Call} {answer found : α}
    (h : c.ask call answer = .ok found) : answer = found := by
  unfold ask at h
  split at h
  · cases h
  · exact Except.ok.inj h

/-- A lookup leaves the cached settings of its metric as they are, or writes back those of the
store. -/
theorem settings_metricSettings (c : Collaborators) (metric other : MetricId) :
    (c.metricSettings metric).1.cache.getSettings other = c.cache.getSettings other ∨
      other = metric ∧ c.cache.getSettings metric = none ∧
        (c.metricSettings metric).1.cache.getSettings metric = c.store.metricSettings metric := by
  unfold metricSettings
  dsimp only
  split
  next => exact Or.inl rfl
  next => exact Or.inl rfl
  next hcached =>
    split
    next => exact Or.inl rfl
    next => exact Or.inl rfl
    next s hstored =>
      have hnone : c.cache.getSettings metric = none := eq_of_ask hcached
      have hstore : c.store.metricSettings metric = some s := eq_of_ask hstored
      by_cases hother : other = metric
      · subst hother
        unfold cacheSettings
        split
        · exact Or.inl rfl
        · refine Or.inr ⟨rfl, hnone, ?_⟩
          rw [hstore]
          exact Std.ExtTreeMap.getElem?_insert_self
      · rcases cacheSettings_eq c.beginLookup metric s with ⟨cache, heq, hothers⟩
        rw [heq]
        exact Or.inl (hothers fun h => hother h.symm)

/-- The other systems after they were asked about a metric: no lookup of a value from now on gives
anything else than before, and settings were changed by a write-back of those of the store at
most. -/
structure Consulted (c : Collaborators) (now : Instant) (metric : MetricId)
    (c' : Collaborators) : Prop where
  systems : ∃ cache lookups, c' = { c with cache, lookups }
  shown : ∀ (t : Instant) (other : MetricId), now.nanos ≤ t.nanos →
    c'.cache.shown t other = c.cache.shown t other
  settings : ∀ other, c'.cache.getSettings other = c.cache.getSettings other ∨
    other = metric ∧ c.cache.getSettings metric = none ∧
      c'.cache.getSettings metric = c.store.metricSettings metric

theorem consulted_cachedValue (c : Collaborators) (now : Instant) (metric : MetricId) :
    c.Consulted now metric (c.cachedValue now metric).1 := by
  have hshown := follows_cachedValue c now metric
  refine { systems := ?_, shown := fun t other hle => hshown t other hle, settings := ?_ }
  · unfold cachedValue
    split
    · exact ⟨c.cache, c.lookups, rfl⟩
    · exact ⟨_, c.lookups, rfl⟩
  · intro other
    unfold cachedValue Cache.get
    left
    split
    · rfl
    · dsimp only
      split
      · rfl
      · split <;> rfl

theorem Consulted.metricSettings {c c' : Collaborators} {now : Instant} {metric : MetricId}
    (h : c.Consulted now metric c') : c.Consulted now metric (c'.metricSettings metric).1 where
  systems := by
    rcases h.systems with ⟨cache, lookups, rfl⟩
    rcases metricSettings_eq { c with cache, lookups } metric with ⟨cache', heq, _⟩
    exact ⟨cache', lookups + 1, heq⟩
  shown := by
    intro t other hle
    rw [Cache.shown_congr (c'.values_metricSettings metric), h.shown t other hle]
  settings := by
    intro other
    have hstore : c'.store = c.store := by
      rcases h.systems with ⟨cache, lookups, rfl⟩
      rfl
    rcases settings_metricSettings c' metric other with heq | ⟨hother, hnone, hstored⟩
    · rw [heq]
      rcases h.settings other with hsame | ⟨rfl, hback⟩
      · exact Or.inl hsame
      · rw [heq]
        exact Or.inr ⟨rfl, hback⟩
    · have hbefore : c.cache.getSettings metric = none := by
        rcases h.settings metric with hsame | ⟨_, hnone', _⟩
        · rw [← hsame]
          exact hnone
        · exact hnone'
      rw [hstore] at hstored
      exact Or.inr ⟨hother, hbefore, hstored⟩

end Collaborators

/-!
## Subscribing
-/

namespace Resolver

/-- A subscription does what its lookups allow, and fails for no other reason. -/
theorem subscribe_eq (r : Resolver) (request : MetricRequest) (key : String) :
    r.subscribe request key =
      match r.collaborators.lookUp request with
      | .error e =>
          ({ r with collaborators := (r.collaborators.metricSettings request.metric).1 }, .error e)
      | .ok (settings, interval) =>
          ({ r with
              collaborators := (r.collaborators.metricSettings request.metric).1
              polling := (r.polling.add (target request key interval) request.metric
                request.valueKind settings.budget).1 }, .ok settings) := by
  unfold subscribe Collaborators.lookUp
  cases r.collaborators.metricSettings request.metric with
  | mk c result =>
      cases result with
      | error e => rfl
      | ok settings =>
          dsimp only
          cases hinterval : c.containerInterval request.container with
          | error e => rfl
          | ok interval =>
              have htarget : (target request key interval).interval = interval := rfl
              rcases Collaborators.add_of_containerInterval hinterval r.polling htarget
                request.metric request.valueKind settings.budget with ⟨outcome, hadd⟩
              dsimp only [Except.map]
              generalize r.polling.add _ _ _ _ = added at hadd ⊢
              rcases added with ⟨polling, result⟩
              cases hadd
              rfl

theorem schedule_eq (r : Resolver) (request : MetricRequest) :
    (r.schedule request).2 =
      (r.isRouted request && (r.collaborators.lookUp request).isOk) := by
  unfold isRouted
  cases hkey : r.routes.key? request.containerKind with
  | none =>
      rw [schedule_of_none hkey]
      rfl
  | some key =>
      rw [schedule_of_some hkey, subscribe_eq]
      cases r.collaborators.lookUp request <;> rfl

theorem reload_error {r : Resolver} {e : GatewayError} (h : r.reload.2 = .error e) :
    ∃ reason, r.collaborators.storedMetrics = .error reason ∧ e = .store reason := by
  unfold reload at h
  cases hlist : r.collaborators.storedMetrics with
  | ok requests =>
      rw [hlist] at h
      cases h
  | error reason =>
      rw [hlist] at h
      cases h
      exact ⟨reason, rfl, rfl⟩

end Resolver

end MetricGateway
