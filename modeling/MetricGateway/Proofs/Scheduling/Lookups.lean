import MetricGateway.Collaborators
import MetricGateway.Pulling.Group

/-!
# What lookups find

The settings of a metric are found in the cache, else in the store; the interval of a container is
found in the store.  Each of the calls can fail, and then nothing is found.  A lookup changes the
cached settings of its own metric at most, so that lookups of different metrics do not disturb each
other.
-/

namespace MetricGateway

namespace Store

theorem pairwise_list (s : Store) : s.list.Pairwise (·.metric ≠ ·.metric) := by
  unfold list
  rw [List.pairwise_map]
  have hdistinct := Std.ExtTreeMap.distinct_keys_toList (t := s.metrics)
  refine hdistinct.imp_of_mem ?_
  intro a b ha hb hne heq
  rw [Std.ExtTreeMap.mem_toList_iff_getElem?_eq_some] at ha hb
  rw [s.keyed a.1 a.2 ha, s.keyed b.1 b.2 hb] at heq
  exact hne (Std.LawfulEqOrd.compare_eq_iff_eq.mpr heq)

end Store

namespace Collaborators

def foundSettings (c : Collaborators) (lookup : Nat) (metric : MetricId) : Option MetricSettings :=
  if c.failsDuring lookup .cacheSettingsGet then none
  else (c.cache.getSettings metric).or
    (if c.failsDuring lookup .storeMetric then none else c.store.metricSettings metric)

def foundInterval (c : Collaborators) (lookup : Nat) (container : ContainerId) : Option Duration :=
  if c.failsDuring lookup .storeContainer then none
  else ((c.store.containerSettings container).map (·.interval)).filter
    fun interval => 0 < interval.wholeMillis

/-- How a listed metric is to be polled: its group, and its entry with the whole budget. -/
def prescribed (c : Collaborators) (lookup : Nat) (request : MetricRequest) :
    Option (Pulling.GroupKey × Pulling.Entry) :=
  (c.foundSettings lookup request.metric).bind fun settings =>
    (c.foundInterval lookup request.container).map fun interval =>
      (.ofInterval request.container interval,
        .new request.metric request.valueKind settings.budget)

/-!
## What a lookup changes
-/

theorem cacheSettings_eq (c : Collaborators) (metric : MetricId) (s : MetricSettings) :
    ∃ cache, (c.cacheSettings metric s).1 = { c with cache } ∧
      ∀ {other : MetricId}, metric ≠ other →
        cache.getSettings other = c.cache.getSettings other := by
  unfold cacheSettings
  split
  · exact ⟨c.cache, rfl, fun _ => rfl⟩
  · refine ⟨c.cache.setSettings metric s, rfl, ?_⟩
    intro other hne
    simp [Cache.getSettings, Cache.setSettings, Std.ExtTreeMap.getElem?_insert, hne]

/-- A lookup is counted, and changes the cached settings of its own metric at most. -/
theorem metricSettings_eq (c : Collaborators) (metric : MetricId) :
    ∃ cache, (c.metricSettings metric).1 = { c with cache, lookups := c.lookups + 1 } ∧
      ∀ {other : MetricId}, metric ≠ other →
        cache.getSettings other = c.cache.getSettings other := by
  have hbegun : ∃ cache, c.beginLookup = { c with cache, lookups := c.lookups + 1 } ∧
      ∀ {other : MetricId}, metric ≠ other → cache.getSettings other = c.cache.getSettings other :=
    ⟨c.cache, rfl, fun _ => rfl⟩
  unfold metricSettings
  dsimp only
  split
  next => exact hbegun
  next => exact hbegun
  next =>
    split
    next => exact hbegun
    next => exact hbegun
    next s _ =>
      rcases cacheSettings_eq c.beginLookup metric s with ⟨cache, heq, hothers⟩
      exact ⟨cache, heq, hothers⟩

theorem prescribed_metricSettings (c : Collaborators) {metric : MetricId} {request : MetricRequest}
    (hne : metric ≠ request.metric) (lookup : Nat) :
    (c.metricSettings metric).1.prescribed lookup request = c.prescribed lookup request := by
  rcases metricSettings_eq c metric with ⟨cache, heq, hothers⟩
  unfold prescribed foundSettings
  rw [heq]
  dsimp only
  rw [hothers hne]
  rfl

theorem lookups_metricSettings (c : Collaborators) (metric : MetricId) :
    (c.metricSettings metric).1.lookups = c.lookups + 1 := by
  rcases metricSettings_eq c metric with ⟨cache, heq, _⟩
  rw [heq]

/-!
## What a lookup gives
-/

theorem metricSettings_eq_ok_iff (c : Collaborators) (metric : MetricId) (s : MetricSettings) :
    (c.metricSettings metric).2 = .ok s ↔ c.foundSettings (c.lookups + 1) metric = some s := by
  unfold metricSettings foundSettings cachedSettings storedMetric ask fails
  show _ ↔ (if c.beginLookup.failsDuring c.beginLookup.lookups .cacheSettingsGet then none
    else (c.beginLookup.cache.getSettings metric).or
      (if c.beginLookup.failsDuring c.beginLookup.lookups .storeMetric then none
        else c.beginLookup.store.metricSettings metric)) = some s
  generalize c.beginLookup = begun
  dsimp only
  by_cases hget : begun.failsDuring begun.lookups .cacheSettingsGet = true
  · simp [hget]
  · cases hcached : begun.cache.getSettings metric with
    | some cached => simp [hget]
    | none =>
        by_cases hstore : begun.failsDuring begun.lookups .storeMetric = true
        · simp [hget, hstore]
        · cases begun.store.metricSettings metric <;> simp [hget, hstore]

theorem containerInterval_eq_ok_iff (c : Collaborators) (container : ContainerId)
    (interval : Duration) :
    c.containerInterval container = .ok interval ↔
      c.foundInterval c.lookups container = some interval := by
  unfold containerInterval foundInterval storedContainer ask fails
  by_cases hstore : c.failsDuring c.lookups .storeContainer = true
  · simp [hstore]
  · cases c.store.containerSettings container with
    | none => simp [hstore]
    | some s =>
        by_cases hpos : 0 < s.interval.wholeMillis <;> simp [hstore, hpos, Option.filter]

theorem containerInterval_metricSettings (c : Collaborators) (metric : MetricId)
    (container : ContainerId) (interval : Duration) :
    (c.metricSettings metric).1.containerInterval container = .ok interval ↔
      c.foundInterval (c.lookups + 1) container = some interval := by
  rw [containerInterval_eq_ok_iff]
  rcases metricSettings_eq c metric with ⟨cache, heq, _⟩
  rw [heq]
  exact Iff.rfl

theorem wholeMillis_of_foundInterval {c : Collaborators} {lookup : Nat} {container : ContainerId}
    {interval : Duration} (h : c.foundInterval lookup container = some interval) :
    interval.wholeMillis ≠ 0 := by
  unfold foundInterval at h
  split at h
  · cases h
  · rw [Option.filter_eq_some_iff] at h
    have hpos := of_decide_eq_true h.2
    omega

end Collaborators
end MetricGateway
