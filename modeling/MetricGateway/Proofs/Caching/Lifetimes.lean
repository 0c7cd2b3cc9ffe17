import Mathlib.Data.List.Dedup
import Mathlib.Data.List.Nodup
import MetricGateway.Proofs.Caching.Lookups

/-!
# A cache with exact lifetimes

A cache that is written and read in any order, while time passes, is compared with the list of what
was stored in it.  A lookup gives what was stored last for a metric, before the instant at which its
time is over and not from then on.  Nothing of this shows that expired values are dropped on reads
and swept out on writes: the values that are still there although they have expired are seen in the
size alone, and after a write only what was just written can be one of them.
-/

namespace MetricGateway

open Wire (Bytes)

/-!
## Calls
-/

namespace Cache

inductive Op where
  | set (metric : MetricId) (body : Bytes) (ttl : Duration)
  | get (metric : MetricId)
  | wait (nanos : Nat)

/-- A cache in use: the clock, and what was stored so far, newest first. -/
structure Usage where
  cache : Cache := {}
  now : Instant := .start
  deposits : List Deposit := []

namespace Usage

/-- Stores a value.  A time that runs past the end of the clock stores nothing. -/
def set (u : Usage) (metric : MetricId) (body : Bytes) (ttl : Duration) : Usage :=
  { u with
    cache := (u.cache.set u.now metric body ttl).1
    deposits :=
      if (u.now.plus ttl).countable then ⟨metric, body, u.now, ttl⟩ :: u.deposits
      else u.deposits }

def perform (u : Usage) : Op → Usage
  | .set metric body ttl => u.set metric body ttl
  | .get metric => { u with cache := (u.cache.get u.now metric).1 }
  | .wait nanos => { u with now := ⟨nanos + u.now.nanos⟩ }

def run (u : Usage) (ops : List Op) : Usage := ops.foldl perform u

/-- What was stored last for a metric, as long as its time is not over. -/
def current? (u : Usage) (t : Instant) (metric : MetricId) : Option Bytes :=
  (Deposit.last? u.deposits metric).bind (·.shown t)

/-- The metrics whose last stored value has not expired. -/
def liveMetrics (u : Usage) : List MetricId :=
  (u.deposits.map (·.metric)).dedup.filter fun metric => (u.current? u.now metric).isSome

theorem current?_eq_some_iff {u : Usage} {t : Instant} {metric : MetricId} {body : Bytes} :
    u.current? t metric = some body ↔
      ∃ d, Deposit.last? u.deposits metric = some d ∧ d.body = body ∧
        t.nanos < d.time.nanos + d.cacheFor.toNanos := by
  unfold current?
  rw [Option.bind_eq_some_iff]
  constructor
  · rintro ⟨d, hlast, hshown⟩
    unfold Deposit.shown at hshown
    split at hshown
    next hlive => exact ⟨d, hlast, Option.some.inj hshown, hlive⟩
    next => cases hshown
  · rintro ⟨d, hlast, hbody, hlive⟩
    refine ⟨d, hlast, ?_⟩
    unfold Deposit.shown
    rw [if_pos hlive, hbody]

theorem mem_liveMetrics {u : Usage} {metric : MetricId} :
    metric ∈ u.liveMetrics ↔ (u.current? u.now metric).isSome := by
  unfold liveMetrics
  rw [List.mem_filter, List.mem_dedup, List.mem_map]
  constructor
  · exact And.right
  · intro hlive
    rcases Option.isSome_iff_exists.mp hlive with ⟨body, hbody⟩
    rcases current?_eq_some_iff.mp hbody with ⟨d, hlast, -, -⟩
    exact ⟨⟨d, Deposit.mem_of_last? hlast, (Deposit.last?_eq_some_iff.mp hlast).1⟩, hlive⟩

end Usage

/-!
## What a write leaves behind

A value that is stored replaces the one of its metric; those of other metrics are left where they
have not expired.
-/

section Set

variable {now : Instant} {ttl : Duration} (c : Cache) (metric : MetricId) (body : Bytes)

theorem lookup_set (h : (now.plus ttl).countable = true) (other : MetricId) :
    (c.set now metric body ttl).1.values[other]? =
      if metric = other then some ⟨body, now.plus ttl⟩
      else (c.values[other]?).filter (·.live now) := by
  rw [set_eq h c metric body]
  dsimp only
  rw [lookup_insert]
  split
  next => rfl
  next =>
    unfold sweep
    dsimp only
    rw [Std.ExtTreeMap.getElem?_filter']

theorem live_or_eq_of_lookup_set (h : (now.plus ttl).countable = true) {other : MetricId}
    {v : CachedValue} (hv : (c.set now metric body ttl).1.values[other]? = some v) :
    v.live now = true ∨ other = metric ∧ v = ⟨body, now.plus ttl⟩ := by
  rw [lookup_set c metric body h] at hv
  split at hv
  next heq => exact Or.inr ⟨heq.symm, (Option.some.inj hv).symm⟩
  next => exact Or.inl (Option.filter_eq_some_iff.mp hv).2

/-- After a write the metrics that have a value are those that a lookup finds, and the one that was
written. -/
theorem mem_values_set_iff (h : (now.plus ttl).countable = true) (other : MetricId) :
    other ∈ (c.set now metric body ttl).1.values ↔
      other = metric ∨ ((c.set now metric body ttl).1.shown now other).isSome := by
  rw [shown_eq, Std.ExtTreeMap.mem_iff_isSome_getElem?, Option.isSome_iff_exists]
  constructor
  · rintro ⟨v, hv⟩
    rcases live_or_eq_of_lookup_set c metric body h hv with hlive | ⟨heq, -⟩
    · rw [hv]
      simp [hlive]
    · exact Or.inl heq
  · rintro (rfl | hshown)
    · exact ⟨_, by rw [lookup_set c other body h, if_pos rfl]⟩
    · rcases Option.isSome_iff_exists.mp hshown with ⟨b, hb⟩
      rcases Option.bind_eq_some_iff.mp hb with ⟨v, hv, -⟩
      exact ⟨v, hv⟩

theorem shown_set_self (h : (now.plus ttl).countable = true) :
    (c.set now metric body ttl).1.shown now metric =
      if ttl.toNanos = 0 then none else some body := by
  rw [shown_eq, lookup_set c metric body h, if_pos rfl]
  rcases Nat.eq_zero_or_pos ttl.toNanos with hzero | hpos
  · simp [CachedValue.live, Instant.plus, hzero]
  · have hne : ttl.toNanos ≠ 0 := Nat.ne_of_gt hpos
    simp [CachedValue.live, Instant.plus, hpos, hne]

end Set

/-!
## Lookups follow what was stored
-/

theorem Follows.mono {before after : Cache} {now later : Instant} {deposits : List Deposit}
    (h : before.Follows now deposits after) (hle : now.nanos ≤ later.nanos) :
    before.Follows later deposits after :=
  fun t metric hlater => h t metric (Nat.le_trans hle hlater)

theorem follows_set_run {u : Usage} (metric : MetricId) (body : Bytes) (ttl : Duration)
    (h : ({} : Cache).Follows u.now u.deposits u.cache) :
    ({} : Cache).Follows u.now (u.set metric body ttl).deposits (u.set metric body ttl).cache := by
  unfold Usage.set
  dsimp only
  cases hcountable : (u.now.plus ttl).countable with
  | true =>
      have hset := Cache.follows_set (set_eq hcountable u.cache metric body)
      rw [set_eq hcountable u.cache metric body]
      exact h.trans hset
  | false =>
      rw [set_eq_sweep hcountable u.cache metric body]
      have hswept : u.cache.Follows u.now [] (u.cache.sweep u.now) :=
        fun t other hle => u.cache.shown_sweep hle other
      exact h.trans hswept

theorem follows_perform {u : Usage} (op : Op)
    (h : ({} : Cache).Follows u.now u.deposits u.cache) :
    ({} : Cache).Follows (u.perform op).now (u.perform op).deposits (u.perform op).cache := by
  cases op with
  | set metric body ttl => exact follows_set_run metric body ttl h
  | get metric =>
      have hread : u.cache.Follows u.now [] (u.cache.get u.now metric).1 :=
        fun t other hle => u.cache.shown_get hle metric other
      exact h.trans hread
  | wait nanos => exact h.mono (Nat.le_add_left u.now.nanos nanos)

theorem follows_run {u : Usage} (ops : List Op)
    (h : ({} : Cache).Follows u.now u.deposits u.cache) :
    ({} : Cache).Follows (u.run ops).now (u.run ops).deposits (u.run ops).cache := by
  induction ops generalizing u with
  | nil => exact h
  | cons op ops ih => exact ih (follows_perform op h)

theorem shown_of_follows {u : Usage} (h : ({} : Cache).Follows u.now u.deposits u.cache)
    {t : Instant} (hle : u.now.nanos ≤ t.nanos) (metric : MetricId) :
    u.cache.shown t metric = u.current? t metric := by
  rw [h t metric hle]
  unfold Usage.current?
  cases Deposit.last? u.deposits metric with
  | none => rfl
  | some d => rfl

/-!
## Sizes
-/

theorem mem_liveMetrics_iff_shown {u : Usage}
    (h : ({} : Cache).Follows u.now u.deposits u.cache) (metric : MetricId) :
    metric ∈ u.liveMetrics ↔ (u.cache.shown u.now metric).isSome := by
  rw [Usage.mem_liveMetrics, shown_of_follows h (Nat.le_refl _)]

/-- After a write the cache holds the live values, and what was just written also if its time is
over at once. -/
theorem size_set {u : Usage} (h : ({} : Cache).Follows u.now u.deposits u.cache)
    (metric : MetricId) (body : Bytes) {ttl : Duration}
    (hcountable : (u.now.plus ttl).countable = true) :
    (u.set metric body ttl).cache.size =
      (u.set metric body ttl).liveMetrics.length + if ttl.toNanos = 0 then 1 else 0 := by
  have hfollows : ({} : Cache).Follows (u.set metric body ttl).now
      (u.set metric body ttl).deposits (u.set metric body ttl).cache :=
    follows_set_run metric body ttl h
  have hlive := mem_liveMetrics_iff_shown hfollows
  have hself : metric ∈ (u.set metric body ttl).liveMetrics ↔ ttl.toNanos ≠ 0 := by
    have hshown : (u.set metric body ttl).cache.shown u.now metric = _ :=
      shown_set_self u.cache metric body hcountable
    rw [hlive]
    show ((u.set metric body ttl).cache.shown u.now metric).isSome = true ↔ _
    rw [hshown]
    split
    next hzero => simp [hzero]
    next hlasts => simp [hlasts]
  have hkeys : ∀ other, other ∈ (u.set metric body ttl).cache.values.keys ↔
      other = metric ∨ other ∈ (u.set metric body ttl).liveMetrics := by
    intro other
    rw [Std.ExtTreeMap.mem_keys, hlive]
    exact mem_values_set_iff u.cache metric body hcountable other
  have hnodup : (u.set metric body ttl).liveMetrics.Nodup := (List.nodup_dedup _).filter _
  unfold size
  rw [← Std.ExtTreeMap.length_keys]
  split
  next hzero =>
    have hexpired : metric ∉ (u.set metric body ttl).liveMetrics := by
      rw [hself]
      exact fun hlasts => hlasts hzero
    have hperm := (List.perm_ext_iff_of_nodup Std.ExtTreeMap.nodup_keys
      (List.nodup_cons.mpr ⟨hexpired, hnodup⟩)).mpr
        fun other => (hkeys other).trans List.mem_cons.symm
    exact hperm.length_eq
  next hlasts =>
    have hmem : ∀ other, other ∈ (u.set metric body ttl).cache.values.keys ↔
        other ∈ (u.set metric body ttl).liveMetrics := by
      intro other
      rw [hkeys]
      constructor
      · rintro (rfl | hother)
        · exact hself.mpr hlasts
        · exact hother
      · exact Or.inr
    exact ((List.perm_ext_iff_of_nodup Std.ExtTreeMap.nodup_keys hnodup).mpr hmem).length_eq

/-!
## Any use of a cache
-/

/-- Whatever is written into an empty cache and read from it, in whatever order and however much
time passes: a lookup gives what was stored last for its metric exactly until the time of that is
over, and neither the dropping on reads nor the sweeping on writes changes a lookup.  After a write
only what was just written can have expired, and the size is the number of the values that have not,
and one more where the time of the last one was zero. -/
theorem lifetimes_exact (start : Instant) (ops : List Op) :
    let u := ({ now := start } : Usage).run ops
    (∀ metric body, (u.cache.get u.now metric).2 = some body ↔
      ∃ d, Deposit.last? u.deposits metric = some d ∧ d.body = body ∧
        u.now.nanos < d.time.nanos + d.cacheFor.toNanos) ∧
    (∀ t, u.now.nanos ≤ t.nanos → ∀ metric,
      (u.cache.sweep u.now).shown t metric = u.cache.shown t metric ∧
      ∀ other, (u.cache.get u.now other).1.shown t metric = u.cache.shown t metric) ∧
    (∀ metric body ttl, (u.now.plus ttl).countable = true →
      let written := u.perform (.set metric body ttl)
      written.deposits = ⟨metric, body, u.now, ttl⟩ :: u.deposits ∧
      written.cache.values[metric]? = some ⟨body, u.now.plus ttl⟩ ∧
      (∀ other v, written.cache.values[other]? = some v →
        v.live written.now = true ∨ other = metric) ∧
      written.cache.size = written.liveMetrics.length + if ttl.toNanos = 0 then 1 else 0) := by
  intro u
  have hempty : ({} : Cache).Follows start [] {} := ({} : Cache).follows_refl start
  have hfollows : ({} : Cache).Follows u.now u.deposits u.cache := follows_run ops hempty
  refine ⟨?_, ?_, ?_⟩
  · intro metric body
    rw [← Usage.current?_eq_some_iff, ← shown_of_follows hfollows (Nat.le_refl _)]
    rfl
  · intro t hle metric
    exact ⟨u.cache.shown_sweep hle metric, fun other => u.cache.shown_get hle other metric⟩
  · intro metric body ttl hcountable
    refine ⟨if_pos hcountable, ?_, ?_, size_set hfollows metric body hcountable⟩
    · exact (lookup_set u.cache metric body hcountable metric).trans (if_pos rfl)
    · intro other v hv
      rcases live_or_eq_of_lookup_set u.cache metric body hcountable hv with hlive | ⟨heq, -⟩
      · exact Or.inl hlive
      · exact Or.inr heq

/-- A value that is written for no time takes the place of one that would have lasted: it is in the
cache, but no lookup finds it. -/
theorem lifetimes_exact_zero :
    let ops : List Op := [.set 1 [7] (.ofSecs 5), .set 2 [8] (.ofSecs 9), .get 2, .wait 1000000000]
    let u := ({} : Usage).run ops
    let written := u.perform (.set 2 [9] .zero)
    (u.now.plus .zero).countable = true ∧ u.now.nanos ≤ 6000000000 ∧
      (u.cache.get u.now 2).2 = some [8] ∧
      (u.cache.sweep u.now).shown ⟨6000000000⟩ 1 = none ∧
      written.cache.values[(2 : MetricId)]? = some ⟨[9], u.now.plus .zero⟩ ∧
      written.liveMetrics = [1] ∧ written.cache.size = 2 := by
  intro ops u written
  have hcountable : (u.now.plus .zero).countable = true := by decide +kernel
  have hlater : u.now.nanos ≤ 6000000000 := by decide +kernel
  have hlive : written.liveMetrics = [1] := by decide +kernel
  rcases lifetimes_exact .start ops with ⟨hget, hkept, hset⟩
  rcases hset 2 [9] .zero hcountable with ⟨-, hvalue, -, hsize⟩
  refine ⟨hcountable, hlater, ?_, ?_, hvalue, hlive, ?_⟩
  · exact (hget 2 [8]).mpr ⟨⟨2, [8], .start, .ofSecs 9⟩, by decide +kernel⟩
  · rw [(hkept ⟨6000000000⟩ hlater 1).1]
    decide +kernel
  · rw [hsize, hlive]
    rfl

end Cache
end MetricGateway
