import Mathlib.Data.List.Basic
import MetricGateway.Proofs.Caching.Lookups
import MetricGateway.Proofs.Scheduling.Lookups
import MetricGateway.Proofs.Scheduling.Rebuild

/-!
# Batches of readings

Each reading of a batch has a lookup of the settings of its metric, a write to the cache and a call
of the history of its own, and each of these can fail for itself.  A reading is kept if its lookup
finds settings and its write succeeds.  What fails for one reading changes nothing for another: the
only thing that readings have to do with each other is that settings which the lookup of one of them
has written back to the cache are found by the later ones.  The readings that are kept are counted,
are handed to the history in their order, and the last of them for a metric is what lookups of the
metric give as long as its settings say.
-/

namespace MetricGateway

open Wire (Bytes)

/-!
## Which readings are kept
-/

/-- A reading of a batch that is kept: the number of its lookup, and the settings it has found. -/
structure KeptReading where
  reading : Reading
  lookup : Nat
  settings : MetricSettings
deriving DecidableEq

def KeptReading.attempt (k : KeptReading) : Reading × Nat := (k.reading, k.lookup)

def KeptReading.deposit (k : KeptReading) (now : Instant) : Deposit :=
  ⟨k.reading.metric, Wire.encode k.reading, now, k.settings.cacheFor⟩

namespace Collaborators

def attempts (c : Collaborators) (readings : List Reading) : List (Reading × Nat) :=
  readings.zipIdx (c.lookups + 1)

/-- Whether a lookup brings the settings of a metric from the store to the cache where they are not
in the cache yet. -/
def writesBack (c : Collaborators) (metric : MetricId) (a : Reading × Nat) : Bool :=
  a.1.metric = metric && !c.failsDuring a.2 .cacheSettingsGet && !c.failsDuring a.2 .storeMetric &&
    !c.failsDuring a.2 .cacheSettingsSet

/-- The settings that are found for a reading: those of the cache, and otherwise those of the store
if the store can be asked or a lookup for an earlier reading has written them back. -/
def settingsFor (c : Collaborators) (attempts : List (Reading × Nat)) (a : Reading × Nat) :
    Option MetricSettings :=
  if c.failsDuring a.2 .cacheSettingsGet then none
  else (c.cache.getSettings a.1.metric).or
    (if attempts.any (fun b => b.2 < a.2 && c.writesBack a.1.metric b) ||
        !c.failsDuring a.2 .storeMetric
      then c.store.metricSettings a.1.metric else none)

/-- A reading is kept if its own lookup finds settings and its own write does not fail. -/
def keeps? (c : Collaborators) (attempts : List (Reading × Nat)) (a : Reading × Nat) :
    Option KeptReading :=
  if c.failsDuring a.2 .cacheSet then none
  else (c.settingsFor attempts a).map fun settings => ⟨a.1, a.2, settings⟩

/-- The readings of a batch that are kept, in the order of the batch. -/
def kept (c : Collaborators) (readings : List Reading) : List KeptReading :=
  (c.attempts readings).filterMap (c.keeps? (c.attempts readings))

/-- The kept readings whose own call of the history does not fail. -/
def recorded (c : Collaborators) (kept : List KeptReading) : List Reading :=
  (kept.filter fun k => !c.failsDuring k.lookup .history).map (·.reading)

variable (c : Collaborators)

theorem attempt_kept (readings : List Reading) :
    (c.kept readings).map (·.attempt) = (c.attempts readings).filter fun a =>
      (c.settingsFor (c.attempts readings) a).isSome && !c.failsDuring a.2 .cacheSet := by
  unfold kept
  rw [List.map_filterMap, ← List.filterMap_eq_filter]
  congr 1
  funext a
  unfold keeps? Option.guard
  by_cases hset : c.failsDuring a.2 .cacheSet = true
  · simp [hset]
  · cases hfound : c.settingsFor (c.attempts readings) a <;>
      simp [hset, hfound, KeptReading.attempt]

theorem settingsFor_of_mem_kept {readings : List Reading} {k : KeptReading}
    (h : k ∈ c.kept readings) :
    c.settingsFor (c.attempts readings) k.attempt = some k.settings := by
  unfold kept at h
  rcases List.mem_filterMap.mp h with ⟨a, -, hkeeps⟩
  unfold keeps? at hkeeps
  split at hkeeps
  next => cases hkeeps
  next =>
    rcases Option.map_eq_some_iff.mp hkeeps with ⟨settings, hsettings, rfl⟩
    exact hsettings

/-!
## The lookup for a reading
-/

/-- What is in the cache stays, and what is only in the store is written back where no call
fails. -/
theorem getSettings_metricSettings (reading : Reading) (metric : MetricId) :
    (c.metricSettings reading.metric).1.cache.getSettings metric =
      (c.cache.getSettings metric).or
        (if c.writesBack metric (reading, c.lookups + 1) then c.store.metricSettings metric
          else none) := by
  by_cases hother : reading.metric = metric
  case neg =>
    rcases metricSettings_eq c reading.metric with ⟨cache, heq, hothers⟩
    rw [heq]
    simp [hothers hother, writesBack, hother]
  case pos =>
    subst hother
    unfold metricSettings cachedSettings storedMetric ask fails
    show _ = (c.beginLookup.cache.getSettings reading.metric).or
      (if c.beginLookup.writesBack reading.metric (reading, c.beginLookup.lookups) then
        c.beginLookup.store.metricSettings reading.metric else none)
    generalize c.beginLookup = begun
    unfold writesBack
    dsimp only
    cases hget : begun.failsDuring begun.lookups .cacheSettingsGet with
    | true => simp
    | false =>
        cases hcached : begun.cache.getSettings reading.metric with
        | some s => simp [hcached]
        | none =>
            cases hask : begun.failsDuring begun.lookups .storeMetric with
            | true => simp [hcached]
            | false =>
                cases hstored : begun.store.metricSettings reading.metric with
                | none => simp [hcached]
                | some s =>
                    unfold cacheSettings fails
                    cases begun.failsDuring begun.lookups .cacheSettingsSet with
                    | true => simp [hcached]
                    | false => simp [Cache.getSettings, Cache.setSettings]

theorem history_metricSettings (metric : MetricId) :
    (c.metricSettings metric).1.history = c.history ∧
      (c.metricSettings metric).1.handed = c.handed := by
  rcases metricSettings_eq c metric with ⟨cache, heq, _⟩
  rw [heq]
  exact ⟨rfl, rfl⟩

/-- The systems after the lookup for a reading, with whatever was then stored. -/
structure LooksUp (reading : Reading) (c' : Collaborators) : Prop where
  systems : ∃ cache history handed,
    c' = { c with cache, history, handed, lookups := c.lookups + 1 }
  settings : ∀ metric, c'.cache.getSettings metric =
    (c.cache.getSettings metric).or
      (if c.writesBack metric (reading, c.lookups + 1) then c.store.metricSettings metric
        else none)

theorem looksUp_metricSettings (reading : Reading) :
    c.LooksUp reading (c.metricSettings reading.metric).1 where
  systems := by
    rcases metricSettings_eq c reading.metric with ⟨cache, heq, _⟩
    exact ⟨cache, c.history, c.handed, heq⟩
  settings := c.getSettings_metricSettings reading

variable {c} {c' : Collaborators} {reading : Reading}

theorem LooksUp.store (h : c.LooksUp reading c') {values : Std.ExtTreeMap MetricId CachedValue}
    {history handed : List Reading} :
    c.LooksUp reading { c' with cache := { c'.cache with values }, history, handed } where
  systems := by
    rcases h.systems with ⟨_, _, _, rfl⟩
    exact ⟨_, _, _, rfl⟩
  settings := h.settings

theorem LooksUp.lookups (h : c.LooksUp reading c') : c'.lookups = c.lookups + 1 := by
  rcases h.systems with ⟨_, _, _, rfl⟩
  rfl

theorem LooksUp.fails (h : c.LooksUp reading c') (call : Call) :
    c'.fails call = c.failsDuring (c.lookups + 1) call := by
  rcases h.systems with ⟨_, _, _, rfl⟩
  rfl

/-!
## The first reading and the others
-/

theorem LooksUp.attempts_cons (h : c.LooksUp reading c') (readings : List Reading) :
    c.attempts (reading :: readings) = (reading, c.lookups + 1) :: c'.attempts readings := by
  unfold attempts
  rw [h.lookups, List.zipIdx_cons]

theorem lookups_lt_of_mem_attempts {readings : List Reading} {a : Reading × Nat}
    (h : a ∈ c.attempts readings) : c.lookups < a.2 :=
  List.le_snd_of_mem_zipIdx h

theorem settingsFor_first (reading : Reading) (readings : List Reading) :
    c.settingsFor (c.attempts readings) (reading, c.lookups + 1) =
      c.foundSettings (c.lookups + 1) reading.metric := by
  have hnone : (c.attempts readings).any (fun b => b.2 < c.lookups + 1 &&
      c.writesBack reading.metric b) = false := by
    rw [List.any_eq_false]
    intro b hb
    have hlookup := lookups_lt_of_mem_attempts hb
    simp [Nat.not_lt.mpr hlookup]
  unfold settingsFor foundSettings
  rw [hnone]
  cases c.failsDuring (c.lookups + 1) .storeMetric <;> simp

/-- For a later reading the first one is as good as a lookup that has taken place before. -/
theorem LooksUp.settingsFor_cons (h : c.LooksUp reading c') {readings : List Reading}
    {a : Reading × Nat} (ha : a ∈ c'.attempts readings) :
    c.settingsFor (c.attempts (reading :: readings)) a =
      c'.settingsFor (c'.attempts readings) a := by
  have hlater : c.lookups + 1 < a.2 := h.lookups ▸ lookups_lt_of_mem_attempts ha
  have hsettings := h.settings a.1.metric
  rw [h.attempts_cons]
  unfold settingsFor
  rw [hsettings, List.any_cons]
  rcases h.systems with ⟨_, _, _, rfl⟩
  show _ = if c.failsDuring a.2 .cacheSettingsGet then none
    else Option.or _ (if List.any _ (fun b => b.2 < a.2 && c.writesBack a.1.metric b) ||
      !c.failsDuring a.2 .storeMetric then c.store.metricSettings a.1.metric else none)
  simp only [hlater, decide_true, Bool.true_and]
  generalize List.any _ _ = earlier
  cases c.cache.getSettings a.1.metric with
  | some s => simp
  | none =>
      cases c.writesBack a.1.metric (reading, c.lookups + 1) with
      | false => simp
      | true => cases c.store.metricSettings a.1.metric <;> simp

variable (c) in
/-- Whether a reading that is stored now is kept. -/
def keepsNow? (reading : Reading) : Option KeptReading :=
  if c.failsDuring (c.lookups + 1) .cacheSet then none
  else (c.foundSettings (c.lookups + 1) reading.metric).map fun settings =>
    ⟨reading, c.lookups + 1, settings⟩

theorem LooksUp.kept_cons (h : c.LooksUp reading c') (readings : List Reading) :
    c.kept (reading :: readings) = (c.keepsNow? reading).toList ++ c'.kept readings := by
  have hfirst : c.keeps? (c.attempts (reading :: readings)) (reading, c.lookups + 1) =
      c.keepsNow? reading := by
    unfold keeps? keepsNow?
    rw [settingsFor_first]
  have hlater : ∀ a ∈ c'.attempts readings,
      c.keeps? (c.attempts (reading :: readings)) a = c'.keeps? (c'.attempts readings) a := by
    intro a ha
    unfold keeps?
    rw [h.settingsFor_cons ha]
    rcases h.systems with ⟨_, _, _, rfl⟩
    rfl
  unfold kept
  rw [← List.filterMap_congr hlater]
  generalize c.keeps? (c.attempts (reading :: readings)) = keeps at hfirst
  rw [h.attempts_cons, List.filterMap_cons, hfirst]
  cases c.keepsNow? reading <;> rfl

end Collaborators

/-!
## Storing readings
-/

namespace Resolver

variable (now : Instant) (history : Bool) (c : Collaborators)

structure Remains (attempts : List (Reading × Nat)) (kept : List KeptReading) (c' : Collaborators) :
    Prop where
  systems : ∃ cache history handed,
    c' = { c with cache, history, handed, lookups := c.lookups + attempts.length }
  follows : c.cache.Follows now (kept.map (·.deposit now)).reverse c'.cache
  recorded : c'.history = (if history then (c.recorded kept).reverse else []) ++ c.history
  handed : c'.handed = (if history then (kept.map (·.reading)).reverse else []) ++ c.handed
  settings : ∀ metric, c'.cache.getSettings metric =
    (c.cache.getSettings metric).or
      (if attempts.any (c.writesBack metric) then c.store.metricSettings metric else none)

variable {now history c}

section Remains

variable {c' c'' : Collaborators} {reading : Reading}

theorem Remains.looksUp {kept : List KeptReading}
    (h : Remains now history c [(reading, c.lookups + 1)] kept c') : c.LooksUp reading c' where
  systems := h.systems
  settings := by
    intro metric
    rw [h.settings, List.any_cons, List.any_nil, Bool.or_false]

theorem remains_of_looksUp {kept : List KeptReading} (h : c.LooksUp reading c')
    (hfollows : c.cache.Follows now (kept.map (·.deposit now)).reverse c'.cache)
    (hrecorded : c'.history =
      (if history then (c.recorded kept).reverse else []) ++ c.history)
    (hhanded : c'.handed =
      (if history then (kept.map (·.reading)).reverse else []) ++ c.handed) :
    Remains now history c [(reading, c.lookups + 1)] kept c' where
  systems := h.systems
  follows := hfollows
  recorded := hrecorded
  handed := hhanded
  settings := by
    intro metric
    rw [h.settings, List.any_cons, List.any_nil, Bool.or_false]

theorem remains_of_nothing (h : c.LooksUp reading c') (hfollows : c.cache.Follows now [] c'.cache)
    (hhistory : c'.history = c.history ∧ c'.handed = c.handed) :
    Remains now history c [(reading, c.lookups + 1)] [] c' := by
  refine remains_of_looksUp h hfollows ?_ ?_
  · rw [hhistory.1]
    cases history <;> rfl
  · rw [hhistory.2]
    cases history <;> rfl

theorem remains_refl (now : Instant) (history : Bool) (c : Collaborators) :
    Remains now history c [] [] c where
  systems := ⟨c.cache, c.history, c.handed, rfl⟩
  follows := c.cache.follows_refl now
  recorded := by cases history <;> rfl
  handed := by cases history <;> rfl
  settings := fun _ => Option.or_none.symm

theorem Remains.trans {attempts attempts' : List (Reading × Nat)} {kept kept' : List KeptReading}
    (h : Remains now history c attempts kept c') (h' : Remains now history c' attempts' kept' c'') :
    Remains now history c (attempts ++ attempts') (kept ++ kept') c'' where
  systems := by
    rcases h.systems with ⟨cache, _, _, rfl⟩
    rcases h'.systems with ⟨cache', history', handed', rfl⟩
    exact ⟨cache', history', handed', by rw [List.length_append, Nat.add_assoc]⟩
  follows := by
    rw [List.map_append, List.reverse_append]
    exact h.follows.trans h'.follows
  recorded := by
    have hsame : c'.recorded kept' = c.recorded kept' := by
      rcases h.systems with ⟨_, _, _, rfl⟩
      rfl
    have hboth : c.recorded (kept ++ kept') = c.recorded kept ++ c.recorded kept' := by
      unfold Collaborators.recorded
      rw [List.filter_append, List.map_append]
    rw [h'.recorded, h.recorded, hsame, hboth]
    cases history <;> simp
  handed := by
    rw [h'.handed, h.handed, List.map_append]
    cases history <;> simp
  settings := by
    intro metric
    have hback : c'.writesBack = c.writesBack := by
      rcases h.systems with ⟨_, _, _, rfl⟩
      rfl
    have hstore : c'.store = c.store := by
      rcases h.systems with ⟨_, _, _, rfl⟩
      rfl
    rw [h'.settings, h.settings, hback, hstore, List.any_append]
    cases attempts.any (c.writesBack metric) with
    | false => rw [if_neg Bool.false_ne_true, Option.or_none, Bool.false_or]
    | true =>
        cases c.cache.getSettings metric with
        | some s => simp
        | none => cases c.store.metricSettings metric <;> simp

end Remains

theorem recorded_singleton (c : Collaborators) (k : KeptReading) :
    c.recorded [k] = if c.failsDuring k.lookup .history then [] else [k.reading] := by
  unfold Collaborators.recorded
  cases hfails : c.failsDuring k.lookup .history <;> simp [hfails]

variable (history) in
theorem remains_written {c' : Collaborators} {reading : Reading} {settings : MetricSettings}
    {values : Std.ExtTreeMap MetricId CachedValue} (hlooked : c.LooksUp reading c')
    (hhistory : c'.history = c.history ∧ c'.handed = c.handed)
    (hvalues : c'.cache.values = c.cache.values)
    (hset : c'.cache.set now reading.metric (Wire.encode reading) settings.cacheFor =
      ({ c'.cache with values }, true)) :
    let written : Collaborators := { c' with cache := { c'.cache with values } }
    Remains now history c [(reading, c.lookups + 1)] [⟨reading, c.lookups + 1, settings⟩]
      (if history then (written.writeHistory reading).1 else written) := by
  intro written
  have hfollows : c.cache.Follows now
      [KeptReading.deposit ⟨reading, c.lookups + 1, settings⟩ now] written.cache :=
    (Cache.follows_of_values hvalues now).trans (Cache.follows_set hset)
  have hwritten : c.LooksUp reading written := hlooked.store
  cases history with
  | false => exact remains_of_looksUp hwritten hfollows hhistory.1 hhistory.2
  | true =>
      have hfails := hwritten.fails .history
      rw [if_pos rfl, Collaborators.writeHistory_fst, hfails]
      refine remains_of_looksUp hwritten.store hfollows ?_ ?_
      · rw [if_pos rfl, recorded_singleton]
        show (if _ then c'.history else reading :: c'.history) = _
        rw [hhistory.1]
        cases c.failsDuring (c.lookups + 1) .history <;> rfl
      · show reading :: c'.handed = _
        rw [hhistory.2]
        rfl

variable (now history c)

theorem remains_storeReading (reading : Reading)
    (hcountable : ∀ k ∈ c.keepsNow? reading, (now.plus k.settings.cacheFor).countable = true) :
    (storeReading c now history reading).2 = some (c.keepsNow? reading).isSome ∧
      Remains now history c [(reading, c.lookups + 1)] (c.keepsNow? reading).toList
        (storeReading c now history reading).1 := by
  have hlooked := c.looksUp_metricSettings reading
  have hvalues := c.values_metricSettings reading.metric
  have hhistory := c.history_metricSettings reading.metric
  have hfound := c.metricSettings_eq_ok_iff reading.metric
  unfold Collaborators.keepsNow? at hcountable ⊢
  unfold storeReading
  cases hlookup : c.metricSettings reading.metric with
  | mk c' result =>
      rw [hlookup] at hlooked hvalues hhistory hfound
      have hfollows := Cache.follows_of_values hvalues now
      cases result with
      | error e =>
          have hnone : c.foundSettings (c.lookups + 1) reading.metric = none := by
            apply Option.eq_none_iff_forall_ne_some.mpr
            intro s hs
            cases (hfound s).mpr hs
          rw [hnone, Option.map_none, ite_self]
          exact ⟨rfl, remains_of_nothing hlooked hfollows hhistory⟩
      | ok settings =>
          have hset := hlooked.fails .cacheSet
          rw [(hfound settings).mp rfl, Option.map_some] at hcountable ⊢
          cases hfails : c.failsDuring (c.lookups + 1) .cacheSet with
          | true =>
              rw [hfails] at hset
              have hrefused : c'.cacheValue now reading.metric (Wire.encode reading)
                  settings.cacheFor = (c', .failed Call.cacheSet.failure) := if_pos hset
              dsimp only
              rw [hrefused]
              exact ⟨rfl, remains_of_nothing hlooked hfollows hhistory⟩
          | false =>
              rw [hfails] at hset hcountable
              have hcacheable : (now.plus settings.cacheFor).countable = true := hcountable _ rfl
              obtain ⟨values, hwritten⟩ : ∃ values, c'.cache.set now reading.metric
                  (Wire.encode reading) settings.cacheFor = ({ c'.cache with values }, true) :=
                ⟨_, Cache.set_eq hcacheable c'.cache reading.metric (Wire.encode reading)⟩
              have hstored : c'.cacheValue now reading.metric (Wire.encode reading)
                  settings.cacheFor =
                    ({ c' with cache := { c'.cache with values } }, .stored) := by
                unfold Collaborators.cacheValue
                rw [hset, if_neg Bool.false_ne_true, hwritten]
              have hremains := remains_written history hlooked hhistory hvalues hwritten
              dsimp only
              rw [hstored]
              cases history with
              | false => exact ⟨rfl, hremains⟩
              | true => exact ⟨rfl, hremains⟩

theorem remains_storeReadings (readings : List Reading)
    (hcountable : ∀ k ∈ c.kept readings, (now.plus k.settings.cacheFor).countable = true) :
    (storeReadings c now history readings).2 = some (c.kept readings).length ∧
      Remains now history c (c.attempts readings) (c.kept readings)
        (storeReadings c now history readings).1 := by
  induction readings generalizing c with
  | nil => exact ⟨rfl, remains_refl now history c⟩
  | cons reading readings ih =>
      have hcacheable : ∀ k ∈ c.keepsNow? reading,
          (now.plus k.settings.cacheFor).countable = true := by
        intro k hk
        apply hcountable
        rw [(c.looksUp_metricSettings reading).kept_cons]
        exact List.mem_append_left _ (Option.mem_toList.mpr hk)
      obtain ⟨hstored, hfirst⟩ := remains_storeReading now history c reading hcacheable
      unfold storeReadings
      cases hstore : storeReading c now history reading with
      | mk c' stored =>
          rw [hstore] at hstored hfirst
          cases hstored
          have hkept := hfirst.looksUp.kept_cons readings
          have hattempts := hfirst.looksUp.attempts_cons readings
          obtain ⟨hcount, hrest⟩ := ih c' fun k hk => hcountable k (by
            rw [hkept]
            exact List.mem_append_right _ hk)
          rw [hkept, hattempts]
          refine ⟨?_, hfirst.trans hrest⟩
          dsimp only
          rw [hcount, List.length_append, Nat.add_comm]
          cases c.keepsNow? reading <;> rfl

/-- The task does not survive a reading whose value would last beyond the end of the clock. -/
theorem remains_storeReading_of_over {reading : Reading} {k : KeptReading}
    (hkept : c.keepsNow? reading = some k)
    (hover : (now.plus k.settings.cacheFor).countable = false) :
    (storeReading c now history reading).2 = none ∧
      Remains now history c [(reading, c.lookups + 1)] []
        (storeReading c now history reading).1 := by
  have hlooked := c.looksUp_metricSettings reading
  have hvalues := c.values_metricSettings reading.metric
  have hhistory := c.history_metricSettings reading.metric
  unfold Collaborators.keepsNow? at hkept
  split at hkept
  next => cases hkept
  next hset =>
    rcases Option.map_eq_some_iff.mp hkept with ⟨settings, hfound, rfl⟩
    have hsettings := (c.metricSettings_eq_ok_iff reading.metric settings).mpr hfound
    unfold storeReading
    cases hlookup : c.metricSettings reading.metric with
    | mk c' result =>
        rw [hlookup] at hlooked hvalues hhistory hsettings
        cases hsettings
        have hfatal : c'.cacheValue now reading.metric (Wire.encode reading) settings.cacheFor =
            ({ c' with cache := c'.cache.sweep now }, .fatal) := by
          unfold Collaborators.cacheValue
          rw [hlooked.fails .cacheSet, if_neg hset, Cache.set_eq_sweep hover]
        dsimp only
        rw [hfatal]
        have hswept : c'.cache.Follows now [] (c'.cache.sweep now) :=
          fun _ other hle => c'.cache.shown_sweep hle other
        have hfollows := (Cache.follows_of_values hvalues now).trans hswept
        exact ⟨rfl, remains_of_nothing hlooked.store hfollows hhistory⟩

/-- A batch ends at the first reading whose value would last beyond the end of the clock.  The
readings before it are stored. -/
theorem remains_storeReadings_of_over (readings : List Reading)
    (hover : ∃ k ∈ c.kept readings, (now.plus k.settings.cacheFor).countable = false) :
    (storeReadings c now history readings).2 = none ∧
      ∃ before reading after k, readings = before ++ reading :: after ∧
        c.kept (before ++ [reading]) = c.kept before ++ [k] ∧
        (now.plus k.settings.cacheFor).countable = false ∧
        (∀ k' ∈ c.kept before, (now.plus k'.settings.cacheFor).countable = true) ∧
        Remains now history c (c.attempts (before ++ [reading])) (c.kept before)
          (storeReadings c now history readings).1 := by
  induction readings generalizing c with
  | nil =>
      rcases hover with ⟨k, hk, -⟩
      cases hk
  | cons reading readings ih =>
      unfold storeReadings
      by_cases hfirst : ∃ k, c.keepsNow? reading = some k ∧
          (now.plus k.settings.cacheFor).countable = false
      case pos =>
        rcases hfirst with ⟨k, hk, hover⟩
        obtain ⟨hfatal, hremains⟩ := remains_storeReading_of_over now history c hk hover
        cases hstore : storeReading c now history reading with
        | mk c' stored =>
            rw [hstore] at hfatal hremains
            cases hfatal
            have hnobody : ∀ k' ∈ c.kept [], (now.plus k'.settings.cacheFor).countable = true :=
              fun k' hk' => absurd hk' List.not_mem_nil
            refine ⟨rfl, [], reading, readings, k, rfl, ?_, hover, hnobody, hremains⟩
            rw [List.nil_append, (c.looksUp_metricSettings reading).kept_cons, hk]
            rfl
      case neg =>
        have hcacheable : ∀ k ∈ c.keepsNow? reading,
            (now.plus k.settings.cacheFor).countable = true := by
          intro k hk
          by_contra hover
          exact hfirst ⟨k, hk, Bool.eq_false_iff.mpr hover⟩
        obtain ⟨hstored, hremains⟩ := remains_storeReading now history c reading hcacheable
        cases hstore : storeReading c now history reading with
        | mk c' stored =>
            rw [hstore] at hstored hremains
            cases hstored
            have hkept := hremains.looksUp.kept_cons
            have hattempts := hremains.looksUp.attempts_cons
            have hlater : ∃ k ∈ c'.kept readings,
                (now.plus k.settings.cacheFor).countable = false := by
              rcases hover with ⟨k, hk, hover⟩
              rw [hkept, List.mem_append, Option.mem_toList] at hk
              exact ⟨k, hk.resolve_left fun hk => hfirst ⟨k, hk, hover⟩, hover⟩
            obtain ⟨hnone, before, x, after, k, rfl, hbefore, hk, hall, hrest⟩ := ih c' hlater
            dsimp only
            rw [hnone]
            refine ⟨rfl, reading :: before, x, after, k, rfl, ?_, hk, ?_, ?_⟩
            · rw [List.cons_append, hkept, hkept, hbefore, List.append_assoc]
            · intro k' hk'
              rw [hkept, List.mem_append, Option.mem_toList] at hk'
              exact hk'.elim (hcacheable k') (hall k')
            · rw [List.cons_append, hattempts, hkept]
              exact hremains.trans hrest

/-!
## Replies to polls
-/

/-- What a batch leaves behind, as it is seen from outside: those readings are kept, in their order,
whose own lookup finds settings and whose own write succeeds, the last kept reading of a metric is
found as long as its settings say, lookups of metrics without a kept reading give what they gave
before, and the kept readings are handed to the history once each and in their order, which then has
all of them but those whose call of it fails. -/
structure Batched (readings : List Reading) (c' : Collaborators) : Prop where
  stored : (c.kept readings).map (·.attempt) = (c.attempts readings).filter fun a =>
    (c.settingsFor (c.attempts readings) a).isSome && !c.failsDuring a.2 .cacheSet
  found : ∀ k ∈ c.kept readings,
    c.settingsFor (c.attempts readings) k.attempt = some k.settings
  systems : ∃ cache history handed,
    c' = { c with cache, history, handed, lookups := c.lookups + readings.length }
  last : ∀ {earlier k later}, c.kept readings = earlier ++ k :: later →
    (∀ k' ∈ later, k'.reading.metric ≠ k.reading.metric) →
      ∀ t : Instant, now.nanos ≤ t.nanos → c'.cache.shown t k.reading.metric =
        if t.nanos < now.nanos + k.settings.cacheFor.toNanos then some (Wire.encode k.reading)
        else none
  others : ∀ metric, (∀ k ∈ c.kept readings, k.reading.metric ≠ metric) →
    ∀ t : Instant, now.nanos ≤ t.nanos → c'.cache.shown t metric = c.cache.shown t metric
  recorded : c'.history =
    (if history then (c.recorded (c.kept readings)).reverse else []) ++ c.history
  handed : c'.handed =
    (if history then ((c.kept readings).map (·.reading)).reverse else []) ++ c.handed
  settings : ∀ metric, c'.cache.getSettings metric =
    (c.cache.getSettings metric).or
      (if (c.attempts readings).any (c.writesBack metric) then c.store.metricSettings metric
        else none)

variable {now history c} in
theorem Remains.batched {readings : List Reading} {c' : Collaborators}
    (h : Remains now history c (c.attempts readings) (c.kept readings) c') :
    Batched now history c readings c' where
  stored := c.attempt_kept readings
  found := fun _ => c.settingsFor_of_mem_kept
  systems := by
    rcases h.systems with ⟨cache, history', handed, heq⟩
    rw [heq]
    exact ⟨cache, history', handed, by rw [Collaborators.attempts, List.length_zipIdx]⟩
  last := by
    intro earlier k later hkept hlater t hle
    have hlast : Deposit.last? ((c.kept readings).map (·.deposit now)).reverse k.reading.metric =
        some (k.deposit now) := by
      refine Deposit.last?_eq_some_iff.mpr ⟨rfl, (later.map (·.deposit now)).reverse,
        (earlier.map (·.deposit now)).reverse, ?_, ?_⟩
      · rw [hkept]
        simp
      · intro d hd
        rcases List.mem_map.mp (List.mem_reverse.mp hd) with ⟨k', hk', rfl⟩
        exact hlater k' hk'
    rw [h.follows t k.reading.metric hle, hlast]
    rfl
  others := by
    intro metric hothers t hle
    have hlast : Deposit.last? ((c.kept readings).map (·.deposit now)).reverse metric = none := by
      unfold Deposit.last?
      rw [List.find?_eq_none]
      intro d hd
      rcases List.mem_map.mp (List.mem_reverse.mp hd) with ⟨k, hk, rfl⟩
      exact fun heq => hothers k hk (of_decide_eq_true heq)
    rw [h.follows t metric hle, hlast]
    rfl
  recorded := h.recorded
  handed := h.handed
  settings := h.settings

/-- A reply to a poll that reports success and holds a batch stores the readings whose own lookup
finds settings and whose own write succeeds, whatever becomes of the others, and gives their number;
a lookup is helped only by what earlier ones have written back.  A batch with a reading whose value
would last beyond the end of the clock ends at the first such reading, and only those before it are
stored; the task that handles the reply does not survive it.  A reply that reports no success or
holds no batch stores nothing. -/
theorem batches_stored (r : Resolver) (reply : Envelope) :
    (∀ batch : ReadingBatch, reply.status.isOk = true → reply.unpack = .ok batch →
      (∀ k ∈ r.collaborators.kept batch.readings,
        (r.now.plus k.settings.cacheFor).countable = true) →
      ∃ collaborators, r.handlePoll history reply =
          ({ r with collaborators }, some (r.collaborators.kept batch.readings).length) ∧
        Batched r.now history r.collaborators batch.readings collaborators) ∧
    (∀ batch : ReadingBatch, reply.status.isOk = true → reply.unpack = .ok batch →
      (∃ k ∈ r.collaborators.kept batch.readings,
        (r.now.plus k.settings.cacheFor).countable = false) →
      (r.handlePoll history reply).2 = none ∧
        ∃ before reading after k, batch.readings = before ++ reading :: after ∧
          r.collaborators.kept (before ++ [reading]) = r.collaborators.kept before ++ [k] ∧
          (r.now.plus k.settings.cacheFor).countable = false ∧
          (∀ k' ∈ r.collaborators.kept before,
            (r.now.plus k'.settings.cacheFor).countable = true) ∧
          Remains r.now history r.collaborators (r.collaborators.attempts (before ++ [reading]))
            (r.collaborators.kept before) (r.handlePoll history reply).1.collaborators) ∧
    ((reply.status.isOk = false ∨
        ∃ fault, (reply.unpack : Except Wire.Fault ReadingBatch) = .error fault) →
      (r.handlePoll history reply).1.collaborators = r.collaborators ∧
        (r.handlePoll history reply).2 = some 0) := by
  refine ⟨?_, ?_, ?_⟩
  · intro batch hstatus hbatch hcountable
    obtain ⟨hcount, hremains⟩ :=
      remains_storeReadings r.now history r.collaborators batch.readings hcountable
    refine ⟨(storeReadings r.collaborators r.now history batch.readings).1, ?_, hremains.batched⟩
    unfold handlePoll
    rw [hstatus, hbatch, ← hcount]
    rfl
  · intro batch hstatus hbatch hover
    have hhandled : r.handlePoll history reply =
        ({ r with collaborators := (storeReadings r.collaborators r.now history batch.readings).1 },
          (storeReadings r.collaborators r.now history batch.readings).2) := by
      unfold handlePoll
      rw [hstatus, hbatch]
      rfl
    rw [hhandled]
    exact remains_storeReadings_of_over r.now history r.collaborators batch.readings hover
  · intro hrefused
    unfold handlePoll
    rcases hrefused with hstatus | ⟨fault, hfault⟩
    · rw [hstatus]
      exact ⟨rfl, rfl⟩
    · cases reply.status.isOk with
      | false => exact ⟨rfl, rfl⟩
      | true =>
          rw [hfault]
          exact ⟨rfl, rfl⟩

def numbered (metric : MetricId) (value : Int64) : Reading :=
  ⟨7, metric, .int, some (.int value), 0⟩

/-- The store fails when the second reading is looked up, the cache does not take the third one and
the history does not take the last one. -/
def faltering : Resolver :=
  let r := unscheduled {}
  { r with
    collaborators := { r.collaborators with
      outages := fun lookup =>
        if lookup = 2 then [.storeMetric]
        else if lookup = 3 then [.cacheSet]
        else if lookup = 5 then [.history]
        else [] } }

/-- A resolver whose store lets the values of one metric last longer than the clock can count. -/
def everlasting : Resolver :=
  let r := unscheduled {}
  { r with
    collaborators := { r.collaborators with
      store := r.collaborators.store.insertMetric { temperature with metric := 41 }
        ⟨5, .ofSecs 18446744073709551615⟩ } }

/-- The second reading is kept although the store fails, because the lookup for the first one has
written the settings back; the third is not kept, and of the fourth nothing is known.  Where the
store knows the fourth one too, and lets it last for ever, the batch ends there. -/
theorem batches_stored_faltering :
    let readings := [numbered 42 1, numbered 42 2, numbered 42 3, numbered 41 4, numbered 42 5]
    let reply := Envelope.pack (⟨7, readings⟩ : ReadingBatch) .ok
    let handled := faltering.handlePoll true reply
    handled.2 = some 3 ∧
      handled.1.collaborators.handed = [numbered 42 5, numbered 42 2, numbered 42 1] ∧
      handled.1.collaborators.history = [numbered 42 2, numbered 42 1] ∧
      handled.1.collaborators.cache.shown .start 42 = some (Wire.encode (numbered 42 5)) ∧
      (everlasting.handlePoll true reply).2 = none ∧
      (faltering.handlePoll true { reply with msgType := "4" }).2 = some 0 := by
  intro readings reply handled
  have hkept : faltering.collaborators.kept readings =
      [⟨numbered 42 1, 1, ⟨5, .ofSecs 10⟩⟩, ⟨numbered 42 2, 2, ⟨5, .ofSecs 10⟩⟩] ++
        ⟨numbered 42 5, 5, ⟨5, .ofSecs 10⟩⟩ :: [] := by decide +kernel
  have hbatch : reply.unpack = .ok (⟨7, readings⟩ : ReadingBatch) := by decide +kernel
  have hcountable : ∀ k ∈ faltering.collaborators.kept readings,
      (faltering.now.plus k.settings.cacheFor).countable = true := by
    rw [hkept]
    decide +kernel
  obtain ⟨collaborators, hhandled, hbatched⟩ :=
    (batches_stored true faltering reply).1 ⟨7, readings⟩ (by decide +kernel) hbatch hcountable
  have hrefused := (batches_stored true faltering { reply with msgType := "4" }).2.2
    (Or.inl (by decide +kernel))
  have hends := (batches_stored true everlasting reply).2.1 ⟨7, readings⟩ (by decide +kernel) hbatch
    (by decide +kernel)
  have hafter : handled = _ := hhandled
  rw [hafter]
  refine ⟨?_, ?_, ?_, ?_, ?_, hrefused.2⟩
  · rw [hkept]
    rfl
  · show collaborators.handed = _
    rw [hbatched.handed, hkept]
    decide +kernel
  · show collaborators.history = _
    rw [hbatched.recorded, hkept]
    decide +kernel
  · exact hbatched.last hkept (fun _ hlater => nomatch hlater) .start (Nat.le_refl _)
  · exact hends.1

/-- A resolver whose store lets the values of one metric last no time, and those of another one ten
seconds. -/
def fleeting : Resolver :=
  let r := unscheduled {}
  { r with
    collaborators := { r.collaborators with
      store := (Store.empty.insertMetric { temperature with metric := 41 }
        ⟨5, .ofSecs 10⟩).insertMetric temperature ⟨5, .zero⟩ } }

/-- Where several readings of a metric are kept, the last of them is not always what the cache holds
afterwards: a value that lasts no time is swept out by the next write. -/
theorem last_kept_swept_out :
    ¬ ∀ (r : Resolver) (history : Bool) (reply : Envelope) (batch : ReadingBatch),
      reply.status.isOk = true → reply.unpack = .ok batch →
      ∀ earlier k later, r.collaborators.kept batch.readings = earlier ++ k :: later →
        (∃ k' ∈ earlier, k'.reading.metric = k.reading.metric) →
        (∀ k' ∈ later, k'.reading.metric ≠ k.reading.metric) →
        ∃ v, (r.handlePoll history reply).1.collaborators.cache.values[k.reading.metric]? =
          some v ∧ v.body = Wire.encode k.reading := by
  intro hheld
  let readings := [numbered 42 1, numbered 42 2, numbered 41 3]
  have hkept : fleeting.collaborators.kept readings =
      [⟨numbered 42 1, 1, ⟨5, .zero⟩⟩] ++
        ⟨numbered 42 2, 2, ⟨5, .zero⟩⟩ :: [⟨numbered 41 3, 3, ⟨5, .ofSecs 10⟩⟩] := by
    decide +kernel
  obtain ⟨v, hv, -⟩ := hheld fleeting false (Envelope.pack (⟨7, readings⟩ : ReadingBatch) .ok)
    ⟨7, readings⟩ (by decide +kernel) (by decide +kernel) _ _ _ hkept
    (by decide +kernel) (by decide +kernel)
  have hswept : (fleeting.handlePoll false
      (Envelope.pack (⟨7, readings⟩ : ReadingBatch) .ok)).1.collaborators.cache.values[
        (42 : MetricId)]? = none := by decide +kernel
  cases hv.symm.trans hswept

end Resolver
end MetricGateway
