import MetricGateway.Proofs.Maps
import MetricGateway.Replies

/-!
# What lookups in the cache give

A lookup gives the body of a value that is there and has not expired.  Dropping and sweeping out
what has expired changes no later lookup.  A value that is stored is what lookups of its metric give
until it expires, and other metrics are left alone.  So the lookups after some values were stored
follow from the lookups before and from the last value that was stored for each metric.
-/

namespace MetricGateway

open Wire (Bytes)

/-!
## Lookups
-/

theorem CachedValue.live_eq_false {v : CachedValue} {now t : Instant} (hle : now.nanos ≤ t.nanos)
    (h : v.live now = false) : v.live t = false := by
  unfold live at h ⊢
  have hexpired := of_decide_eq_false h
  exact decide_eq_false (by omega)

namespace Cache

/-- What a lookup of a metric at an instant gives. -/
def shown (c : Cache) (t : Instant) (metric : MetricId) : Option Bytes := (c.get t metric).2

theorem shown_eq (c : Cache) (t : Instant) (metric : MetricId) :
    c.shown t metric =
      (c.values[metric]?).bind fun v => if v.live t then some v.body else none := by
  unfold shown get
  cases c.values[metric]? with
  | none => rfl
  | some v =>
      dsimp only [Option.bind]
      split <;> rfl

theorem shown_congr {c c' : Cache} (h : c'.values = c.values) (t : Instant) (metric : MetricId) :
    c'.shown t metric = c.shown t metric := by
  rw [shown_eq, shown_eq, h]

theorem shown_get (c : Cache) {now t : Instant} (hle : now.nanos ≤ t.nanos)
    (metric other : MetricId) : (c.get now metric).1.shown t other = c.shown t other := by
  unfold get
  cases hvalue : c.values[metric]? with
  | none => rfl
  | some v =>
      dsimp only
      cases hlive : v.live now with
      | true => rfl
      | false =>
          rw [if_neg Bool.false_ne_true, shown_eq, shown_eq]
          dsimp only
          rw [lookup_erase]
          split
          next heq =>
            rw [← heq, hvalue]
            simp [CachedValue.live_eq_false hle hlive]
          next => rfl

theorem shown_sweep (c : Cache) {now t : Instant} (hle : now.nanos ≤ t.nanos)
    (metric : MetricId) : (c.sweep now).shown t metric = c.shown t metric := by
  rw [shown_eq, shown_eq]
  unfold sweep
  dsimp only
  rw [Std.ExtTreeMap.getElem?_filter]
  cases c.values[metric]? with
  | none => rfl
  | some v =>
      cases hlive : v.live now with
      | true => simp [Option.filter, hlive]
      | false => simp [Option.filter, hlive, CachedValue.live_eq_false hle hlive]

end Cache

/-!
## Deposits
-/

/-- A value that was stored: for which metric, when and for how long. -/
structure Deposit where
  metric : MetricId
  body : Bytes
  time : Instant
  cacheFor : Duration
deriving DecidableEq

namespace Deposit

/-- What a lookup gives if the deposit is the last one for its metric. -/
def shown (d : Deposit) (t : Instant) : Option Bytes :=
  if t.nanos < d.time.nanos + d.cacheFor.toNanos then some d.body else none

def last? (ds : List Deposit) (metric : MetricId) : Option Deposit :=
  ds.find? fun d => d.metric = metric

theorem last?_append (new old : List Deposit) (metric : MetricId) :
    last? (new ++ old) metric = (last? new metric).or (last? old metric) :=
  List.find?_append

theorem last?_eq_some_iff {ds : List Deposit} {metric : MetricId} {d : Deposit} :
    last? ds metric = some d ↔
      d.metric = metric ∧ ∃ later earlier, ds = later ++ d :: earlier ∧
        ∀ d' ∈ later, d'.metric ≠ metric := by
  unfold last?
  rw [List.find?_eq_some_iff_append]
  simp

theorem mem_of_last? {ds : List Deposit} {metric : MetricId} {d : Deposit}
    (h : last? ds metric = some d) : d ∈ ds :=
  List.mem_of_find?_eq_some h

end Deposit

/-- After some deposits, each lookup from now on gives what the last of them for its metric gives,
and what it would have given before if there was none. -/
def Cache.Follows (before : Cache) (now : Instant) (deposits : List Deposit) (after : Cache) :
    Prop :=
  ∀ t metric, now.nanos ≤ t.nanos → after.shown t metric =
    ((Deposit.last? deposits metric).map (·.shown t)).getD (before.shown t metric)

namespace Cache

theorem follows_of_values {c c' : Cache} (h : c'.values = c.values) (now : Instant) :
    c.Follows now [] c' :=
  fun t metric _ => shown_congr h t metric

theorem follows_refl (c : Cache) (now : Instant) : c.Follows now [] c := fun _ _ _ => rfl

theorem Follows.trans {c c' c'' : Cache} {now : Instant} {old new : List Deposit}
    (h : c.Follows now old c') (h' : c'.Follows now new c'') : c.Follows now (new ++ old) c'' := by
  intro t metric hle
  rw [h' t metric hle, h t metric hle, Deposit.last?_append]
  cases Deposit.last? new metric with
  | none => rfl
  | some d => rfl

theorem follows_set {c c' : Cache} {now : Instant} {metric : MetricId} {body : Bytes}
    {ttl : Duration} (h : c.set now metric body ttl = (c', true)) :
    c.Follows now [⟨metric, body, now, ttl⟩] c' := by
  intro t other hle
  unfold set at h
  dsimp only at h
  split at h
  next expiresAt hlater =>
    cases h
    have hexpires : expiresAt = now.plus ttl := by
      unfold Instant.later? at hlater
      split at hlater <;> cases hlater
      rfl
    have hswept := c.shown_sweep hle other
    rw [shown_eq] at hswept ⊢
    dsimp only
    rw [lookup_insert]
    split
    next heq =>
      subst heq hexpires
      simp [Deposit.last?, Deposit.shown, CachedValue.live, Instant.plus, Nat.add_comm]
    next hne =>
      rw [hswept]
      simp [Deposit.last?, hne]
  next => cases h

section Set

variable {now : Instant} {ttl : Duration}

theorem set_eq (h : (now.plus ttl).countable = true) (c : Cache) (metric : MetricId)
    (body : Bytes) :
    c.set now metric body ttl =
      ({ c with
          values := (c.sweep now).values.insert metric ⟨body, now.plus ttl⟩ }, true) := by
  unfold set Instant.later?
  rw [if_pos h]
  rfl

theorem set_eq_sweep (h : (now.plus ttl).countable = false) (c : Cache) (metric : MetricId)
    (body : Bytes) : c.set now metric body ttl = (c.sweep now, false) := by
  unfold set Instant.later?
  rw [h, if_neg Bool.false_ne_true]

end Set

end Cache

/-!
## Calls of the cache
-/

namespace Collaborators

theorem follows_cachedValue (c : Collaborators) (now : Instant) (metric : MetricId) :
    c.cache.Follows now [] (c.cachedValue now metric).1.cache := by
  unfold cachedValue
  split
  · exact c.cache.follows_refl now
  · exact fun t other hle => c.cache.shown_get hle metric other

def deposits (c : Collaborators) (now : Instant) (metric : MetricId) (body : Bytes)
    (ttl : Duration) : List Deposit :=
  match (c.cacheValue now metric body ttl).2 with
  | .stored => [⟨metric, body, now, ttl⟩]
  | _ => []

theorem mem_deposits {c : Collaborators} {now : Instant} {metric : MetricId} {body : Bytes}
    {ttl : Duration} {d : Deposit} (h : d ∈ c.deposits now metric body ttl) :
    d = ⟨metric, body, now, ttl⟩ := by
  unfold deposits at h
  split at h
  · exact List.mem_singleton.mp h
  · cases h

theorem follows_cacheValue (c : Collaborators) (now : Instant) (metric : MetricId) (body : Bytes)
    (ttl : Duration) :
    c.cache.Follows now (c.deposits now metric body ttl)
      (c.cacheValue now metric body ttl).1.cache := by
  unfold deposits
  by_cases hfails : c.fails .cacheSet = true
  · have hvalue : c.cacheValue now metric body ttl = (c, .failed Call.cacheSet.failure) :=
      if_pos hfails
    rw [hvalue]
    exact c.cache.follows_refl now
  · cases hset : c.cache.set now metric body ttl with
    | mk cache stored =>
        cases stored with
        | true =>
            have hvalue : c.cacheValue now metric body ttl = ({ c with cache }, .stored) := by
              unfold cacheValue
              rw [if_neg hfails, hset]
            rw [hvalue]
            exact Cache.follows_set hset
        | false =>
            have hvalue : c.cacheValue now metric body ttl = ({ c with cache }, .fatal) := by
              unfold cacheValue
              rw [if_neg hfails, hset]
            rw [hvalue]
            unfold Cache.set at hset
            dsimp only at hset
            split at hset <;> cases hset
            exact fun t other hle => c.cache.shown_sweep hle other

theorem values_metricSettings (c : Collaborators) (metric : MetricId) :
    (c.metricSettings metric).1.cache.values = c.cache.values := by
  unfold metricSettings
  dsimp only
  split
  next => rfl
  next => rfl
  next =>
    split
    next => rfl
    next => rfl
    next =>
      unfold cacheSettings
      split <;> rfl

theorem values_forgetSettings (c : Collaborators) (metric : MetricId) :
    (c.forgetSettings metric).1.cache.values = c.cache.values := by
  unfold forgetSettings dropSettings
  cases c.fails .cacheSettingsDelete with
  | true => rfl
  | false => rfl

theorem writeHistory_fst (c : Collaborators) (reading : Reading) :
    (c.writeHistory reading).1 =
      { c with
        history := if c.fails .history then c.history else reading :: c.history
        handed := reading :: c.handed } := by
  unfold writeHistory
  show (if c.fails .history then _ else _ : Collaborators × Except String Unit).1 = _
  cases c.fails .history <;> rfl

theorem cache_writeHistory (c : Collaborators) (r : Reading) :
    (c.writeHistory r).1.cache = c.cache := by
  rw [writeHistory_fst]

end Collaborators

/-!
## Readings of a batch
-/

namespace Resolver

variable (now : Instant) (history : Bool)

/-- The deposit that storing a reading makes: its time is what the settings of its metric say. -/
def readingDeposits (c : Collaborators) (reading : Reading) : List Deposit :=
  match c.metricSettings reading.metric with
  | (_, .error _) => []
  | (c, .ok settings) => c.deposits now reading.metric (Wire.encode reading) settings.cacheFor

/-- The deposits that storing readings one after the other makes, newest first. -/
def batchDeposits (c : Collaborators) : List Reading → List Deposit
  | [] => []
  | reading :: readings =>
      let own := readingDeposits now c reading
      match storeReading c now history reading with
      | (_, none) => own
      | (c, some _) => batchDeposits c readings ++ own

theorem follows_storeReading (c : Collaborators) (reading : Reading) :
    c.cache.Follows now (readingDeposits now c reading)
      (storeReading c now history reading).1.cache := by
  unfold readingDeposits storeReading
  have hlooked := Cache.follows_of_values (c.values_metricSettings reading.metric) now
  cases hsettings : c.metricSettings reading.metric with
  | mk c' result =>
      rw [hsettings] at hlooked
      cases result with
      | error e => exact hlooked
      | ok settings =>
          have hstored := hlooked.trans
            (c'.follows_cacheValue now reading.metric (Wire.encode reading) settings.cacheFor)
          rw [List.append_nil] at hstored
          dsimp only
          cases hattempt : c'.cacheValue now reading.metric (Wire.encode reading)
              settings.cacheFor with
          | mk c'' outcome =>
              rw [hattempt] at hstored
              cases outcome with
              | failed reason => exact hstored
              | fatal => exact hstored
              | stored =>
                  dsimp only
                  split
                  · rw [Collaborators.cache_writeHistory]
                    exact hstored
                  · exact hstored

theorem follows_storeReadings (c : Collaborators) (readings : List Reading) :
    c.cache.Follows now (batchDeposits now history c readings)
      (storeReadings c now history readings).1.cache := by
  induction readings generalizing c with
  | nil => exact c.cache.follows_refl now
  | cons reading readings ih =>
      have hfirst := follows_storeReading now history c reading
      unfold batchDeposits storeReadings
      dsimp only
      cases hstore : storeReading c now history reading with
      | mk c' outcome =>
          rw [hstore] at hfirst
          cases outcome with
          | none => exact hfirst
          | some stored => exact hfirst.trans (ih c')

/-- Every deposit that a batch makes is the encoding of one of its readings, stored when the
readings before it were, for as long as the settings that were then looked up for its metric say. -/
theorem mem_batchDeposits {c : Collaborators} {readings : List Reading} {d : Deposit}
    (h : d ∈ batchDeposits now history c readings) :
    ∃ earlier reading later settings, readings = earlier ++ reading :: later ∧
      ((storeReadings c now history earlier).1.metricSettings reading.metric).2 = .ok settings ∧
      d = ⟨reading.metric, Wire.encode reading, now, settings.cacheFor⟩ := by
  induction readings generalizing c with
  | nil => cases h
  | cons reading readings ih =>
      have hown : d ∈ readingDeposits now c reading →
          ∃ settings, (c.metricSettings reading.metric).2 = .ok settings ∧
            d = ⟨reading.metric, Wire.encode reading, now, settings.cacheFor⟩ := by
        intro hd
        unfold readingDeposits at hd
        split at hd
        next => cases hd
        next hsettings => exact ⟨_, congrArg Prod.snd hsettings, Collaborators.mem_deposits hd⟩
      unfold batchDeposits at h
      dsimp only at h
      split at h
      next =>
        rcases hown h with ⟨settings, hsettings, hd⟩
        exact ⟨[], reading, readings, settings, rfl, hsettings, hd⟩
      next c' stored hstore =>
        rcases List.mem_append.mp h with hlater | hd
        · rcases ih hlater with ⟨earlier, other, later, settings, hreadings, hsettings, hd⟩
          refine ⟨reading :: earlier, other, later, settings, ?_, ?_, hd⟩
          · rw [hreadings, List.cons_append]
          · unfold storeReadings
            rw [hstore]
            exact hsettings
        · rcases hown hd with ⟨settings, hsettings, hd⟩
          exact ⟨[], reading, readings, settings, rfl, hsettings, hd⟩

def pollDeposits (r : Resolver) (reply : Envelope) : List Deposit :=
  if !reply.status.isOk then []
  else
    match (reply.unpack : Except Wire.Fault ReadingBatch) with
    | .error _ => []
    | .ok batch => batchDeposits r.now history r.collaborators batch.readings

theorem follows_handlePoll (r : Resolver) (reply : Envelope) :
    r.collaborators.cache.Follows r.now (pollDeposits history r reply)
      (r.handlePoll history reply).1.collaborators.cache := by
  unfold pollDeposits handlePoll
  split
  · exact r.collaborators.cache.follows_refl r.now
  · cases (reply.unpack : Except Wire.Fault ReadingBatch) with
    | error fault => exact r.collaborators.cache.follows_refl r.now
    | ok batch => exact follows_storeReadings r.now history r.collaborators batch.readings

/-- A deposit that a reply to a poll makes is the encoding of a reading of its batch. -/
theorem mem_pollDeposits {r : Resolver} {reply : Envelope} {d : Deposit}
    (h : d ∈ pollDeposits history r reply) :
    reply.status.isOk = true ∧ ∃ batch : ReadingBatch, reply.unpack = .ok batch ∧
      ∃ earlier reading later settings, batch.readings = earlier ++ reading :: later ∧
        ((storeReadings r.collaborators r.now history earlier).1.metricSettings
          reading.metric).2 = .ok settings ∧
        d = ⟨reading.metric, Wire.encode reading, r.now, settings.cacheFor⟩ := by
  unfold pollDeposits at h
  split at h
  next => cases h
  next hstatus =>
    rw [Bool.not_eq_true', Bool.not_eq_false] at hstatus
    split at h
    next => cases h
    next batch hbatch => exact ⟨hstatus, batch, hbatch, mem_batchDeposits r.now history h⟩

end Resolver
end MetricGateway
