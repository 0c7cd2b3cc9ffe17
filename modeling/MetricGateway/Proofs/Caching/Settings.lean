import MetricGateway.Proofs.Caching.Lookups
import MetricGateway.Proofs.Fetching.Removals
import MetricGateway.Proofs.Scheduling.Schedulable

/-!
# The settings that lookups give

The settings of a metric are looked up for requests that miss the cache, for the readings of a poll,
for every metric of the store when polling is built from it, and by whoever asks for them.  Each of
these lookups may write the settings into the cache, and one thing drops them there: an event that
says that the metric was updated or deleted.

So a lookup gives what the store had when the metric was first looked up with success since its last
event, whatever has been done to the store since then, and whatever happened to other metrics.  The
first lookup after an event gives what the store has now.
-/

namespace MetricGateway

open Pulling (Polling)

/-- What happens to the cached settings of a metric. -/
inductive SettingsNote where
  /-- They were looked up: what the store had at that time, and what the lookup gave. -/
  | lookedUp (metric : MetricId) (stored : Option MetricSettings)
      (answer : Except GatewayError MetricSettings)
  | changed (metric : MetricId)

namespace SettingsNote

/-- What the store had when a metric was first looked up with success since its last change; nothing
where it was not.  The newest note stands first. -/
def firstFound : List SettingsNote → MetricId → Option MetricSettings
  | [], _ => none
  | .changed other :: notes, metric => if other = metric then none else firstFound notes metric
  | .lookedUp other stored answer :: notes, metric =>
      (firstFound notes metric).or (if other = metric ∧ answer.isOk then stored else none)

theorem firstFound_lookedUp (notes : List SettingsNote) (other metric : MetricId)
    (stored : Option MetricSettings) (answer : Except GatewayError MetricSettings) :
    firstFound (.lookedUp other stored answer :: notes) metric =
      (firstFound notes metric).or (if other = metric ∧ answer.isOk then stored else none) := rfl

def isLookup : SettingsNote → Bool
  | .lookedUp _ _ _ => true
  | .changed _ => false

def given (metric : MetricId) : Option MetricSettings → Except GatewayError MetricSettings
  | some settings => .ok settings
  | none => .error (.notConfigured .metric metric)

/-- Every lookup gave what the first one found, and what the store had where there was none
before it. -/
def Answered (notes : List SettingsNote) : Prop :=
  ∀ later metric stored answer earlier, notes = later ++ .lookedUp metric stored answer :: earlier →
    answer = given metric ((firstFound earlier metric).or stored)

theorem answered_nil : Answered [] := by
  intro later _ _ _ _ heq
  cases later <;> cases heq

theorem Answered.cons {notes : List SettingsNote} (h : Answered notes) {note : SettingsNote}
    (hnote : ∀ metric stored answer, note = .lookedUp metric stored answer →
      answer = given metric ((firstFound notes metric).or stored)) : Answered (note :: notes) := by
  intro later metric stored answer earlier heq
  cases later with
  | nil =>
      cases heq
      exact hnote metric stored answer rfl
  | cons first later =>
      cases heq
      exact h later metric stored answer earlier rfl

theorem isOk_given (metric : MetricId) (found : Option MetricSettings) :
    (given metric found).isOk = found.isSome := by
  cases found <;> rfl

end SettingsNote

/-! ## Lookups and changes -/

namespace Collaborators

open SettingsNote

def note (c : Collaborators) (metric : MetricId) : SettingsNote :=
  .lookedUp metric (c.store.metricSettings metric) (c.metricSettings metric).2

/-- No call fails, neither now nor later. -/
structure Reliable (c : Collaborators) : Prop where
  failing : c.failing = []
  outages : c.outages = fun _ => []

/-- The systems differ at most in what has nothing to do with the settings of metrics. -/
structure SameSettings (c c' : Collaborators) : Prop where
  settings : c'.cache.settings = c.cache.settings
  failing : c'.failing = c.failing
  outages : c'.outages = c.outages
  lookups : c'.lookups = c.lookups

/-- Lookups are made and metrics are forgotten as the notes say, and else nothing happens to the
cached settings. -/
inductive Passes (c : Collaborators) : List SettingsNote → Collaborators → Prop where
  | refl : Passes c [] c
  | lookUp {notes : List SettingsNote} {c' : Collaborators} (metric : MetricId)
      (before : Passes c notes c') : Passes c (c'.note metric :: notes) (c'.metricSettings metric).1
  | forget {notes : List SettingsNote} {c' : Collaborators} (metric : MetricId)
      (before : Passes c notes c') :
      Passes c (.changed metric :: notes) (c'.forgetSettings metric).1
  | other {notes : List SettingsNote} {c' c'' : Collaborators} (before : Passes c notes c')
      (same : c'.SameSettings c'') : Passes c notes c''

variable {c c' c'' : Collaborators} {notes more : List SettingsNote} {metric : MetricId}

theorem Passes.trans (h : c.Passes notes c') (h' : c'.Passes more c'') :
    c.Passes (more ++ notes) c'' := by
  induction h' with
  | refl => exact h
  | lookUp metric _ ih => exact .lookUp metric ih
  | forget metric _ ih => exact .forget metric ih
  | other _ hsame ih => exact .other ih hsame

theorem passes_of_same (h : c.SameSettings c') : c.Passes [] c' := .other .refl h

theorem passes_lookUp (c : Collaborators) (metric : MetricId) :
    c.Passes [c.note metric] (c.metricSettings metric).1 := .lookUp metric .refl

theorem same_refl (c : Collaborators) : c.SameSettings c := ⟨rfl, rfl, rfl, rfl⟩

theorem same_cachedValue (c : Collaborators) (now : Instant) (metric : MetricId) :
    c.SameSettings (c.cachedValue now metric).1 := by
  unfold cachedValue Cache.get
  split
  · exact same_refl c
  · dsimp only
    split
    · exact same_refl c
    · split
      · exact same_refl c
      · exact ⟨rfl, rfl, rfl, rfl⟩

theorem same_cacheValue (c : Collaborators) (now : Instant) (metric : MetricId) (body : Wire.Bytes)
    (ttl : Duration) : c.SameSettings (c.cacheValue now metric body ttl).1 := by
  unfold cacheValue
  split
  · exact same_refl c
  · cases hcountable : (now.plus ttl).countable with
    | true =>
        rw [Cache.set_eq hcountable]
        exact ⟨rfl, rfl, rfl, rfl⟩
    | false =>
        rw [Cache.set_eq_sweep hcountable]
        exact ⟨rfl, rfl, rfl, rfl⟩

theorem same_writeHistory (c : Collaborators) (reading : Reading) :
    c.SameSettings (c.writeHistory reading).1 := by
  rw [writeHistory_fst]
  exact ⟨rfl, rfl, rfl, rfl⟩

/-! ### Lookups where no call fails -/

theorem Reliable.fails_eq (h : c.Reliable) (call : Call) : c.fails call = false := by
  unfold fails failsDuring
  rw [h.failing, h.outages]
  rfl

theorem Reliable.of_eq (h : c.Reliable) (hfailing : c'.failing = c.failing)
    (houtages : c'.outages = c.outages) : c'.Reliable where
  failing := hfailing.trans h.failing
  outages := houtages.trans h.outages

theorem Reliable.begin (h : c.Reliable) : c.beginLookup.Reliable := h.of_eq rfl rfl

theorem Reliable.ask_eq {α : Type} (h : c.Reliable) (call : Call) (answer : α) :
    c.ask call answer = .ok answer := by
  unfold ask
  rw [h.fails_eq]
  exact if_neg Bool.false_ne_true

theorem Reliable.cacheSettings_eq (h : c.Reliable) (metric : MetricId) (s : MetricSettings) :
    (c.cacheSettings metric s).1 = { c with cache := c.cache.setSettings metric s } := by
  unfold cacheSettings
  rw [h.fails_eq, if_neg Bool.false_ne_true]

/-- A lookup gives the cached settings, else what the store has, and keeps what it gives. -/
theorem Reliable.metricSettings_cases (h : c.Reliable) (metric : MetricId) :
    (∃ s, c.cache.getSettings metric = some s ∧
        c.metricSettings metric = (c.beginLookup, .ok s)) ∨
      c.cache.getSettings metric = none ∧
        ((∃ s, c.store.metricSettings metric = some s ∧ c.metricSettings metric =
            ({ c.beginLookup with cache := c.cache.setSettings metric s }, .ok s)) ∨
          c.store.metricSettings metric = none ∧
            c.metricSettings metric = (c.beginLookup, .error (.notConfigured .metric metric))) := by
  have hcached : c.beginLookup.cachedSettings metric = .ok (c.cache.getSettings metric) :=
    h.begin.ask_eq _ _
  have hstored : c.beginLookup.storedMetric metric = .ok (c.store.metricSettings metric) :=
    h.begin.ask_eq _ _
  unfold metricSettings
  dsimp only
  rw [hcached]
  cases c.cache.getSettings metric with
  | some s => exact Or.inl ⟨s, rfl, rfl⟩
  | none =>
      right
      dsimp only
      rw [hstored]
      cases c.store.metricSettings metric with
      | some s =>
          dsimp only
          rw [h.begin.cacheSettings_eq]
          exact ⟨rfl, Or.inl ⟨s, rfl, rfl⟩⟩
      | none => exact ⟨rfl, Or.inr ⟨rfl, rfl⟩⟩

theorem Reliable.answer_eq (h : c.Reliable) (metric : MetricId) :
    (c.metricSettings metric).2 =
      given metric ((c.cache.getSettings metric).or (c.store.metricSettings metric)) := by
  rcases h.metricSettings_cases metric with
    ⟨s, hcached, heq⟩ | ⟨hcached, ⟨s, hstored, heq⟩ | ⟨hstored, heq⟩⟩
  · rw [heq, hcached]
    rfl
  · rw [heq, hcached, hstored]
    rfl
  · rw [heq, hcached, hstored]
    rfl

theorem Reliable.getSettings_metricSettings (h : c.Reliable) (metric other : MetricId) :
    (c.metricSettings metric).1.cache.getSettings other =
      (c.cache.getSettings other).or
        (if metric = other then c.store.metricSettings other else none) := by
  by_cases hother : metric = other
  · subst hother
    rw [if_pos rfl]
    rcases h.metricSettings_cases metric with
      ⟨s, hcached, heq⟩ | ⟨hcached, ⟨s, hstored, heq⟩ | ⟨hstored, heq⟩⟩
    · rw [heq, hcached]
      exact hcached
    · rw [heq, hcached, hstored]
      exact Std.ExtTreeMap.getElem?_insert_self
    · rw [heq, hcached, hstored]
      exact hcached
  · rw [if_neg hother, Option.or_none]
    rcases h.metricSettings_cases metric with ⟨s, _, heq⟩ | ⟨_, ⟨s, _, heq⟩ | ⟨_, heq⟩⟩
    · rw [heq]
      rfl
    · rw [heq]
      exact lookup_insert_of_ne _ (Ne.symm hother) s
    · rw [heq]
      rfl

theorem Reliable.fst_of_error (h : c.Reliable) {e : GatewayError}
    (he : (c.metricSettings metric).2 = .error e) :
    (c.metricSettings metric).1 = c.beginLookup := by
  rcases h.metricSettings_cases metric with ⟨s, _, heq⟩ | ⟨_, ⟨s, _, heq⟩ | ⟨_, heq⟩⟩
  · rw [heq]
  · rw [heq] at he
    cases he
  · rw [heq]

theorem failing_metricSettings (c : Collaborators) (metric : MetricId) :
    (c.metricSettings metric).1.failing = c.failing ∧
      (c.metricSettings metric).1.outages = c.outages := by
  rcases Collaborators.metricSettings_eq c metric with ⟨cache, heq, _⟩
  rw [heq]
  exact ⟨rfl, rfl⟩

/-! ### Notes that account for what is cached -/

/-- The cached settings are what was found first, as the notes say, and the notes have every lookup
that was made since there were as many as `before`. -/
structure Accounts (c : Collaborators) (notes : List SettingsNote) (before : Nat) : Prop where
  reliable : c.Reliable
  cached : ∀ metric, c.cache.getSettings metric = firstFound notes metric
  answered : Answered notes
  counted : c.lookups = before + notes.countP (·.isLookup)

variable {before : Nat}

theorem Accounts.lookUp (h : c.Accounts notes before) (metric : MetricId) :
    (c.metricSettings metric).1.Accounts (c.note metric :: notes) before where
  reliable := by
    rcases c.failing_metricSettings metric with ⟨hfailing, houtages⟩
    exact h.reliable.of_eq hfailing houtages
  cached := by
    intro other
    unfold note
    rw [h.reliable.getSettings_metricSettings, firstFound_lookedUp, h.reliable.answer_eq,
      isOk_given, h.cached, h.cached]
    by_cases heq : metric = other
    · subst heq
      -- What was found first stays.  A lookup that finds nothing fails, and is not counted.
      cases firstFound notes metric with
      | some settings => rfl
      | none => cases c.store.metricSettings metric <;> simp
    · simp [heq]
  answered := by
    apply h.answered.cons
    intro other stored answer heq
    cases heq
    rw [h.reliable.answer_eq, h.cached]
  counted := by
    rw [lookups_metricSettings, h.counted, List.countP_cons]
    rfl

theorem Accounts.forget (h : c.Accounts notes before) (metric : MetricId) :
    (c.forgetSettings metric).1.Accounts (.changed metric :: notes) before := by
  have hreached : ¬c.fails .cacheSettingsDelete = true := by
    rw [h.reliable.fails_eq]
    exact Bool.false_ne_true
  rw [forgetSettings_eq, without_of_reached hreached]
  constructor
  · exact h.reliable.of_eq rfl rfl
  · intro other
    show (c.cache.settings.erase metric)[other]? =
      if metric = other then none else firstFound notes other
    rw [lookup_erase, ← h.cached]
    rfl
  · exact h.answered.cons nofun
  · exact h.counted

theorem Accounts.same (h : c.Accounts notes before) (hsame : c.SameSettings c') :
    c'.Accounts notes before where
  reliable := h.reliable.of_eq hsame.failing hsame.outages
  cached := by
    intro metric
    rw [← h.cached]
    unfold Cache.getSettings
    rw [hsame.settings]
  answered := h.answered
  counted := hsame.lookups.trans h.counted

theorem Accounts.passes (h : c.Accounts notes before) (hpasses : c.Passes more c') :
    c'.Accounts (more ++ notes) before := by
  induction hpasses with
  | refl => exact h
  | lookUp metric _ ih => exact ih.lookUp metric
  | forget metric _ ih => exact ih.forget metric
  | other _ hsame ih => exact ih.same hsame

end Collaborators

/-! ## Who looks settings up -/

namespace Resolver

open Collaborators (Passes)

/-- The lookup for one metric of the store, or for a request that missed the cache. -/
def scheduleNotes (r : Resolver) (request : MetricRequest) : List SettingsNote :=
  if r.isRouted request then [r.collaborators.note request.metric] else []

def scheduleAllNotes (r : Resolver) : List MetricRequest → List SettingsNote
  | [] => []
  | request :: requests =>
      (r.schedule request).1.scheduleAllNotes requests ++ r.scheduleNotes request

def reloadNotes (r : Resolver) : List SettingsNote :=
  match r.collaborators.storedMetrics with
  | .error _ => []
  | .ok requests => r.scheduleAllNotes requests

/-- The lookup for a request; a request that the cache answers needs none. -/
def beginNotes (r : Resolver) (t : Task) : List SettingsNote :=
  match r.collaborators.cachedValue r.now t.request.metric with
  | (collaborators, .ok none) => { r with collaborators }.scheduleNotes t.request
  | _ => []

def stepNotes (r : Resolver) (id : TaskId) : List SettingsNote :=
  match r.tasks[id]? with
  | none => []
  | some t =>
      match t.phase with
      | .starting => r.beginNotes t
      | _ => []

/-- The lookups for the readings of a batch, up to one that cannot be stored. -/
def readingNotes (c : Collaborators) (now : Instant) (history : Bool) :
    List Reading → List SettingsNote
  | [] => []
  | reading :: readings =>
      let later :=
        match storeReading c now history reading with
        | (_, none) => []
        | (c, some _) => readingNotes c now history readings
      later ++ [c.note reading.metric]

def pollNotes (r : Resolver) (history : Bool) (reply : Envelope) : List SettingsNote :=
  if !reply.status.isOk then []
  else
    match (reply.unpack : Except Wire.Fault ReadingBatch) with
    | .error _ => []
    | .ok batch => readingNotes r.collaborators r.now history batch.readings

/-- What an event does: a change of a metric is one, and polling is built again after the removal of
a data policy. -/
def eventNotes (r : Resolver) : LifecycleEvent → List SettingsNote
  | .metricUpdated _ metric => [.changed metric]
  | .metricDeleted _ metric => [.changed metric]
  | .policyDeleted _ => { r with polling := r.polling.stopAll.1 }.reloadNotes
  | .containerUpdated _ => []
  | .containerDeleted _ => []

theorem passes_schedule (r : Resolver) (request : MetricRequest) :
    r.collaborators.Passes (r.scheduleNotes request) (r.schedule request).1.collaborators := by
  rw [(schedule_frame r request).2]
  unfold scheduleNotes
  split
  · exact r.collaborators.passes_lookUp request.metric
  · exact .refl

theorem passes_scheduleAll (r : Resolver) (requests : List MetricRequest) :
    r.collaborators.Passes (r.scheduleAllNotes requests)
      (r.scheduleAll requests).1.collaborators := by
  induction requests generalizing r with
  | nil => exact .refl
  | cons request requests ih =>
      exact (passes_schedule r request).trans (ih (r.schedule request).1)

theorem passes_reload (r : Resolver) :
    r.collaborators.Passes r.reloadNotes r.reload.1.collaborators := by
  unfold reloadNotes reload
  cases r.collaborators.storedMetrics with
  | error reason => exact .refl
  | ok requests => exact passes_scheduleAll r requests

/-! ### Tasks -/

theorem collaborators_complete (r : Resolver) (id : TaskId) (t : Task) (resolution : Resolution) :
    (r.complete id t resolution).collaborators = r.collaborators := by
  unfold complete
  dsimp only
  split <;> rfl

theorem collaborators_answer (r : Resolver) (id : TaskId) (t : Task) (reply : Envelope)
    (resolution : Resolution) :
    (r.answer id t reply resolution).collaborators = r.collaborators := by
  unfold answer
  split
  · exact collaborators_complete _ id t resolution
  · rfl
  · dsimp only
    split
    · exact collaborators_complete _ id t resolution
    · rfl
    · rfl

theorem collaborators_fetch (r : Resolver) (id : TaskId) (t : Task) (key : String)
    (settings : MetricSettings) : (r.fetch id t key settings).collaborators = r.collaborators := by
  unfold fetch
  dsimp only
  split <;> rfl

theorem collaborators_subscribe (r : Resolver) (request : MetricRequest) (key : String) :
    (r.subscribe request key).1.collaborators =
      (r.collaborators.metricSettings request.metric).1 := by
  unfold subscribe
  cases r.collaborators.metricSettings request.metric with
  | mk collaborators result =>
      cases result with
      | error e => rfl
      | ok settings =>
          dsimp only
          split
          · rfl
          · split <;> rfl

theorem passes_miss (r : Resolver) (id : TaskId) (t : Task) :
    r.collaborators.Passes (r.scheduleNotes t.request) (r.miss id t).collaborators := by
  unfold miss scheduleNotes isRouted
  cases r.routes.key? t.request.containerKind with
  | none =>
      dsimp only
      rw [collaborators_answer]
      exact .refl
  | some key =>
      have hlooked := r.collaborators.passes_lookUp t.request.metric
      rw [← collaborators_subscribe r t.request key] at hlooked
      dsimp only [Option.isSome]
      rw [if_pos rfl]
      cases hsubscribed : r.subscribe t.request key with
      | mk after result =>
          rw [hsubscribed] at hlooked
          cases result with
          | error e => exact hlooked
          | ok settings =>
              dsimp only
              rw [collaborators_fetch]
              exact hlooked

theorem passes_begin (r : Resolver) (id : TaskId) (t : Task) :
    r.collaborators.Passes (r.beginNotes t) (r.begin id t).collaborators := by
  have hsame := r.collaborators.same_cachedValue r.now t.request.metric
  unfold beginNotes begin
  rcases hcached : r.collaborators.cachedValue r.now t.request.metric with
    ⟨collaborators, _ | _ | body⟩ <;> rw [hcached] at hsame
  · exact Collaborators.passes_of_same hsame
  · have hmissed := passes_miss ({ r with collaborators }.count Metrics.addCacheMiss) id t
    have hboth := (Collaborators.passes_of_same hsame).trans hmissed
    rw [List.append_nil] at hboth
    exact hboth
  · unfold hit
    dsimp only
    rw [collaborators_answer]
    exact Collaborators.passes_of_same hsame

theorem passes_passOn (r : Resolver) (id : TaskId) (t : Task) (correlation : String)
    (settings : MetricSettings) (reply : Envelope) :
    r.collaborators.Passes [] (r.passOn id t correlation settings reply).collaborators := by
  unfold passOn
  dsimp only
  split
  · have hsame := r.collaborators.same_cacheValue r.now t.request.metric reply.body
      ((r.pending[correlation]?).getD settings).cacheFor
    have hstored := Collaborators.passes_of_same hsame
    split
    next heq =>
      replace heq : r.collaborators.cacheValue r.now _ _ _ = _ := heq
      rw [heq] at hstored
      exact hstored
    next heq =>
      replace heq : r.collaborators.cacheValue r.now _ _ _ = _ := heq
      rw [heq] at hstored
      rw [collaborators_answer]
      exact hstored
  · rw [collaborators_answer]
    exact .refl

theorem passes_stepTask (r : Resolver) (id : TaskId) :
    r.collaborators.Passes (r.stepNotes id) (r.stepTask id).collaborators := by
  unfold stepNotes stepTask
  cases r.tasks[id]? with
  | none => exact .refl
  | some t =>
      dsimp only
      cases t.phase with
      | starting => exact passes_begin r id t
      | fetching ticket m correlation settings =>
          dsimp only
          split <;> exact .refl
      | awaiting wait correlation settings =>
          dsimp only
          split
          · exact .refl
          · split
            · unfold giveUp
              dsimp only
              split <;> exact .refl
            · exact passes_passOn { r with correlator := r.correlator.finish wait } id t _ _ _
      | answering ticket m resolution =>
          dsimp only
          split
          · rw [collaborators_complete]
            exact .refl
          · exact .refl
          · exact .refl

/-! ### Polls and events -/

theorem passes_storeReading (c : Collaborators) (now : Instant) (history : Bool)
    (reading : Reading) :
    c.Passes [c.note reading.metric] (storeReading c now history reading).1 := by
  have hlooked := c.passes_lookUp reading.metric
  unfold storeReading
  cases hsettings : c.metricSettings reading.metric with
  | mk looked result =>
      rw [hsettings] at hlooked
      cases result with
      | error e => exact hlooked
      | ok settings =>
          have hsame := looked.same_cacheValue now reading.metric (Wire.encode reading)
            settings.cacheFor
          dsimp only
          cases hstored : looked.cacheValue now reading.metric (Wire.encode reading)
              settings.cacheFor with
          | mk after outcome =>
              rw [hstored] at hsame
              have hput := hlooked.other hsame
              cases outcome with
              | failed reason => exact hput
              | fatal => exact hput
              | stored =>
                  dsimp only
                  split
                  · exact hput.other (after.same_writeHistory reading)
                  · exact hput

theorem passes_storeReadings (c : Collaborators) (now : Instant) (history : Bool)
    (readings : List Reading) :
    c.Passes (readingNotes c now history readings) (storeReadings c now history readings).1 := by
  induction readings generalizing c with
  | nil => exact .refl
  | cons reading readings ih =>
      have hfirst := passes_storeReading c now history reading
      unfold readingNotes storeReadings
      cases hreading : storeReading c now history reading with
      | mk after stored =>
          rw [hreading] at hfirst
          cases stored with
          | none => exact hfirst
          | some stored => exact hfirst.trans (ih after)

theorem passes_handlePoll (r : Resolver) (history : Bool) (reply : Envelope) :
    r.collaborators.Passes (r.pollNotes history reply)
      (r.handlePoll history reply).1.collaborators := by
  unfold pollNotes handlePoll
  split
  · exact .refl
  · cases (reply.unpack : Except Wire.Fault ReadingBatch) with
    | error fault => exact .refl
    | ok batch => exact passes_storeReadings r.collaborators r.now history batch.readings

theorem passes_apply (r : Resolver) (event : LifecycleEvent) :
    r.collaborators.Passes (r.eventNotes event) (r.apply event).1.collaborators := by
  show r.collaborators.Passes (r.eventNotes event) (r.react event).1.collaborators
  cases event with
  | metricUpdated container metric => exact .forget metric .refl
  | metricDeleted container metric => exact .forget metric .refl
  | containerUpdated container => exact .refl
  | containerDeleted container => exact .refl
  | policyDeleted policy =>
      have hreload := passes_reload { r with polling := r.polling.stopAll.1 }
      show r.collaborators.Passes _ r.rebuild.1.collaborators
      unfold rebuild
      dsimp only
      cases hresult : ({ r with polling := r.polling.stopAll.1 } : Resolver).reload with
      | mk after result =>
          rw [hresult] at hreload
          cases result <;> exact hreload

end Resolver

/-! ## Runs -/

namespace Fetching

/-- What can happen to a resolver and to the store of settings. -/
inductive Deed where
  | edit (store : Store)
  | lookUp (metric : MetricId)
  | reload
  | happen (a : Act)

namespace Deed

/-- The systems are those from the beginning; only the store is edited. -/
def Keeps : Deed → Prop
  | .happen (.collaborate _) => False
  | _ => True

def perform (s : Recorded Resolver) : Deed → Recorded Resolver
  | .edit store => s.onHost fun r => { r with collaborators := { r.collaborators with store } }
  | .lookUp metric =>
      s.onHost fun r => { r with collaborators := (r.collaborators.metricSettings metric).1 }
  | .reload => s.onHost fun r => r.reload.1
  | .happen a => act s a

def runAll (s : Recorded Resolver) (deeds : List Deed) : Recorded Resolver :=
  deeds.foldl perform s

def notes (r : Resolver) : Deed → List SettingsNote
  | .edit _ => []
  | .lookUp metric => [r.collaborators.note metric]
  | .reload => r.reloadNotes
  | .happen (.step id) => r.stepNotes id
  | .happen (.handlePoll history reply) => r.pollNotes history reply
  | .happen (.apply event) => r.eventNotes event
  | .happen _ => []

def notesOver (s : Recorded Resolver) : List Deed → List SettingsNote
  | [] => []
  | d :: deeds => notesOver (d.perform s) deeds ++ d.notes s.host

end Deed

open Collaborators (Passes Accounts)

variable {s : Recorded Resolver} {log : List SettingsNote} {before : Nat}

theorem passes_perform {d : Deed} (hkeeps : d.Keeps) :
    s.host.collaborators.Passes (d.notes s.host) (d.perform s).host.collaborators := by
  cases d with
  | edit store => exact Collaborators.passes_of_same ⟨rfl, rfl, rfl, rfl⟩
  | lookUp metric => exact s.host.collaborators.passes_lookUp metric
  | reload => exact s.host.passes_reload
  | happen a =>
      cases a with
      | step id => exact s.host.passes_stepTask id
      | handlePoll history reply => exact s.host.passes_handlePoll history reply
      | apply event => exact s.host.passes_apply event
      | collaborate collaborators => exact absurd hkeeps id
      | start request requester timeout => exact .refl
      | dispatch request =>
          show s.host.collaborators.Passes [] (s.host.dispatch request).1.collaborators
          unfold Resolver.dispatch
          split
          · exact .refl
          · dsimp only
            split <;> exact .refl
      | route reply =>
          show s.host.collaborators.Passes [] (s.host.route reply).1.collaborators
          unfold Resolver.route
          split
          · exact .refl
          · split <;> exact .refl
      | polling op => exact .refl
      | setClock now => exact .refl
      | take =>
          show s.host.collaborators.Passes [] s.record.host.collaborators
          unfold Recorded.record
          split
          next heq =>
            have hhost : _ = _ := congrArg (fun taken => taken.1.host.collaborators) heq
            exact hhost ▸ .refl
          next heq =>
            have hhost : _ = _ := congrArg (fun taken => taken.1.host.collaborators) heq
            exact hhost ▸ .refl
      | closeOutbox => exact .refl

theorem accounts_run (h : s.host.collaborators.Accounts log before) {deeds : List Deed}
    (hkeeps : ∀ d ∈ deeds, d.Keeps) :
    (Deed.runAll s deeds).host.collaborators.Accounts (Deed.notesOver s deeds ++ log) before := by
  induction deeds generalizing s log with
  | nil => exact h
  | cons d deeds ih =>
      have hfirst := h.passes (passes_perform (hkeeps d List.mem_cons_self))
      have hlater := ih hfirst fun d' hd' => hkeeps d' (List.mem_cons_of_mem d hd')
      show (Deed.runAll (d.perform s) deeds).host.collaborators.Accounts
        ((_ ++ d.notes s.host) ++ log) before
      rw [List.append_assoc]
      exact hlater

theorem accounts_start (hreliable : s.host.collaborators.Reliable)
    (hempty : s.host.collaborators.cache.settings = ∅) :
    s.host.collaborators.Accounts [] s.host.collaborators.lookups where
  reliable := hreliable
  cached := by
    intro metric
    unfold Cache.getSettings
    rw [hempty]
    exact Std.ExtTreeMap.getElem?_empty
  answered := SettingsNote.answered_nil
  counted := rfl

open SettingsNote (firstFound given Answered)

/-- Where the cache and the store can be reached, every lookup in a run, whoever makes it, gives
what the store had when the metric was first looked up with success since it was last updated or
deleted, and what the store has where there was no such lookup; that is what the cache has.  There
were no other lookups than these, and one that is made now fares as they did.  A lookup that fails
changes nothing. -/
theorem lookups_keep_until_changed (hreliable : s.host.collaborators.Reliable)
    (hempty : s.host.collaborators.cache.settings = ∅) {deeds : List Deed}
    (hkeeps : ∀ d ∈ deeds, d.Keeps) :
    let c := (Deed.runAll s deeds).host.collaborators
    let notes := Deed.notesOver s deeds
    Answered notes ∧ (∀ metric, c.cache.getSettings metric = firstFound notes metric) ∧
      c.lookups = s.host.collaborators.lookups + notes.countP (·.isLookup) ∧
      ∀ metric,
        let looked := c.metricSettings metric
        looked.2 = given metric ((firstFound notes metric).or (c.store.metricSettings metric)) ∧
          (∀ e, looked.2 = .error e → looked.1 = c.beginLookup) := by
  intro c notes
  have haccounts : c.Accounts notes s.host.collaborators.lookups := by
    have hrun := accounts_run (accounts_start hreliable hempty) hkeeps
    rw [List.append_nil] at hrun
    exact hrun
  refine ⟨haccounts.answered, haccounts.cached, haccounts.counted, ?_⟩
  intro metric looked
  constructor
  · rw [← haccounts.cached]
    exact haccounts.reliable.answer_eq metric
  · exact fun e he => haccounts.reliable.fst_of_error he

/-- The settings of a metric are looked up, the store is edited, and the metric is updated. -/
def editedAfterLookup (edited : Store) : List Deed :=
  [.lookUp 1, .edit edited, .happen (.apply (.metricUpdated 7 1))]

theorem lookups_keep_until_changed_edited :
    let request : MetricRequest := ⟨7, .snmpV2c, 1, .int, 0⟩
    let first : MetricSettings := ⟨5, Duration.ofSecs 60⟩
    let second : MetricSettings := ⟨9, Duration.ofSecs 10⟩
    let store := Store.empty.insertMetric request first
    let edited := store.insertMetric request second
    let s : Recorded Resolver := unasked.onHost fun r => { r with collaborators := { store } }
    let answer := fun deeds => ((Deed.runAll s deeds).host.collaborators.metricSettings 1).2
    answer [.lookUp 1, .edit edited] = .ok first ∧ answer (editedAfterLookup edited) = .ok second ∧
      answer [.edit .empty] = .error (.notConfigured .metric 1) := by
  intro request first second store edited s answer
  have hreliable : s.host.collaborators.Reliable := ⟨rfl, rfl⟩
  have hgives : ∀ deeds, (∀ d ∈ deeds, d.Keeps) → ∀ found,
      (firstFound (Deed.notesOver s deeds) 1).or
        ((Deed.runAll s deeds).host.collaborators.store.metricSettings 1) = found →
      answer deeds = given 1 found := by
    intro deeds hkeeps found hfound
    rw [← hfound]
    exact ((lookups_keep_until_changed hreliable rfl hkeeps).2.2.2 1).1
  refine ⟨?_, ?_, ?_⟩
  · exact hgives _ (by simp [Deed.Keeps]) (some first) (by decide +kernel)
  · exact hgives _ (by simp [editedAfterLookup, Deed.Keeps]) (some second) (by decide +kernel)
  · exact hgives _ (by simp [Deed.Keeps]) none (by decide +kernel)

end Fetching
end MetricGateway
