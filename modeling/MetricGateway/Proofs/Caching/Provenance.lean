import MetricGateway.Proofs.Caching.Asking

/-!
# Where cached values come from

As long as nothing but replies puts values into the cache, what a lookup gives is the last deposit
for its metric.  The deposit was made at a time that has passed by, for a duration that has not.  It
is the body of a reply to a fetch for this metric, stored by the task that made the fetch, or the
encoding of a reading in the reply to a poll; and its duration is what the settings said that were
looked up on this occasion.
-/

namespace MetricGateway
namespace Fetching

open Resolver (TaskId Task)

/-!
## Sources of deposits
-/

inductive Source (start : Recorded Resolver) (acts : List Act) : Deposit → Prop where
  /-- A task has got the reply to its own fetch, and the reply reports success. -/
  | reply {earlier later : List Act} {id : TaskId} {request : MetricRequest} {fetch : Message}
      {settings : MetricSettings} {reply : Envelope} (hacts : acts = earlier ++ .step id :: later)
      (hasked : Asked start earlier id request fetch settings)
      (hsent : fetch ∈ sentBy id start earlier) (hheard : Heard start earlier id reply)
      (hid : reply.correlation = fetch.envelope.correlation)
      (hstatus : reply.status.isOk = true) :
      Source start acts
        ⟨request.metric, reply.body, (run start earlier).host.now, settings.cacheFor⟩
  /-- A reading of a batch was stored, after the readings before it. -/
  | poll {earlier later : List Act} {history : Bool} {reply : Envelope} {batch : ReadingBatch}
      {before after : List Reading} {reading : Reading} {settings : MetricSettings}
      (hacts : acts = earlier ++ .handlePoll history reply :: later)
      (hstatus : reply.status.isOk = true) (hbatch : reply.unpack = .ok batch)
      (hreadings : batch.readings = before ++ reading :: after)
      (hsettings : let r := (run start earlier).host
        ((Resolver.storeReadings r.collaborators r.now history before).1.metricSettings
          reading.metric).2 = .ok settings) :
      Source start acts
        ⟨reading.metric, Wire.encode reading, (run start earlier).host.now, settings.cacheFor⟩

variable {start : Recorded Resolver} {acts : List Act}

theorem Source.append {d : Deposit} (h : Source start acts d) (more : List Act) :
    Source start (acts ++ more) d := by
  have hmore : ∀ {earlier later : List Act} {a : Act}, acts = earlier ++ a :: later →
      acts ++ more = earlier ++ a :: (later ++ more) := by
    intro earlier later a hacts
    rw [hacts, List.append_assoc, List.cons_append]
  cases h with
  | reply hacts hasked hsent hheard hid hstatus =>
      exact .reply (hmore hacts) hasked hsent hheard hid hstatus
  | poll hacts hstatus hbatch hreadings hsettings =>
      exact .poll (hmore hacts) hstatus hbatch hreadings hsettings

theorem source_of_poll {history : Bool} {reply : Envelope} {d : Deposit}
    (hd : d ∈ Resolver.pollDeposits history (run start acts).host reply) :
    Source start (acts ++ [.handlePoll history reply]) d := by
  rcases Resolver.mem_pollDeposits history hd with
    ⟨hstatus, batch, hbatch, before, reading, after, settings, hreadings, hsettings, rfl⟩
  exact .poll rfl hstatus hbatch hreadings hsettings

theorem source_of_step {id : TaskId} (hcorrelated : Correlated (run start acts).host)
    (hasks : ∀ t, (run start acts).host.tasks[id]? = some t →
      Asks start acts id (run start acts).host (sentBy id start acts) t)
    {d : Deposit} (hd : d ∈ (run start acts).host.stepDeposits id) :
    Source start (acts ++ [.step id]) d := by
  rcases Resolver.mem_stepDeposits hd with
    ⟨t, wait, correlation, settings, reply, htask, hphase, hresult, hstatus, rfl⟩
  have hhanded := hcorrelated.handed_of_result htask hphase hresult
  have hreply := hcorrelated.id_of_handed htask hphase hhanded
  cases hasks t htask with
  | starting hother => cases hphase.symm.trans hother
  | fetching hother => cases hphase.symm.trans hother
  | answering hother => cases hphase.symm.trans hother
  | awaiting hother hasked hid hremembered hsent hheard =>
      cases hphase.symm.trans hother
      have hsettings : ((run start acts).host.pending[correlation]?).getD settings = settings := by
        cases hpending : (run start acts).host.pending[correlation]? with
        | none => rfl
        | some other => exact hremembered other hpending
      rw [hsettings]
      exact .reply rfl hasked hsent (hheard reply hhanded) (hreply.trans hid.symm) hstatus

/-!
## Runs
-/

/-- Time does not go back, and nobody else puts values into the cache. -/
def Steady (r : Resolver) : Act → Prop
  | .setClock now => r.now.nanos ≤ now.nanos
  | .collaborate collaborators => ∀ (metric : MetricId) (v : CachedValue),
      collaborators.cache.values[metric]? = some v →
        r.collaborators.cache.values[metric]? = some v
  | _ => True

/-- A run in which each act is steady. -/
def Steadily (s : Recorded Resolver) : List Act → Prop
  | [] => True
  | a :: acts => Steady s.host a ∧ Steadily (act s a) acts

theorem steadily_concat {s : Recorded Resolver} {acts : List Act} {a : Act} :
    Steadily s (acts ++ [a]) ↔ Steadily s acts ∧ Steady (run s acts).host a := by
  induction acts generalizing s with
  | nil => exact and_comm
  | cons b acts ih =>
      show _ ∧ Steadily (act s b) (acts ++ [a]) ↔ (_ ∧ Steadily (act s b) acts) ∧ _
      rw [ih, and_assoc]
      rfl

/-- After a run each lookup gives the last deposit for its metric, if anything, and each deposit of
the run has a source. -/
structure Provided (start : Recorded Resolver) (acts : List Act) : Prop where
  correlated : Correlated (run start acts).host
  asks : ∀ {id : TaskId} {t : Task}, (run start acts).host.tasks[id]? = some t →
    Asks start acts id (run start acts).host (sentBy id start acts) t
  sources : ∀ d ∈ depositsOver start acts, Source start acts d
  times : ∀ d ∈ depositsOver start acts, d.time.nanos ≤ (run start acts).host.now.nanos
  shown : ∀ {t : Instant} {metric : MetricId} {body : Wire.Bytes},
    (run start acts).host.now.nanos ≤ t.nanos →
      (run start acts).host.collaborators.cache.shown t metric = some body →
        ∃ d, Deposit.last? (depositsOver start acts) metric = some d ∧ d.shown t = some body

theorem Begins.provided (h : Begins start) (hempty : start.host.collaborators.cache.values = ∅) :
    Provided start [] where
  correlated := h.correlated
  asks := fun ht => absurd ht h.task
  sources := fun _ hd => absurd hd List.not_mem_nil
  times := fun _ hd => absurd hd List.not_mem_nil
  shown := by
    intro t metric body _ hshown
    replace hshown : start.host.collaborators.cache.shown t metric = some body := hshown
    rw [Cache.shown_eq, hempty] at hshown
    cases hshown

theorem now_le_act {s : Recorded Resolver} {a : Act} (h : Steady s.host a) :
    s.host.now.nanos ≤ (act s a).host.now.nanos := by
  by_cases hclock : ∃ now, a = .setClock now
  · rcases hclock with ⟨now, rfl⟩
    exact h
  · exact Nat.le_of_eq (congrArg Instant.nanos (now_act s fun now heq => hclock ⟨now, heq⟩)).symm

theorem Correlated.task_act_of_ne {s : Recorded Resolver} (h : Correlated s.host) {a : Act}
    {id : TaskId} {t : Task} (ha : a ≠ .step id)
    (ht : (Fetching.act s a).host.tasks[id]? = some t) :
    s.host.tasks[id]? = some t ∨ t.phase = .starting := by
  rcases act_cases s a with heq | rfl | rfl
  · rw [heq] at ht
    exact h.task_of_ne (effect_actOn s.host a) (fun hcause => ha (Act.eq_step hcause)) ht
  · rcases sameButOutbox_take s with ⟨outbox, heq⟩
    rw [heq] at ht
    exact Or.inl ht
  · exact Or.inl ht

namespace Provided

variable (h : Provided start acts)
include h

theorem asks_act (a : Act) {id : TaskId} {t : Task}
    (ht : (act (run start acts) a).host.tasks[id]? = some t) :
    Asks start (acts ++ [a]) id (act (run start acts) a).host (sentBy id start (acts ++ [a]))
      t := by
  rw [sentBy_append]
  by_cases ha : a = .step id
  · subst ha
    replace ht : ((run start acts).host.stepTask id).tasks[id]? = some t := ht
    rw [sentBy_step]
    cases hbefore : (run start acts).host.tasks[id]? with
    | none =>
        rw [Resolver.stepTask_of_none hbefore, hbefore] at ht
        cases ht
    | some t' =>
        rcases (h.asks hbefore).step hbefore with ⟨own, hown, hasks⟩
        have hsent : sentIn (run start acts) (.step id) = own := sentIn_of_append hown
        rw [hsent]
        exact hasks t ht
  · rw [sentBy_of_ne ha, List.append_nil]
    rcases h.correlated.task_act_of_ne ha ht with hbefore | hnew
    · exact (h.asks hbefore).other h.correlated hbefore ha
    · exact .starting hnew

theorem sources_act (a : Act) {d : Deposit} (hd : d ∈ depositsIn (run start acts).host a) :
    Source start (acts ++ [a]) d := by
  cases a with
  | step id => exact source_of_step h.correlated (fun t ht => h.asks ht) hd
  | handlePoll history reply => exact source_of_poll hd
  | _ => cases hd

theorem shown_act {a : Act} (hsteady : Steady (run start acts).host a) {t : Instant}
    {metric : MetricId} {body : Wire.Bytes}
    (hle : (act (run start acts) a).host.now.nanos ≤ t.nanos)
    (hshown : (act (run start acts) a).host.collaborators.cache.shown t metric = some body) :
    ∃ d, Deposit.last? (depositsIn (run start acts).host a ++ depositsOver start acts) metric =
      some d ∧ d.shown t = some body := by
  have hle' := Nat.le_trans (now_le_act hsteady) hle
  rw [Deposit.last?_append]
  by_cases hcollaborate : ∃ c, a = .collaborate c
  · rcases hcollaborate with ⟨c, rfl⟩
    replace hshown : c.cache.shown t metric = some body := hshown
    rw [Cache.shown_eq] at hshown
    rcases Option.bind_eq_some_iff.mp hshown with ⟨v, hv, hlive⟩
    have hbefore : (run start acts).host.collaborators.cache.shown t metric = some body := by
      rw [Cache.shown_eq, hsteady metric v hv]
      exact hlive
    exact h.shown hle' hbefore
  · rw [follows_act (run start acts) (fun c heq => hcollaborate ⟨c, heq⟩) t metric hle'] at hshown
    cases hlast : Deposit.last? (depositsIn (run start acts).host a) metric with
    | none =>
        rw [hlast] at hshown
        exact h.shown hle' hshown
    | some d =>
        rw [hlast] at hshown
        exact ⟨d, rfl, hshown⟩

theorem act {a : Act} (hsteady : Steady (run start acts).host a) :
    Provided start (acts ++ [a]) := by
  have hrun : run start (acts ++ [a]) = Fetching.act (run start acts) a := run_append _ _ _
  have hnow := now_le_act hsteady
  constructor
  · rw [hrun]
    exact h.correlated.act a
  · rw [hrun]
    exact h.asks_act a
  · rw [depositsOver_concat]
    intro d hd
    rcases List.mem_append.mp hd with hnew | hold
    · exact h.sources_act a hnew
    · exact (h.sources d hold).append [a]
  · rw [hrun, depositsOver_concat]
    intro d hd
    rcases List.mem_append.mp hd with hnew | hold
    · rw [time_of_mem_depositsIn hnew]
      exact hnow
    · exact Nat.le_trans (h.times d hold) hnow
  · rw [hrun, depositsOver_concat]
    exact h.shown_act hsteady

end Provided

theorem provided_run (hbegins : Begins start)
    (hempty : start.host.collaborators.cache.values = ∅) (hsteady : Steadily start acts) :
    Provided start acts := by
  induction acts using List.reverseRecOn with
  | nil => exact hbegins.provided hempty
  | append_singleton acts a ih =>
      rcases steadily_concat.mp hsteady with ⟨hbefore, hlast⟩
      exact (ih hbefore).act hlast

/-!
## What stores nothing
-/

inductive Storeless (r : Resolver) : Act → Prop where
  | failedPoll {history : Bool} {reply : Envelope} (hstatus : reply.status.isOk = false) :
      Storeless r (.handlePoll history reply)
  /-- A poll was answered with something that is no batch. -/
  | undecodable {history : Bool} {reply : Envelope} {fault : Wire.Fault}
      (hbatch : (reply.unpack : Except Wire.Fault ReadingBatch) = .error fault) :
      Storeless r (.handlePoll history reply)
  /-- A reply comes, whether or not anybody waits for it. -/
  | routed (reply : Envelope) : Storeless r (.route reply)
  | failedFetch {id : TaskId} {t : Task} {wait : WaitId} {correlation : String}
      {settings : MetricSettings} {reply : Envelope} (htask : r.tasks[id]? = some t)
      (hphase : t.phase = .awaiting wait correlation settings)
      (hresult : r.correlator.result? wait r.now = some (.ok reply))
      (hstatus : reply.status.isOk = false) : Storeless r (.step id)
  | timedOut {id : TaskId} {t : Task} {wait : WaitId} {correlation : String}
      {settings : MetricSettings} {e : GatewayError} (htask : r.tasks[id]? = some t)
      (hphase : t.phase = .awaiting wait correlation settings)
      (hresult : r.correlator.result? wait r.now = some (.error e)) : Storeless r (.step id)
  /-- A task finds a value, has no route to ask for one, or asks for one. -/
  | begun {id : TaskId} {t : Task} (htask : r.tasks[id]? = some t)
      (hphase : t.phase = .starting) : Storeless r (.step id)

theorem Storeless.depositsIn_eq_nil {r : Resolver} {a : Act} (h : Storeless r a) :
    depositsIn r a = [] := by
  rw [List.eq_nil_iff_forall_not_mem]
  intro d hd
  cases h with
  | failedPoll hstatus =>
      have hok := (Resolver.mem_pollDeposits _ hd).1
      rw [hstatus] at hok
      cases hok
  | undecodable hbatch =>
      rcases Resolver.mem_pollDeposits _ hd with ⟨_, batch, hother, _⟩
      cases hbatch.symm.trans hother
  | routed reply => cases hd
  | failedFetch htask hphase hresult hstatus =>
      rcases Resolver.mem_stepDeposits hd with ⟨_, _, _, _, _, htask', hphase', hresult', hok, _⟩
      cases htask.symm.trans htask'
      cases hphase.symm.trans hphase'
      cases hresult.symm.trans hresult'
      rw [hstatus] at hok
      cases hok
  | timedOut htask hphase hresult =>
      rcases Resolver.mem_stepDeposits hd with ⟨_, _, _, _, _, htask', hphase', hresult', _⟩
      cases htask.symm.trans htask'
      cases hphase.symm.trans hphase'
      cases hresult.symm.trans hresult'
  | begun htask hphase =>
      rcases Resolver.mem_stepDeposits hd with ⟨_, _, _, _, _, htask', hphase', _⟩
      cases htask.symm.trans htask'
      cases hphase.symm.trans hphase'

theorem Storeless.get_eq {s : Recorded Resolver} {a : Act} (h : Storeless s.host a) {t : Instant}
    (hle : s.host.now.nanos ≤ t.nanos) (metric : MetricId) :
    ((act s a).host.collaborators.cache.get t metric).2 =
      (s.host.collaborators.cache.get t metric).2 := by
  have hother : ∀ c, a ≠ .collaborate c := by
    rintro c rfl
    cases h
  have hfollows := follows_act s hother t metric hle
  rw [h.depositsIn_eq_nil] at hfollows
  exact hfollows

/-!
## Provenance and freshness
-/

/-- In a run from the beginning and from an empty cache, in which time does not go back and nobody
else puts values into the cache, a lookup that gives a body gives the last deposit for its metric.
It was made no later than now, and its duration has not passed by.  It is the body of a reply to the
fetch of a task for this metric, with the settings that this task has looked up, or a reading of a
batch, with the settings that were looked up for it.  Lookups change by deposits alone, and replies
that report no success, that nobody waits for or that do not decode, timeouts and requests without a
route change none. -/
theorem cache_provenance (hbegins : Begins start)
    (hempty : start.host.collaborators.cache.values = ∅) (hsteady : Steadily start acts) :
    let s := run start acts
    (∀ (t : Instant) (metric : MetricId) (body : Wire.Bytes), s.host.now.nanos ≤ t.nanos →
      (s.host.collaborators.cache.get t metric).2 = some body →
        ∃ later d earlier, depositsOver start acts = later ++ d :: earlier ∧
          (∀ d' ∈ later, d'.metric ≠ metric) ∧ d.metric = metric ∧ d.body = body ∧
          d.time.nanos ≤ t.nanos ∧ t.nanos < d.time.nanos + d.cacheFor.toNanos ∧
          Source start acts d) ∧
      (∀ a, (∀ c, a ≠ .collaborate c) →
        s.host.collaborators.cache.Follows s.host.now (depositsIn s.host a)
          (act s a).host.collaborators.cache) ∧
      ∀ a, Storeless s.host a → ∀ (t : Instant) (metric : MetricId),
        s.host.now.nanos ≤ t.nanos → ((act s a).host.collaborators.cache.get t metric).2 =
          (s.host.collaborators.cache.get t metric).2 := by
  intro s
  have hprovided := provided_run hbegins hempty hsteady
  refine ⟨?_, fun a ha => follows_act s ha, fun a ha t metric hle => ha.get_eq hle metric⟩
  intro t metric body hle hget
  rcases hprovided.shown hle hget with ⟨d, hlast, hshown⟩
  have hmem := Deposit.mem_of_last? hlast
  rcases Deposit.last?_eq_some_iff.mp hlast with ⟨hmetric, later, earlier, hdeposits, hlater⟩
  have htime := Nat.le_trans (hprovided.times d hmem) hle
  unfold Deposit.shown at hshown
  split at hshown
  next hfresh =>
    cases hshown
    exact ⟨later, d, earlier, hdeposits, hlater, hmetric, rfl, htime, hfresh,
      hprovided.sources d hmem⟩
  next => cases hshown

/-- A reading of the metric that is asked for, which a translator sends by itself. -/
def warmer : Reading := ⟨7, 42, .int, some (.int 23), 60⟩

def warmerBatch : Envelope := Envelope.pack (⟨7, [warmer]⟩ : ReadingBatch) .ok

/-- A fetch is answered, and a second later a poll brings another value. -/
def overwritten : List Act :=
  asked .caller ++
    [.route firstReply, .step 0, .setClock ⟨1000000000⟩, .handlePoll false warmerBatch]

theorem cache_provenance_overwritten :
    let s := run unasked overwritten
    (s.host.collaborators.cache.get s.host.now 42).2 = some (Wire.encode warmer) ∧
      ∃ later d earlier, depositsOver unasked overwritten = later ++ d :: earlier ∧
        d.body = Wire.encode warmer ∧ Source unasked overwritten d := by
  intro s
  have hget : (s.host.collaborators.cache.get s.host.now 42).2 = some (Wire.encode warmer) := by
    decide +kernel
  have hsteady : Steadily unasked overwritten :=
    ⟨trivial, trivial, trivial, trivial, trivial, Nat.zero_le _, trivial, trivial⟩
  rcases (cache_provenance begins_unasked rfl hsteady).1 s.host.now 42 _ (Nat.le_refl _) hget with
    ⟨later, d, earlier, hdeposits, _, _, hbody, _, _, hsource⟩
  exact ⟨hget, later, d, earlier, hdeposits, hbody, hsource⟩

end Fetching
end MetricGateway
