import MetricGateway.Proofs.Fetching.Runs
import MetricGateway.Proofs.Fetching.Waits
import MetricGateway.Proofs.Pulling.Emissions

/-!
# What a step can do

Whatever happens to the resolver leaves the tasks, the waits and the reports alone, or it is one of
these: a task is started; a reply reaches a wait; a task parks a fetch with a new id, begins to wait
for the reply to its fetch, leaves off fetching, or concludes its wait and leaves off.  Every
invariant below is proved for these few effects and not for the code of a step.
-/

namespace MetricGateway

open Pulling (Polling)

namespace Resolver

def Task.Phase.correlation? : Task.Phase → Option String
  | .fetching _ _ correlation _ => some correlation
  | .awaiting _ correlation _ => some correlation
  | _ => none

/-- A task sends or has sent its fetch under a correlation id, and has not left off. -/
def Carries (r : Resolver) (id : TaskId) (correlation : String) : Prop :=
  ∃ t, r.tasks[id]? = some t ∧ t.phase.correlation? = some correlation

/-- The correlation id under which a requester takes its answer from the broker. -/
def Requester.correlation? : Requester → Option String
  | .outbox _ _ correlation => some correlation
  | _ => none

/-- A message goes to the requester of a task: it is parked for it or carries its id. -/
def Task.Answers (t : Task) (m : Message) : Prop :=
  (∃ ticket resolution, t.phase = .answering ticket m resolution) ∨
    t.requester.correlation? = some m.envelope.correlation

/-!
## The step of a task in each phase
-/

theorem stepTask_of_none {r : Resolver} {id : TaskId} (h : r.tasks[id]? = none) :
    r.stepTask id = r := by
  unfold stepTask
  rw [h]

section

variable {r : Resolver} {id : TaskId} {t : Task} (htask : r.tasks[id]? = some t)
include htask

theorem stepTask_starting (hphase : t.phase = .starting) : r.stepTask id = r.begin id t := by
  unfold stepTask
  rw [htask]
  dsimp only
  rw [hphase]

theorem stepTask_fetching {ticket : Ticket} {m : Message} {correlation : String}
    {settings : MetricSettings} (hphase : t.phase = .fetching ticket m correlation settings) :
    r.stepTask id =
      match r.common.resend ticket m with
      | (common, .accepted) => (r.onCommon fun _ => common).await id t correlation settings
      | (_, .refused) =>
          { r with pending := r.pending.erase correlation }.fail id .channelClosed
      | (_, .parked _) => r := by
  unfold stepTask
  rw [htask]
  dsimp only
  rewrite [hphase]
  rfl

theorem stepTask_awaiting {wait : WaitId} {correlation : String} {settings : MetricSettings}
    (hphase : t.phase = .awaiting wait correlation settings) :
    r.stepTask id =
      match r.correlator.result? wait r.now with
      | none => r
      | some (.error e) =>
          { r with correlator := r.correlator.finish wait }.giveUp id t correlation e
      | some (.ok reply) =>
          { r with correlator := r.correlator.finish wait }.passOn id t correlation settings
            reply := by
  unfold stepTask
  rw [htask]
  dsimp only
  rw [hphase]
  dsimp only
  cases r.correlator.result? wait r.now with
  | none => rfl
  | some result => cases result <;> rfl

theorem stepTask_answering {ticket : Ticket} {m : Message} {resolution : Resolution}
    (hphase : t.phase = .answering ticket m resolution) :
    r.stepTask id =
      match r.common.resend ticket m with
      | (common, .accepted) => (r.onCommon fun _ => common).complete id t resolution
      | (_, .refused) => r.fail id .channelClosed
      | (_, .parked _) => r := by
  unfold stepTask
  rw [htask]
  dsimp only
  rewrite [hphase]
  rfl

end

end Resolver

namespace Fetching

open Resolver (TaskId Task Report)

/-- Only background polling and the other systems have changed, and nothing was sent. -/
structure Still (r r' : Resolver) : Prop where
  tasks : r'.tasks = r.tasks
  correlator : r'.correlator = r.correlator
  started : r'.started = r.started
  reports : r'.reports = r.reports
  silent : r.polling.Silent r'.polling

/-- Only background polling and the other systems have changed, and some messages were brought to
the outbox. -/
structure Background (r : Resolver) (own : List Message) (r' : Resolver) : Prop where
  tasks : r'.tasks = r.tasks
  correlator : r'.correlator = r.correlator
  started : r'.started = r.started
  reports : r'.reports = r.reports
  emits : r.polling.Emits own r'.polling

/-- A task has ended, or waits for room for its answer. -/
structure Leaves (r : Resolver) (id : TaskId) (t : Task) (r' : Resolver) : Prop where
  tasks : r'.tasks = r.tasks.erase id ∨ ∃ ticket m resolution, t.Answers m ∧
    r'.tasks = r.tasks.insert id { t with phase := .answering ticket m resolution }
  correlator : r'.correlator = r.correlator
  started : r'.started = r.started
  reports : ∃ new, r'.reports = new ++ r.reports ∧ ∀ x ∈ new, x.2.1 = id
  emits : ∃ own, r.polling.Emits own r'.polling ∧ ∀ m ∈ own, t.Answers m

/-- A correlation id was given out on the way from one state to another. -/
def GivenOut (r r' : Resolver) (correlation : String) : Prop :=
  ∃ n, r.common.issued ≤ n ∧ n < r'.common.issued ∧ correlation = Correlation.id n

structure ParksFetch (r : Resolver) (id : TaskId) (t : Task) (correlation : String)
    (r' : Resolver) : Prop where
  given : GivenOut r r' correlation
  tasks : ∃ ticket m settings, m.envelope.correlation = correlation ∧
    r'.tasks = r.tasks.insert id { t with phase := .fetching ticket m correlation settings }
  correlator : r'.correlator = r.correlator
  started : r'.started = r.started
  reports : r'.reports = r.reports
  silent : r.polling.Silent r'.polling

/-- The fetch of a task is in the outbox, and the task waits for the reply. -/
structure Listens (r : Resolver) (id : TaskId) (t : Task) (correlation : String)
    (r' : Resolver) : Prop where
  given : GivenOut r r' correlation ∨
    ∃ ticket m settings, t.phase = .fetching ticket m correlation settings
  tasks : ∃ settings, r'.tasks = r.tasks.insert id
    { t with phase := .awaiting r.correlator.started correlation settings }
  correlator : ∃ now, r'.correlator = (r.correlator.listen correlation t.timeout now).1
  started : r'.started = r.started
  reports : r'.reports = r.reports
  emits : ∃ own, r.polling.Emits own r'.polling ∧ ∀ m ∈ own,
    m.envelope.correlation = correlation ∨
      ∃ ticket settings, t.phase = .fetching ticket m correlation settings

inductive Cause where
  | task (id : TaskId)
  | reply (e : Envelope)
  /-- A request, with the correlation id of its requester. -/
  | request (correlation : Option String)
  | other

inductive Effect (r : Resolver) : Cause → Resolver → Prop where
  | background {cause : Cause} {r' : Resolver} (h : Background r [] r') : Effect r cause r'
  | started (request : MetricRequest) (requester : Resolver.Requester) (timeout : Duration) :
      Effect r (.request requester.correlation?) (r.start request requester timeout).1
  | routed (reply : Envelope) : Effect r (.reply reply) (r.route reply).1
  | parked {id : TaskId} {t : Task} {correlation : String} {r' : Resolver}
      (htask : r.tasks[id]? = some t) (hphase : t.phase = .starting)
      (h : ParksFetch r id t correlation r') : Effect r (.task id) r'
  | listened {id : TaskId} {t : Task} {correlation : String} {r' : Resolver}
      (htask : r.tasks[id]? = some t)
      (hphase : t.phase = .starting ∨
        ∃ ticket m settings, t.phase = .fetching ticket m correlation settings)
      (h : Listens r id t correlation r') : Effect r (.task id) r'
  | left {id : TaskId} {t : Task} {r' : Resolver} (htask : r.tasks[id]? = some t)
      (hphase : ∀ wait correlation settings, t.phase ≠ .awaiting wait correlation settings)
      (h : Leaves r id t r') : Effect r (.task id) r'
  /-- A wait ends with a reply, or as a timeout that is reported. -/
  | concluded {id : TaskId} {t : Task} {wait : WaitId} {correlation : String}
      {settings : MetricSettings} {w : Wait Envelope} {r' : Resolver}
      (htask : r.tasks[id]? = some t) (hphase : t.phase = .awaiting wait correlation settings)
      (hwait : r.correlator.waits[wait]? = some w)
      (hresult : (∃ reply place, w.slot = .filled reply place) ∨
        ∃ time, (time, id, Report.finished (.error (.timeout w.correlation w.timeout))) ∈
          r'.reports)
      (h : Leaves { r with correlator := r.correlator.finish wait } id t r') :
      Effect r (.task id) r'

/-!
## Changes in the background
-/

theorem Still.background {r r' : Resolver} (h : Still r r') : Background r [] r' where
  tasks := h.tasks
  correlator := h.correlator
  started := h.started
  reports := h.reports
  emits := h.silent.emits

theorem Background.trans {r r' r'' : Resolver} {own own' : List Message}
    (h : Background r own r') (h' : Background r' own' r'') : Background r (own ++ own') r'' where
  tasks := h'.tasks.trans h.tasks
  correlator := h'.correlator.trans h.correlator
  started := h'.started.trans h.started
  reports := h'.reports.trans h.reports
  emits := h.emits.trans h'.emits

theorem background_polling (r : Resolver) {own : List Message} {polling : Polling}
    (h : r.polling.Emits own polling) : Background r own { r with polling } :=
  ⟨rfl, rfl, rfl, rfl, h⟩

theorem background_send (r : Resolver) (m : Message) :
    Background r (Polling.taken m (r.common.send m).2) (r.onCommon fun _ => (r.common.send m).1) :=
  background_polling r (Polling.emits_sending r.polling m)

theorem background_resend (r : Resolver) (ticket : Ticket) (m : Message) :
    Background r (Polling.taken m (r.common.resend ticket m).2)
      (r.onCommon fun _ => (r.common.resend ticket m).1) :=
  background_polling r (Polling.emits_resending r.polling ticket m)

theorem still_refl (r : Resolver) : Still r r :=
  ⟨rfl, rfl, rfl, rfl, Polling.silent_refl r.polling⟩

theorem Still.trans {r r' r'' : Resolver} (h : Still r r') (h' : Still r' r'') : Still r r'' where
  tasks := h'.tasks.trans h.tasks
  correlator := h'.correlator.trans h.correlator
  started := h'.started.trans h.started
  reports := h'.reports.trans h.reports
  silent := h.silent.trans h'.silent

theorem still_polling (r : Resolver) {polling : Polling} (h : r.polling.Silent polling) :
    Still r { r with polling } :=
  ⟨rfl, rfl, rfl, rfl, h⟩

theorem still_onCommon (r : Resolver) {f : Commons → Commons}
    (hissued : (f r.common).issued = r.common.issued)
    (houtbox : (f r.common).outbox = r.common.outbox) : Still r (r.onCommon f) :=
  still_polling r (Polling.silent_onCommon r.polling hissued houtbox)

theorem still_count (r : Resolver) (f : Metrics → Metrics) : Still r (r.count f) :=
  still_onCommon r rfl rfl

theorem still_freshId (r : Resolver) : Still r (r.onCommon fun _ => r.common.freshId.1) :=
  still_polling r (Polling.silent_issuing r.polling)

theorem still_collaborators (r : Resolver) (collaborators : Collaborators) :
    Still r { r with collaborators } :=
  ⟨rfl, rfl, rfl, rfl, Polling.silent_refl r.polling⟩

theorem still_pending (r : Resolver) (pending : Std.ExtTreeMap String MetricSettings) :
    Still r { r with pending } :=
  ⟨rfl, rfl, rfl, rfl, Polling.silent_refl r.polling⟩

theorem still_subscribe (r : Resolver) (request : MetricRequest) (key : String) :
    Still r (r.subscribe request key).1 := by
  unfold Resolver.subscribe
  cases r.collaborators.metricSettings request.metric with
  | mk collaborators result =>
      cases result with
      | error e => exact still_collaborators r collaborators
      | ok settings =>
          dsimp only
          cases collaborators.containerInterval request.container with
          | error e => exact still_collaborators r collaborators
          | ok interval =>
              have hadd := Polling.silent_add r.polling (Resolver.target request key interval)
                request.metric request.valueKind settings.budget
              have hafter := (still_collaborators r collaborators).trans (still_polling _ hadd)
              dsimp only
              cases hresult : r.polling.add (Resolver.target request key interval) request.metric
                  request.valueKind settings.budget with
              | mk polling outcome =>
                  rw [hresult] at hafter
                  cases outcome <;> exact hafter

theorem still_schedule (r : Resolver) (request : MetricRequest) :
    Still r (r.schedule request).1 := by
  rcases Resolver.schedule_cases r request with heq | ⟨key, heq⟩
  · rw [heq]
    exact still_refl r
  · rw [heq]
    exact still_subscribe r request key

theorem still_scheduleAll (r : Resolver) (requests : List MetricRequest) :
    Still r (r.scheduleAll requests).1 := by
  induction requests generalizing r with
  | nil => exact still_refl r
  | cons request requests ih =>
      exact (still_schedule r request).trans (ih (r.schedule request).1)

theorem still_rebuild (r : Resolver) : Still r r.rebuild.1 := by
  have hstopped := still_polling r (Polling.silent_stopAll r.polling)
  unfold Resolver.rebuild Resolver.reload
  dsimp only
  cases r.collaborators.storedMetrics with
  | error reason => exact hstopped.trans (still_onCommon _ rfl rfl)
  | ok requests =>
      exact (hstopped.trans (still_scheduleAll _ requests)).trans (still_onCommon _ rfl rfl)

theorem still_forgetMetric (r : Resolver) (metric : MetricId) :
    Still r (r.forgetMetric metric).1 :=
  (still_polling r (Polling.silent_remove r.polling metric)).trans (still_collaborators _ _)

theorem still_react (r : Resolver) (e : LifecycleEvent) : Still r (r.react e).1 := by
  cases e with
  | containerUpdated container =>
      exact still_polling r (Polling.silent_stopContainer r.polling container)
  | containerDeleted container =>
      exact still_polling r (Polling.silent_stopContainer r.polling container)
  | metricUpdated _ metric => exact still_forgetMetric r metric
  | metricDeleted _ metric => exact still_forgetMetric r metric
  | policyDeleted _ => exact still_rebuild r

theorem still_apply (r : Resolver) (e : LifecycleEvent) : Still r (r.apply e).1 :=
  ((still_react r e).trans (still_count _ _)).trans (still_onCommon _ rfl rfl)

theorem still_handlePoll (r : Resolver) (history : Bool) (reply : Envelope) :
    Still r (r.handlePoll history reply).1 := by
  unfold Resolver.handlePoll
  split
  · exact still_refl r
  · split
    · exact still_count r _
    · exact still_collaborators r _

theorem mem_taken {m m' : Message} {offer : Mailbox.Offer} (h : m' ∈ Polling.taken m offer) :
    m' = m := by
  unfold Polling.taken at h
  split at h
  · exact List.mem_singleton.mp h
  · cases h

/-!
## Tasks that leave off
-/

theorem Leaves.after {r r' r'' : Resolver} {own : List Message} {id : TaskId} {t : Task}
    (hbefore : Background r own r') (hown : ∀ m ∈ own, t.Answers m) (h : Leaves r' id t r'') :
    Leaves r id t r'' where
  tasks := hbefore.tasks ▸ h.tasks
  correlator := h.correlator.trans hbefore.correlator
  started := h.started.trans hbefore.started
  reports := hbefore.reports ▸ h.reports
  emits := by
    rcases h.emits with ⟨own', hemits, hown'⟩
    refine ⟨own ++ own', hbefore.emits.trans hemits, ?_⟩
    intro m hm
    rcases List.mem_append.mp hm with hm | hm
    · exact hown m hm
    · exact hown' m hm

theorem Leaves.after_still {r r' r'' : Resolver} {id : TaskId} {t : Task}
    (hbefore : Still r r') (h : Leaves r' id t r'') : Leaves r id t r'' :=
  h.after hbefore.background (by simp)

theorem Leaves.after_report {r r' : Resolver} {id : TaskId} {t : Task} {what : Report}
    (h : Leaves (r.report id what) id t r') : Leaves r id t r' where
  tasks := h.tasks
  correlator := h.correlator
  started := h.started
  reports := by
    rcases h.reports with ⟨new, hnew, hids⟩
    refine ⟨new ++ [(r.now, id, what)], ?_, ?_⟩
    · rw [hnew, List.append_assoc]
      rfl
    · intro x hx
      rcases List.mem_append.mp hx with hx | hx
      · exact hids x hx
      · rw [List.mem_singleton.mp hx]
  emits := h.emits

theorem leaves_perish (r : Resolver) (id : TaskId) (t : Task) : Leaves r id t (r.perish id) where
  tasks := Or.inl rfl
  correlator := rfl
  started := rfl
  reports := ⟨[], rfl, by simp⟩
  emits := ⟨[], (Polling.silent_refl r.polling).emits, by simp⟩

theorem leaves_finished (r : Resolver) (id : TaskId) (t : Task) (what : Report) :
    Leaves r id t ((r.perish id).report id what) :=
  Leaves.after_report (leaves_perish (r.report id what) id t)

theorem leaves_fail (r : Resolver) (id : TaskId) (t : Task) (e : GatewayError) :
    Leaves r id t (r.fail id e) :=
  leaves_finished r id t (.finished (.error e))

theorem leaves_complete (r : Resolver) (id : TaskId) (t : Task)
    (resolution : Resolver.Resolution) : Leaves r id t (r.complete id t resolution) := by
  unfold Resolver.complete
  dsimp only
  split
  · exact leaves_finished r id t (.finished (.ok resolution))
  · exact Leaves.after_still
      (still_count r fun m => m.observeLatency (r.now.nanosSince t.startedAt))
      (leaves_finished _ id t (.finished (.ok resolution)))

theorem leaves_parked (r : Resolver) (id : TaskId) {t : Task} {m : Message} (hm : t.Answers m)
    (ticket : Ticket) (resolution : Resolver.Resolution) :
    Leaves r id t (r.setPhase id t (.answering ticket m resolution)) where
  tasks := Or.inr ⟨ticket, m, resolution, hm, rfl⟩
  correlator := rfl
  started := rfl
  reports := ⟨[], rfl, by simp⟩
  emits := ⟨[], (Polling.silent_refl r.polling).emits, by simp⟩

theorem leaves_answer (r : Resolver) (id : TaskId) (t : Task) (reply : Envelope)
    (resolution : Resolver.Resolution) : Leaves r id t (r.answer id t reply resolution) := by
  unfold Resolver.answer
  cases hrequester : t.requester with
  | caller => exact Leaves.after_report (leaves_complete _ id t resolution)
  | gone => exact Leaves.after_report (leaves_fail _ id t .channelClosed)
  | outbox exchange key correlation =>
      apply Leaves.after_report
      dsimp only
      generalize r.report id (.delivered (reply.withCorrelation correlation)) = r'
      let m : Message := { exchange, key, envelope := reply.withCorrelation correlation }
      have hm : t.Answers m := by
        right
        rw [hrequester]
        rfl
      have hsent := background_send r' m
      have hown : ∀ m' ∈ Polling.taken m (r'.common.send m).2, t.Answers m' := by
        intro m' hm'
        rw [mem_taken hm']
        exact hm
      cases hoffer : r'.common.send m with
      | mk common offer =>
          rw [hoffer] at hsent hown
          cases offer with
          | accepted => exact (leaves_complete _ id t resolution).after hsent hown
          | parked ticket => exact (leaves_parked _ id hm ticket resolution).after hsent hown
          | refused => exact leaves_fail r' id t .channelClosed

/-!
## Tasks that fetch
-/

theorem ParksFetch.after {r r' r'' : Resolver} {id : TaskId} {t : Task} {correlation : String}
    (hbefore : Still r r') (h : ParksFetch r' id t correlation r'') :
    ParksFetch r id t correlation r'' where
  given := by
    rcases h.given with ⟨n, hlow, hhigh, heq⟩
    exact ⟨n, Nat.le_trans hbefore.silent.issued_le hlow, hhigh, heq⟩
  tasks := hbefore.tasks ▸ h.tasks
  correlator := h.correlator.trans hbefore.correlator
  started := h.started.trans hbefore.started
  reports := h.reports.trans hbefore.reports
  silent := hbefore.silent.trans h.silent

theorem Listens.after {r r' r'' : Resolver} {id : TaskId} {t : Task} {correlation : String}
    (hbefore : Still r r') (h : Listens r' id t correlation r'') :
    Listens r id t correlation r'' where
  given := by
    rcases h.given with ⟨n, hlow, hhigh, heq⟩ | hfetching
    · exact Or.inl ⟨n, Nat.le_trans hbefore.silent.issued_le hlow, hhigh, heq⟩
    · exact Or.inr hfetching
  tasks := by
    rw [← hbefore.tasks, ← hbefore.correlator]
    exact h.tasks
  correlator := hbefore.correlator ▸ h.correlator
  started := h.started.trans hbefore.started
  reports := h.reports.trans hbefore.reports
  emits := by
    rcases h.emits with ⟨own, hemits, hown⟩
    exact ⟨own, hbefore.silent.emits.trans hemits, hown⟩

theorem Effect.after {r r' r'' : Resolver} {id : TaskId} (hbefore : Still r r')
    (h : Effect r' (.task id) r'') : Effect r (.task id) r'' := by
  cases h with
  | background h => exact .background (hbefore.background.trans h)
  | parked htask hphase h => exact .parked (hbefore.tasks ▸ htask) hphase (h.after hbefore)
  | listened htask hphase h => exact .listened (hbefore.tasks ▸ htask) hphase (h.after hbefore)
  | left htask hphase h => exact .left (hbefore.tasks ▸ htask) hphase (h.after_still hbefore)
  | @concluded _ t wait _ _ _ _ htask hphase hwait hresult h =>
      refine .concluded (hbefore.tasks ▸ htask) hphase (hbefore.correlator ▸ hwait) hresult ?_
      have hfinished : Still { r with correlator := r.correlator.finish wait }
          { r' with correlator := r'.correlator.finish wait } :=
        ⟨hbefore.tasks, congrArg (·.finish wait) hbefore.correlator, hbefore.started,
          hbefore.reports, hbefore.silent⟩
      exact h.after_still hfinished

theorem listens_await {r r' : Resolver} {own : List Message} {id : TaskId} {t : Task}
    {correlation : String} (hbefore : Background r own r')
    (hown : ∀ m ∈ own, m.envelope.correlation = correlation ∨
      ∃ ticket settings, t.phase = .fetching ticket m correlation settings)
    (hgiven : GivenOut r r' correlation ∨
      ∃ ticket m settings, t.phase = .fetching ticket m correlation settings)
    (settings : MetricSettings) :
    Listens r id t correlation (r'.await id t correlation settings) where
  given := hgiven
  tasks := by
    refine ⟨settings, ?_⟩
    rw [← hbefore.tasks, ← hbefore.correlator]
    rfl
  correlator := by
    refine ⟨r'.now, ?_⟩
    rw [← hbefore.correlator]
    rfl
  started := hbefore.started
  reports := hbefore.reports
  emits := by
    have hcounted := hbefore.trans (still_count r' Metrics.addFetchIssued).background
    rw [List.append_nil] at hcounted
    exact ⟨own, hcounted.emits, hown⟩

theorem effect_fetch {r : Resolver} {id : TaskId} {t : Task} (htask : r.tasks[id]? = some t)
    (hphase : t.phase = .starting) (key : String) (settings : MetricSettings) :
    Effect r (.task id) (r.fetch id t key settings) := by
  let correlation := r.common.freshId.2
  let r₁ := r.onCommon fun _ => r.common.freshId.1
  let m := r₁.fetchMessage t.request key correlation
  let r₂ : Resolver := { r₁ with pending := r₁.pending.insert correlation settings }
  have hbefore : Still r r₂ := (still_freshId r).trans (still_pending r₁ _)
  have hsent := hbefore.background.trans (background_send r₂ m)
  have hgiven : GivenOut r (r₂.onCommon fun _ => (r₂.common.send m).1) correlation :=
    ⟨r.common.issued, Nat.le_refl _, Nat.lt_succ_self _, rfl⟩
  have hsilent : Polling.taken m (r₂.common.send m).2 = [] →
      r₂.polling.Silent (r₂.onCommon fun _ => (r₂.common.send m).1).polling :=
    fun hnone => Polling.silent_sending hnone
  unfold Resolver.fetch
  dsimp only
  split
  next common hoffer =>
    replace hoffer : r₂.common.send m = (common, .accepted) := hoffer
    rw [hoffer] at hsent hgiven
    refine .listened htask (Or.inl hphase) (listens_await hsent ?_ (Or.inl hgiven) settings)
    intro m' hm'
    rw [List.mem_singleton.mp hm']
    exact Or.inl rfl
  next common ticket hoffer =>
    replace hoffer : r₂.common.send m = (common, .parked ticket) := hoffer
    rw [hoffer] at hgiven hsilent
    exact .parked htask hphase {
      given := hgiven
      tasks := ⟨ticket, m, settings, rfl, rfl⟩
      correlator := rfl
      started := rfl
      reports := rfl
      silent := hbefore.silent.trans (hsilent rfl) }
  next =>
    refine .left htask (by simp [hphase]) ?_
    exact (leaves_fail _ id t .channelClosed).after_still (hbefore.trans (still_pending r₂ _))

theorem effect_answer {r : Resolver} {id : TaskId} {t : Task} (htask : r.tasks[id]? = some t)
    (hphase : t.phase = .starting) (reply : Envelope) (resolution : Resolver.Resolution) :
    Effect r (.task id) (r.answer id t reply resolution) :=
  .left htask (by simp [hphase]) (leaves_answer r id t reply resolution)

theorem effect_miss {r : Resolver} {id : TaskId} {t : Task} (htask : r.tasks[id]? = some t)
    (hphase : t.phase = .starting) : Effect r (.task id) (r.miss id t) := by
  unfold Resolver.miss
  cases r.routes.key? t.request.containerKind with
  | none => exact effect_answer htask hphase _ _
  | some key =>
      have hbefore := still_subscribe r t.request key
      dsimp only
      cases hresult : r.subscribe t.request key with
      | mk r' result =>
          rw [hresult] at hbefore
          have htask' : r'.tasks[id]? = some t := hbefore.tasks ▸ htask
          cases result with
          | error e =>
              exact .left htask (by simp [hphase])
                ((leaves_fail r' id t e).after_still hbefore)
          | ok settings => exact (effect_fetch htask' hphase key settings).after hbefore

theorem effect_begin {r : Resolver} {id : TaskId} {t : Task} (htask : r.tasks[id]? = some t)
    (hphase : t.phase = .starting) : Effect r (.task id) (r.begin id t) := by
  unfold Resolver.begin
  cases r.collaborators.cachedValue r.now t.request.metric with
  | mk collaborators result =>
      have hbefore := still_collaborators r collaborators
      cases result with
      | error reason =>
          exact .left htask (by simp [hphase])
            ((leaves_fail _ id t (.cache reason)).after_still hbefore)
      | ok cached =>
          cases cached with
          | none =>
              refine Effect.after (hbefore.trans (still_count _ Metrics.addCacheMiss)) ?_
              exact effect_miss htask hphase
          | some body =>
              have hrefreshed := (hbefore.trans (still_count _ Metrics.addCacheHit)).trans
                (still_polling _ (Polling.silent_refresh _ t.request.metric))
              exact .left htask (by simp [hphase])
                ((leaves_answer _ id t _ .cached).after_still hrefreshed)

theorem leaves_giveUp (r : Resolver) (id : TaskId) (t : Task) (correlation : String)
    (e : GatewayError) : Leaves r id t (r.giveUp id t correlation e) := by
  have hbefore := still_pending r (r.pending.erase correlation)
  unfold Resolver.giveUp
  dsimp only
  split
  · exact (leaves_fail _ id t e).after_still
      ((hbefore.trans (still_count _ _)).trans (still_onCommon _ rfl rfl))
  · exact (leaves_fail _ id t e).after_still hbefore

theorem reported_giveUp (r : Resolver) (id : TaskId) (t : Task) (correlation : String)
    (e : GatewayError) :
    ∃ time, (time, id, Report.finished (.error e)) ∈ (r.giveUp id t correlation e).reports :=
  ⟨_, List.mem_cons_self⟩

theorem leaves_passOn (r : Resolver) (id : TaskId) (t : Task) (correlation : String)
    (settings : MetricSettings) (reply : Envelope) :
    Leaves r id t (r.passOn id t correlation settings reply) := by
  have hbefore := still_pending r (r.pending.erase correlation)
  unfold Resolver.passOn
  dsimp only
  split
  · split
    · exact (leaves_perish _ id t).after_still
        (hbefore.trans (still_collaborators _ _))
    · exact (leaves_answer _ id t reply _).after_still
        (hbefore.trans (still_collaborators _ _))
  · exact (leaves_answer _ id t reply _).after_still hbefore

theorem effect_fetching {r : Resolver} {id : TaskId} {t : Task} {ticket : Ticket} {m : Message}
    {correlation : String} {settings : MetricSettings} (htask : r.tasks[id]? = some t)
    (hphase : t.phase = .fetching ticket m correlation settings) :
    Effect r (.task id) (r.stepTask id) := by
  have hfetching : ∃ ticket m settings, t.phase = .fetching ticket m correlation settings :=
    ⟨ticket, m, settings, hphase⟩
  have hsent := background_resend r ticket m
  rw [Resolver.stepTask_fetching htask hphase]
  cases hoffer : r.common.resend ticket m with
  | mk common offer =>
      rw [hoffer] at hsent
      cases offer with
      | accepted =>
          refine .listened htask (Or.inr hfetching)
            (listens_await hsent ?_ (Or.inr hfetching) settings)
          intro m' hm'
          rw [List.mem_singleton.mp hm']
          exact Or.inr ⟨ticket, settings, hphase⟩
      | refused =>
          exact .left htask (by simp [hphase])
            ((leaves_fail _ id t .channelClosed).after_still (still_pending r _))
      | parked ticket => exact .background (still_refl r).background

theorem effect_awaiting {r : Resolver} {id : TaskId} {t : Task} {wait : WaitId}
    {correlation : String} {settings : MetricSettings} (htask : r.tasks[id]? = some t)
    (hphase : t.phase = .awaiting wait correlation settings) :
    Effect r (.task id) (r.stepTask id) := by
  rw [Resolver.stepTask_awaiting htask hphase]
  cases hresult : r.correlator.result? wait r.now with
  | none => exact .background (still_refl r).background
  | some result =>
      cases result with
      | ok reply =>
          rcases Correlator.result?_ok hresult with ⟨w, place, hwait, hslot⟩
          exact .concluded htask hphase hwait (Or.inl ⟨reply, place, hslot⟩)
            (leaves_passOn _ id t correlation settings reply)
      | error e =>
          rcases Correlator.result?_error hresult with ⟨w, hwait, htimeout⟩
          rw [htimeout]
          exact .concluded htask hphase hwait
            (Or.inr (reported_giveUp _ id t correlation _))
            (leaves_giveUp _ id t correlation _)

theorem effect_answering {r : Resolver} {id : TaskId} {t : Task} {ticket : Ticket} {m : Message}
    {resolution : Resolver.Resolution} (htask : r.tasks[id]? = some t)
    (hphase : t.phase = .answering ticket m resolution) :
    Effect r (.task id) (r.stepTask id) := by
  have hm : t.Answers m := Or.inl ⟨ticket, resolution, hphase⟩
  have hsent := background_resend r ticket m
  rw [Resolver.stepTask_answering htask hphase]
  cases hoffer : r.common.resend ticket m with
  | mk common offer =>
      rw [hoffer] at hsent
      cases offer with
      | accepted =>
          refine .left htask (by simp [hphase])
            ((leaves_complete _ id t resolution).after hsent ?_)
          intro m' hm'
          rw [List.mem_singleton.mp hm']
          exact hm
      | refused =>
          exact .left htask (by simp [hphase]) (leaves_fail r id t .channelClosed)
      | parked ticket => exact .background (still_refl r).background

theorem effect_stepTask (r : Resolver) (id : TaskId) : Effect r (.task id) (r.stepTask id) := by
  cases htask : r.tasks[id]? with
  | none =>
      rw [Resolver.stepTask_of_none htask]
      exact .background (still_refl r).background
  | some t =>
      cases hphase : t.phase with
      | starting =>
          rw [Resolver.stepTask_starting htask hphase]
          exact effect_begin htask hphase
      | fetching ticket m correlation settings => exact effect_fetching htask hphase
      | awaiting wait correlation settings => exact effect_awaiting htask hphase
      | answering ticket m resolution => exact effect_answering htask hphase

theorem route_frame (r : Resolver) (e : Envelope) :
    (r.route e).1.tasks = r.tasks ∧ (r.route e).1.started = r.started ∧
      (r.route e).1.reports = r.reports ∧ r.polling.Silent (r.route e).1.polling := by
  unfold Resolver.route
  split
  · exact ⟨rfl, rfl, rfl, (still_count r _).silent⟩
  · split
    · exact ⟨rfl, rfl, rfl, Polling.silent_refl r.polling⟩
    · exact ⟨rfl, rfl, rfl, (still_count _ _).silent⟩

/-!
## Acts
-/

theorem effect_dispatch (r : Resolver) (e : Envelope) :
    Effect r (.request (some e.correlation)) (r.dispatch e).1 := by
  unfold Resolver.dispatch
  split
  · exact .background (still_count r _).background
  · split
    · exact .background (still_refl r).background
    · exact .started _ (.outbox r.topology.responseExchange _ e.correlation) _

def Act.cause : Act → Cause
  | .step id => .task id
  | .route reply => .reply reply
  | .start _ requester _ => .request requester.correlation?
  | .dispatch e => .request (some e.correlation)
  | _ => .other

theorem effect_actOn (r : Resolver) (a : Act) : Effect r a.cause (actOn r a) := by
  cases a with
  | start request requester timeout => exact .started request requester timeout
  | dispatch request => exact effect_dispatch r request
  | step id => exact effect_stepTask r id
  | route reply => exact .routed reply
  | handlePoll history reply => exact .background (still_handlePoll r history reply).background
  | apply event => exact .background (still_apply r event).background
  | polling op => exact .background (background_polling r (Polling.emits_perform _ op))
  | collaborate collaborators => exact .background (still_collaborators r collaborators).background
  | setClock now => exact .background (still_onCommon r rfl rfl).background
  | take => exact .background (still_refl r).background
  | closeOutbox => exact .background (still_refl r).background

end Fetching
end MetricGateway
