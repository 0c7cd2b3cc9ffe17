import Mathlib.Data.List.Induction
import MetricGateway.Proofs.Fetching.Memory

/-!
# One answer, or a reason

The task of a request hands one answer to its requester and says so, or it ends with an error that
tells why there was none; the one error that comes after an answer is that of a requester that took
no answer.  Each course of a task says what the task has reported and what it has brought to the
outbox so far, every step leads from one course to another, and what others do changes none of them.
-/

namespace MetricGateway

/-- Whether the settings of a metric or of a container are not to be had. -/
def GatewayError.isSettings : GatewayError → Bool
  | .cache _ => true
  | .store _ => true
  | .notConfigured _ _ => true
  | _ => false

namespace Resolver

def Task.Phase.ahead : Task.Phase → Nat
  | .starting => 4
  | .fetching _ _ _ _ => 3
  | .awaiting _ _ _ => 2
  | .answering _ _ _ => 1

def ahead (r : Resolver) (id : TaskId) : Nat :=
  match r.tasks[id]? with
  | none => 0
  | some t => t.phase.ahead

end Resolver

namespace Fetching

open Resolver (TaskId Task Report Requester Resolution Desk Idle ahead reportsOf)

/-- Something was so when a task took a step. -/
def AtStep (P : Recorded Resolver → Prop) (s : Recorded Resolver) (id : TaskId)
    (acts : List Act) : Prop :=
  ∃ earlier later, acts = earlier ++ .step id :: later ∧ P (run s earlier)

inductive Failure (s : Recorded Resolver) (id : TaskId) (t : Task) : GatewayError → Prop where
  | lookup {reason : String} (hlookup : s.host.lookup t = .error reason) :
      Failure s id t (.cache reason)
  | subscription {key : String} {e : GatewayError} (hlookup : s.host.lookup t = .ok none)
      (hroute : s.host.routes.key? t.request.containerKind = some key)
      (hsettings : ((s.host.missed t).subscribe t.request key).2 = .error e)
      (hkind : e.isSettings = true) : Failure s id t e
  | publishing (hclosed : Closed s) : Failure s id t .channelClosed
  | timeout {wait : WaitId} {correlation : String} {settings : MetricSettings} {e : GatewayError}
      (htask : s.host.tasks[id]? = some { t with phase := .awaiting wait correlation settings })
      (hresult : s.host.correlator.result? wait s.host.now = some (.error e))
      (htimeout : e.isTimeout = true) : Failure s id t e

/-- A message that asks a translator for the metric of a request under an id. -/
def AsksFor (s : Recorded Resolver) (t : Task) (correlation : String) (m : Message) : Prop :=
  ∃ key, m = s.host.fetchMessage t.request key correlation

def AtMostOneFetch (s : Recorded Resolver) (t : Task) (ms : List Message) : Prop :=
  ms = [] ∨ ∃ correlation m, ms = [m] ∧ AsksFor s t correlation m

/-- What a task that has no answer yet has brought to the outbox. -/
inductive Asking (s : Recorded Resolver) (t : Task) : Task.Phase → List Message → Prop where
  | starting : Asking s t .starting []
  | fetching {ticket : Ticket} {m : Message} {correlation : String} {settings : MetricSettings}
      (hasks : AsksFor s t correlation m) :
      Asking s t (.fetching ticket m correlation settings) []
  | awaiting {wait : WaitId} {m : Message} {correlation : String} {settings : MetricSettings}
      (hasks : AsksFor s t correlation m) :
      Asking s t (.awaiting wait correlation settings) [m]

/-- How far the task of a request has got in a run, what it has reported, the last thing first, and
what it has brought to the outbox. -/
inductive Course (s : Recorded Resolver) (id : TaskId) (t : Task) (acts : List Act) : Prop where
  | asking {phase : Task.Phase} (htask : (run s acts).host.tasks[id]? = some { t with phase })
      (hreports : reportsOf (run s acts).host id = [])
      (hasking : Asking s t phase (sentBy id s acts))
  | answering {ticket : Ticket} {exchange key own : String} {reply : Envelope}
      {resolution : Resolution} (hrequester : t.requester = .outbox exchange key own)
      (htask : (run s acts).host.tasks[id]? = some { t with
        phase := .answering ticket { exchange, key, envelope := t.requester.addressed reply }
          resolution })
      (hreports : reportsOf (run s acts).host id = [.delivered (t.requester.addressed reply)])
      (hasked : AtMostOneFetch s t (sentBy id s acts))
  /-- The requester has got its answer, and the task has said so. -/
  | answered {reply : Envelope} {resolution : Resolution} {asked : List Message}
      (htask : (run s acts).host.tasks[id]? = none)
      (hreports : reportsOf (run s acts).host id =
        [.finished (.ok resolution), .delivered (t.requester.addressed reply)])
      (htakes : t.requester ≠ .gone) (hasked : AtMostOneFetch s t asked)
      (hsent : sentBy id s acts = asked ++ t.requester.letters (t.requester.addressed reply))
  | refused {reply : Envelope} (htask : (run s acts).host.tasks[id]? = none)
      (hreports : reportsOf (run s acts).host id =
        [.finished (.error .channelClosed), .delivered (t.requester.addressed reply)])
      (hrefuses : AtStep (Refuses · t.requester) s id acts)
      (hasked : AtMostOneFetch s t (sentBy id s acts))
  | failed {e : GatewayError} (htask : (run s acts).host.tasks[id]? = none)
      (hreports : reportsOf (run s acts).host id = [.finished (.error e)])
      (hfailure : AtStep (Failure · id t e) s id acts)
      (hasked : AtMostOneFetch s t (sentBy id s acts))
  | perished {reply : Envelope} (htask : (run s acts).host.tasks[id]? = none)
      (hreports : reportsOf (run s acts).host id = [])
      (hover : AtStep (fun s => Overruns s.host id reply) s id acts)
      (hasked : AtMostOneFetch s t (sentBy id s acts))

/-!
## Why subscribing fails
-/

theorem error_metricSettings {c : Collaborators} {metric : MetricId} {e : GatewayError}
    (h : (c.metricSettings metric).2 = .error e) : e.isSettings = true := by
  unfold Collaborators.metricSettings at h
  dsimp only at h
  split at h
  · cases h
    rfl
  · cases h
  · split at h <;> cases h <;> rfl

theorem error_containerInterval {c : Collaborators} {container : ContainerId} {e : GatewayError}
    (h : c.containerInterval container = .error e) : e.isSettings = true := by
  unfold Collaborators.containerInterval at h
  split at h
  · cases h
    rfl
  · cases h
    rfl
  · split at h <;> cases h
    rfl

theorem error_add {p : Pulling.Polling} {target : Pulling.Target} {metric : MetricId}
    {valueKind : ValueKind} {budget : UInt16} {e : GatewayError}
    (h : (p.add target metric valueKind budget).2 = .error e) : e.isSettings = true := by
  unfold Pulling.Polling.add Pulling.Registry.add at h
  by_cases hzero : target.interval.wholeMillis = 0
  · rw [if_pos hzero] at h
    cases h
    rfl
  · rw [if_neg hzero] at h
    cases h

theorem error_subscribe {r : Resolver} {request : MetricRequest} {key : String} {e : GatewayError}
    (h : (r.subscribe request key).2 = .error e) : e.isSettings = true := by
  unfold Resolver.subscribe at h
  split at h
  next hsettings =>
    cases h
    exact error_metricSettings (congrArg Prod.snd hsettings)
  next collaborators settings _ =>
    dsimp only at h
    split at h
    next hinterval =>
      cases h
      exact error_containerInterval hinterval
    next =>
      split at h
      next hadd =>
        cases h
        exact error_add (congrArg Prod.snd hadd)
      next => cases h

/-!
## Courses of tasks that are there
-/

variable {s : Recorded Resolver} {id : TaskId} {t x : Task} {acts : List Act}

theorem AtStep.append {P : Recorded Resolver → Prop} (h : AtStep P s id acts) (more : List Act) :
    AtStep P s id (acts ++ more) := by
  rcases h with ⟨earlier, later, rfl, hp⟩
  exact ⟨earlier, later ++ more, by rw [List.append_assoc, List.cons_append], hp⟩

theorem atStep_concat {P : Recorded Resolver → Prop} (h : P (run s acts)) :
    AtStep P s id (acts ++ [.step id]) :=
  ⟨acts, [], rfl, h⟩

theorem atMostOneFetch_nil (s : Recorded Resolver) (t : Task) : AtMostOneFetch s t [] := Or.inl rfl

theorem AsksFor.atMostOneFetch {correlation : String} {m : Message}
    (h : AsksFor s t correlation m) : AtMostOneFetch s t [m] :=
  Or.inr ⟨correlation, m, rfl, h⟩

namespace Course

variable (h : Course s id t acts) (hx : (run s acts).host.tasks[id]? = some x)
include h hx

theorem unanswered (hphase : ∀ ticket m resolution, x.phase ≠ .answering ticket m resolution) :
    x = { t with phase := x.phase } ∧ reportsOf (run s acts).host id = [] ∧
      Asking s t x.phase (sentBy id s acts) := by
  cases h with
  | asking htask hreports hasking =>
      cases htask.symm.trans hx
      exact ⟨rfl, hreports, hasking⟩
  | answering hrequester htask =>
      cases htask.symm.trans hx
      exact absurd rfl (hphase _ _ _)
  | answered htask => cases htask.symm.trans hx
  | refused htask => cases htask.symm.trans hx
  | failed htask => cases htask.symm.trans hx
  | perished htask => cases htask.symm.trans hx

theorem at_starting (hphase : x.phase = .starting) :
    x = { t with phase := .starting } ∧ reportsOf (run s acts).host id = [] ∧
      sentBy id s acts = [] := by
  rcases h.unanswered hx (by simp [hphase]) with ⟨heq, hreports, hasking⟩
  rw [hphase] at heq hasking
  refine ⟨heq, hreports, ?_⟩
  generalize sentBy id s acts = sent at hasking
  cases hasking
  rfl

theorem at_fetching {ticket : Ticket} {m : Message} {correlation : String}
    {settings : MetricSettings} (hphase : x.phase = .fetching ticket m correlation settings) :
    x = { t with phase := .fetching ticket m correlation settings } ∧
      reportsOf (run s acts).host id = [] ∧ sentBy id s acts = [] ∧
      AsksFor s t correlation m := by
  rcases h.unanswered hx (by simp [hphase]) with ⟨heq, hreports, hasking⟩
  rw [hphase] at heq hasking
  refine ⟨heq, hreports, ?_⟩
  generalize sentBy id s acts = sent at hasking
  cases hasking with
  | fetching hasks => exact ⟨rfl, hasks⟩

theorem at_awaiting {wait : WaitId} {correlation : String} {settings : MetricSettings}
    (hphase : x.phase = .awaiting wait correlation settings) :
    x = { t with phase := .awaiting wait correlation settings } ∧
      reportsOf (run s acts).host id = [] ∧ AtMostOneFetch s t (sentBy id s acts) := by
  rcases h.unanswered hx (by simp [hphase]) with ⟨heq, hreports, hasking⟩
  rw [hphase] at heq hasking
  refine ⟨heq, hreports, ?_⟩
  generalize sentBy id s acts = sent at hasking
  cases hasking with
  | awaiting hasks => exact hasks.atMostOneFetch

theorem at_answering {ticket : Ticket} {m : Message} {resolution : Resolution}
    (hphase : x.phase = .answering ticket m resolution) :
    x = { t with phase := .answering ticket m resolution } ∧
      ∃ exchange key own reply, t.requester = .outbox exchange key own ∧
        m = { exchange, key, envelope := t.requester.addressed reply } ∧
        reportsOf (run s acts).host id = [.delivered (t.requester.addressed reply)] ∧
        AtMostOneFetch s t (sentBy id s acts) := by
  cases h with
  | asking htask hreports hasking =>
      cases htask.symm.trans hx
      cases hphase
      generalize sentBy id s acts = sent at hasking
      cases hasking
  | answering hrequester htask hreports hasked =>
      cases htask.symm.trans hx
      cases hphase
      exact ⟨rfl, _, _, _, _, hrequester, rfl, hreports, hasked⟩
  | answered htask => cases htask.symm.trans hx
  | refused htask => cases htask.symm.trans hx
  | failed htask => cases htask.symm.trans hx
  | perished htask => cases htask.symm.trans hx

end Course

/-!
## Steps
-/

theorem run_concat (s : Recorded Resolver) (acts : List Act) (a : Act) :
    run s (acts ++ [a]) = act (run s acts) a :=
  run_append s acts [a]

theorem Course.frame (h : Course s id t acts) {a : Act}
    (htask : (act (run s acts) a).host.tasks[id]? = (run s acts).host.tasks[id]?)
    (hreports : reportsOf (act (run s acts) a).host id = reportsOf (run s acts).host id)
    (hsent : sentBy id s (acts ++ [a]) = sentBy id s acts) : Course s id t (acts ++ [a]) := by
  have hrun := run_concat s acts a
  rw [← hrun] at htask hreports
  cases h with
  | asking htask' hreports' hasking =>
      exact .asking (htask.trans htask') (hreports.trans hreports') (hsent ▸ hasking)
  | answering hrequester htask' hreports' hasked =>
      exact .answering hrequester (htask.trans htask') (hreports.trans hreports') (hsent ▸ hasked)
  | answered htask' hreports' htakes hasked hsent' =>
      exact .answered (htask.trans htask') (hreports.trans hreports') htakes hasked
        (hsent.trans hsent')
  | refused htask' hreports' hrefuses hasked =>
      exact .refused (htask.trans htask') (hreports.trans hreports') (hrefuses.append [a])
        (hsent ▸ hasked)
  | failed htask' hreports' hfailure hasked =>
      exact .failed (htask.trans htask') (hreports.trans hreports') (hfailure.append [a])
        (hsent ▸ hasked)
  | perished htask' hreports' hover hasked =>
      exact .perished (htask.trans htask') (hreports.trans hreports') (hover.append [a])
        (hsent ▸ hasked)

section

variable {d : Desk} {new : List Report} {own : List Message}

/-- What is known of a task after a step of its own. -/
structure Stepped (s : Recorded Resolver) (id : TaskId) (acts : List Act) (d : Desk)
    (new : List Report) (own : List Message) : Prop where
  task : (run s (acts ++ [.step id])).host.tasks[id]? = d.tasks[id]?
  reports : reportsOf (run s (acts ++ [.step id])).host id =
    new ++ reportsOf (run s acts).host id
  sent : sentBy id s (acts ++ [.step id]) = sentBy id s acts ++ own

theorem stepped_of_yields
    (h : Yields (run s acts).host id (act (run s acts) (.step id)).host d new own) :
    Stepped s id acts d new own where
  task := by
    rw [run_concat, ← h.desk]
    rfl
  reports := by
    rw [run_concat]
    exact h.reports
  sent := by
    rw [sentBy_append, sentBy_step, sentIn_of_append h.sent]

/-- A task that was to answer has handed its answer to the requester, or waits for room. -/
theorem course_of_handing {d : Desk} {left : Option Task} {phase : Task.Phase} {reply : Envelope}
    {resolution : Resolution} (hasked : AtMostOneFetch s t (sentBy id s acts))
    (hreports : reportsOf (run s acts).host id = [])
    (hhanded : Handing (run s acts) { t with phase } reply resolution left new own)
    (hstepped : Stepped s id acts (d.set id left) new own) :
    Course s id t (acts ++ [.step id]) := by
  have htask := hstepped.task
  have hreported := hstepped.reports
  have hsent := hstepped.sent
  rw [Desk.tasks_set, if_pos rfl] at htask
  rw [hreports, List.append_nil] at hreported
  cases hhanded with
  | taken htakes => exact .answered htask hreported htakes hasked hsent
  | parked hrequester ticket =>
      exact .answering hrequester htask hreported (hsent ▸ (List.append_nil _).symm ▸ hasked)
  | refused hrefuses =>
      exact .refused htask hreported (atStep_concat hrefuses)
        (hsent ▸ (List.append_nil _).symm ▸ hasked)

theorem course_of_failure {e : GatewayError} (hasked : AtMostOneFetch s t (sentBy id s acts))
    (hreports : reportsOf (run s acts).host id = []) (hfailure : Failure (run s acts) id t e)
    (hstepped : Stepped s id acts (d.set id none) [.finished (.error e)] []) :
    Course s id t (acts ++ [.step id]) := by
  have htask := hstepped.task
  have hreported := hstepped.reports
  have hsent := hstepped.sent
  rw [Desk.tasks_set, if_pos rfl] at htask
  rw [hreports, List.append_nil] at hreported
  rw [List.append_nil] at hsent
  exact .failed htask hreported (atStep_concat hfailure) (hsent ▸ hasked)

theorem course_of_asking {phase : Task.Phase} (hreports : reportsOf (run s acts).host id = [])
    (hstepped : Stepped s id acts (d.set id (some { t with phase })) [] own)
    (hasking : Asking s t phase (sentBy id s acts ++ own)) :
    Course s id t (acts ++ [.step id]) := by
  have htask := hstepped.task
  have hreported := hstepped.reports
  rw [Desk.tasks_set, if_pos rfl] at htask
  rw [hreports] at hreported
  exact .asking htask hreported (hstepped.sent ▸ hasking)

theorem asksFor_run (key correlation : String) :
    AsksFor s t correlation ((run s acts).host.fetchMessage t.request key correlation) :=
  ⟨key, Resolver.fetchMessage_of_setup (setup_run s acts) _ _ _⟩

theorem Course.turn (h : Course s id t acts) (hx : (run s acts).host.tasks[id]? = some x)
    (hturn : Turn (run s acts) id x d new own) (hstepped : Stepped s id acts d new own) :
    Course s id t (acts ++ [.step id]) := by
  cases hturn with
  | idle =>
      refine h.frame ?_ ?_ ?_
      · exact (run_concat s acts _ ▸ hstepped.task)
      · exact (run_concat s acts _ ▸ hstepped.reports)
      · exact hstepped.sent.trans (List.append_nil _)
  | lookupFailed hphase hlookup =>
      rcases h.at_starting hx hphase with ⟨rfl, hreports, hsent⟩
      exact course_of_failure (hsent ▸ atMostOneFetch_nil s t) hreports (.lookup hlookup) hstepped
  | hit hphase _ hhanded =>
      rcases h.at_starting hx hphase with ⟨rfl, hreports, hsent⟩
      exact course_of_handing (hsent ▸ atMostOneFetch_nil s t) hreports hhanded hstepped
  | unrouted hphase _ _ hhanded =>
      rcases h.at_starting hx hphase with ⟨rfl, hreports, hsent⟩
      exact course_of_handing (hsent ▸ atMostOneFetch_nil s t) hreports hhanded hstepped
  | unconfigured hphase hlookup hroute hsettings =>
      rcases h.at_starting hx hphase with ⟨rfl, hreports, hsent⟩
      exact course_of_failure (hsent ▸ atMostOneFetch_nil s t) hreports
        (.subscription hlookup hroute hsettings (error_subscribe hsettings)) hstepped
  | parked ticket hwants =>
      rcases h.at_starting hx hwants.phase with ⟨rfl, hreports, hsent⟩
      refine course_of_asking hreports hstepped ?_
      rw [hsent]
      exact .fetching (asksFor_run _ _)
  | sent hwants =>
      rcases h.at_starting hx hwants.phase with ⟨rfl, hreports, hsent⟩
      refine course_of_asking hreports hstepped ?_
      rw [hsent]
      exact .awaiting (asksFor_run _ _)
  | refused hwants _ hclosed =>
      rcases h.at_starting hx hwants.phase with ⟨rfl, hreports, hsent⟩
      exact course_of_failure (hsent ▸ atMostOneFetch_nil s t) hreports (.publishing hclosed)
        hstepped
  | resumed hphase =>
      rcases h.at_fetching hx hphase with ⟨rfl, hreports, hsent, hasks⟩
      refine course_of_asking hreports hstepped ?_
      rw [hsent]
      exact .awaiting hasks
  | dropped hphase hclosed =>
      rcases h.at_fetching hx hphase with ⟨rfl, hreports, hsent, _⟩
      exact course_of_failure (hsent ▸ atMostOneFetch_nil s t) hreports (.publishing hclosed)
        hstepped
  | timedOut hphase hresult htimeout =>
      rcases h.at_awaiting hx hphase with ⟨rfl, hreports, hasked⟩
      exact course_of_failure hasked hreports (.timeout hx hresult htimeout) hstepped
  | perished hphase _ hover =>
      rcases h.at_awaiting hx hphase with ⟨rfl, hreports, hasked⟩
      have htask := hstepped.task
      have hreported := hstepped.reports
      have hsent := hstepped.sent
      rw [Desk.tasks_set, if_pos rfl] at htask
      rw [List.append_nil] at hsent
      exact .perished htask (hreported.trans hreports)
        (atStep_concat (P := fun s => Overruns s.host id _) hover) (hsent ▸ hasked)
  | passedOn hphase _ hhanded =>
      rcases h.at_awaiting hx hphase with ⟨rfl, hreports, hasked⟩
      exact course_of_handing hasked hreports hhanded hstepped
  | answered hphase =>
      rcases h.at_answering hx hphase with
        ⟨rfl, exchange, key, own, reply, hrequester, rfl, hreports, hasked⟩
      have htask := hstepped.task
      have hreported := hstepped.reports
      rw [Desk.tasks_set, if_pos rfl] at htask
      rw [hreports] at hreported
      refine .answered htask hreported (by simp [hrequester]) hasked ?_
      rw [hstepped.sent, hrequester]
      rfl
  | unanswered hphase hclosed =>
      rcases h.at_answering hx hphase with
        ⟨rfl, exchange, key, own, reply, hrequester, rfl, hreports, hasked⟩
      have htask := hstepped.task
      have hreported := hstepped.reports
      have hsent := hstepped.sent
      rw [Desk.tasks_set, if_pos rfl] at htask
      rw [hreports] at hreported
      rw [List.append_nil] at hsent
      have hrefuses : Refuses (run s acts) t.requester := by
        rw [hrequester]
        exact hclosed
      exact .refused htask hreported (atStep_concat hrefuses) (hsent ▸ hasked)

theorem Turn.ahead_lt (h : Turn s id t d new own) (hready : s.host.taskReady id = true) :
    (match d.tasks[id]? with
      | none => 0
      | some x => x.phase.ahead) < t.phase.ahead := by
  have hhanded : ∀ {d : Desk} {reply : Envelope} {resolution : Resolution} {left : Option Task},
      1 < t.phase.ahead → Handing s t reply resolution left new own →
      (match (d.set id left).tasks[id]? with
        | none => 0
        | some x => x.phase.ahead) < t.phase.ahead := by
    intro d reply resolution left hahead hhanded
    rw [Desk.tasks_set, if_pos rfl]
    cases hhanded with
    | taken => exact Nat.zero_lt_of_lt hahead
    | parked => exact hahead
    | refused => exact Nat.zero_lt_of_lt hahead
  cases h with
  | idle _ hwaits => simp [hwaits] at hready
  | hit hphase _ hhanding => exact hhanded (by simp [hphase, Task.Phase.ahead]) hhanding
  | unrouted hphase _ _ hhanding => exact hhanded (by simp [hphase, Task.Phase.ahead]) hhanding
  | passedOn hphase _ hhanding => exact hhanded (by simp [hphase, Task.Phase.ahead]) hhanding
  | parked _ hwants =>
      rw [Desk.tasks_set, if_pos rfl, hwants.phase]
      simp [Task.Phase.ahead]
  | sent hwants =>
      rw [Desk.tasks_set, if_pos rfl, hwants.phase]
      simp [Task.Phase.ahead]
  | refused hwants =>
      rw [Desk.tasks_set, if_pos rfl, hwants.phase]
      simp [Task.Phase.ahead]
  | _ hphase =>
      rw [Desk.tasks_set, if_pos rfl, hphase]
      simp [Task.Phase.ahead]

end

/-!
## Runs
-/

theorem reportsOf_act_of_ne {s : Recorded Resolver} {id : TaskId} {a : Act} (ha : a ≠ .step id) :
    reportsOf (act s a).host id = reportsOf s.host id := by
  have hcause : a.cause ≠ .task id := fun hcause => ha (Act.eq_step hcause)
  rcases act_cases s a with heq | rfl | rfl
  · rw [heq]
    exact (effect_actOn s.host a).reportsOf_of_ne hcause
  · rcases sameButOutbox_take s with ⟨outbox, heq⟩
    rw [heq]
    rfl
  · rfl

theorem Course.step (h : Course s id t acts) : Course s id t (acts ++ [.step id]) := by
  cases hx : (run s acts).host.tasks[id]? with
  | none =>
      have hsame : act (run s acts) (.step id) = run s acts :=
        congrArg (fun host => { run s acts with host }) (Resolver.stepTask_of_none hx)
      have hsent : sentIn (run s acts) (.step id) = [] := by
        apply sentIn_of_append
        rw [hsame, List.append_nil]
      refine h.frame ?_ ?_ ?_
      · rw [hsame]
      · rw [hsame]
      · rw [sentBy_append, sentBy_step, hsent, List.append_nil]
  | some x =>
      rcases turn_stepTask hx with ⟨d, new, own, hturn, hyields⟩
      exact h.turn hx hturn (stepped_of_yields hyields)

theorem Course.act (h : Course s id t acts) (hid : id < (run s acts).host.started) (a : Act) :
    Course s id t (acts ++ [a]) := by
  by_cases ha : a = .step id
  · subst ha
    exact h.step
  · refine h.frame (tasks_act_of_ne hid ha) (reportsOf_act_of_ne ha) ?_
    rw [sentBy_append, sentBy_of_ne ha, List.append_nil]

theorem course_run {s : Recorded Resolver} (hcorrelated : Correlated s.host)
    (hunreported : Unreported s.host) (htask : s.host.tasks[id]? = some t)
    (hphase : t.phase = .starting) (acts : List Act) :
    id < (run s acts).host.started ∧ Course s id t acts := by
  induction acts using List.reverseRecOn with
  | nil =>
      have hstarting : s.host.tasks[id]? = some { t with phase := .starting } := by
        rw [← hphase]
        exact htask
      refine ⟨hcorrelated.task_lt htask, .asking hstarting ?_ .starting⟩
      exact hunreported.reportsOf_eq_nil htask (by simp [hphase])
  | append_singleton acts a ih =>
      refine ⟨?_, ih.2.act ih.1 a⟩
      rw [run_concat]
      exact Nat.lt_of_lt_of_le ih.1 (started_act _ a)

theorem ahead_step_lt (hready : s.host.taskReady id = true) :
    ahead (act s (.step id)).host id < ahead s.host id := by
  cases htask : s.host.tasks[id]? with
  | none =>
      unfold Resolver.taskReady at hready
      rw [htask] at hready
      cases hready
  | some t =>
      rcases turn_stepTask htask with ⟨d, new, own, hturn, hyields⟩
      have hlt := hturn.ahead_lt hready
      rw [← hyields.desk] at hlt
      show ahead (act s (.step id)).host id < _
      unfold ahead
      rw [htask]
      exact hlt

/-!
## Nothing is left of the id
-/

def Given (s : Recorded Resolver) (id : TaskId) (acts : List Act) (correlation : String) : Prop :=
  AtStep (fun s => GivenOut s.host (act s (.step id)).host correlation) s id acts

theorem Given.carries {correlation : String} (h : Given s id acts correlation)
    (hcorrelated : Correlated s.host) {other : TaskId}
    (hcarries : (run s acts).host.Carries other correlation) : other = id := by
  rcases h with ⟨earlier, later, rfl, hgiven⟩
  have hbefore := correlated_run hcorrelated earlier
  have hnot := hbefore.not_carries_of_given hgiven other
  rcases hgiven with ⟨n, _, hn, rfl⟩
  have hsplit : run s (earlier ++ .step id :: later) = run (act (run s earlier) (.step id)) later :=
    run_append s earlier _
  rw [hsplit] at hcarries
  rcases carries_run hn later hcarries with ⟨x, hx, hid⟩
  by_cases hsame : other = id
  · exact hsame
  have hcause : (Act.step id).cause ≠ .task other := by
    intro hcause
    cases hcause
    exact hsame rfl
  rcases hbefore.task_of_ne (effect_actOn (run s earlier).host (.step id)) hcause hx with
    hold | hstarting
  · exact absurd ⟨x, hold, hid⟩ hnot
  · rw [hstarting] at hid
    cases hid

theorem Given.forgotten {correlation : String} (h : Given s id acts correlation)
    (hcorrelated : Correlated s.host) (hremembers : s.host.desk.Remembers)
    (hgone : (run s acts).host.tasks[id]? = none) :
    correlation ∉ (run s acts).host.pending ∧
      correlation ∉ (run s acts).host.correlator.registered := by
  have hfree : ∀ other, ¬(run s acts).host.Carries other correlation := by
    intro other hcarries
    have heq := h.carries hcorrelated hcarries
    subst heq
    rcases hcarries with ⟨x, hx, _⟩
    rw [hgone] at hx
    cases hx
  constructor
  · intro hmem
    rcases (remembers_run hremembers hcorrelated acts correlation).mp hmem with ⟨other, hcarries⟩
    exact hfree other hcarries
  · intro hmem
    rcases exists_lookup_of_mem hmem with ⟨reg, hreg⟩
    rcases (correlated_run hcorrelated acts).registered hreg with ⟨other, x, settings, hx, hphase⟩
    exact hfree other (carries_of_awaiting hx hphase)

/-- Whatever happens after a request has come in, its task is on one of the courses: it has handed
at most one answer to its requester; it has finished without an error if the requester has got this
answer, and only then; its error, if it has one, tells that the requester did not take the answer,
or there was no answer and the error is that of the cache, the store, the settings, the outbox or
the wait for the reply.  Each step that the task is ready for brings it nearer to its end.  Once it
has ended, and ever after, neither settings nor a wait are left under an id that it was given. -/
theorem answered_once_or_failed {start : Recorded Resolver} (hidle : start.host.Idle)
    (before : List Act) {id : TaskId} {t : Task}
    (htask : (run start before).host.tasks[id]? = some t) (hphase : t.phase = .starting)
    (after : List Act) :
    let s := run start before
    let s' := run s after
    Course s id t after ∧
      (s'.host.taskReady id = true → ahead (act s' (.step id)).host id < ahead s'.host id) ∧
      (s'.host.tasks[id]? = none → ∀ correlation, Given s id after correlation →
        correlation ∉ s'.host.pending ∧ correlation ∉ s'.host.correlator.registered) := by
  intro s s'
  have hbegan := correlated_of_idle hidle
  have hcorrelated : Correlated s.host := correlated_run hbegan before
  have hunreported : Unreported s.host := unreported_run (unreported_of_idle hidle) hbegan before
  have hremembers : s.host.desk.Remembers := remembers_run (remembers_of_idle hidle) hbegan before
  refine ⟨(course_run hcorrelated hunreported htask hphase after).2, ahead_step_lt, ?_⟩
  intro hgone correlation hgiven
  exact hgiven.forgotten hcorrelated hremembers hgone

def freshRequest : Recorded Resolver :=
  run unasked [.start Resolver.temperature .caller (Duration.ofSecs 5)]

def servedFetch : List Act := [.step 0, .take, .route firstReply, .step 0]

theorem answered_once_or_failed_caller :
    reportsOf (run freshRequest servedFetch).host 0 =
        [.finished (.ok (.fetched .ok)), .delivered firstReply] ∧
      Given freshRequest 0 servedFetch (Correlation.id 0) ∧
      Correlation.id 0 ∉ (run freshRequest servedFetch).host.pending ∧
      Correlation.id 0 ∉ (run freshRequest servedFetch).host.correlator.registered := by
  let t : Task := {
    request := Resolver.temperature
    requester := .caller
    timeout := Duration.ofSecs 5
    startedAt := .start }
  have hidle : unasked.host.Idle := ⟨rfl, rfl, rfl, rfl, rfl⟩
  have htask : freshRequest.host.tasks[0]? = some t := rfl
  have hgiven : Given freshRequest 0 servedFetch (Correlation.id 0) :=
    ⟨[], _, rfl, 0, Nat.le_refl 0, by decide +kernel, rfl⟩
  have hgone : (run freshRequest servedFetch).host.tasks[0]? = none := rfl
  rcases answered_once_or_failed hidle _ htask rfl servedFetch with ⟨_, _, hforgotten⟩
  exact ⟨rfl, hgiven, hforgotten hgone _ hgiven⟩

end Fetching
end MetricGateway
