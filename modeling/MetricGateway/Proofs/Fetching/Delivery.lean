import MetricGateway.Proofs.Fetching.Reports
import MetricGateway.Proofs.Fetching.Unanswered

/-!
# From the reply to the end of a task

A reply that has reached the wait of a task is the task's to pass on.  The task takes it up in its
next step, for which it is ready: it hands the answer to its requester and ends, or it waits for
room in the outbox and ends with the step after that.  Whatever else happens in between neither
delays nor changes this.
-/

namespace MetricGateway
namespace Resolver

def Requester.addressed (requester : Requester) (reply : Envelope) : Envelope :=
  match requester with
  | .outbox _ _ correlation => reply.withCorrelation correlation
  | _ => reply

/-- The number of steps that a task with a reply has still to take. -/
def stepsLeft (r : Resolver) (id : TaskId) : Nat :=
  match r.tasks[id]? with
  | none => 0
  | some t =>
      match t.phase with
      | .answering _ _ _ => 1
      | _ => 2

end Resolver

namespace Fetching

open Pulling (Polling)
open Resolver (TaskId Task Report Requester reportsOf stepsLeft)

/-- A reply has got to a requester: to a caller when it is handed to it, and to the broker when the
outbox has taken it. -/
def Reached (s : Recorded Resolver) (reply : Envelope) : Requester → Prop
  | .caller => True
  | .outbox exchange key correlation =>
      Brought s { exchange, key, envelope := reply.withCorrelation correlation }
  | .gone => False

/-- A requester takes no answers any more. -/
def Refuses (s : Recorded Resolver) : Requester → Prop
  | .caller => False
  | .outbox _ _ _ => Closed s
  | .gone => True

/-- A task is about to cache its reply for a time that would run past the end of the clock. -/
def Overruns (r : Resolver) (id : TaskId) (reply : Envelope) : Prop :=
  reply.status.isOk = true ∧ r.collaborators.fails .cacheSet = false ∧
    ∃ (t : Task) (wait : WaitId) (correlation : String) (settings : MetricSettings),
      r.tasks[id]? = some t ∧ t.phase = .awaiting wait correlation settings ∧
      r.now.later? ((r.pending[correlation]?).getD settings).cacheFor = none

/-- How far a task has got with a reply to its fetch.  `reached` says whether its requester has got
the reply. -/
inductive Served (id : TaskId) (requester : Requester) (correlation : String) (reply : Envelope)
    (reached : Prop) (s : Recorded Resolver) : Prop where
  | handed {t : Task} {wait : WaitId} {settings : MetricSettings}
      (htask : s.host.tasks[id]? = some t) (hrequester : t.requester = requester)
      (hphase : t.phase = .awaiting wait correlation settings)
      (hwait : s.host.correlator.Handed wait correlation reply)
      (hready : s.host.taskReady id = true) (hreports : reportsOf s.host id = [])
  | answering {t : Task} {ticket : Ticket} {exchange key own : String}
      (htask : s.host.tasks[id]? = some t) (hrequester : requester = .outbox exchange key own)
      (hphase : t.phase =
        .answering ticket { exchange, key, envelope := reply.withCorrelation own }
          (.fetched reply.status))
      (hreports : reportsOf s.host id = [.delivered (requester.addressed reply)])
  | fetched (htask : s.host.tasks[id]? = none)
      (hreports : reportsOf s.host id =
        [.finished (.ok (.fetched reply.status)), .delivered (requester.addressed reply)])
      (hreached : reached)
  | refused (htask : s.host.tasks[id]? = none)
      (hreports : reportsOf s.host id =
        [.finished (.error .channelClosed), .delivered (requester.addressed reply)])
      (hrefuses : Refuses s requester)

/-!
## Answers
-/

theorem reportsOf_complete (r : Resolver) (id : TaskId) (t : Task)
    (resolution : Resolver.Resolution) :
    reportsOf (r.complete id t resolution) id =
      .finished (.ok resolution) :: reportsOf r id := by
  unfold Resolver.complete
  dsimp only
  rw [reportsOf_report]
  split <;> rfl

theorem complete_frame (r : Resolver) (id : TaskId) (t : Task) (resolution : Resolver.Resolution) :
    (r.complete id t resolution).tasks = r.tasks.erase id ∧
      (r.complete id t resolution).common.outbox = r.common.outbox := by
  unfold Resolver.complete
  dsimp only
  split <;> exact ⟨rfl, rfl⟩

theorem send_eq_refused_iff {c : Commons} {m : Message} :
    (c.send m).2 = .refused ↔ c.outbox.closed = true := by
  show (c.outbox.offer m).2 = .refused ↔ _
  unfold Mailbox.offer
  split
  next hclosed => exact iff_of_true rfl hclosed
  next hopen => split <;> exact iff_of_false nofun hopen

theorem resend_eq_refused_iff {c : Commons} {ticket : Ticket} {m : Message} :
    (c.resend ticket m).2 = .refused ↔ c.outbox.closed = true := by
  show (c.outbox.retry ticket m).2 = .refused ↔ _
  unfold Mailbox.retry
  split
  next hclosed => exact iff_of_true rfl hclosed
  next hopen => split <;> exact iff_of_false nofun hopen

theorem erased (r : Resolver) (id : TaskId) : (r.tasks.erase id)[id]? = none :=
  Std.ExtTreeMap.getElem?_erase_self

theorem served_complete {s : Recorded Resolver} {r : Resolver} {id : TaskId} {t : Task}
    {requester : Requester} {reply : Envelope} (correlation : String)
    (hreports : reportsOf r id = [.delivered (requester.addressed reply)])
    (hreached : Reached { s with host := r } reply requester) :
    Served id requester correlation reply
      (Reached { s with host := r.complete id t (.fetched reply.status) } reply requester)
      { s with host := r.complete id t (.fetched reply.status) } := by
  rcases complete_frame r id t (.fetched reply.status) with ⟨htasks, houtbox⟩
  refine .fetched ?_ ?_ ?_
  · dsimp only
    rw [htasks]
    exact erased r id
  · rw [reportsOf_complete, hreports]
  · cases requester with
    | caller => trivial
    | gone => exact hreached
    | outbox exchange key own =>
        unfold Reached Brought at hreached ⊢
        dsimp only
        rw [houtbox]
        exact hreached

theorem served_fail {s : Recorded Resolver} {r : Resolver} {id : TaskId} {requester : Requester}
    {reply : Envelope} (correlation : String) (reached : Prop)
    (hreports : reportsOf r id = [.delivered (requester.addressed reply)])
    (hrefuses : Refuses { s with host := r } requester) :
    Served id requester correlation reply reached { s with host := r.fail id .channelClosed } := by
  refine .refused (erased r id) ?_ hrefuses
  show reportsOf ((r.perish id).report id _) id = _
  rw [reportsOf_report]
  exact congrArg _ hreports

theorem served_answer {s : Recorded Resolver} {r : Resolver} {id : TaskId} {t : Task}
    {reply : Envelope} (correlation : String) (hreports : reportsOf r id = []) :
    Served id t.requester correlation reply
      (Reached { s with host := r.answer id t reply (.fetched reply.status) } reply t.requester)
      { s with host := r.answer id t reply (.fetched reply.status) } := by
  have hreports' : ∀ answer : Envelope,
      reportsOf (r.report id (.delivered answer)) id = [.delivered answer] := by
    intro answer
    rw [reportsOf_report, hreports]
  unfold Resolver.answer
  cases hrequester : t.requester with
  | caller => exact served_complete correlation (hreports' reply) trivial
  | gone => exact served_fail correlation _ (hreports' reply) trivial
  | outbox exchange key own =>
      have hdelivered := hreports' (reply.withCorrelation own)
      dsimp only
      generalize r.report id (.delivered (reply.withCorrelation own)) = r' at hdelivered ⊢
      let m : Message := { exchange, key, envelope := reply.withCorrelation own }
      have hsent := background_send r' m
      have hclosed : (r'.common.send m).2 = .refused → r'.common.outbox.closed = true :=
        send_eq_refused_iff.mp
      cases hoffer : r'.common.send m with
      | mk common offer =>
          rw [hoffer] at hsent hclosed
          cases offer with
          | accepted =>
              refine served_complete correlation hdelivered ?_
              exact brought_of_own (s := { s with host := r' }) hsent.emits List.mem_cons_self
          | parked ticket =>
              exact .answering Std.ExtTreeMap.getElem?_insert_self rfl rfl hdelivered
          | refused => exact served_fail correlation _ hdelivered (hclosed rfl)

/-!
## Steps of the task
-/

theorem fatal_iff {c : Collaborators} {now : Instant} {metric : MetricId} {body : Wire.Bytes}
    {ttl : Duration} : (c.cacheValue now metric body ttl).2 = .fatal ↔
      c.fails .cacheSet = false ∧ now.later? ttl = none := by
  unfold Collaborators.cacheValue Cache.set
  cases c.fails .cacheSet <;> cases now.later? ttl <;> simp

theorem taskReady_of_handed {r : Resolver} {id : TaskId} {t : Task} {wait : WaitId}
    {correlation : String} {settings : MetricSettings} {reply : Envelope}
    (htask : r.tasks[id]? = some t) (hphase : t.phase = .awaiting wait correlation settings)
    (hwait : r.correlator.Handed wait correlation reply) : r.taskReady id = true := by
  unfold Resolver.taskReady
  rw [htask]
  dsimp only
  rw [hphase]
  dsimp only
  rw [Correlator.result?_of_handed hwait]
  rfl

theorem stepTask_of_handed {r : Resolver} {id : TaskId} {t : Task} {wait : WaitId}
    {correlation : String} {settings : MetricSettings} {reply : Envelope}
    (htask : r.tasks[id]? = some t) (hphase : t.phase = .awaiting wait correlation settings)
    (hwait : r.correlator.Handed wait correlation reply) :
    r.stepTask id = { r with correlator := r.correlator.finish wait }.passOn id t correlation
      settings reply := by
  rw [Resolver.stepTask_awaiting htask hphase, Correlator.result?_of_handed hwait]

theorem Served.mono {id : TaskId} {requester : Requester} {correlation : String} {reply : Envelope}
    {reached reached' : Prop} {s : Recorded Resolver}
    (h : Served id requester correlation reply reached s) (himp : reached → reached') :
    Served id requester correlation reply reached' s := by
  cases h with
  | handed htask hrequester hphase hwait hready hreports =>
      exact .handed htask hrequester hphase hwait hready hreports
  | answering htask hrequester hphase hreports =>
      exact .answering htask hrequester hphase hreports
  | fetched htask hreports hreached => exact .fetched htask hreports (himp hreached)
  | refused htask hreports hrefuses => exact .refused htask hreports hrefuses

theorem served_passOn {s : Recorded Resolver} {r : Resolver} {id : TaskId} {t : Task}
    {wait : WaitId} {correlation : String} {settings : MetricSettings} (reply : Envelope)
    (htask : r.tasks[id]? = some t) (hphase : t.phase = .awaiting wait correlation settings)
    (hreports : reportsOf r id = []) :
    Overruns r id reply ∨ Served id t.requester correlation reply
      (Reached { s with host := r.passOn id t correlation settings reply } reply t.requester)
      { s with host := r.passOn id t correlation settings reply } := by
  have hfatal : (r.collaborators.cacheValue r.now t.request.metric reply.body
      ((r.pending[correlation]?).getD settings).cacheFor).2 = .fatal →
      reply.status.isOk = true → Overruns r id reply := by
    intro hstored hok
    rcases fatal_iff.mp hstored with ⟨hworks, hover⟩
    exact ⟨hok, hworks, t, wait, correlation, settings, htask, hphase, hover⟩
  unfold Resolver.passOn
  dsimp only
  split
  next hok =>
    split
    next collaborators hstored => exact Or.inl (hfatal (congrArg Prod.snd hstored) hok)
    next => exact Or.inr (served_answer correlation hreports)
  next => exact Or.inr (served_answer correlation hreports)

theorem Served.step {id : TaskId} {requester : Requester} {correlation : String} {reply : Envelope}
    {reached : Prop} {s : Recorded Resolver}
    (h : Served id requester correlation reply reached s) :
    Overruns s.host id reply ∨ Served id requester correlation reply
      (reached ∨ Reached (act s (.step id)) reply requester) (act s (.step id)) := by
  have hact : act s (.step id) = { s with host := s.host.stepTask id } := rfl
  cases h with
  | @handed t wait settings htask hrequester hphase hwait _ hreports =>
      rw [hact, stepTask_of_handed htask hphase hwait]
      subst hrequester
      let r : Resolver := { s.host with correlator := s.host.correlator.finish wait }
      have hpassed := served_passOn (s := s) (r := r) reply htask hphase hreports
      rcases hpassed with hover | hserved
      · exact Or.inl hover
      · exact Or.inr (hserved.mono Or.inr)
  | @answering t ticket exchange key own htask hrequester hphase hreports =>
      right
      rw [hact]
      subst hrequester
      let m : Message := { exchange, key, envelope := reply.withCorrelation own }
      have hsent := background_resend s.host ticket m
      have hclosed : (s.host.common.resend ticket m).2 = .refused →
          s.host.common.outbox.closed = true :=
        resend_eq_refused_iff.mp
      rw [Resolver.stepTask_answering htask hphase]
      cases hoffer : s.host.common.resend ticket m with
      | mk common offer =>
          rw [hoffer] at hsent hclosed
          cases offer with
          | accepted =>
              let r := s.host.onCommon fun _ => common
              have hreached : Reached { s with host := r } reply (.outbox exchange key own) :=
                brought_of_own hsent.emits List.mem_cons_self
              have hdone := served_complete (r := r) (t := t) correlation hreports hreached
              exact hdone.mono Or.inr
          | parked ticket' => exact .answering htask rfl hphase hreports
          | refused => exact served_fail correlation _ hreports (hclosed rfl)
  | fetched htask hreports hreached =>
      right
      rw [hact, Resolver.stepTask_of_none htask]
      exact .fetched htask hreports (Or.inl hreached)
  | refused htask hreports hrefuses =>
      right
      rw [hact, Resolver.stepTask_of_none htask]
      exact .refused htask hreports hrefuses

/-!
## Everything else
-/

/-- What leaves the task, its wait, its reports and a closed outbox alone leaves it where it is. -/
theorem Served.frame {id : TaskId} {requester : Requester} {correlation : String} {reply : Envelope}
    {reached : Prop} {s s' : Recorded Resolver}
    (h : Served id requester correlation reply reached s)
    (htasks : s'.host.tasks[id]? = s.host.tasks[id]?)
    (hreports : reportsOf s'.host id = reportsOf s.host id)
    (hwaits : ∀ {t : Task} {wait : WaitId} {settings : MetricSettings},
      s.host.tasks[id]? = some t → t.phase = .awaiting wait correlation settings →
      s.host.correlator.Handed wait correlation reply →
      s'.host.correlator.Handed wait correlation reply)
    (hclosed : Closed s → Closed s') : Served id requester correlation reply reached s' := by
  cases h with
  | handed htask hrequester hphase hwait _ hnone =>
      have hwait' := hwaits htask hphase hwait
      have htask' := htasks.trans htask
      exact .handed htask' hrequester hphase hwait' (taskReady_of_handed htask' hphase hwait')
        (hreports.trans hnone)
  | answering htask hrequester hphase hdelivered =>
      exact .answering (htasks.trans htask) hrequester hphase (hreports.trans hdelivered)
  | fetched htask hdone hreached =>
      exact .fetched (htasks.trans htask) (hreports.trans hdone) hreached
  | refused htask hdone hrefuses =>
      refine .refused (htasks.trans htask) (hreports.trans hdone) ?_
      cases requester with
      | caller => exact hrefuses
      | gone => trivial
      | outbox exchange key own => exact hclosed hrefuses

theorem Served.effect {id : TaskId} {requester : Requester} {correlation : String}
    {reply : Envelope} {reached : Prop} {s : Recorded Resolver}
    (h : Served id requester correlation reply reached s) (hcorrelated : Correlated s.host)
    (hstarted : id < s.host.started) {cause : Cause} {r' : Resolver}
    (heffect : Effect s.host cause r') (hcause : cause ≠ .task id) :
    Served id requester correlation reply reached { s with host := r' } := by
  rcases hcorrelated.brings heffect with ⟨own, hemits, _⟩
  refine h.frame (heffect.tasks_of_ne hcause hstarted) (heffect.reportsOf_of_ne hcause) ?_
    (closed_of_emits hemits).mpr
  intro t wait settings htask hphase hwait
  refine hwait.of_sameAt (hcorrelated.waits_effect heffect htask hphase hcause ?_).2
  exact fun _ _ => Or.inr ⟨reply, hwait⟩

theorem Served.read {id : TaskId} {requester : Requester} {correlation : String} {reply : Envelope}
    {reached : Prop} {s s' : Recorded Resolver}
    (h : Served id requester correlation reply reached s)
    (hsame : SameButOutbox s.host s'.host) (hclosed : Closed s → Closed s') :
    Served id requester correlation reply reached s' := by
  rcases hsame with ⟨outbox, heq⟩
  refine h.frame ?_ ?_ ?_ hclosed
  · rw [heq]
    rfl
  · rw [heq]
    rfl
  · rw [heq]
    exact fun _ _ hwait => hwait

/-!
## Runs
-/

theorem Act.eq_step {a : Act} {id : TaskId} (h : a.cause = .task id) : a = .step id := by
  cases a <;> simp_all [Act.cause]

theorem started_act (s : Recorded Resolver) (a : Act) :
    s.host.started ≤ (act s a).host.started := by
  rcases act_cases s a with heq | rfl | rfl
  · rw [heq]
    exact (effect_actOn s.host a).started_le
  · rcases sameButOutbox_take s with ⟨outbox, heq⟩
    rw [heq]
    exact Nat.le_refl _
  · exact Nat.le_refl _

theorem Served.act {id : TaskId} {requester : Requester} {correlation : String} {reply : Envelope}
    {reached : Prop} {s : Recorded Resolver}
    (h : Served id requester correlation reply reached s) (hcorrelated : Correlated s.host)
    (hstarted : id < s.host.started) (a : Act) :
    a = .step id ∧ Overruns s.host id reply ∨ Served id requester correlation reply
      (reached ∨ Reached (act s a) reply requester) (act s a) := by
  by_cases hstep : a = .step id
  · subst hstep
    rcases h.step with hover | hserved
    · exact Or.inl ⟨rfl, hover⟩
    · exact Or.inr hserved
  · right
    refine Served.mono ?_ Or.inl
    rcases act_cases s a with heq | rfl | rfl
    · rw [heq]
      exact h.effect hcorrelated hstarted (effect_actOn s.host a) fun hcause =>
        hstep (Act.eq_step hcause)
    · exact h.read (sameButOutbox_take s) (closed_act_take s).mpr
    · exact h.read (sameButOutbox_closeOutbox s) fun _ => closed_act_closeOutbox s

theorem Served.run {id : TaskId} {requester : Requester} {correlation : String} {reply : Envelope}
    {reached : Prop} {s : Recorded Resolver}
    (h : Served id requester correlation reply reached s) (hcorrelated : Correlated s.host)
    (hstarted : id < s.host.started) (acts : List Act) :
    (∃ before after, acts = before ++ .step id :: after ∧
        Overruns (run s before).host id reply) ∨
      Served id requester correlation reply
        (reached ∨ Sometime (Reached · reply requester) s acts) (run s acts) := by
  induction acts generalizing s reached with
  | nil => exact Or.inr (h.mono Or.inl)
  | cons a acts ih =>
      rcases h.act hcorrelated hstarted a with ⟨hstep, hover⟩ | hserved
      · exact Or.inl ⟨[], acts, by rw [hstep, List.nil_append], hover⟩
      · have hstarted' := Nat.lt_of_lt_of_le hstarted (started_act s a)
        rcases ih hserved (hcorrelated.act a) hstarted' with
          ⟨before, after, heq, hover⟩ | hserved'
        · exact Or.inl ⟨a :: before, after, by rw [heq, List.cons_append], hover⟩
        · refine Or.inr (hserved'.mono ?_)
          rintro ((hreached | hreached) | hreached)
          · exact Or.inl hreached
          · exact Or.inr (Sometime.here hreached acts).later
          · exact Or.inr hreached.later

/-!
## Progress
-/

theorem Leaves.stepsLeft_le {r r' : Resolver} {id : TaskId} {t : Task} (h : Leaves r id t r') :
    stepsLeft r' id ≤ 1 := by
  rcases h.tasks with htasks | ⟨ticket, m, resolution, _, htasks⟩
  · have hnone : stepsLeft r' id = 0 := by
      unfold stepsLeft
      rw [htasks, erased]
    exact Nat.le_trans (Nat.le_of_eq hnone) (Nat.zero_le 1)
  · have hone : stepsLeft r' id = 1 := by
      unfold stepsLeft
      rw [htasks, Std.ExtTreeMap.getElem?_insert_self]
    exact Nat.le_of_eq hone

theorem not_parked_of_answers {c : Commons} {ticket : Ticket}
    (h : c.outbox.answers ticket = true) (m : Message) (ticket' : Ticket) :
    (c.resend ticket m).2 ≠ .parked ticket' := by
  show (c.outbox.retry ticket m).2 ≠ .parked ticket'
  unfold Mailbox.answers at h
  unfold Mailbox.retry
  cases hclosed : c.outbox.closed with
  | true => simp
  | false =>
      have hgranted : ticket ∈ c.outbox.granted := by
        simpa [hclosed] using h
      simp [hgranted]

theorem Served.progress {id : TaskId} {requester : Requester} {correlation : String}
    {reply : Envelope} {reached : Prop} {s : Recorded Resolver}
    (h : Served id requester correlation reply reached s) (hready : s.host.taskReady id = true) :
    stepsLeft (Fetching.act s (.step id)).host id < stepsLeft s.host id := by
  have hact : Fetching.act s (.step id) = { s with host := s.host.stepTask id } := rfl
  rw [hact]
  cases h with
  | handed htask _ hphase hwait =>
      have htwo : stepsLeft s.host id = 2 := by
        unfold stepsLeft
        rw [htask]
        dsimp only
        rw [hphase]
      rw [htwo, stepTask_of_handed htask hphase hwait]
      exact Nat.lt_succ_of_le (leaves_passOn _ id _ correlation _ reply).stepsLeft_le
  | @answering t ticket exchange key own htask _ hphase _ =>
      have hone : stepsLeft s.host id = 1 := by
        unfold stepsLeft
        rw [htask]
        dsimp only
        rw [hphase]
      have hanswers : s.host.common.outbox.answers ticket = true := by
        unfold Resolver.taskReady at hready
        rw [htask] at hready
        dsimp only at hready
        rw [hphase] at hready
        exact hready
      let m : Message := { exchange, key, envelope := reply.withCorrelation own }
      have hoffered := not_parked_of_answers hanswers m
      rw [hone, Resolver.stepTask_answering htask hphase]
      unfold stepsLeft
      cases hoffer : s.host.common.resend ticket m with
      | mk common offer =>
          rw [hoffer] at hoffered
          cases offer with
          | accepted =>
              dsimp only
              rw [(complete_frame _ id t _).1, erased]
              exact Nat.zero_lt_one
          | parked ticket' => exact absurd rfl (hoffered ticket')
          | refused =>
              have hgone : (s.host.fail id .channelClosed).tasks[id]? = none := erased s.host id
              dsimp only
              rw [hgone]
              exact Nat.zero_lt_one
  | fetched htask =>
      unfold Resolver.taskReady at hready
      rw [htask] at hready
      cases hready
  | refused htask =>
      unfold Resolver.taskReady at hready
      rw [htask] at hready
      cases hready

end Fetching
end MetricGateway
