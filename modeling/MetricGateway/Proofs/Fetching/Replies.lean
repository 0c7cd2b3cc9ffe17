import MetricGateway.Proofs.Fetching.Delivery
import MetricGateway.Proofs.Fetching.Fates
import MetricGateway.Proofs.Scheduling.Rebuild

/-!
# No reply is lost

A fetch that has left the outbox has a task that waits for the reply, or that has reported a
timeout.  So the first reply under its id finds this task, and the task goes on with it to its end:
it hands the body and the status of the reply to its requester, and reports that it has fetched
them.  Only a requester that takes no answers any more makes it end in another way.
-/

namespace MetricGateway
namespace Fetching

open Pulling (Polling)
open Resolver (TaskId Task Report Requester reportsOf stepsLeft)

/-- Nothing was asked yet, and nothing was sent. -/
structure Begins (s : Recorded Resolver) : Prop where
  tasks : s.host.tasks = ∅
  waits : s.host.correlator.waits = ∅
  registered : s.host.correlator.registered = ∅
  reports : s.host.reports = []
  published : s.published = []
  outbox : s.host.common.outbox.toList = []
  parks : ∀ m, ¬s.host.polling.Parks m

theorem Begins.task {s : Recorded Resolver} (h : Begins s) {id : TaskId} {t : Task} :
    s.host.tasks[id]? ≠ some t := by
  rw [h.tasks]
  simp

theorem Begins.correlated {s : Recorded Resolver} (h : Begins s) : Correlated s.host :=
  correlated_of_empty h.tasks h.waits h.registered

theorem Begins.unreported {s : Recorded Resolver} (h : Begins s) : Unreported s.host :=
  unreported_of_empty h.tasks h.reports

theorem Begins.quiet {s : Recorded Resolver} (h : Begins s) (correlation : String) :
    Quiet s correlation where
  brought := by
    rintro m (⟨x, hx, _⟩ | hm)
    · rw [h.published] at hx
      cases hx
    · rw [h.outbox] at hm
      cases hm
  parks := fun hm => absurd hm (h.parks _)

theorem Begins.unanswered {s : Recorded Resolver} (h : Begins s) (n : Nat) : Unanswered n s where
  correlated := h.correlated
  foreign := fun _ _ ht => absurd ht h.task
  quiet := fun _ => h.quiet _
  waits := fun ht => absurd ht h.task

/-!
## Nobody else
-/

theorem issued_act (s : Recorded Resolver) (a : Act) :
    s.host.common.issued ≤ (act s a).host.common.issued := by
  rcases act_cases s a with heq | rfl | rfl
  · rw [heq]
    exact (effect_actOn s.host a).issued_le
  · rcases sameButOutbox_take s with ⟨outbox, heq⟩
    rw [heq]
    exact Nat.le_refl _
  · exact Nat.le_refl _

theorem carries_act {s : Recorded Resolver} {n : Nat} (hissued : n < s.host.common.issued)
    {a : Act} {id : TaskId} (hcarries : (act s a).host.Carries id (Correlation.id n)) :
    s.host.Carries id (Correlation.id n) := by
  rcases act_cases s a with heq | rfl | rfl
  · rw [heq] at hcarries
    rcases (effect_actOn s.host a).carries hcarries with hbefore | ⟨k, hk, _, hid⟩
    · exact hbefore
    · rw [← Correlation.id_injective hid] at hk
      exact absurd (Nat.lt_of_lt_of_le hissued hk) (Nat.lt_irrefl n)
  · rcases sameButOutbox_take s with ⟨outbox, heq⟩
    rw [heq] at hcarries
    exact hcarries
  · exact hcarries

theorem carries_run {s : Recorded Resolver} {n : Nat} (hissued : n < s.host.common.issued)
    (acts : List Act) {id : TaskId} (hcarries : (run s acts).host.Carries id (Correlation.id n)) :
    s.host.Carries id (Correlation.id n) := by
  induction acts generalizing s with
  | nil => exact hcarries
  | cons a acts ih =>
      exact carries_act hissued (ih (Nat.lt_of_lt_of_le hissued (issued_act s a)) hcarries)

theorem Correlated.id_of_handed {r : Resolver} (h : Correlated r) {id : TaskId} {t : Task}
    {wait : WaitId} {correlation : String} {settings : MetricSettings}
    (ht : r.tasks[id]? = some t) (hphase : t.phase = .awaiting wait correlation settings)
    {e : Envelope} (hwait : r.correlator.Handed wait correlation e) :
    e.correlation = correlation := by
  rcases hwait with ⟨w, place, hw, _, hslot, _⟩
  rcases h.awaiting ht hphase with
    ⟨w', hw', _, hslot', _⟩ | ⟨e', he', w', place', hw', _, hslot', _⟩
  · rw [hw] at hw'
    cases hw'
    rw [hslot] at hslot'
    cases hslot'
  · rw [hw] at hw'
    cases hw'
    rw [hslot] at hslot'
    cases hslot'
    exact he'

/-!
## The first reply
-/

theorem correlated_run {s : Recorded Resolver} (h : Correlated s.host) (acts : List Act) :
    Correlated (run s acts).host :=
  run_induction (P := fun s => Correlated s.host) (Q := fun _ => True)
    (fun _ a _ hs => hs.act a) h fun _ _ => trivial

theorem unreported_run {s : Recorded Resolver} (h : Unreported s.host)
    (hcorrelated : Correlated s.host) (acts : List Act) : Unreported (run s acts).host := by
  induction acts generalizing s with
  | nil => exact h
  | cons a acts ih => exact ih (h.act hcorrelated a) (hcorrelated.act a)

theorem route_of_open {r : Resolver} {wait : WaitId} {n : Nat} {reply : Envelope}
    (hreply : reply.correlation = Correlation.id n)
    (hopen : r.correlator.Open wait reply.correlation) :
    r.route reply =
      ({ r with correlator := (r.correlator.send reply.correlation reply).1 }, true) := by
  have hnonempty : reply.correlation.isEmpty = false := hreply ▸ Correlation.id_ne_empty n
  rcases Correlator.send_of_open hopen reply with ⟨w, _, _, hsend⟩
  unfold Resolver.route
  rw [hnonempty, hsend]
  rfl

theorem served_route {s : Recorded Resolver} {id : TaskId} {t : Task} {wait : WaitId} {n : Nat}
    {settings : MetricSettings} {reply : Envelope} (hunreported : Unreported s.host)
    (htask : s.host.tasks[id]? = some t)
    (hphase : t.phase = .awaiting wait (Correlation.id n) settings)
    (hopen : s.host.correlator.Open wait (Correlation.id n))
    (hreply : reply.correlation = Correlation.id n) :
    (s.host.route reply).2 = true ∧
      Served id t.requester (Correlation.id n) reply False (act s (.route reply)) := by
  have hroute := route_of_open hreply (hreply.symm ▸ hopen)
  have hact : act s (.route reply) = { s with host := (s.host.route reply).1 } := rfl
  rw [hact, hroute, hreply]
  refine ⟨rfl, ?_⟩
  have hhanded := Correlator.handed_send hopen reply
  refine .handed htask rfl hphase hhanded (taskReady_of_handed htask hphase hhanded) ?_
  exact hunreported.reportsOf_eq_nil htask (by simp [hphase])

/-- The reply to the fetch of a task is outstanding: in a run from the beginning the task has got
the id of a number, its fetch has left the outbox, it has reported no timeout, and neither a reply
nor a requester has come with this id. -/
structure Outstanding (start : Recorded Resolver) (before : List Act) (n : Nat) (id : TaskId) :
    Prop where
  begins : Begins start
  avoids : ∀ a ∈ before, a.cause.Avoids (Correlation.id n)
  issued : Sometime (fun s => s.host.Carries id (Correlation.id n)) start before
  left : ∃ x ∈ (run start before).published, x.2.envelope.correlation = Correlation.id n
  waits : ∀ time timeout,
    (time, id, Report.finished (.error (.timeout (Correlation.id n) timeout))) ∉
      (run start before).host.reports

theorem Outstanding.fate {start : Recorded Resolver} {before : List Act} {n : Nat} {id : TaskId}
    (h : Outstanding start before n id) :
    Unanswered n (run start before) ∧ Fate n id (run start before) := by
  rcases h.issued with ⟨acts, acts', heq, hcarries⟩
  have havoids := h.avoids
  rw [heq] at havoids ⊢
  have hstart := (h.begins.unanswered n).run fun a ha => havoids a (List.mem_append_left _ ha)
  have hrest := Fate.run (.carried hcarries) hstart fun a ha =>
    havoids a (List.mem_append_right _ ha)
  rw [← run_append] at hrest
  exact hrest

/-!
## A request that needs a fetch
-/

def unasked : Recorded Resolver := { host := Resolver.unscheduled {} }

/-- A request for a metric that is not in the cache; its fetch leaves the outbox. -/
def asked (requester : Requester) : List Act :=
  [.start Resolver.temperature requester (Duration.ofSecs 5), .step 0, .take]

def firstReply : Envelope := { msgType := "1", correlation := Correlation.id 0 }

theorem begins_unasked : Begins unasked where
  tasks := rfl
  waits := rfl
  registered := rfl
  reports := rfl
  published := rfl
  outbox := rfl
  parks := by
    rintro m ⟨g, t, ticket, due, ht, _⟩
    cases ht

theorem outstanding_asked {requester : Requester}
    (h : requester = .caller ∨ requester = .gone) : Outstanding unasked (asked requester) 0 0 where
  begins := begins_unasked
  avoids := by
    intro a ha
    simp only [asked, List.mem_cons, List.not_mem_nil, or_false] at ha
    rcases ha with rfl | rfl | rfl
    · show requester.correlation? ≠ some (Correlation.id 0)
      rcases h with rfl | rfl <;> simp [Requester.correlation?]
    · trivial
    · trivial
  issued := by
    rcases h with rfl | rfl <;>
      exact ⟨[.start Resolver.temperature _ (Duration.ofSecs 5), .step 0], [.take], rfl,
        _, rfl, rfl⟩
  left := by
    rcases h with rfl | rfl <;> exact ⟨_, List.mem_cons_self, rfl⟩
  waits := by
    have hnone : (run unasked (asked requester)).host.reports = [] := by
      rcases h with rfl | rfl <;> rfl
    rw [hnone]
    simp

/-!
## The first reply is served
-/

/-- The first reply to an outstanding fetch is taken, and the task that has sent the fetch, and no
other, goes on with it: in every continuation it has handed the reply to its requester and has
fetched its status, or it is on the way to that and nearer to it with each step that it can take, or
the requester takes no answers.  Nothing is said of a task that is to cache the reply beyond the end
of the clock. -/
theorem first_reply_served {start : Recorded Resolver} {before : List Act} {n : Nat} {id : TaskId}
    (houtstanding : Outstanding start before n id) {reply : Envelope}
    (hreply : reply.correlation = Correlation.id n) :
    let s := run start before
    let s' := act s (.route reply)
    (s.host.route reply).2 = true ∧
      (∀ (after : List Act) (other : TaskId) (t : Task) (wait : WaitId) (correlation : String)
        (settings : MetricSettings), other ≠ id → (run s' after).host.tasks[other]? = some t →
        t.phase = .awaiting wait correlation settings →
        ¬(run s' after).host.correlator.Handed wait correlation reply) ∧
      ∃ t, s.host.tasks[id]? = some t ∧ ∀ after : List Act,
        (∃ earlier later, after = earlier ++ .step id :: later ∧
          Overruns (run s' earlier).host id reply) ∨
        Served id t.requester (Correlation.id n) reply
          (Sometime (Reached · reply t.requester) s' after) (run s' after) ∧
        ((run s' after).host.taskReady id = true →
          stepsLeft (act (run s' after) (.step id)).host id <
            stepsLeft (run s' after).host id) := by
  intro s s'
  have hbegins := houtstanding.begins
  rcases houtstanding.fate with ⟨hunanswered, hfate⟩
  have hcorrelated := hunanswered.correlated
  have hunreported := unreported_run hbegins.unreported hbegins.correlated before
  rcases hfate.open_of_left hunanswered houtstanding.left houtstanding.waits with
    ⟨t, wait, settings, htask, hphase, hopen⟩
  rcases served_route hunreported htask hphase hopen hreply with ⟨htaken, hserved⟩
  have hcarries := carries_of_awaiting htask hphase
  have hgiven := hcorrelated.lt_of_carries hcarries
  have hcorrelated' : Correlated s'.host := hcorrelated.act (.route reply)
  have hstarted : id < s'.host.started :=
    Nat.lt_of_lt_of_le (hcorrelated.task_lt htask) (started_act s (.route reply))
  refine ⟨htaken, ?_, t, htask, ?_⟩
  · intro after other x wait' correlation settings' hne hx hphase' hhanded
    have hid := (correlated_run hcorrelated' after).id_of_handed hx hphase' hhanded
    have hother := carries_of_awaiting hx hphase'
    rw [← hid, hreply] at hother
    have hgiven' := Nat.lt_of_lt_of_le hgiven (issued_act s (.route reply))
    exact hne (hcorrelated.unique (carries_act hgiven (carries_run hgiven' after hother)) hcarries)
  · intro after
    rcases hserved.run hcorrelated' hstarted after with hover | hserved'
    · exact Or.inl hover
    · exact Or.inr ⟨hserved'.mono fun hreached => hreached.resolve_left not_false,
        hserved'.progress⟩

theorem first_reply_served_caller :
    ((run unasked (asked .caller)).host.route firstReply).2 = true ∧
      reportsOf (run unasked (asked .caller ++ [.route firstReply, .step 0])).host 0 =
        [.finished (.ok (.fetched .ok)), .delivered firstReply] := by
  have hid : firstReply.correlation = Correlation.id 0 := rfl
  have hserved := first_reply_served (outstanding_asked (Or.inl rfl)) hid
  exact ⟨hserved.1, rfl⟩

/-- A task whose caller has gone away does not say that it has fetched the status. -/
theorem gone_caller_fetches_nothing :
    ¬∀ (start : Recorded Resolver) (before : List Act) (n : Nat) (id : TaskId) (reply : Envelope),
      Outstanding start before n id → reply.correlation = Correlation.id n →
      ∀ after, (run start (before ++ .route reply :: after)).host.tasks[id]? = none →
        Report.finished (.ok (.fetched reply.status)) ∈
          reportsOf (run start (before ++ .route reply :: after)).host id := by
  intro halways
  have hfetched := halways unasked (asked .gone) 0 0 firstReply (outstanding_asked (Or.inr rfl)) rfl
    [.step 0] rfl
  have hreports : reportsOf (run unasked (asked .gone ++ [.route firstReply, .step 0])).host 0 =
      [.finished (.error .channelClosed), .delivered firstReply] := rfl
  rw [hreports] at hfetched
  simp at hfetched

end Fetching
end MetricGateway
