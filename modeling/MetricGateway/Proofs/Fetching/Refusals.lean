import Mathlib.Data.List.Induction
import MetricGateway.Proofs.Fetching.Courses
import MetricGateway.Proofs.Scheduling.Rebuild
import MetricGateway.Proofs.Scheduling.Subscribing

/-!
# Requests that are refused

A request is refused where the cache or the store fails, or where its metric or its container has no
settings.  This is found out in the first step of its task and before anything was done for the
request, so that nothing tells afterwards that the request was there, but for settings that were
written back to the cache.
-/

namespace MetricGateway

open Pulling (Polling Target)

namespace Fetching

open Resolver (TaskId Task Report Requester Resolution Desk reportsOf)

/-!
## What a refusal leaves
-/

/-- A request was refused: the cache has failed, or the lookups have.  Groups, tickers, the outbox,
fetches and waits are as before, nobody was handed anything, and no cached value has changed. -/
structure Refused (r : Resolver) (id : TaskId) (request : MetricRequest) (e : GatewayError)
    (r' : Resolver) : Prop where
  cause : (∃ reason, (r.collaborators.cachedValue r.now request.metric).2 = .error reason ∧
      e = .cache reason) ∨
    (r.collaborators.cachedValue r.now request.metric).1.lookUp request = .error e
  polling : r'.polling = r.polling ∨
    r'.polling = r.polling.onCommon (·.count Metrics.addCacheMiss)
  pending : r'.pending = r.pending
  correlator : r'.correlator = r.correlator
  systems : r.collaborators.Consulted r.now request.metric r'.collaborators
  tasks : Replaced r id none r'
  reports : r'.reports = (r.now, id, .finished (.error e)) :: r.reports

section

variable {s : Recorded Resolver} {r : Resolver} {id : TaskId} {t : Task} {e : GatewayError}

theorem refused_lookup {reason : String} (htask : r.tasks[id]? = some t)
    (hphase : t.phase = .starting) (hlookup : r.lookup t = .error reason) :
    Refused r id t.request (.cache reason) (r.stepTask id) := by
  rw [Resolver.stepTask_starting htask hphase, Resolver.begin_eq, hlookup]
  exact {
    cause := Or.inl ⟨reason, hlookup, rfl⟩
    polling := Or.inl rfl
    pending := rfl
    correlator := rfl
    systems := Collaborators.consulted_cachedValue r.collaborators r.now t.request.metric
    tasks := replaced_of_erase rfl
    reports := rfl }

theorem refused_subscription {key : String} (htask : r.tasks[id]? = some t)
    (hphase : t.phase = .starting) (hlookup : r.lookup t = .ok none)
    (hroute : r.routes.key? t.request.containerKind = some key)
    (hsettings : ((r.missed t).subscribe t.request key).2 = .error e) :
    Refused r id t.request e (r.stepTask id) := by
  have hasked := Collaborators.consulted_cachedValue r.collaborators r.now t.request.metric
  have hsubscribed := Resolver.subscribe_eq (r.missed t) t.request key
  cases hfound : (r.missed t).collaborators.lookUp t.request with
  | ok found =>
      rw [hsubscribed, hfound] at hsettings
      cases hsettings
  | error e' =>
      rw [hfound] at hsubscribed
      rw [hsubscribed] at hsettings
      cases hsettings
      have hmiss : (r.missed t).miss id t = { r.missed t with
          collaborators := ((r.missed t).collaborators.metricSettings t.request.metric).1 }.fail id
            e := by
        unfold Resolver.miss
        rw [show (r.missed t).routes.key? t.request.containerKind = some key from hroute]
        dsimp only
        rw [hsubscribed]
      rw [Resolver.stepTask_starting htask hphase, Resolver.begin_eq, hlookup]
      dsimp only
      rw [hmiss]
      exact {
        cause := Or.inr hfound
        polling := Or.inr rfl
        pending := rfl
        correlator := rfl
        systems := hasked.metricSettings
        tasks := replaced_of_erase rfl
        reports := rfl }

theorem Handing.isSettings_eq_false {reply : Envelope} {resolution : Resolution}
    {left : Option Task} {new : List Report} {own : List Message}
    (h : Handing s t reply resolution left new own) (hmem : .finished (.error e) ∈ new) :
    e.isSettings = false := by
  cases h with
  | taken _ => simp at hmem
  | parked _ _ => simp at hmem
  | refused _ =>
      simp only [List.mem_cons, Report.finished.injEq, Except.error.injEq, reduceCtorEq,
        List.not_mem_nil, or_false] at hmem
      rw [hmem]
      rfl

/-- Of all that can come of a step, only the first step of a task can be a refusal. -/
theorem Turn.refused_of_mem {d : Desk} {new : List Report} {own : List Message}
    (h : Turn s id t d new own) (htask : s.host.tasks[id]? = some t)
    (he : e.isSettings = true) (hmem : .finished (.error e) ∈ new) :
    t.phase = .starting ∧ Refused s.host id t.request e (s.host.stepTask id) := by
  have hhanding : ∀ {reply : Envelope} {resolution : Resolution} {left : Option Task},
      ¬Handing s t reply resolution left new own := by
    intro reply resolution left hhanded
    rw [hhanded.isSettings_eq_false hmem] at he
    cases he
  have honly : ∀ {e' : GatewayError}, Report.finished (.error e) ∈ [.finished (.error e')] →
      e = e' := by
    intro e' hfinished
    cases List.mem_singleton.mp hfinished
    rfl
  cases h with
  | lookupFailed hphase hlookup =>
      rw [honly hmem]
      exact ⟨hphase, refused_lookup htask hphase hlookup⟩
  | unconfigured hphase hlookup hroute hsettings =>
      rw [honly hmem]
      exact ⟨hphase, refused_subscription htask hphase hlookup hroute hsettings⟩
  | hit _ _ hhanded => exact absurd hhanded hhanding
  | unrouted _ _ _ hhanded => exact absurd hhanded hhanding
  | passedOn _ _ hhanded => exact absurd hhanded hhanding
  | refused _ _ _ =>
      rw [honly hmem] at he
      cases he
  | dropped _ _ =>
      rw [honly hmem] at he
      cases he
  | unanswered _ _ =>
      rw [honly hmem] at he
      cases he
  | timedOut _ hresult _ =>
      rcases Correlator.result?_error hresult with ⟨w, _, htimeout⟩
      rw [honly hmem, htimeout] at he
      cases he
  | answered _ => simp at hmem
  | idle _ _ => cases hmem
  | parked _ _ _ _ => cases hmem
  | sent _ _ _ => cases hmem
  | resumed _ => cases hmem
  | perished _ _ _ => cases hmem

def Ends (s : Recorded Resolver) (id : TaskId) (result : Except GatewayError Resolution) : Prop :=
  ∃ new, reportsOf (act s (.step id)).host id = new ++ reportsOf s.host id ∧
    .finished result ∈ new

theorem Ends.refused (h : Ends s id (.error e)) (he : e.isSettings = true) :
    ∃ t, s.host.tasks[id]? = some t ∧ t.phase = .starting ∧
      Refused s.host id t.request e (act s (.step id)).host := by
  rcases h with ⟨new, hnew, hmem⟩
  cases htask : s.host.tasks[id]? with
  | none =>
      have hsame : (act s (.step id)).host = s.host := Resolver.stepTask_of_none htask
      rw [hsame, List.self_eq_append_left] at hnew
      rw [hnew] at hmem
      cases hmem
  | some t =>
      rcases turn_stepTask htask with ⟨d, new', own, hturn, hyields⟩
      have heq : new = new' := List.append_cancel_right (hnew.symm.trans hyields.reports)
      rw [heq] at hmem
      rcases hturn.refused_of_mem htask he hmem with ⟨hphase, hrefused⟩
      exact ⟨t, rfl, hphase, hrefused⟩

/-!
## Tasks that have not run
-/

theorem Turn.begun {d : Desk} {new : List Report} {own : List Message}
    (h : Turn s id t d new own) (htask : s.host.tasks[id]? = some t) {x : Task}
    (hx : d.tasks[id]? = some x) : x.phase ≠ .starting := by
  have hset : ∀ {d' : Desk} {left : Option Task}, (d'.set id left).tasks[id]? = some x →
      left = some x := by
    intro d' left hleft
    rw [Desk.tasks_set, if_pos rfl] at hleft
    exact hleft
  have hhanding : ∀ {reply : Envelope} {resolution : Resolution} {left : Option Task},
      Handing s t reply resolution left new own → left = some x → x.phase ≠ .starting := by
    intro reply resolution left hhanded hleft
    cases hhanded <;> cases hleft
    simp
  cases h with
  | idle hphase _ =>
      cases htask.symm.trans hx
      exact hphase
  | hit _ _ hhanded => exact hhanding hhanded (hset hx)
  | unrouted _ _ _ hhanded => exact hhanding hhanded (hset hx)
  | passedOn _ _ hhanded => exact hhanding hhanded (hset hx)
  | parked _ _ _ _ =>
      cases hset hx
      simp
  | sent _ _ _ =>
      cases hset hx
      simp
  | resumed _ =>
      cases hset hx
      simp
  | lookupFailed _ _ => cases hset hx
  | unconfigured _ _ _ _ => cases hset hx
  | refused _ _ _ => cases hset hx
  | dropped _ _ => cases hset hx
  | timedOut _ _ _ => cases hset hx
  | perished _ _ _ => cases hset hx
  | answered _ => cases hset hx
  | unanswered _ _ => cases hset hx

/-- A task that is at its start after something has happened was there before, and has not taken a
step. -/
theorem starting_act {a : Act} (hid : id < s.host.started) {x : Task}
    (hx : (act s a).host.tasks[id]? = some x) (hphase : x.phase = .starting) :
    a ≠ .step id ∧ s.host.tasks[id]? = some x := by
  by_cases hstep : a = .step id
  · subst hstep
    cases htask : s.host.tasks[id]? with
    | none =>
        have hsame : (act s (.step id)).host = s.host := Resolver.stepTask_of_none htask
        rw [hsame, htask] at hx
        cases hx
    | some t =>
        rcases turn_stepTask htask with ⟨d, new, own, hturn, hyields⟩
        rw [← hyields.desk] at hturn
        exact absurd hphase (hturn.begun htask hx)
  · refine ⟨hstep, ?_⟩
    rcases act_cases s a with heq | rfl | rfl
    · rw [heq] at hx
      rw [← hx]
      exact ((effect_actOn s.host a).tasks_of_ne (fun hcause => hstep (Act.eq_step hcause))
        hid).symm
    · rcases sameButOutbox_take s with ⟨outbox, heq⟩
      rw [heq] at hx
      exact hx
    · exact hx

theorem started_run (s : Recorded Resolver) (acts : List Act) :
    s.host.started ≤ (run s acts).host.started := by
  induction acts generalizing s with
  | nil => exact Nat.le_refl _
  | cons a acts ih => exact Nat.le_trans (started_act s a) (ih (act s a))

theorem starting_run (hid : id < s.host.started) {acts : List Act} {x : Task}
    (hx : (run s acts).host.tasks[id]? = some x) (hphase : x.phase = .starting) :
    .step id ∉ acts ∧ s.host.tasks[id]? = some x := by
  induction acts using List.reverseRecOn generalizing x with
  | nil => exact ⟨List.not_mem_nil, hx⟩
  | append_singleton acts a ih =>
      rw [run_append] at hx
      rcases starting_act (Nat.lt_of_lt_of_le hid (started_run s acts)) hx hphase with
        ⟨hne, hbefore⟩
      rcases ih hbefore hphase with ⟨hnot, htask⟩
      refine ⟨?_, htask⟩
      intro hmem
      rcases List.mem_append.mp hmem with hearlier | hlast
      · exact hnot hearlier
      · exact hne (List.mem_singleton.mp hlast).symm

end

/-!
## No trace
-/

/-- A call that is refused by the cache, the store or the settings is refused in its first step,
whatever has happened since it came in.  This step changes neither groups, tickers, the outbox,
fetches and waits nor any cached value, and hands nothing to the requester; where nothing has
happened since the call came in, all this is as it was before the call.  And the registry is never
what refuses: it accepts every interval that is found for a container, a metric of the store is
scheduled wherever a translator handles it and its lookups succeed, and a reload fails only with the
store. -/
theorem refusals_leave_no_trace :
    (∀ (s : Recorded Resolver) (request : MetricRequest) (requester : Requester)
        (timeout : Duration) (acts : List Act) (e : GatewayError), e.isSettings = true →
      let id := s.host.started
      let s' := run (act s (.start request requester timeout)) acts
      Ends s' id (.error e) →
        .step id ∉ acts ∧ Refused s'.host id request e (act s' (.step id)).host ∧
          (acts = [] → Refused s.host id request e (act s' (.step id)).host)) ∧
    (∀ (c : Collaborators) (container : ContainerId) (interval : Duration),
      c.containerInterval container = .ok interval →
        ∀ (p : Polling) (target : Target), target.interval = interval →
          ∀ metric valueKind budget,
            ∃ outcome, (p.add target metric valueKind budget).2 = .ok outcome) ∧
    (∀ (r : Resolver) (request : MetricRequest),
      (r.schedule request).2 =
        (r.isRouted request && (r.collaborators.lookUp request).isOk)) ∧
    ∀ (r : Resolver) (e : GatewayError), r.reload.2 = .error e →
      ∃ reason, r.collaborators.storedMetrics = .error reason ∧ e = .store reason := by
  refine ⟨?_, fun c container interval hinterval p target htarget metric valueKind budget =>
    Collaborators.add_of_containerInterval hinterval p htarget metric valueKind budget,
    Resolver.schedule_eq, fun r e => Resolver.reload_error⟩
  intro s request requester timeout acts e he id s' hends
  rcases hends.refused he with ⟨t, htask, hphase, hrefused⟩
  have hcalled : id < (act s (.start request requester timeout)).host.started :=
    Nat.lt_succ_self id
  rcases starting_run hcalled htask hphase with ⟨hnot, hcame⟩
  have hrequest : t.request = request := by
    have hself := (replaced_start s.host request requester timeout).self
    cases hself.symm.trans hcame
    rfl
  rw [hrequest] at hrefused
  refine ⟨hnot, hrefused, ?_⟩
  rintro rfl
  exact {
    cause := hrefused.cause
    polling := hrefused.polling
    pending := hrefused.pending
    correlator := hrefused.correlator
    systems := hrefused.systems
    tasks := by
      intro other
      rw [hrefused.tasks other]
      split
      next => rfl
      next hne => exact (replaced_start s.host request requester timeout).of_ne hne
    reports := hrefused.reports }

/-- A resolver whose store lists one metric, with the interval of its container. -/
def polledEvery (interval : Duration) : Resolver :=
  { Resolver.unscheduled {} with
    collaborators := {
      store := (Store.empty.insertMetric Resolver.temperature ⟨5, Duration.ofSecs 10⟩).setInterval
        7 interval } }

def subMilli : Duration := { secs := 0, nanos := 999999 }

def storeless : Resolver :=
  { Resolver.unscheduled {} with collaborators := { failing := [.storeList] } }

theorem refusals_leave_no_trace_sub_milli :
    let s : Recorded Resolver := { host := polledEvery subMilli }
    let s' := run (act s (.start Resolver.temperature .caller (Duration.ofSecs 5))) []
    let target := Resolver.target Resolver.temperature "snmp" (Duration.ofMillis 1)
    (Ends s' 0 (.error (.notConfigured .container 7)) ∧
      Refused s.host 0 Resolver.temperature (.notConfigured .container 7)
        (act s' (.step 0)).host) ∧
    (∃ outcome, (s.host.polling.add target 42 .int 5).2 = .ok outcome) ∧
    ∃ reason, storeless.collaborators.storedMetrics = .error reason ∧
      GatewayError.store "store_list offline" = .store reason := by
  intro s s' target
  rcases refusals_leave_no_trace with ⟨hrefused, haccepted, _, hreload⟩
  have hends : Ends s' 0 (.error (.notConfigured .container 7)) :=
    ⟨[.finished (.error (.notConfigured .container 7))], rfl, List.mem_cons_self⟩
  refine ⟨⟨hends, (hrefused s _ _ _ [] _ rfl hends).2.2 rfl⟩, ?_, hreload storeless _ rfl⟩
  exact haccepted (polledEvery (Duration.ofMillis 1)).collaborators 7 (Duration.ofMillis 1) rfl
    s.host.polling target rfl 42 .int 5

end Fetching
end MetricGateway
