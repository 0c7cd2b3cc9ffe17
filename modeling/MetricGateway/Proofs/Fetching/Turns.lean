import MetricGateway.Proofs.Answering.Errands
import MetricGateway.Proofs.Caching.Deposits
import MetricGateway.Proofs.Fetching.Desk

/-!
# The steps of a task, one by one

A step of a task changes its desk, reports what it has done and brings at most one message to the
outbox.  This module lists all that can come of a step, with what has to be so for each of them;
what is proved later about requests goes through this list and not through the code of a step.
-/

namespace MetricGateway

namespace Resolver

def lookup (r : Resolver) (t : Task) : Except String (Option Wire.Bytes) :=
  (r.collaborators.cachedValue r.now t.request.metric).2

/-- The resolver in which a task goes on for which the cache has nothing. -/
def missed (r : Resolver) (t : Task) : Resolver :=
  { r with collaborators := (r.collaborators.cachedValue r.now t.request.metric).1 }.count
    Metrics.addCacheMiss

theorem begin_eq (r : Resolver) (id : TaskId) (t : Task) :
    r.begin id t =
      match r.lookup t with
      | .error reason =>
          { r with collaborators := (r.collaborators.cachedValue r.now t.request.metric).1 }.fail id
            (.cache reason)
      | .ok (some body) =>
          ({ r with collaborators := (r.collaborators.cachedValue r.now t.request.metric).1 }.count
            Metrics.addCacheHit).hit id t body
      | .ok none => (r.missed t).miss id t := by
  unfold begin lookup missed
  rcases r.collaborators.cachedValue r.now t.request.metric with ⟨_, _ | (_ | _)⟩ <;> rfl

/-- The resolver that has given out an id, and remembers settings under it. -/
def remembering (r : Resolver) (settings : MetricSettings) : Resolver :=
  { r.onCommon fun _ => r.common.freshId.1 with
    pending := r.pending.insert (Correlation.id r.common.issued) settings }

theorem fetch_eq (r : Resolver) (id : TaskId) (t : Task) (key : String)
    (settings : MetricSettings) :
    r.fetch id t key settings =
      match (r.remembering settings).common.send
          (r.fetchMessage t.request key (Correlation.id r.common.issued)) with
      | (common, .accepted) =>
          ((r.remembering settings).onCommon fun _ => common).await id t
            (Correlation.id r.common.issued) settings
      | (common, .parked ticket) =>
          ((r.remembering settings).onCommon fun _ => common).setPhase id t
            (.fetching ticket (r.fetchMessage t.request key (Correlation.id r.common.issued))
              (Correlation.id r.common.issued) settings)
      | (_, .refused) =>
          { r.remembering settings with
            pending := (r.remembering settings).pending.erase
              (Correlation.id r.common.issued) }.fail id .channelClosed :=
  rfl

/-- A task is about to ask a translator: it has not run yet, the cache has nothing for it, its
container has a route and its metric has settings. -/
structure Wants (r : Resolver) (t : Task) (key : String) (settings : MetricSettings) : Prop where
  phase : t.phase = .starting
  lookup : r.lookup t = .ok none
  route : r.routes.key? t.request.containerKind = some key
  settings : ((r.missed t).subscribe t.request key).2 = .ok settings

def Requester.letters (requester : Requester) (answer : Envelope) : List Message :=
  match requester with
  | .outbox exchange key _ => [{ exchange, key, envelope := answer }]
  | _ => []

end Resolver

namespace Fetching

open Pulling (Polling)
open Resolver (TaskId Task Report Requester Resolution Desk Wants reportsOf)

/-- How an answer is handed to the requester of a task: what is left of the task, what it reports
and what gets into the outbox. -/
inductive Handing (s : Recorded Resolver) (t : Task) (reply : Envelope) (resolution : Resolution) :
    Option Task → List Report → List Message → Prop where
  | taken (htakes : t.requester ≠ .gone) :
      Handing s t reply resolution none
        [.finished (.ok resolution), .delivered (t.requester.addressed reply)]
        (t.requester.letters (t.requester.addressed reply))
  | parked {exchange key own : String} (hrequester : t.requester = .outbox exchange key own)
      (ticket : Ticket) :
      Handing s t reply resolution
        (some { t with phase := .answering ticket
                        { exchange, key, envelope := t.requester.addressed reply } resolution })
        [.delivered (t.requester.addressed reply)] []
  | refused (hrefuses : Refuses s t.requester) :
      Handing s t reply resolution none
        [.finished (.error .channelClosed), .delivered (t.requester.addressed reply)] []

/-- All that can come of a step of a task: the desk after it, what the task reports in it and what
it brings to the outbox. -/
inductive Turn (s : Recorded Resolver) (id : TaskId) (t : Task) :
    Desk → List Report → List Message → Prop where
  | idle (hphase : t.phase ≠ .starting) (hwaits : s.host.taskReady id = false) :
      Turn s id t s.host.desk [] []
  | lookupFailed {reason : String} (hphase : t.phase = .starting)
      (hlookup : s.host.lookup t = .error reason) :
      Turn s id t (s.host.desk.set id none) [.finished (.error (.cache reason))] []
  | hit {body : Wire.Bytes} {left : Option Task} {new : List Report} {own : List Message}
      (hphase : t.phase = .starting) (hlookup : s.host.lookup t = .ok (some body))
      (hhanded : Handing s t (Envelope.ofBody body .ok) .cached left new own) :
      Turn s id t
        ({ s.host.desk with
            tally := { s.host.desk.tally with hits := s.host.desk.tally.hits + 1 } }.set id left)
        new own
  | unrouted {left : Option Task} {new : List Report} {own : List Message}
      (hphase : t.phase = .starting) (hlookup : s.host.lookup t = .ok none)
      (hroute : s.host.routes.key? t.request.containerKind = none)
      (hhanded : Handing s t
        (Envelope.pack (Reading.noData t.request s.host.common.wall) .ok) .noRoute left new own) :
      Turn s id t
        ({ s.host.desk with
            tally := { s.host.desk.tally with misses := s.host.desk.tally.misses + 1 } }.set id
          left)
        new own
  | unconfigured {key : String} {e : GatewayError} (hphase : t.phase = .starting)
      (hlookup : s.host.lookup t = .ok none)
      (hroute : s.host.routes.key? t.request.containerKind = some key)
      (hsettings : ((s.host.missed t).subscribe t.request key).2 = .error e) :
      Turn s id t
        ({ s.host.desk with
            tally := { s.host.desk.tally with misses := s.host.desk.tally.misses + 1 } }.set id
          none)
        [.finished (.error e)] []
  | parked {key : String} {settings : MetricSettings} {n : Nat} (ticket : Ticket)
      (hwants : Wants s.host t key settings) (hlow : s.host.common.issued ≤ n)
      (hhigh : n < (act s (.step id)).host.common.issued) (hopen : ¬Closed s) :
      Turn s id t
        ({ s.host.desk with
            pending := s.host.desk.pending.insert (Correlation.id n) settings
            tally := { s.host.desk.tally with misses := s.host.desk.tally.misses + 1 } }.set id
          (some { t with phase := .fetching ticket
                          (s.host.fetchMessage t.request key (Correlation.id n))
                          (Correlation.id n) settings }))
        [] []
  | sent {key : String} {settings : MetricSettings} {n : Nat}
      (hwants : Wants s.host t key settings) (hlow : s.host.common.issued ≤ n)
      (hhigh : n < (act s (.step id)).host.common.issued) (hopen : ¬Closed s) :
      Turn s id t
        ({ s.host.desk with
            pending := s.host.desk.pending.insert (Correlation.id n) settings
            correlator :=
              (s.host.correlator.listen (Correlation.id n) t.timeout s.host.now).1
            tally := { s.host.desk.tally with
              misses := s.host.desk.tally.misses + 1
              issued := s.host.desk.tally.issued + 1 } }.set id
          (some { t with phase := .awaiting s.host.correlator.started (Correlation.id n)
                          settings }))
        [] [s.host.fetchMessage t.request key (Correlation.id n)]
  | refused {key : String} {settings : MetricSettings} {n : Nat}
      (hwants : Wants s.host t key settings) (hlow : s.host.common.issued ≤ n)
      (hclosed : Closed s) :
      Turn s id t
        ({ s.host.desk with
            pending := (s.host.desk.pending.insert (Correlation.id n) settings).erase
              (Correlation.id n)
            tally := { s.host.desk.tally with misses := s.host.desk.tally.misses + 1 } }.set id
          none)
        [.finished (.error .channelClosed)] []
  /-- The fetch that waited for room got into the outbox. -/
  | resumed {ticket : Ticket} {fetch : Message} {correlation : String} {settings : MetricSettings}
      (hphase : t.phase = .fetching ticket fetch correlation settings) (hopen : ¬Closed s) :
      Turn s id t
        ({ s.host.desk with
            correlator := (s.host.correlator.listen correlation t.timeout s.host.now).1
            tally := { s.host.desk.tally with issued := s.host.desk.tally.issued + 1 } }.set id
          (some { t with phase := .awaiting s.host.correlator.started correlation settings }))
        [] [fetch]
  | dropped {ticket : Ticket} {fetch : Message} {correlation : String} {settings : MetricSettings}
      (hphase : t.phase = .fetching ticket fetch correlation settings) (hclosed : Closed s) :
      Turn s id t
        ({ s.host.desk with pending := s.host.desk.pending.erase correlation }.set id none)
        [.finished (.error .channelClosed)] []
  | timedOut {wait : WaitId} {correlation : String} {settings : MetricSettings} {e : GatewayError}
      (hphase : t.phase = .awaiting wait correlation settings)
      (hresult : s.host.correlator.result? wait s.host.now = some (.error e))
      (htimeout : e.isTimeout = true) :
      Turn s id t
        ({ s.host.desk with
            pending := s.host.desk.pending.erase correlation
            correlator := s.host.correlator.finish wait
            tally := { s.host.desk.tally with timeouts := s.host.desk.tally.timeouts + 1 } }.set id
          none)
        [.finished (.error e)] []
  | perished {wait : WaitId} {correlation : String} {settings : MetricSettings} {reply : Envelope}
      (hphase : t.phase = .awaiting wait correlation settings)
      (hresult : s.host.correlator.result? wait s.host.now = some (.ok reply))
      (hover : Overruns s.host id reply) :
      Turn s id t
        ({ s.host.desk with
            pending := s.host.desk.pending.erase correlation
            correlator := s.host.correlator.finish wait }.set id none)
        [] []
  | passedOn {wait : WaitId} {correlation : String} {settings : MetricSettings} {reply : Envelope}
      {left : Option Task} {new : List Report} {own : List Message}
      (hphase : t.phase = .awaiting wait correlation settings)
      (hresult : s.host.correlator.result? wait s.host.now = some (.ok reply))
      (hhanded : Handing s t reply (.fetched reply.status) left new own) :
      Turn s id t
        ({ s.host.desk with
            pending := s.host.desk.pending.erase correlation
            correlator := s.host.correlator.finish wait }.set id left)
        new own
  /-- The answer that waited for room got into the outbox. -/
  | answered {ticket : Ticket} {answer : Message} {resolution : Resolution}
      (hphase : t.phase = .answering ticket answer resolution) :
      Turn s id t (s.host.desk.set id none) [.finished (.ok resolution)] [answer]
  | unanswered {ticket : Ticket} {answer : Message} {resolution : Resolution}
      (hphase : t.phase = .answering ticket answer resolution) (hclosed : Closed s) :
      Turn s id t (s.host.desk.set id none) [.finished (.error .channelClosed)] []

/-!
## What the pieces of a step come to
-/

/-- From one resolver to another, with what a task reports and brings to the outbox on the way. -/
structure Yields (r : Resolver) (id : TaskId) (r' : Resolver) (d : Desk) (new : List Report)
    (own : List Message) : Prop where
  desk : r'.desk = d
  reports : reportsOf r' id = new ++ reportsOf r id
  sent : r'.common.outbox.toList = r.common.outbox.toList ++ own

variable {s : Recorded Resolver} {r r' : Resolver} {id : TaskId} {t : Task} {d : Desk}
  {new : List Report} {own : List Message}

theorem Still.reportsOf (h : Still r r') (id : TaskId) : reportsOf r' id = reportsOf r id := by
  unfold Resolver.reportsOf
  rw [h.reports]

theorem Yields.after {r₀ : Resolver} (h : Yields r id r' d new own) (hbefore : Still r₀ r) :
    Yields r₀ id r' d new own where
  desk := h.desk
  reports := by
    rw [h.reports, hbefore.reportsOf]
  sent := by
    rw [h.sent]
    exact congrArg (· ++ own) hbefore.silent.sent

theorem yields_of_eq (h : r' = r) : Yields r id r' r.desk [] [] := by
  rw [h]
  exact ⟨rfl, rfl, (List.append_nil _).symm⟩

theorem yields_fail (r : Resolver) (id : TaskId) (e : GatewayError) :
    Yields r id (r.fail id e) (r.desk.set id none) [.finished (.error e)] [] where
  desk := rfl
  reports := reportsOf_report (r.perish id) id _
  sent := (List.append_nil _).symm

theorem yields_complete (r : Resolver) (id : TaskId) (t : Task) (resolution : Resolution) :
    Yields r id (r.complete id t resolution) (r.desk.set id none) [.finished (.ok resolution)]
      [] where
  desk := by
    unfold Resolver.complete
    dsimp only
    split <;> rfl
  reports := reportsOf_complete r id t resolution
  sent := by
    rw [(complete_frame r id t resolution).2]
    exact (List.append_nil _).symm

/-- A requester gets the answer, or has it wait for room, or takes no answers any more. -/
theorem yields_answer (hopen : r.common.outbox.closed = s.host.common.outbox.closed) (id : TaskId)
    (t : Task) (reply : Envelope) (resolution : Resolution) :
    ∃ left new own, Handing s t reply resolution left new own ∧
      Yields r id (r.answer id t reply resolution) (r.desk.set id left) new own := by
  have hdelivered : ∀ {q : Resolver} {left : Option Task} {what : Report} {answer : Envelope}
      {own : List Message},
      Yields (r.report id (.delivered answer)) id q (r.desk.set id left) [what] own →
        Yields r id q (r.desk.set id left) [what, .delivered answer] own := by
    intro q left what answer own h
    refine ⟨h.desk, ?_, h.sent⟩
    rw [h.reports, reportsOf_report]
    rfl
  unfold Resolver.answer
  cases hrequester : t.requester with
  | caller =>
      have hhanded : Handing s t reply resolution _ _ _ := .taken (by simp [hrequester])
      rw [hrequester] at hhanded
      exact ⟨_, _, _, hhanded, hdelivered (yields_complete _ id t resolution)⟩
  | gone =>
      have hhanded : Handing s t reply resolution _ _ _ :=
        .refused (by rw [hrequester]; trivial)
      rw [hrequester] at hhanded
      exact ⟨_, _, _, hhanded, hdelivered (yields_fail _ id .channelClosed)⟩
  | outbox exchange key own =>
      let answer := reply.withCorrelation own
      let m : Message := { exchange, key, envelope := answer }
      let told := r.report id (.delivered answer)
      have hreports : reportsOf told id = .delivered answer :: reportsOf r id :=
        reportsOf_report r id _
      have hsent := (Polling.outbox_send told.common m).2
      have hdesk : (told.onCommon fun _ => (told.common.send m).1).desk = r.desk := rfl
      have hclosed : (told.common.send m).2 = .refused → Closed s := fun hoffer =>
        hopen.symm.trans (send_eq_refused_iff.mp hoffer)
      have haddressed : t.requester.addressed reply = answer := by rw [hrequester]; rfl
      dsimp only
      cases hoffer : told.common.send m with
      | mk common offer =>
          rw [hoffer] at hsent hdesk hclosed
          cases offer with
          | accepted =>
              have hhanded : Handing s t reply resolution _ _ _ := .taken (by simp [hrequester])
              have hdone := yields_complete (told.onCommon fun _ => common) id t resolution
              rw [haddressed, hrequester] at hhanded
              refine ⟨_, _, _, hhanded, ?_, ?_, ?_⟩
              · exact hdone.desk.trans (congrArg (·.set id none) hdesk)
              · exact hdone.reports.trans (congrArg _ hreports)
              · exact hdone.sent.trans ((List.append_nil _).trans hsent)
          | parked ticket =>
              have hhanded : Handing s t reply resolution _ _ _ := .parked hrequester ticket
              rw [haddressed] at hhanded
              refine ⟨_, _, _, hhanded, ?_, hreports, hsent⟩
              exact congrArg (fun d : Desk => d.set id
                (some { t with phase := .answering ticket m resolution })) hdesk
          | refused =>
              have hrefuses : Refuses s t.requester := by
                rw [hrequester]
                exact hclosed rfl
              have hhanded : Handing s t reply resolution _ _ _ := .refused hrefuses
              rw [haddressed] at hhanded
              exact ⟨_, _, _, hhanded, hdelivered (yields_fail told id .channelClosed)⟩

theorem yields_await (r : Resolver) (id : TaskId) (t : Task) (correlation : String)
    (settings : MetricSettings) :
    Yields r id (r.await id t correlation settings)
      ({ r.desk with
          correlator := (r.correlator.listen correlation t.timeout r.now).1
          tally := { r.desk.tally with issued := r.desk.tally.issued + 1 } }.set id
        (some { t with phase := .awaiting r.correlator.started correlation settings }))
      [] [] where
  desk := rfl
  reports := rfl
  sent := (List.append_nil _).symm

/-!
## The first step
-/

/-- A task that asks a translator has its fetch in the outbox, or waits for room for it, or is
refused. -/
theorem turn_fetch {key : String} {settings : MetricSettings} (hwants : Wants s.host t key settings)
    (hstill : Still s.host r) (hsetup : r.setup = s.host.setup) (hnow : r.now = s.host.now)
    (hdesk : r.desk = { s.host.desk with
      tally := { s.host.desk.tally with misses := s.host.desk.tally.misses + 1 } })
    (hbegin : (act s (.step id)).host = r.fetch id t key settings) :
    ∃ d new own, Turn s id t d new own ∧ Yields s.host id (act s (.step id)).host d new own := by
  let n := r.common.issued
  let correlation := Correlation.id n
  let m := s.host.fetchMessage t.request key correlation
  let asking : Resolver := r.remembering settings
  have hlow : s.host.common.issued ≤ n := hstill.silent.issued_le
  have hmessage : r.fetchMessage t.request key correlation = m :=
    Resolver.fetchMessage_of_setup hsetup _ _ _
  have hpending : r.pending = s.host.pending := congrArg Desk.pending hdesk
  have hcorrelator : r.correlator = s.host.correlator := hstill.correlator
  have hasking : asking.desk = { s.host.desk with
      pending := s.host.desk.pending.insert correlation settings
      tally := { s.host.desk.tally with misses := s.host.desk.tally.misses + 1 } } := by
    show ({ r.desk with pending := r.pending.insert correlation settings } : Desk) = _
    rw [hdesk, hpending]
    rfl
  have hbefore : Still s.host asking :=
    hstill.trans ((still_freshId r).trans (still_pending _ _))
  have hsent := (Polling.outbox_send asking.common m).2
  have hkept : asking.common.outbox.closed = s.host.common.outbox.closed := hbefore.silent.closed
  have hclosed : (asking.common.send m).2 = .refused ↔ Closed s := by
    rw [send_eq_refused_iff, hkept]
    exact Iff.rfl
  have hoffered : r.fetch id t key settings = _ := r.fetch_eq id t key settings
  rw [hmessage] at hoffered
  have hview : (asking.onCommon fun _ => (asking.common.send m).1).desk = asking.desk := rfl
  have hclock : (asking.onCommon fun _ => (asking.common.send m).1).now = s.host.now := hnow
  have hissued : n < (asking.common.send m).1.issued := Nat.lt_succ_self n
  rw [hbegin, hoffered]
  cases hoffer : asking.common.send m with
  | mk common offer =>
      rw [hoffer] at hsent hclosed hview hclock hissued
      rw [hoffer] at hoffered
      cases offer with
      | accepted =>
          let sending := asking.onCommon fun _ => common
          have hawaits := yields_await sending id t correlation settings
          have hwaits : sending.correlator = s.host.correlator := hcorrelator
          rw [hwaits, hclock, show sending.desk = _ from hview.trans hasking] at hawaits
          have hhigh : n < (act s (.step id)).host.common.issued := by
            rw [hbegin, hoffered]
            exact hissued
          have hyields : Yields asking id (sending.await id t correlation settings) _ [] [m] :=
            ⟨hawaits.desk, rfl, hsent⟩
          have hopen : ¬Closed s := fun hc => nomatch hclosed.mpr hc
          exact ⟨_, _, _, .sent hwants hlow hhigh hopen, hyields.after hbefore⟩
      | parked ticket =>
          have hhigh : n < (act s (.step id)).host.common.issued := by
            rw [hbegin, hoffered]
            exact hissued
          let parked := (asking.onCommon fun _ => common).setPhase id t
            (.fetching ticket m correlation settings)
          have hyields : Yields asking id parked (asking.desk.set id
              (some { t with phase := .fetching ticket m correlation settings })) [] [] :=
            ⟨congrArg (fun d : Desk => d.set id
              (some { t with phase := .fetching ticket m correlation settings })) hview, rfl, hsent⟩
          rw [hasking] at hyields
          have hopen : ¬Closed s := fun hc => nomatch hclosed.mpr hc
          exact ⟨_, _, _, .parked ticket hwants hlow hhigh hopen, hyields.after hbefore⟩
      | refused =>
          let forgetting := { asking with pending := asking.pending.erase correlation }
          have hfails := (yields_fail forgetting id .channelClosed).after
            (hbefore.trans (still_pending asking _))
          have hforgetting : forgetting.desk =
              { asking.desk with pending := asking.desk.pending.erase correlation } := rfl
          rw [hforgetting, hasking] at hfails
          exact ⟨_, _, _, .refused hwants hlow (hclosed.mp rfl), hfails⟩

/-- A task for which the cache has nothing answers without data where its container has no route,
and ends where its metric cannot be subscribed. -/
theorem turn_miss (hphase : t.phase = .starting) (hlookup : s.host.lookup t = .ok none)
    (hmiss : (act s (.step id)).host = (s.host.missed t).miss id t) :
    ∃ d new own, Turn s id t d new own ∧ Yields s.host id (act s (.step id)).host d new own := by
  have hmissed : Still s.host (s.host.missed t) :=
    (still_collaborators s.host _).trans (still_count _ _)
  have hdesk : (s.host.missed t).desk = { s.host.desk with
      tally := { s.host.desk.tally with misses := s.host.desk.tally.misses + 1 } } := rfl
  unfold Resolver.miss at hmiss
  cases hroute : s.host.routes.key? t.request.containerKind with
  | none =>
      rcases yields_answer hmissed.silent.closed id t
          (Envelope.pack (Reading.noData t.request s.host.common.wall) .ok) .noRoute with
        ⟨left, new, own, hhanded, hyields⟩
      rw [show (s.host.missed t).routes.key? _ = none from hroute] at hmiss
      rw [hmiss]
      exact ⟨_, _, _, .unrouted hphase hlookup hroute hhanded, hyields.after hmissed⟩
  | some key =>
      have hsubscribed := hmissed.trans (still_subscribe _ t.request key)
      have hsetup := ((s.host.missed t).keeps_subscribe t.request key).setup
      have hnow := (stores_subscribe (s.host.missed t) t.request key).now
      have hkept := ((s.host.missed t).desk_subscribe t.request key).trans hdesk
      rw [show (s.host.missed t).routes.key? _ = some key from hroute] at hmiss
      dsimp only at hmiss
      cases hresult : (s.host.missed t).subscribe t.request key with
      | mk r result =>
          rw [hresult] at hmiss hsubscribed hsetup hnow hkept
          cases result with
          | error e =>
              have hfails := (yields_fail r id e).after hsubscribed
              rw [hmiss]
              rw [hkept] at hfails
              exact ⟨_, _, _, .unconfigured hphase hlookup hroute (by rw [hresult]), hfails⟩
          | ok settings =>
              exact turn_fetch ⟨hphase, hlookup, hroute, by rw [hresult]⟩ hsubscribed hsetup hnow
                hkept hmiss

/-- In its first step a task asks the cache, and without a value there a translator. -/
theorem turn_starting (htask : s.host.tasks[id]? = some t) (hphase : t.phase = .starting) :
    ∃ d new own, Turn s id t d new own ∧ Yields s.host id (act s (.step id)).host d new own := by
  let collaborators := (s.host.collaborators.cachedValue s.host.now t.request.metric).1
  have hasked := still_collaborators s.host collaborators
  have hbegin : (act s (.step id)).host = _ :=
    (Resolver.stepTask_starting htask hphase).trans (s.host.begin_eq id t)
  cases hlookup : s.host.lookup t with
  | error reason =>
      rw [hbegin, hlookup]
      exact ⟨_, _, _, .lookupFailed hphase hlookup, (yields_fail _ id _).after hasked⟩
  | ok cached =>
      cases cached with
      | none =>
          rw [hlookup] at hbegin
          exact turn_miss hphase hlookup hbegin
      | some body =>
          let counted := { s.host with collaborators }.count Metrics.addCacheHit
          let refreshed : Resolver :=
            { counted with polling := (counted.polling.refresh t.request.metric).1 }
          have hstill : Still s.host refreshed := (hasked.trans (still_count _ _)).trans
            (still_polling counted (Polling.silent_refresh _ t.request.metric))
          rcases yields_answer hstill.silent.closed id t (Envelope.ofBody body .ok) .cached with
            ⟨left, new, own, hhanded, hyields⟩
          rw [hbegin, hlookup]
          exact ⟨_, _, _, .hit hphase hlookup hhanded, hyields.after hstill⟩

/-!
## The steps after a wait
-/

theorem answers_of_parked {c : Commons} {ticket ticket' : Ticket} {m : Message}
    (h : (c.resend ticket m).2 = .parked ticket') : c.outbox.answers ticket = false := by
  cases hanswers : c.outbox.answers ticket with
  | false => rfl
  | true => exact absurd h (not_parked_of_answers hanswers m ticket')

theorem turn_fetching {ticket : Ticket} {m : Message} {correlation : String}
    {settings : MetricSettings} (htask : s.host.tasks[id]? = some t)
    (hphase : t.phase = .fetching ticket m correlation settings) :
    ∃ d new own, Turn s id t d new own ∧ Yields s.host id (act s (.step id)).host d new own := by
  have hstep : (act s (.step id)).host = _ := Resolver.stepTask_fetching htask hphase
  have hsent := (Polling.outbox_resend s.host.common ticket m).2
  have hclosed : (s.host.common.resend ticket m).2 = .refused ↔ Closed s :=
    resend_eq_refused_iff
  have hwaits : ∀ {ticket'}, (s.host.common.resend ticket m).2 = .parked ticket' →
      s.host.taskReady id = false := by
    intro ticket' hparked
    unfold Resolver.taskReady
    rw [htask]
    dsimp only
    rw [hphase]
    exact answers_of_parked hparked
  have hview : (s.host.onCommon fun _ => (s.host.common.resend ticket m).1).desk = s.host.desk :=
    rfl
  have hnow : (s.host.onCommon fun _ => (s.host.common.resend ticket m).1).now = s.host.now := rfl
  cases hoffer : s.host.common.resend ticket m with
  | mk common offer =>
      rw [hoffer] at hstep hsent hclosed hwaits hview hnow
      cases offer with
      | accepted =>
          let sending := s.host.onCommon fun _ => common
          have hawaits := yields_await sending id t correlation settings
          rw [hnow, hview] at hawaits
          rw [hstep]
          have hopen : ¬Closed s := fun hc => nomatch hclosed.mpr hc
          exact ⟨_, _, _, .resumed hphase hopen, hawaits.desk, rfl, hsent⟩
      | refused =>
          have hfails := (yields_fail { s.host with pending := s.host.pending.erase correlation }
            id .channelClosed).after (still_pending s.host _)
          rw [hstep]
          exact ⟨_, _, _, .dropped hphase (hclosed.mp rfl), hfails⟩
      | parked ticket' =>
          exact ⟨_, _, _, .idle (by simp [hphase]) (hwaits rfl), yields_of_eq hstep⟩

theorem turn_answering {ticket : Ticket} {m : Message} {resolution : Resolution}
    (htask : s.host.tasks[id]? = some t) (hphase : t.phase = .answering ticket m resolution) :
    ∃ d new own, Turn s id t d new own ∧ Yields s.host id (act s (.step id)).host d new own := by
  have hstep : (act s (.step id)).host = _ := Resolver.stepTask_answering htask hphase
  have hsent := (Polling.outbox_resend s.host.common ticket m).2
  have hclosed : (s.host.common.resend ticket m).2 = .refused → Closed s :=
    resend_eq_refused_iff.mp
  have hwaits : ∀ {ticket'}, (s.host.common.resend ticket m).2 = .parked ticket' →
      s.host.taskReady id = false := by
    intro ticket' hparked
    unfold Resolver.taskReady
    rw [htask]
    dsimp only
    rw [hphase]
    exact answers_of_parked hparked
  have hview : (s.host.onCommon fun _ => (s.host.common.resend ticket m).1).desk = s.host.desk :=
    rfl
  cases hoffer : s.host.common.resend ticket m with
  | mk common offer =>
      rw [hoffer] at hstep hsent hclosed hwaits hview
      cases offer with
      | accepted =>
          have hdone := yields_complete (s.host.onCommon fun _ => common) id t resolution
          rw [hview] at hdone
          rw [hstep]
          exact ⟨_, _, _, .answered hphase, hdone.desk, hdone.reports,
            hdone.sent.trans ((List.append_nil _).trans hsent)⟩
      | refused =>
          rw [hstep]
          exact ⟨_, _, _, .unanswered hphase (hclosed rfl), yields_fail s.host id .channelClosed⟩
      | parked ticket' =>
          exact ⟨_, _, _, .idle (by simp [hphase]) (hwaits rfl), yields_of_eq hstep⟩

theorem yields_giveUp (r : Resolver) (id : TaskId) (t : Task) (correlation : String)
    {e : GatewayError} (htimeout : e.isTimeout = true) :
    Yields r id (r.giveUp id t correlation e)
      ({ r.desk with
          pending := r.pending.erase correlation
          tally := { r.desk.tally with timeouts := r.desk.tally.timeouts + 1 } }.set id none)
      [.finished (.error e)] [] := by
  unfold Resolver.giveUp
  dsimp only
  rw [if_pos htimeout]
  have hbefore := ((still_pending r (r.pending.erase correlation)).trans
    (still_count _ Metrics.addFetchTimeout)).trans (still_onCommon _
      (f := (·.record (.fetchTimedOut t.request.metric correlation t.timeout))) rfl rfl)
  exact (yields_fail _ id e).after hbefore

/-- A reply is handed to the requester, unless the task does not survive caching it. -/
theorem yields_passOn (hopen : r.common.outbox.closed = s.host.common.outbox.closed) (id : TaskId)
    (t : Task) (correlation : String) (settings : MetricSettings) (reply : Envelope) :
    ((reply.status.isOk = true ∧ (r.collaborators.cacheValue r.now t.request.metric reply.body
          ((r.pending[correlation]?).getD settings).cacheFor).2 = .fatal) ∧
        Yields r id (r.passOn id t correlation settings reply)
          ({ r.desk with pending := r.pending.erase correlation }.set id none) [] []) ∨
      ∃ left new own, Handing s t reply (.fetched reply.status) left new own ∧
        Yields r id (r.passOn id t correlation settings reply)
          ({ r.desk with pending := r.pending.erase correlation }.set id left) new own := by
  have hforgets := still_pending r (r.pending.erase correlation)
  unfold Resolver.passOn
  dsimp only
  split
  next hok =>
    split
    next hcached =>
      exact Or.inl ⟨⟨hok, congrArg Prod.snd hcached⟩, rfl, rfl, (List.append_nil _).symm⟩
    next collaborators _ _ _ =>
      have hbefore := hforgets.trans (still_collaborators _ collaborators)
      rcases yields_answer (hbefore.silent.closed.trans hopen) id t reply
          (.fetched reply.status) with ⟨left, new, own, hhanded, hanswers⟩
      exact Or.inr ⟨left, new, own, hhanded, hanswers.after hbefore⟩
  next =>
    rcases yields_answer (hforgets.silent.closed.trans hopen) id t reply
        (.fetched reply.status) with ⟨left, new, own, hhanded, hanswers⟩
    exact Or.inr ⟨left, new, own, hhanded, hanswers.after hforgets⟩

/-- A task that awaits a reply gives up in time, or passes the reply on unless caching it is the
end of it. -/
theorem turn_awaiting {wait : WaitId} {correlation : String} {settings : MetricSettings}
    (htask : s.host.tasks[id]? = some t)
    (hphase : t.phase = .awaiting wait correlation settings) :
    ∃ d new own, Turn s id t d new own ∧ Yields s.host id (act s (.step id)).host d new own := by
  let finished : Resolver :=
    { s.host with correlator := s.host.correlator.finish wait }
  have hfinished : Yields s.host id finished
      { s.host.desk with correlator := s.host.correlator.finish wait } [] [] :=
    ⟨rfl, rfl, (List.append_nil _).symm⟩
  have hstep : (act s (.step id)).host = _ := Resolver.stepTask_awaiting htask hphase
  cases hresult : s.host.correlator.result? wait s.host.now with
  | none =>
      rw [hresult] at hstep
      have hwaits : s.host.taskReady id = false := by
        unfold Resolver.taskReady
        rw [htask]
        dsimp only
        rw [hphase]
        exact congrArg Option.isSome hresult
      exact ⟨_, _, _, .idle (by simp [hphase]) hwaits, yields_of_eq hstep⟩
  | some result =>
      cases result with
      | error e =>
          rw [hresult] at hstep
          have htimeout : e.isTimeout = true := by
            rcases Correlator.result?_error hresult with ⟨w, _, rfl⟩
            rfl
          have hgives := yields_giveUp finished id t correlation htimeout
          rw [hstep]
          exact ⟨_, _, _, .timedOut hphase hresult htimeout, hgives.desk, hgives.reports,
            hgives.sent⟩
      | ok reply =>
          rw [hresult] at hstep
          rw [hstep]
          rcases yields_passOn (s := s) (r := finished) rfl id t correlation settings reply with
            ⟨⟨hok, hfatal⟩, hperishes⟩ | ⟨left, new, own, hhanded, hanswers⟩
          · rcases fatal_iff.mp hfatal with ⟨hworks, hlate⟩
            have hover : Overruns s.host id reply :=
              ⟨hok, hworks, t, wait, correlation, settings, htask, hphase, hlate⟩
            exact ⟨_, _, _, .perished hphase hresult hover, hperishes.desk, hperishes.reports,
              hperishes.sent⟩
          · exact ⟨_, _, _, .passedOn hphase hresult hhanded, hanswers.desk, hanswers.reports,
              hanswers.sent⟩

theorem turn_stepTask (htask : s.host.tasks[id]? = some t) :
    ∃ d new own, Turn s id t d new own ∧ Yields s.host id (act s (.step id)).host d new own := by
  cases hphase : t.phase with
  | starting => exact turn_starting htask hphase
  | fetching ticket m correlation settings => exact turn_fetching htask hphase
  | awaiting wait correlation settings => exact turn_awaiting htask hphase
  | answering ticket m resolution => exact turn_answering htask hphase

/-!
## Whatever happens
-/

/-- All that can come of an act: the desk after it. -/
inductive Move (s : Recorded Resolver) : Act → Desk → Prop where
  | background {a : Act} (hstep : ∀ id, a ≠ .step id) (hroute : ∀ reply, a ≠ .route reply) :
      Move s a s.host.desk
  | begun {a : Act} {t : Task} (hstep : ∀ id, a ≠ .step id) (hroute : ∀ reply, a ≠ .route reply)
      (hphase : t.phase = .starting) : Move s a (s.host.desk.set s.host.started (some t))
  /-- A reply has reached a wait. -/
  | taken {reply : Envelope} {wait : WaitId} (hroute : (s.host.route reply).2 = true)
      (hopen : s.host.correlator.Open wait reply.correlation) :
      Move s (.route reply)
        { s.host.desk with correlator := (s.host.correlator.send reply.correlation reply).1 }
  | unmatched {reply : Envelope} (hroute : (s.host.route reply).2 = false) :
      Move s (.route reply)
        { s.host.desk with
          tally := { s.host.desk.tally with unmatched := s.host.desk.tally.unmatched + 1 } }
  | absent {id : TaskId} (htask : s.host.tasks[id]? = none) : Move s (.step id) s.host.desk
  | turned {id : TaskId} {t : Task} {d : Desk} {new : List Report}
      (htask : s.host.tasks[id]? = some t) (hturn : Turn s id t d new (sentIn s (.step id))) :
      Move s (.step id) d

theorem move_route (h : Correlated s.host) (reply : Envelope) :
    Move s (.route reply) (s.host.route reply).1.desk := by
  have hrouted : ∀ {desk : Desk}, Move s (.route reply) desk →
      (s.host.route reply).1.desk = desk → Move s (.route reply) (s.host.route reply).1.desk :=
    fun hmove heq => heq ▸ hmove
  cases hempty : reply.correlation.isEmpty with
  | true =>
      have hroute : s.host.route reply = (s.host.count Metrics.addUnmatchedReply, false) := by
        unfold Resolver.route
        rw [if_pos hempty]
      exact hrouted (.unmatched (congrArg Prod.snd hroute)) (congrArg (·.1.desk) hroute)
  | false =>
      cases hreg : s.host.correlator.registered[reply.correlation]? with
      | none =>
          have hroute : s.host.route reply = (s.host.count Metrics.addUnmatchedReply, false) := by
            unfold Resolver.route
            rw [hempty, Correlator.send_of_free hreg]
            rfl
          exact hrouted (.unmatched (congrArg Prod.snd hroute)) (congrArg (·.1.desk) hroute)
      | some reg =>
          rcases h.open_of_registered hreg with ⟨id, t, settings, _, _, hopen⟩
          rcases Correlator.send_of_open hopen reply with ⟨w, _, _, hsend⟩
          have hroute : s.host.route reply = ({ s.host with
              correlator := (s.host.correlator.send reply.correlation reply).1 }, true) := by
            unfold Resolver.route
            rw [hempty, hsend]
            rfl
          exact hrouted (.taken (congrArg Prod.snd hroute) hopen) (congrArg (·.1.desk) hroute)

theorem move_act (h : Correlated s.host) (a : Act) : Move s a (act s a).host.desk := by
  by_cases hstep : ∃ id, a = .step id
  · rcases hstep with ⟨id, rfl⟩
    cases htask : s.host.tasks[id]? with
    | none =>
        have hsame : (act s (.step id)).host = s.host := Resolver.stepTask_of_none htask
        rw [hsame]
        exact .absent htask
    | some t =>
        rcases turn_stepTask htask with ⟨d, new, own, hturn, hyields⟩
        have hsent : sentIn s (.step id) = own := sentIn_of_append hyields.sent
        rw [hyields.desk]
        exact .turned htask (hsent ▸ hturn)
  · replace hstep : ∀ id, a ≠ .step id := fun id heq => hstep ⟨id, heq⟩
    by_cases hroute : ∃ reply, a = .route reply
    · rcases hroute with ⟨reply, rfl⟩
      exact move_route h reply
    · replace hroute : ∀ reply, a ≠ .route reply := fun reply heq => hroute ⟨reply, heq⟩
      rcases desk_act s hstep hroute with hsame | ⟨t, hphase, hset⟩
      · rw [hsame]
        exact .background hstep hroute
      · rw [hset]
        exact .begun hstep hroute hphase

end Fetching
end MetricGateway
