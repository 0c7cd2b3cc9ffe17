import Mathlib.Data.List.Induction
import MetricGateway.Proofs.Answering.Errands

/-!
# How an errand goes on

Each piece of a step of the task leads from the messages that were sent before it to a stage of the
errand, and appends what it sends to the outbox.  So the messages that the task has sent in a run
are those of the stage that the errand is in.
-/

namespace MetricGateway
namespace Fetching

open Pulling (Polling)
open Resolver (Task)

namespace Errand

variable {x : Errand} {acts : List Act} {r r' : Resolver}

/-- From `r`, with `sent` before it, to a stage of the errand in `r'`. -/
def Leads (x : Errand) (acts : List Act) (r : Resolver) (sent : List Message) (r' : Resolver) :
    Prop :=
  ∃ own, r'.common.outbox.toList = r.common.outbox.toList ++ own ∧ x.Stage acts r' (sent ++ own)

theorem leads_of_stage {sent : List Message}
    (houtbox : r'.common.outbox.toList = r.common.outbox.toList) (h : x.Stage acts r' sent) :
    x.Leads acts r sent r' := by
  refine ⟨[], ?_, ?_⟩
  · rw [houtbox, List.append_nil]
  · rw [List.append_nil]
    exact h

theorem Leads.after {r₀ : Resolver} {sent : List Message} (h : x.Leads acts r sent r')
    (hbefore : Still r₀ r) : x.Leads acts r₀ sent r' := by
  rcases h with ⟨own, hown, hstage⟩
  exact ⟨own, hown.trans (congrArg (· ++ own) hbefore.silent.sent), hstage⟩

theorem Runs.still {t : Task} (h : x.Runs r t) (hstill : Still r r') : x.Runs r' t :=
  h.of_eq (congrArg (·[x.id]?) hstill.tasks)

theorem leads_fail {fetches : List Message} (hfetches : x.Fetches fetches) (e : GatewayError) :
    x.Leads acts r fetches (r.fail x.id e) :=
  leads_of_stage rfl (.ended (erased r x.id) hfetches)

theorem Runs.setPhase {t : Task} (h : x.Runs r t) (phase : Task.Phase) :
    x.Runs (r'.setPhase x.id t phase) { t with phase } :=
  ⟨Std.ExtTreeMap.getElem?_insert_self, h.request, h.requester⟩

theorem leads_complete {fetches : List Message} {answer : Message}
    (hanswer : x.Answer acts fetches answer) {common : Commons}
    (hsent : common.outbox.toList = r.common.outbox.toList ++ [answer]) (t : Task)
    (resolution : Resolver.Resolution) :
    x.Leads acts r fetches ((r'.onCommon fun _ => common).complete x.id t resolution) := by
  rcases complete_frame (r'.onCommon fun _ => common) x.id t resolution with ⟨htasks, houtbox⟩
  refine ⟨[answer], ?_, .answered ?_ hanswer⟩
  · rw [houtbox]
    exact hsent
  · rw [htasks]
    exact erased r' x.id

theorem leads_answering {fetches : List Message} {answer : Message} {t : Task}
    (hruns : x.Runs r t) (hanswer : x.Answer acts fetches answer) {common : Commons}
    (hsent : common.outbox.toList = r.common.outbox.toList) (ticket : Ticket)
    (resolution : Resolver.Resolution) :
    x.Leads acts r fetches
      ((r'.onCommon fun _ => common).setPhase x.id t (.answering ticket answer resolution)) :=
  leads_of_stage hsent (.answering (hruns.setPhase _) rfl hanswer)

theorem leads_answer {fetches : List Message} {reply : Envelope} {t : Task}
    (hruns : x.Runs r t) (hsource : x.Source acts fetches reply)
    (resolution : Resolver.Resolution) :
    x.Leads acts r fetches (r.answer x.id t reply resolution) := by
  have hanswer : x.Answer acts fetches (x.address reply) := ⟨reply, hsource, rfl⟩
  have hsent := (Polling.outbox_send r.common (x.address reply)).2
  unfold Resolver.answer
  rw [hruns.requester]
  dsimp only [requester]
  split
  next common hoffer =>
    replace hoffer : r.common.send (x.address reply) = (common, .accepted) := hoffer
    rw [hoffer] at hsent
    exact leads_complete hanswer hsent t resolution
  next common ticket hoffer =>
    replace hoffer : r.common.send (x.address reply) = (common, .parked ticket) := hoffer
    rw [hoffer] at hsent
    exact leads_answering hruns hanswer (hsent.trans (List.append_nil _)) ticket resolution
  next => exact leads_of_stage rfl (.ended (erased r x.id) hanswer.fetches)

theorem not_handed_listen (c : Correlator Envelope) (correlation : String) (timeout : Duration)
    (now : Instant) (reply : Envelope) :
    ¬(c.listen correlation timeout now).1.Handed c.started correlation reply := by
  rintro ⟨w, place, hw, _, hslot, _⟩
  have hnew : (c.listen correlation timeout now).1.waits[c.started]? =
      some { correlation, timeout, due := now.later? timeout, ticket := c.lastTicket + 1 } :=
    Std.ExtTreeMap.getElem?_insert_self
  cases hnew.symm.trans hw
  cases hslot

theorem leads_await {t : Task} (hruns : x.Runs r t) {fetch : Message} (hfetch : x.Fetch fetch)
    {common : Commons} (hsent : common.outbox.toList = r.common.outbox.toList ++ [fetch])
    {correlation : String} (hid : fetch.envelope.correlation = correlation)
    (settings : MetricSettings) :
    x.Leads acts r [] ((r'.onCommon fun _ => common).await x.id t correlation settings) := by
  refine ⟨[fetch], hsent, .awaiting (hruns.setPhase _) rfl hfetch hid ?_⟩
  intro reply hhanded
  exact absurd hhanded (not_handed_listen r'.correlator _ _ _ reply)

theorem leads_fetch {t : Task} (hruns : x.Runs r t) (hsetup : r.setup = x.start.host.setup)
    (hissued : x.start.host.common.issued ≤ r.common.issued) (key : String)
    (settings : MetricSettings) : x.Leads acts r [] (r.fetch x.id t key settings) := by
  let issued := r.onCommon fun _ => r.common.freshId.1
  let fetch := issued.fetchMessage t.request key r.common.freshId.2
  have hfetch : x.Fetch fetch := by
    refine ⟨key, r.common.issued, hissued, ?_⟩
    rw [← hruns.request]
    exact Resolver.fetchMessage_of_setup hsetup t.request key _
  have hsent := (Polling.outbox_send issued.common fetch).2
  unfold Resolver.fetch
  dsimp only
  split
  next common hoffer =>
    replace hoffer : issued.common.send fetch = (common, .accepted) := hoffer
    rw [hoffer] at hsent
    exact leads_await hruns hfetch hsent rfl settings
  next common ticket hoffer =>
    replace hoffer : issued.common.send fetch = (common, .parked ticket) := hoffer
    rw [hoffer] at hsent
    exact leads_of_stage (hsent.trans (List.append_nil _))
      (.fetching (hruns.setPhase _) rfl hfetch rfl)
  next => exact leads_of_stage rfl (.ended (erased r x.id) (fetches_nil x))

theorem leads_miss {t : Task} (hruns : x.Runs r t) (hsetup : r.setup = x.start.host.setup)
    (hissued : x.start.host.common.issued ≤ r.common.issued)
    (hwall : r.common.wall = (run x.start acts).host.common.wall) :
    x.Leads (acts ++ [.step x.id]) r [] (r.miss x.id t) := by
  have hroutes : r.routes = x.start.host.routes := congrArg Prod.fst hsetup
  unfold Resolver.miss
  split
  next hnone =>
    rw [hroutes, hruns.request] at hnone
    rw [hruns.request, hwall]
    exact leads_answer hruns (.noData rfl hnone) .noRoute
  next key _ =>
    have hstill := still_subscribe r t.request key
    have hsubscribed := (r.keeps_subscribe t.request key).setup.trans hsetup
    split
    next r' e hresult =>
      rw [hresult] at hstill
      exact (leads_fail (fetches_nil x) e).after hstill
    next r' settings hresult =>
      rw [hresult] at hstill hsubscribed
      have hissued' := Nat.le_trans hissued hstill.silent.issued_le
      exact (leads_fetch (hruns.still hstill) hsubscribed hissued' key settings).after hstill

theorem leads_begin {t : Task} (hruns : x.Runs (run x.start acts).host t)
    (hissued : x.start.host.common.issued ≤ (run x.start acts).host.common.issued) :
    x.Leads (acts ++ [.step x.id]) (run x.start acts).host []
      ((run x.start acts).host.begin x.id t) := by
  have hsetup := setup_run x.start acts
  have hcached : ∀ body, ((run x.start acts).host.collaborators.cachedValue
      (run x.start acts).host.now t.request.metric).2 = .ok (some body) →
      x.Source (acts ++ [.step x.id]) [] (Envelope.ofBody body .ok) := by
    intro body hbody
    rw [hruns.request] at hbody
    exact .cached rfl hbody
  unfold Resolver.begin
  cases hlookup : (run x.start acts).host.collaborators.cachedValue
      (run x.start acts).host.now t.request.metric with
  | mk collaborators result =>
      have hbefore := still_collaborators (run x.start acts).host collaborators
      rw [hlookup] at hcached
      cases result with
      | error reason => exact (leads_fail (fetches_nil x) (.cache reason)).after hbefore
      | ok cached =>
          cases cached with
          | none =>
              have hmissed := hbefore.trans (still_count _ Metrics.addCacheMiss)
              exact (leads_miss (hruns.still hmissed) hsetup hissued rfl).after hmissed
          | some body =>
              have hrefreshed := (hbefore.trans (still_count _ Metrics.addCacheHit)).trans
                (still_polling _ (Polling.silent_refresh _ t.request.metric))
              exact (leads_answer (hruns.still hrefreshed) (hcached body rfl) .cached).after
                hrefreshed

theorem leads_passOn {t : Task} (hruns : x.Runs r t) {fetch : Message} {reply : Envelope}
    (hsource : x.Source acts [fetch] reply) (correlation : String) (settings : MetricSettings) :
    x.Leads acts r [fetch] (r.passOn x.id t correlation settings reply) := by
  have hfetches : x.Fetches [fetch] := Answer.fetches ⟨reply, hsource, rfl⟩
  have hbefore := still_pending r (r.pending.erase correlation)
  unfold Resolver.passOn
  dsimp only
  split
  · split
    · exact leads_of_stage rfl (.ended (erased r x.id) hfetches)
    next collaborators _ _ _ =>
      have hcached := hbefore.trans (still_collaborators _ collaborators)
      exact (leads_answer (hruns.still hcached) hsource _).after hcached
  · exact (leads_answer (hruns.still hbefore) hsource _).after hbefore

theorem leads_giveUp {fetches : List Message} (hfetches : x.Fetches fetches) (t : Task)
    (correlation : String) (e : GatewayError) :
    x.Leads acts r fetches (r.giveUp x.id t correlation e) := by
  have hbefore := still_pending r (r.pending.erase correlation)
  unfold Resolver.giveUp
  dsimp only
  split
  · exact (leads_fail hfetches e).after
      ((hbefore.trans (still_count _ _)).trans (still_onCommon _ rfl rfl))
  · exact (leads_fail hfetches e).after hbefore

/-- A reply that a wait gives is one that was routed under the id of the fetch. -/
theorem source_of_result {t : Task} (hruns : x.Runs r t) (hcorrelated : Correlated r)
    {wait : WaitId} {fetch : Message} {settings : MetricSettings}
    (hphase : t.phase = .awaiting wait fetch.envelope.correlation settings)
    (hfetch : x.Fetch fetch)
    (hheard : ∀ reply, r.correlator.Handed wait fetch.envelope.correlation reply →
      .route reply ∈ acts)
    {reply : Envelope} (hresult : r.correlator.result? wait r.now = some (.ok reply)) :
    x.Source acts [fetch] reply := by
  have hhanded := hcorrelated.handed_of_result hruns.task hphase hresult
  exact .fetched hfetch (hcorrelated.id_of_handed hruns.task hphase hhanded) (hheard reply hhanded)

theorem Stage.step {sent : List Message} (h : x.Stage acts (run x.start acts).host sent)
    (hcorrelated : Correlated (run x.start acts).host)
    (hissued : x.start.host.common.issued ≤ (run x.start acts).host.common.issued) :
    x.Leads (acts ++ [.step x.id]) (run x.start acts).host sent
      ((run x.start acts).host.stepTask x.id) := by
  cases h with
  | starting hruns hphase =>
      rw [Resolver.stepTask_starting hruns.task hphase]
      exact leads_begin hruns hissued
  | @fetching t ticket fetch correlation settings hruns hphase hfetch hid =>
      have hsent := (Polling.outbox_resend (run x.start acts).host.common ticket fetch).2
      rw [Resolver.stepTask_fetching hruns.task hphase]
      split
      next common hoffer =>
        rw [hoffer] at hsent
        exact leads_await hruns hfetch hsent hid settings
      next =>
        exact leads_of_stage rfl (.ended (erased (run x.start acts).host x.id) (fetches_nil x))
      next => exact leads_of_stage rfl (.fetching hruns hphase hfetch hid)
  | @awaiting t wait fetch correlation settings hruns hphase hfetch hid hheard =>
      subst hid
      have hheard' : ∀ reply, (run x.start acts).host.correlator.Handed wait
          fetch.envelope.correlation reply → .route reply ∈ acts ++ [.step x.id] :=
        fun reply hhanded => List.mem_append_left _ (hheard reply hhanded)
      let finished : Resolver := { (run x.start acts).host with
        correlator := (run x.start acts).host.correlator.finish wait }
      have hfinished : x.Runs finished t := ⟨hruns.task, hruns.request, hruns.requester⟩
      rw [Resolver.stepTask_awaiting hruns.task hphase]
      split
      next => exact leads_of_stage rfl (.awaiting hruns hphase hfetch rfl hheard')
      next e _ => exact leads_giveUp (r := finished) hfetch.fetches t _ e
      next reply hresult =>
        have hsource := source_of_result hruns hcorrelated hphase hfetch hheard' hresult
        exact leads_passOn hfinished hsource _ settings
  | @answering t ticket answer resolution fetches hruns hphase hanswer =>
      have hanswer' := hanswer.append [.step x.id]
      have hsent := (Polling.outbox_resend (run x.start acts).host.common ticket answer).2
      rw [Resolver.stepTask_answering hruns.task hphase]
      split
      next common hoffer =>
        rw [hoffer] at hsent
        exact leads_complete hanswer' hsent t resolution
      next => exact leads_fail hanswer.fetches .channelClosed
      next => exact leads_of_stage rfl (.answering hruns hphase hanswer')
  | answered hgone hanswer =>
      rw [Resolver.stepTask_of_none hgone]
      exact leads_of_stage rfl (.answered hgone (hanswer.append [.step x.id]))
  | ended hgone hfetches =>
      rw [Resolver.stepTask_of_none hgone]
      exact leads_of_stage rfl (.ended hgone hfetches)

/-!
## Runs
-/

/-- An errand after a run: the messages that its task has sent so far are those of its stage. -/
structure Followed (x : Errand) (acts : List Act) : Prop where
  correlated : Correlated (run x.start acts).host
  started : x.id < (run x.start acts).host.started
  issued : x.start.host.common.issued ≤ (run x.start acts).host.common.issued
  stage : x.Stage acts (run x.start acts).host (sentBy x.id x.start acts)

theorem Followed.act (h : x.Followed acts) (a : Act) : x.Followed (acts ++ [a]) := by
  have hrun : run x.start (acts ++ [a]) = Fetching.act (run x.start acts) a := run_append _ _ _
  constructor
  · rw [hrun]
    exact h.correlated.act a
  · rw [hrun]
    exact Nat.lt_of_lt_of_le h.started (started_act _ a)
  · rw [hrun]
    exact Nat.le_trans h.issued (issued_act _ a)
  · rw [hrun, sentBy_append]
    by_cases ha : a = .step x.id
    · subst ha
      rcases h.stage.step h.correlated h.issued with ⟨own, hown, hstage⟩
      have hsent : sentIn (Fetching.run x.start acts) (.step x.id) = own := sentIn_of_append hown
      rw [sentBy_step, hsent]
      exact hstage
    · rw [sentBy_of_ne ha, List.append_nil]
      exact h.stage.other h.correlated h.started ha

theorem Followed.run (h : x.Followed []) (acts : List Act) : x.Followed acts := by
  induction acts using List.reverseRecOn with
  | nil => exact h
  | append_singleton acts a ih => exact ih.act a

end Errand

end Fetching
end MetricGateway
