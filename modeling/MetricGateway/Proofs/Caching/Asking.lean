import MetricGateway.Proofs.Answering.Stages
import MetricGateway.Proofs.Caching.Deposits

/-!
# How a task comes by what it stores

A task that finds no value for its metric looks up the settings of the metric in its first step, and
makes a fetch.  Until it has got the reply it keeps this fetch and these settings, and whatever is
remembered under the id of the fetch is what was looked up.  The reply has come while the task
carried the id, and so after the fetch was made.
-/

namespace MetricGateway
namespace Fetching

open Pulling (Polling)
open Resolver (TaskId Task)

/-- The settings that are looked up for a metric after the cache was asked for its value. -/
def Looks (r : Resolver) (metric : MetricId) (settings : MetricSettings) : Prop :=
  ((r.collaborators.cachedValue r.now metric).1.metricSettings metric).2 = .ok settings

section

variable (start : Recorded Resolver) (acts : List Act) (id : TaskId)

/-- In its first step a task has looked up the settings of the metric that it is asked for, and has
made a fetch of the request. -/
inductive Asked : MetricRequest → Message → MetricSettings → Prop where
  | intro {earlier later : List Act} {t : Task} {settings : MetricSettings}
      (hacts : acts = earlier ++ .step id :: later)
      (htask : (run start earlier).host.tasks[id]? = some t) (hphase : t.phase = .starting)
      (hsettings : Looks (run start earlier).host t.request.metric settings)
      (key correlation : String) :
      Asked t.request (start.host.fetchMessage t.request key correlation) settings

def Heard (reply : Envelope) : Prop :=
  ∃ earlier later, acts = earlier ++ .route reply :: later ∧
    (run start earlier).host.Carries id reply.correlation

/-- How far a task has got, which has sent some messages so far. -/
inductive Asks (r : Resolver) (sent : List Message) (t : Task) : Prop where
  | starting (hphase : t.phase = .starting)
  | fetching {ticket : Ticket} {fetch : Message} {correlation : String} {settings : MetricSettings}
      (hphase : t.phase = .fetching ticket fetch correlation settings)
      (hasked : Asked start acts id t.request fetch settings)
      (hid : fetch.envelope.correlation = correlation)
      (hremembered : ∀ other, r.pending[correlation]? = some other → other = settings)
  | awaiting {wait : WaitId} {fetch : Message} {correlation : String} {settings : MetricSettings}
      (hphase : t.phase = .awaiting wait correlation settings)
      (hasked : Asked start acts id t.request fetch settings)
      (hid : fetch.envelope.correlation = correlation)
      (hremembered : ∀ other, r.pending[correlation]? = some other → other = settings)
      (hsent : fetch ∈ sent)
      (hheard : ∀ reply, r.correlator.Handed wait correlation reply → Heard start acts id reply)
  | answering {ticket : Ticket} {m : Message} {resolution : Resolver.Resolution}
      (hphase : t.phase = .answering ticket m resolution)

/-- From `r`, with `sent` before it, to a state in which the task has ended or goes on. -/
def Proceeds (r : Resolver) (sent : List Message) (r' : Resolver) : Prop :=
  ∃ own, r'.common.outbox.toList = r.common.outbox.toList ++ own ∧
    ∀ t, r'.tasks[id]? = some t → Asks start acts id r' (sent ++ own) t

end

variable {start : Recorded Resolver} {acts : List Act} {id : TaskId} {t : Task}

/-!
## What others do
-/

theorem Asked.append {request : MetricRequest} {fetch : Message} {settings : MetricSettings}
    (h : Asked start acts id request fetch settings) (more : List Act) :
    Asked start (acts ++ more) id request fetch settings := by
  cases h with
  | @intro earlier later t settings hacts htask hphase hsettings key correlation =>
      have hmore : acts ++ more = earlier ++ .step id :: (later ++ more) := by
        rw [hacts, List.append_assoc, List.cons_append]
      exact .intro hmore htask hphase hsettings key correlation

theorem Heard.append {reply : Envelope} (h : Heard start acts id reply) (more : List Act) :
    Heard start (acts ++ more) id reply := by
  rcases h with ⟨earlier, later, hacts, hcarries⟩
  refine ⟨earlier, later ++ more, ?_, hcarries⟩
  rw [hacts, List.append_assoc, List.cons_append]

theorem Correlated.pending_of_carries {s : Recorded Resolver} (h : Correlated s.host)
    {correlation : String} (hcarries : s.host.Carries id correlation) {a : Act}
    {settings : MetricSettings}
    (hafter : (Fetching.act s a).host.pending[correlation]? = some settings) :
    s.host.pending[correlation]? = some settings := by
  rcases pending_act hafter with hbefore | hgiven
  · exact hbefore
  · exact absurd hcarries (h.not_carries_of_given hgiven id)

theorem Asks.other {sent : List Message} (h : Asks start acts id (run start acts).host sent t)
    (hcorrelated : Correlated (run start acts).host)
    (htask : (run start acts).host.tasks[id]? = some t) {a : Act} (ha : a ≠ .step id) :
    Asks start (acts ++ [a]) id (act (run start acts) a).host sent t := by
  cases h with
  | starting hphase => exact .starting hphase
  | fetching hphase hasked hid hremembered =>
      have hcarries := carries_of_fetching htask hphase
      exact .fetching hphase (hasked.append [a]) hid fun other hother =>
        hremembered other (hcorrelated.pending_of_carries hcarries hother)
  | @awaiting wait fetch correlation settings hphase hasked hid hremembered hsent hheard =>
      have hcarries := carries_of_awaiting htask hphase
      refine .awaiting hphase (hasked.append [a]) hid ?_ hsent ?_
      · intro other hother
        exact hremembered other (hcorrelated.pending_of_carries hcarries hother)
      · intro reply hhanded
        rcases hcorrelated.handed_before htask hphase ha hhanded with hbefore | rfl
        · exact (hheard reply hbefore).append [a]
        · have hstill := (tasks_act_of_ne (hcorrelated.task_lt htask) ha).trans htask
          have hreply := (hcorrelated.act (.route reply)).id_of_handed hstill hphase hhanded
          exact ⟨acts, [], rfl, hreply ▸ hcarries⟩
  | answering hphase => exact .answering hphase

/-!
## What the task does
-/

theorem Asks.append {r : Resolver} {sent : List Message} (h : Asks start acts id r sent t)
    (more : List Act) : Asks start (acts ++ more) id r sent t := by
  cases h with
  | starting hphase => exact .starting hphase
  | fetching hphase hasked hid hremembered =>
      exact .fetching hphase (hasked.append more) hid hremembered
  | awaiting hphase hasked hid hremembered hsent hheard =>
      exact .awaiting hphase (hasked.append more) hid hremembered hsent fun reply hhanded =>
        (hheard reply hhanded).append more
  | answering hphase => exact .answering hphase

section

variable {r r' : Resolver} {sent : List Message}

theorem Proceeds.after {r₀ : Resolver} (h : Proceeds start acts id r sent r')
    (hbefore : Still r₀ r) : Proceeds start acts id r₀ sent r' := by
  rcases h with ⟨own, hown, hasks⟩
  exact ⟨own, hown.trans (congrArg (· ++ own) hbefore.silent.sent), hasks⟩

theorem proceeds_refl (htask : r.tasks[id]? = some t) (h : Asks start acts id r sent t) :
    Proceeds start acts id r sent r := by
  refine ⟨[], (List.append_nil _).symm, ?_⟩
  intro t' ht'
  cases htask.symm.trans ht'
  rw [List.append_nil]
  exact h

theorem proceeds_of_leaves (h : Leaves r id t r') : Proceeds start acts id r sent r' := by
  rcases h.emits with ⟨_, hemits, _⟩
  rcases hemits.sent with ⟨own, hown, _⟩
  refine ⟨own, hown, ?_⟩
  intro t' ht'
  rcases h.left ht' with ⟨ticket, m, resolution, hphase⟩
  exact .answering hphase

theorem proceeds_answering (heffect : Effect r (.task id) r') (htask : r.tasks[id]? = some t)
    {ticket : Ticket} {m : Message} {resolution : Resolver.Resolution}
    (hphase : t.phase = .answering ticket m resolution) : Proceeds start acts id r sent r' := by
  cases heffect with
  | background h =>
      rcases h.emits.sent with ⟨own, hown, _⟩
      refine ⟨own, hown, ?_⟩
      intro t' ht'
      rw [h.tasks, htask] at ht'
      cases ht'
      exact .answering hphase
  | parked hother hstarting =>
      cases htask.symm.trans hother
      cases hphase.symm.trans hstarting
  | listened hother hbefore =>
      cases htask.symm.trans hother
      rcases hbefore with hstarting | ⟨_, _, _, hfetching⟩
      · cases hphase.symm.trans hstarting
      · cases hphase.symm.trans hfetching
  | left _ _ h => exact proceeds_of_leaves h
  | concluded hother hawaiting =>
      cases htask.symm.trans hother
      cases hphase.symm.trans hawaiting

theorem proceeds_await {fetch : Message} {settings : MetricSettings} {correlation : String}
    (hasked : Asked start acts id t.request fetch settings)
    (hid : fetch.envelope.correlation = correlation)
    (hremembered : ∀ other, r'.pending[correlation]? = some other → other = settings)
    {common : Commons} (hsent : common.outbox.toList = r.common.outbox.toList ++ [fetch]) :
    Proceeds start acts id r sent
      ((r'.onCommon fun _ => common).await id t correlation settings) := by
  refine ⟨[fetch], hsent, ?_⟩
  intro t' ht'
  replace ht' : (r'.tasks.insert id
      { t with phase := .awaiting r'.correlator.started correlation settings })[id]? = some t' :=
    ht'
  rw [Std.ExtTreeMap.getElem?_insert_self] at ht'
  cases ht'
  refine .awaiting rfl hasked hid hremembered (List.mem_append_right sent List.mem_cons_self) ?_
  intro reply hhanded
  exact absurd hhanded (Errand.not_handed_listen r'.correlator _ _ _ reply)

theorem proceeds_fetching {fetch : Message} {settings : MetricSettings} {correlation : String}
    (hasked : Asked start acts id t.request fetch settings)
    (hid : fetch.envelope.correlation = correlation)
    (hremembered : ∀ other, r'.pending[correlation]? = some other → other = settings)
    {common : Commons} (hsent : common.outbox.toList = r.common.outbox.toList) (ticket : Ticket) :
    Proceeds start acts id r sent
      ((r'.onCommon fun _ => common).setPhase id t
        (.fetching ticket fetch correlation settings)) := by
  refine ⟨[], hsent.trans (List.append_nil _).symm, ?_⟩
  intro t' ht'
  replace ht' : (r'.tasks.insert id
      { t with phase := .fetching ticket fetch correlation settings })[id]? = some t' := ht'
  rw [Std.ExtTreeMap.getElem?_insert_self] at ht'
  cases ht'
  exact .fetching rfl hasked hid hremembered

theorem proceeds_fetch {settings : MetricSettings} {key : String}
    (hasked : ∀ correlation, Asked start acts id t.request
      (r.fetchMessage t.request key correlation) settings) :
    Proceeds start acts id r sent (r.fetch id t key settings) := by
  let issued := r.onCommon fun _ => r.common.freshId.1
  let correlation := r.common.freshId.2
  let fetch := r.fetchMessage t.request key correlation
  have hsent := (Polling.outbox_send issued.common fetch).2
  have hremembered : ∀ other,
      (issued.pending.insert correlation settings)[correlation]? = some other →
        other = settings := by
    intro other hother
    rw [Std.ExtTreeMap.getElem?_insert_self] at hother
    cases hother
    rfl
  unfold Resolver.fetch
  dsimp only
  split
  next common hoffer =>
    replace hoffer : issued.common.send fetch = (common, .accepted) := hoffer
    rw [hoffer] at hsent
    exact proceeds_await (hasked correlation) rfl hremembered hsent
  next common ticket hoffer =>
    replace hoffer : issued.common.send fetch = (common, .parked ticket) := hoffer
    rw [hoffer] at hsent
    exact proceeds_fetching (hasked correlation) rfl hremembered
      (hsent.trans (List.append_nil _)) ticket
  next =>
    have hfailed := leaves_fail { issued with
      pending := (issued.pending.insert correlation settings).erase correlation } id t
        .channelClosed
    exact (proceeds_of_leaves hfailed).after ((still_freshId r).trans (still_pending issued _))

end

/-!
## Steps
-/

theorem settings_of_subscribe {r r' : Resolver} {request : MetricRequest} {key : String}
    {settings : MetricSettings} (h : r.subscribe request key = (r', .ok settings)) :
    (r.collaborators.metricSettings request.metric).2 = .ok settings := by
  unfold Resolver.subscribe at h
  cases hlookup : r.collaborators.metricSettings request.metric with
  | mk collaborators result =>
      rw [hlookup] at h
      cases result with
      | error e => cases h
      | ok found =>
          dsimp only at h
          split at h
          · cases h
          · split at h
            · cases h
            · cases h
              rfl

/-- In its first step a task leaves off, or makes a fetch with the settings that it has looked
up. -/
theorem begin_cases (r : Resolver) (id : TaskId) (t : Task) :
    Leaves r id t (r.begin id t) ∨ ∃ r' key settings, Still r r' ∧ r'.setup = r.setup ∧
      Looks r t.request.metric settings ∧ r.begin id t = r'.fetch id t key settings := by
  unfold Looks Resolver.begin
  cases r.collaborators.cachedValue r.now t.request.metric with
  | mk collaborators result =>
      have hbefore := still_collaborators r collaborators
      cases result with
      | error reason => exact Or.inl ((leaves_fail _ id t (.cache reason)).after_still hbefore)
      | ok cached =>
          cases cached with
          | some body =>
              have hrefreshed := (hbefore.trans (still_count _ Metrics.addCacheHit)).trans
                (still_polling _ (Polling.silent_refresh _ t.request.metric))
              exact Or.inl ((leaves_answer _ id t _ .cached).after_still hrefreshed)
          | none =>
              let missed := { r with collaborators }.count Metrics.addCacheMiss
              have hmissed : Still r missed := hbefore.trans (still_count _ Metrics.addCacheMiss)
              show Leaves r id t (missed.miss id t) ∨ ∃ r' key settings, Still r r' ∧ _ ∧ _ ∧
                missed.miss id t = _
              unfold Resolver.miss
              cases missed.routes.key? t.request.containerKind with
              | none => exact Or.inl ((leaves_answer missed id t _ .noRoute).after_still hmissed)
              | some key =>
                  have hstill := hmissed.trans (still_subscribe missed t.request key)
                  have hsetup := (missed.keeps_subscribe t.request key).setup
                  dsimp only
                  cases hsubscribed : missed.subscribe t.request key with
                  | mk r' result =>
                      rw [hsubscribed] at hstill hsetup
                      cases result with
                      | error e => exact Or.inl ((leaves_fail r' id t e).after_still hstill)
                      | ok settings =>
                          exact Or.inr ⟨r', key, settings, hstill, hsetup,
                            settings_of_subscribe hsubscribed, rfl⟩

theorem proceeds_begin {sent : List Message}
    (htask : (run start acts).host.tasks[id]? = some t) (hphase : t.phase = .starting) :
    Proceeds start (acts ++ [.step id]) id (run start acts).host sent
      ((run start acts).host.begin id t) := by
  rcases begin_cases (run start acts).host id t with
    hleaves | ⟨r', key, settings, hstill, hsetup, hlooks, hbegin⟩
  · exact proceeds_of_leaves hleaves
  · rw [hbegin]
    refine (proceeds_fetch ?_).after hstill
    intro correlation
    rw [Resolver.fetchMessage_of_setup (hsetup.trans (setup_run start acts))]
    exact .intro rfl htask hphase hlooks key correlation

theorem Asks.step {sent : List Message} (h : Asks start acts id (run start acts).host sent t)
    (htask : (run start acts).host.tasks[id]? = some t) :
    Proceeds start (acts ++ [.step id]) id (run start acts).host sent
      ((run start acts).host.stepTask id) := by
  have hstays := proceeds_refl htask (h.append [.step id])
  cases h with
  | starting hphase =>
      rw [Resolver.stepTask_starting htask hphase]
      exact proceeds_begin htask hphase
  | @fetching ticket fetch correlation settings hphase hasked hid hremembered =>
      have hsent := (Polling.outbox_resend (run start acts).host.common ticket fetch).2
      rw [Resolver.stepTask_fetching htask hphase]
      split
      next common hoffer =>
        rw [hoffer] at hsent
        exact proceeds_await (hasked.append [.step id]) hid hremembered hsent
      next =>
        exact (proceeds_of_leaves (leaves_fail _ id t .channelClosed)).after (still_pending _ _)
      next => exact hstays
  | @awaiting wait fetch correlation settings hphase =>
      let finished : Resolver := { (run start acts).host with
        correlator := (run start acts).host.correlator.finish wait }
      rw [Resolver.stepTask_awaiting htask hphase]
      split
      next => exact hstays
      next e _ => exact proceeds_of_leaves (r := finished) (leaves_giveUp finished id t _ e)
      next reply _ =>
        exact proceeds_of_leaves (r := finished) (leaves_passOn finished id t _ settings reply)
  | answering hphase => exact proceeds_answering (effect_answering htask hphase) htask hphase

end Fetching
end MetricGateway
