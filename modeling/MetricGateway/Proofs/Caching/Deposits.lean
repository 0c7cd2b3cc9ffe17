import MetricGateway.Proofs.Caching.Lookups
import MetricGateway.Proofs.Fetching.Outbox
import MetricGateway.Proofs.Pulling.Views

/-!
# What is put into the cache

Two things put values into the cache: a task that has got a reply which reports success, and the
reply to a poll.  Both do so at the instant at which they happen.  All else leaves every lookup as
it is.  The deposits of a run are listed, newest first, so that it can be said which one was the
last for a metric.
-/

namespace MetricGateway

open Pulling (Polling)

/-!
## Deposits of acts
-/

namespace Resolver

def replyDeposits (r : Resolver) (t : Task) (correlation : String) (settings : MetricSettings)
    (reply : Envelope) : List Deposit :=
  if reply.status.isOk then
    r.collaborators.deposits r.now t.request.metric reply.body
      ((r.pending[correlation]?).getD settings).cacheFor
  else []

def stepDeposits (r : Resolver) (id : TaskId) : List Deposit :=
  match r.tasks[id]? with
  | none => []
  | some t =>
      match t.phase with
      | .awaiting wait correlation settings =>
          match r.correlator.result? wait r.now with
          | some (.ok reply) => r.replyDeposits t correlation settings reply
          | _ => []
      | _ => []

/-- A step deposits the body of a reply that reports success and that the task has waited for, for
as long as the settings say that are remembered under the id of the fetch. -/
theorem mem_stepDeposits {r : Resolver} {id : TaskId} {d : Deposit} (h : d ∈ r.stepDeposits id) :
    ∃ (t : Task) (wait : WaitId) (correlation : String) (settings : MetricSettings)
      (reply : Envelope), r.tasks[id]? = some t ∧ t.phase = .awaiting wait correlation settings ∧
        r.correlator.result? wait r.now = some (.ok reply) ∧ reply.status.isOk = true ∧
        d = ⟨t.request.metric, reply.body, r.now,
          ((r.pending[correlation]?).getD settings).cacheFor⟩ := by
  unfold stepDeposits at h
  split at h
  next => cases h
  next t htask =>
    split at h
    next wait correlation settings hphase =>
      split at h
      next reply hresult =>
        unfold replyDeposits at h
        split at h
        next hstatus =>
          exact ⟨t, wait, correlation, settings, reply, htask, hphase, hresult, hstatus,
            Collaborators.mem_deposits h⟩
        next => cases h
      next => cases h
    next => cases h

end Resolver

namespace Fetching

open Resolver (TaskId Task)

def depositsIn (r : Resolver) : Act → List Deposit
  | .step id => r.stepDeposits id
  | .handlePoll history reply => r.pollDeposits history reply
  | _ => []

theorem time_of_mem_depositsIn {r : Resolver} {a : Act} {d : Deposit} (h : d ∈ depositsIn r a) :
    d.time = r.now := by
  cases a with
  | step id =>
      rcases Resolver.mem_stepDeposits h with ⟨_, _, _, _, _, _, _, _, _, rfl⟩
      rfl
  | handlePoll history reply =>
      rcases Resolver.mem_pollDeposits history h with ⟨_, _, _, _, _, _, _, _, _, rfl⟩
      rfl
  | _ => cases h

def depositsOver (s : Recorded Resolver) : List Act → List Deposit
  | [] => []
  | a :: acts => depositsOver (act s a) acts ++ depositsIn s.host a

theorem depositsOver_append (s : Recorded Resolver) (acts more : List Act) :
    depositsOver s (acts ++ more) = depositsOver (run s acts) more ++ depositsOver s acts := by
  induction acts generalizing s with
  | nil => exact (List.append_nil _).symm
  | cons a acts ih =>
      show depositsOver (act s a) (acts ++ more) ++ _ = _ ++ (_ ++ _)
      rw [ih, List.append_assoc]
      rfl

theorem depositsOver_concat (s : Recorded Resolver) (acts : List Act) (a : Act) :
    depositsOver s (acts ++ [a]) = depositsIn (run s acts).host a ++ depositsOver s acts := by
  rw [depositsOver_append]
  rfl

/-!
## Changes of the cache
-/

/-- Some code makes deposits, and lookups follow them.  The clock stands still meanwhile, and
settings are remembered for no other ids than those that are given out. -/
structure Stores (r : Resolver) (deposits : List Deposit) (r' : Resolver) : Prop where
  now : r'.now = r.now
  issued_le : r.common.issued ≤ r'.common.issued
  pending : ∀ {correlation : String} {settings : MetricSettings},
    r'.pending[correlation]? = some settings →
      r.pending[correlation]? = some settings ∨ GivenOut r r' correlation
  follows : r.collaborators.cache.Follows r.now deposits r'.collaborators.cache

variable {r r' : Resolver} {deposits : List Deposit}

theorem stores_refl (r : Resolver) : Stores r [] r where
  now := rfl
  issued_le := Nat.le_refl _
  pending := Or.inl
  follows := r.collaborators.cache.follows_refl r.now

theorem Stores.trans {r'' : Resolver} {new : List Deposit} (h : Stores r deposits r')
    (h' : Stores r' new r'') : Stores r (new ++ deposits) r'' where
  now := h'.now.trans h.now
  issued_le := Nat.le_trans h.issued_le h'.issued_le
  pending := by
    intro correlation settings hsettings
    rcases h'.pending hsettings with hbefore | ⟨n, hlow, hhigh, heq⟩
    · rcases h.pending hbefore with hold | ⟨n, hlow, hhigh, heq⟩
      · exact Or.inl hold
      · exact Or.inr ⟨n, hlow, Nat.lt_of_lt_of_le hhigh h'.issued_le, heq⟩
    · exact Or.inr ⟨n, Nat.le_trans h.issued_le hlow, hhigh, heq⟩
  follows := h.follows.trans (h.now ▸ h'.follows)

/-- The cache, the clock, the ids and the remembered settings are the same afterwards. -/
theorem Stores.same {r'' : Resolver} (h : Stores r deposits r') (hnow : r''.now = r'.now)
    (hissued : r''.common.issued = r'.common.issued) (hpending : r''.pending = r'.pending)
    (hcollaborators : r''.collaborators = r'.collaborators) : Stores r deposits r'' where
  now := hnow.trans h.now
  issued_le := hissued ▸ h.issued_le
  pending := by
    intro correlation settings hsettings
    rw [hpending] at hsettings
    rcases h.pending hsettings with hold | ⟨n, hlow, hhigh, heq⟩
    · exact Or.inl hold
    · exact Or.inr ⟨n, hlow, hissued ▸ hhigh, heq⟩
  follows := hcollaborators ▸ h.follows

theorem Stores.before {r'' : Resolver} (h : Stores r [] r') (h' : Stores r' deposits r'') :
    Stores r deposits r'' := by
  have hboth := h.trans h'
  rw [List.append_nil] at hboth
  exact hboth

theorem stores_polling (r : Resolver) {polling : Polling} (hnow : polling.common.now = r.now)
    (hissued : r.common.issued ≤ polling.common.issued) : Stores r [] { r with polling } where
  now := hnow
  issued_le := hissued
  pending := Or.inl
  follows := r.collaborators.cache.follows_refl r.now

theorem stores_collaborators (r : Resolver) {collaborators : Collaborators}
    (h : r.collaborators.cache.Follows r.now deposits collaborators.cache) :
    Stores r deposits { r with collaborators } where
  now := rfl
  issued_le := Nat.le_refl _
  pending := Or.inl
  follows := h

theorem stores_forget (r : Resolver) (correlation : String) :
    Stores r [] { r with pending := r.pending.erase correlation } where
  now := rfl
  issued_le := Nat.le_refl _
  pending := by
    intro other settings hsettings
    dsimp only at hsettings
    rw [lookup_erase] at hsettings
    split at hsettings
    · cases hsettings
    · exact Or.inl hsettings
  follows := r.collaborators.cache.follows_refl r.now

/-!
## Subscribing
-/

theorem stores_subscribe (r : Resolver) (request : MetricRequest) (key : String) :
    Stores r [] (r.subscribe request key).1 := by
  have hlooked := Cache.follows_of_values
    (r.collaborators.values_metricSettings request.metric) r.now
  unfold Resolver.subscribe
  cases hsettings : r.collaborators.metricSettings request.metric with
  | mk collaborators result =>
      rw [hsettings] at hlooked
      have hstores := stores_collaborators r hlooked
      cases result with
      | error e => exact hstores
      | ok settings =>
          dsimp only
          split
          next => exact hstores
          next interval _ =>
            have hadded := hstores.before (stores_polling _
              (Polling.blind_now.add r.polling (Resolver.target request key interval) request.metric
                request.valueKind settings.budget)
              (Polling.silent_add r.polling (Resolver.target request key interval) request.metric
                request.valueKind settings.budget).issued_le)
            split
            next hadd =>
              rw [hadd] at hadded
              exact hadded
            next hadd =>
              rw [hadd] at hadded
              exact hadded

theorem stores_schedule (r : Resolver) (request : MetricRequest) :
    Stores r [] (r.schedule request).1 := by
  rcases Resolver.schedule_cases r request with heq | ⟨key, heq⟩
  · rw [heq]
    exact stores_refl r
  · rw [heq]
    exact stores_subscribe r request key

theorem stores_scheduleAll (r : Resolver) (requests : List MetricRequest) :
    Stores r [] (r.scheduleAll requests).1 := by
  induction requests generalizing r with
  | nil => exact stores_refl r
  | cons request requests ih =>
      exact (stores_schedule r request).before (ih (r.schedule request).1)

/-!
## Tasks
-/

theorem stores_sending (r : Resolver) (m : Message) :
    Stores r [] (r.onCommon fun _ => (r.common.send m).1) :=
  stores_polling r rfl (Nat.le_refl _)

theorem stores_resending (r : Resolver) (ticket : Ticket) (m : Message) :
    Stores r [] (r.onCommon fun _ => (r.common.resend ticket m).1) :=
  stores_polling r rfl (Nat.le_refl _)

theorem Stores.complete (h : Stores r deposits r') (id : TaskId) (t : Task)
    (resolution : Resolver.Resolution) : Stores r deposits (r'.complete id t resolution) := by
  unfold Resolver.complete
  dsimp only
  split <;> exact h.same rfl rfl rfl rfl

theorem Stores.answer (h : Stores r deposits r') (id : TaskId) (t : Task) (reply : Envelope)
    (resolution : Resolver.Resolution) :
    Stores r deposits (r'.answer id t reply resolution) := by
  unfold Resolver.answer
  split
  · apply Stores.complete
    exact h.same rfl rfl rfl rfl
  · exact h.same rfl rfl rfl rfl
  next exchange key correlation _ =>
    let m : Message := { exchange, key, envelope := reply.withCorrelation correlation }
    let reported := r'.report id (.delivered m.envelope)
    have hreported : Stores r deposits reported := h.same rfl rfl rfl rfl
    have hsent := hreported.trans (stores_sending reported m)
    dsimp only
    split
    next hoffer =>
      replace hoffer : reported.common.send m = _ := hoffer
      rw [hoffer] at hsent
      exact hsent.complete id t resolution
    next hoffer =>
      replace hoffer : reported.common.send m = _ := hoffer
      rw [hoffer] at hsent
      exact hsent.same rfl rfl rfl rfl
    next => exact hreported.same rfl rfl rfl rfl

theorem Stores.await (h : Stores r deposits r') (id : TaskId) (t : Task) (correlation : String)
    (settings : MetricSettings) : Stores r deposits (r'.await id t correlation settings) :=
  h.same rfl rfl rfl rfl

theorem stores_fetch (r : Resolver) (id : TaskId) (t : Task) (key : String)
    (settings : MetricSettings) : Stores r [] (r.fetch id t key settings) := by
  let issued := r.onCommon fun _ => r.common.freshId.1
  let correlation := r.common.freshId.2
  let fetch := issued.fetchMessage t.request key correlation
  have hgiven : GivenOut r issued correlation :=
    ⟨r.common.issued, Nat.le_refl _, Nat.lt_succ_self _, rfl⟩
  let remembered : Resolver :=
    { issued with pending := issued.pending.insert correlation settings }
  have hremembered : Stores r [] remembered := by
    refine ⟨rfl, Nat.le_succ _, ?_, r.collaborators.cache.follows_refl r.now⟩
    intro other settings' hsettings
    replace hsettings : (r.pending.insert correlation settings)[other]? = some settings' :=
      hsettings
    rw [lookup_insert] at hsettings
    split at hsettings
    next heq => exact Or.inr (heq ▸ hgiven)
    next => exact Or.inl hsettings
  have hsent := hremembered.trans (stores_sending remembered fetch)
  unfold Resolver.fetch
  dsimp only
  split
  next hoffer =>
    replace hoffer : remembered.common.send fetch = _ := hoffer
    rw [hoffer] at hsent
    exact hsent.await id t correlation settings
  next hoffer =>
    replace hoffer : remembered.common.send fetch = _ := hoffer
    rw [hoffer] at hsent
    exact hsent.same rfl rfl rfl rfl
  next =>
    have hforgotten := hremembered.trans (stores_forget remembered correlation)
    exact hforgotten.same rfl rfl rfl rfl

theorem stores_miss (r : Resolver) (id : TaskId) (t : Task) : Stores r [] (r.miss id t) := by
  unfold Resolver.miss
  split
  next => exact (stores_refl r).answer id t _ _
  next key _ =>
    have hsubscribed := stores_subscribe r t.request key
    split
    next hresult =>
      rw [hresult] at hsubscribed
      exact hsubscribed.same rfl rfl rfl rfl
    next hresult =>
      rw [hresult] at hsubscribed
      exact hsubscribed.before (stores_fetch _ id t key _)

theorem stores_begin (r : Resolver) (id : TaskId) (t : Task) : Stores r [] (r.begin id t) := by
  have hlooked := r.collaborators.follows_cachedValue r.now t.request.metric
  unfold Resolver.begin
  cases hcached : r.collaborators.cachedValue r.now t.request.metric with
  | mk collaborators result =>
      rw [hcached] at hlooked
      have hstores := stores_collaborators r hlooked
      cases result with
      | error reason => exact hstores.same rfl rfl rfl rfl
      | ok cached =>
          cases cached with
          | none =>
              have hcounted : Stores r []
                  ({ r with collaborators }.count Metrics.addCacheMiss) :=
                hstores.same rfl rfl rfl rfl
              exact hcounted.before (stores_miss _ id t)
          | some body =>
              apply Stores.answer
              exact hstores.same rfl rfl rfl rfl

theorem stores_giveUp (r : Resolver) (id : TaskId) (t : Task) (correlation : String)
    (e : GatewayError) : Stores r [] (r.giveUp id t correlation e) := by
  have hforgotten := stores_forget r correlation
  unfold Resolver.giveUp
  dsimp only
  split
  · exact hforgotten.same rfl rfl rfl rfl
  · exact hforgotten.same rfl rfl rfl rfl

theorem stores_passOn (r : Resolver) (id : TaskId) (t : Task) (correlation : String)
    (settings : MetricSettings) (reply : Envelope) :
    Stores r (r.replyDeposits t correlation settings reply)
      (r.passOn id t correlation settings reply) := by
  have hforgotten := stores_forget r correlation
  unfold Resolver.replyDeposits Resolver.passOn
  dsimp only
  split
  next =>
    have hstored := r.collaborators.follows_cacheValue r.now t.request.metric reply.body
      ((r.pending[correlation]?).getD settings).cacheFor
    have hstores := hforgotten.before (stores_collaborators _ hstored)
    split
    next hvalue =>
      replace hvalue : r.collaborators.cacheValue r.now t.request.metric reply.body
        ((r.pending[correlation]?).getD settings).cacheFor = _ := hvalue
      rw [hvalue] at hstores
      exact hstores.same rfl rfl rfl rfl
    next hvalue =>
      replace hvalue : r.collaborators.cacheValue r.now t.request.metric reply.body
        ((r.pending[correlation]?).getD settings).cacheFor = _ := hvalue
      rw [hvalue] at hstores
      exact hstores.answer id t reply _
  next => exact hforgotten.answer id t reply _

theorem stores_stepTask (r : Resolver) (id : TaskId) :
    Stores r (r.stepDeposits id) (r.stepTask id) := by
  unfold Resolver.stepDeposits Resolver.stepTask
  cases r.tasks[id]? with
  | none => exact stores_refl r
  | some t =>
      dsimp only
      cases t.phase with
      | starting => exact stores_begin r id t
      | fetching ticket m correlation settings =>
          have hsent := stores_resending r ticket m
          dsimp only
          split
          next hoffer =>
            rw [hoffer] at hsent
            exact hsent.await id t correlation settings
          next =>
            have hforgotten := stores_forget r correlation
            exact hforgotten.same rfl rfl rfl rfl
          next => exact stores_refl r
      | awaiting wait correlation settings =>
          dsimp only
          cases r.correlator.result? wait r.now with
          | none => exact stores_refl r
          | some result =>
              have hfinished : Stores r [] { r with correlator := r.correlator.finish wait } :=
                (stores_refl r).same rfl rfl rfl rfl
              cases result with
              | error e => exact hfinished.before (stores_giveUp _ id t correlation e)
              | ok reply =>
                  exact hfinished.before (stores_passOn _ id t correlation settings reply)
      | answering ticket m resolution =>
          have hsent := stores_resending r ticket m
          dsimp only
          split
          next hoffer =>
            rw [hoffer] at hsent
            exact hsent.complete id t resolution
          next => exact (stores_refl r).same rfl rfl rfl rfl
          next => exact stores_refl r

/-!
## Everything else
-/

theorem stores_rebuild (r : Resolver) : Stores r [] r.rebuild.1 := by
  have hstopped : Stores r [] { r with polling := r.polling.stopAll.1 } :=
    stores_polling r rfl (Nat.le_refl _)
  unfold Resolver.rebuild Resolver.reload
  dsimp only
  cases r.collaborators.storedMetrics with
  | error reason => exact hstopped.same rfl rfl rfl rfl
  | ok requests =>
      have hscheduled := hstopped.before (stores_scheduleAll _ requests)
      exact hscheduled.same rfl rfl rfl rfl

theorem stores_forgetMetric (r : Resolver) (metric : MetricId) :
    Stores r [] (r.forgetMetric metric).1 := by
  have hforgotten := stores_collaborators r
    (Cache.follows_of_values (r.collaborators.values_forgetSettings metric) r.now)
  exact hforgotten.before (stores_polling _ (Polling.blind_now.remove r.polling metric)
    (Polling.silent_remove r.polling metric).issued_le)

theorem stores_react (r : Resolver) (e : LifecycleEvent) : Stores r [] (r.react e).1 := by
  have hcontainer : ∀ container, Stores r [] (r.forgetContainer container).1 := by
    intro container
    exact stores_polling r (Polling.blind_now.stopContainer r.polling container)
      (Polling.silent_stopContainer r.polling container).issued_le
  cases e with
  | containerUpdated container => exact hcontainer container
  | containerDeleted container => exact hcontainer container
  | metricUpdated _ metric => exact stores_forgetMetric r metric
  | metricDeleted _ metric => exact stores_forgetMetric r metric
  | policyDeleted _ => exact stores_rebuild r

theorem stores_route (r : Resolver) (reply : Envelope) : Stores r [] (r.route reply).1 := by
  have hstores := stores_refl r
  unfold Resolver.route
  split
  · exact hstores.same rfl rfl rfl rfl
  · split
    · exact hstores.same rfl rfl rfl rfl
    · exact hstores.same rfl rfl rfl rfl

theorem stores_dispatch (r : Resolver) (e : Envelope) : Stores r [] (r.dispatch e).1 := by
  have hstores := stores_refl r
  unfold Resolver.dispatch
  split
  · exact hstores.same rfl rfl rfl rfl
  · split
    · exact hstores
    · exact hstores.same rfl rfl rfl rfl

theorem stores_handlePoll (r : Resolver) (history : Bool) (reply : Envelope) :
    Stores r (Resolver.pollDeposits history r reply) (r.handlePoll history reply).1 := by
  unfold Resolver.pollDeposits Resolver.handlePoll
  split
  next => exact stores_refl r
  next =>
    cases (reply.unpack : Except Wire.Fault ReadingBatch) with
    | error fault => exact (stores_refl r).same rfl rfl rfl rfl
    | ok batch =>
        exact stores_collaborators r
          (Resolver.follows_storeReadings r.now history r.collaborators batch.readings)

theorem stores_apply (r : Resolver) (e : LifecycleEvent) : Stores r [] (r.apply e).1 :=
  (stores_react r e).same rfl rfl rfl rfl

/-- Whatever happens makes the deposits that are listed for it and no others, unless the other
systems change or time passes. -/
theorem stores_act (s : Recorded Resolver) (a : Act) :
    (∃ collaborators, a = .collaborate collaborators) ∨ (∃ now, a = .setClock now) ∨
      Stores s.host (depositsIn s.host a) (act s a).host := by
  cases a with
  | collaborate collaborators => exact Or.inl ⟨collaborators, rfl⟩
  | setClock now => exact Or.inr (Or.inl ⟨now, rfl⟩)
  | start request requester timeout =>
      exact Or.inr (Or.inr ((stores_refl s.host).same rfl rfl rfl rfl))
  | dispatch request => exact Or.inr (Or.inr (stores_dispatch s.host request))
  | step id => exact Or.inr (Or.inr (stores_stepTask s.host id))
  | route reply => exact Or.inr (Or.inr (stores_route s.host reply))
  | handlePoll history reply => exact Or.inr (Or.inr (stores_handlePoll s.host history reply))
  | apply event => exact Or.inr (Or.inr (stores_apply s.host event))
  | polling op =>
      exact Or.inr (Or.inr (stores_polling s.host (Polling.blind_now.perform s.host.polling op)
        (Polling.emits_perform s.host.polling op).issued_le))
  | take =>
      rcases sameButOutbox_take s with ⟨outbox, heq⟩
      rw [heq]
      exact Or.inr (Or.inr ((stores_refl s.host).same rfl rfl rfl rfl))
  | closeOutbox => exact Or.inr (Or.inr ((stores_refl s.host).same rfl rfl rfl rfl))

theorem follows_act (s : Recorded Resolver) {a : Act} (ha : ∀ c, a ≠ .collaborate c) :
    s.host.collaborators.cache.Follows s.host.now (depositsIn s.host a)
      (act s a).host.collaborators.cache := by
  rcases stores_act s a with ⟨c, hc⟩ | ⟨now, rfl⟩ | hstores
  · exact absurd hc (ha c)
  · exact s.host.collaborators.cache.follows_refl s.host.now
  · exact hstores.follows

theorem pending_act {s : Recorded Resolver} {a : Act} {correlation : String}
    {settings : MetricSettings} (h : (act s a).host.pending[correlation]? = some settings) :
    s.host.pending[correlation]? = some settings ∨
      GivenOut s.host (act s a).host correlation := by
  rcases stores_act s a with ⟨c, rfl⟩ | ⟨now, rfl⟩ | hstores
  · exact Or.inl h
  · exact Or.inl h
  · exact hstores.pending h

theorem now_act (s : Recorded Resolver) {a : Act} (ha : ∀ now, a ≠ .setClock now) :
    (act s a).host.now = s.host.now := by
  rcases stores_act s a with ⟨c, rfl⟩ | ⟨now, hnow⟩ | hstores
  · rfl
  · exact absurd hnow (ha now)
  · exact hstores.now

end Fetching
end MetricGateway
