import MetricGateway.Proofs.Fetching.Outbox
import MetricGateway.Proofs.Pulling.Destination
import MetricGateway.Proofs.Pulling.Tickers

/-!
# What is polled while requests are answered

Whatever happens to a resolver, its background polling moves by the operations of background polling
and by changes of what is shared, and by nothing else.  So index and groups agree in every state
that the resolver can get into, and polls are always addressed as they were at first.
-/

namespace MetricGateway
namespace Pulling
namespace Polling

def LeadsTo (p p' : Polling) : Prop := ∃ moves, p' = p.follow moves

variable {p p' p'' : Polling}

theorem leadsTo_refl (p : Polling) : p.LeadsTo p := ⟨[], rfl⟩

theorem LeadsTo.trans (h : p.LeadsTo p') (h' : p'.LeadsTo p'') : p.LeadsTo p'' := by
  rcases h with ⟨moves, rfl⟩
  rcases h' with ⟨more, rfl⟩
  exact ⟨moves ++ more, (follow_append p moves more).symm⟩

theorem leadsTo_perform (p : Polling) (op : Op) : p.LeadsTo (p.perform op) :=
  ⟨[.perform op], rfl⟩

theorem LeadsTo.shares (h : p.LeadsTo p') (hshares : p'' = p'.onCommon fun _ => p''.common) :
    p.LeadsTo p'' :=
  h.trans ⟨[.share fun _ => p''.common], hshares⟩

theorem LeadsTo.address_eq (h : p.LeadsTo p') : p'.address = p.address := by
  rcases h with ⟨moves, rfl⟩
  induction moves generalizing p with
  | nil => rfl
  | cons move moves ih =>
      refine ih.trans ?_
      cases move with
      | perform op => exact address_perform p op
      | share f => rfl

theorem LeadsTo.replyKey_eq (h : p.LeadsTo p') : p'.replyKey = p.replyKey :=
  congrArg (·.2.1) h.address_eq

theorem LeadsTo.consistent (h : p.LeadsTo p') (hconsistent : p.registry.Consistent) :
    p'.registry.Consistent := by
  rcases h with ⟨moves, rfl⟩
  induction moves generalizing p with
  | nil => exact hconsistent
  | cons move moves ih =>
      apply ih
      cases move with
      | perform op => exact consistent_perform hconsistent op
      | share f => exact hconsistent

/-! ## Requests -/

open Resolver (TaskId Task Resolution)

theorem leadsTo_subscribe (r : Resolver) (request : MetricRequest) (key : String) :
    r.polling.LeadsTo (r.subscribe request key).1.polling := by
  unfold Resolver.subscribe
  split
  · exact leadsTo_refl r.polling
  next settings _ =>
    dsimp only
    split
    · exact leadsTo_refl r.polling
    next interval _ =>
      have hadded := leadsTo_perform r.polling
        (.add (Resolver.target request key interval) request.metric request.valueKind
          settings.budget)
      unfold perform at hadded
      dsimp only at hadded
      split
      next hadd =>
        rw [hadd] at hadded
        exact hadded
      next hadd =>
        rw [hadd] at hadded
        exact hadded

section

variable {r : Resolver} (h : p.LeadsTo r.polling)
include h

theorem LeadsTo.complete (id : TaskId) (t : Task) (resolution : Resolution) :
    p.LeadsTo (r.complete id t resolution).polling := by
  unfold Resolver.complete
  dsimp only
  split
  · exact h
  · exact h.shares rfl

theorem LeadsTo.answer (id : TaskId) (t : Task) (reply : Envelope) (resolution : Resolution) :
    p.LeadsTo (r.answer id t reply resolution).polling := by
  unfold Resolver.answer
  split
  · apply LeadsTo.complete
    exact h
  · exact h
  · dsimp only
    split
    · apply LeadsTo.complete
      exact h.shares rfl
    · exact h.shares rfl
    · exact h

theorem LeadsTo.fetch (id : TaskId) (t : Task) (key : String) (settings : MetricSettings) :
    p.LeadsTo (r.fetch id t key settings).polling := by
  unfold Resolver.fetch
  dsimp only
  split <;> exact h.shares rfl

theorem LeadsTo.miss (id : TaskId) (t : Task) : p.LeadsTo (r.miss id t).polling := by
  unfold Resolver.miss
  split
  · exact h.answer id t _ _
  next key _ =>
    have hsubscribed := h.trans (leadsTo_subscribe r t.request key)
    split
    next hresult =>
      rw [hresult] at hsubscribed
      exact hsubscribed
    next hresult =>
      rw [hresult] at hsubscribed
      exact hsubscribed.fetch id t key _

end

theorem leadsTo_begin (r : Resolver) (id : TaskId) (t : Task) :
    r.polling.LeadsTo (r.begin id t).polling := by
  unfold Resolver.begin
  split
  · exact leadsTo_refl r.polling
  · have hrefreshed := leadsTo_perform r.polling (.refresh t.request.metric)
    unfold Resolver.hit
    apply LeadsTo.answer
    exact hrefreshed.shares rfl
  · apply LeadsTo.miss
    exact (leadsTo_refl r.polling).shares rfl

theorem leadsTo_giveUp (r : Resolver) (id : TaskId) (t : Task) (correlation : String)
    (e : GatewayError) : r.polling.LeadsTo (r.giveUp id t correlation e).polling := by
  unfold Resolver.giveUp
  dsimp only
  split
  · exact (leadsTo_refl r.polling).shares rfl
  · exact leadsTo_refl r.polling

theorem leadsTo_passOn (r : Resolver) (id : TaskId) (t : Task) (correlation : String)
    (settings : MetricSettings) (reply : Envelope) :
    r.polling.LeadsTo (r.passOn id t correlation settings reply).polling := by
  unfold Resolver.passOn
  dsimp only
  split
  · split
    · exact leadsTo_refl r.polling
    · apply LeadsTo.answer
      exact leadsTo_refl r.polling
  · apply LeadsTo.answer
    exact leadsTo_refl r.polling

theorem leadsTo_stepTask (r : Resolver) (id : TaskId) :
    r.polling.LeadsTo (r.stepTask id).polling := by
  unfold Resolver.stepTask
  cases r.tasks[id]? with
  | none => exact leadsTo_refl r.polling
  | some t =>
      dsimp only
      cases t.phase with
      | starting => exact leadsTo_begin r id t
      | fetching ticket m correlation settings =>
          dsimp only
          split
          · exact (leadsTo_refl r.polling).shares rfl
          · exact leadsTo_refl r.polling
          · exact leadsTo_refl r.polling
      | awaiting wait correlation settings =>
          dsimp only
          split
          · exact leadsTo_refl r.polling
          · split
            · exact leadsTo_giveUp { r with correlator := r.correlator.finish wait } id t
                correlation _
            · exact leadsTo_passOn { r with correlator := r.correlator.finish wait } id t
                correlation settings _
      | answering ticket m resolution =>
          dsimp only
          split
          · apply LeadsTo.complete
            exact (leadsTo_refl r.polling).shares rfl
          · exact leadsTo_refl r.polling
          · exact leadsTo_refl r.polling

/-! ## Changes of the configuration -/

theorem leadsTo_schedule (r : Resolver) (request : MetricRequest) :
    r.polling.LeadsTo (r.schedule request).1.polling := by
  rcases Resolver.schedule_cases r request with heq | ⟨key, heq⟩
  · rw [heq]
    exact leadsTo_refl r.polling
  · rw [heq]
    exact leadsTo_subscribe r request key

theorem leadsTo_scheduleAll (r : Resolver) (requests : List MetricRequest) :
    r.polling.LeadsTo (r.scheduleAll requests).1.polling := by
  induction requests generalizing r with
  | nil => exact leadsTo_refl r.polling
  | cons request requests ih => exact (leadsTo_schedule r request).trans (ih (r.schedule request).1)

theorem leadsTo_reload (r : Resolver) : r.polling.LeadsTo r.reload.1.polling := by
  unfold Resolver.reload
  cases r.collaborators.storedMetrics with
  | error reason => exact leadsTo_refl r.polling
  | ok requests => exact leadsTo_scheduleAll r requests

theorem leadsTo_rebuild (r : Resolver) : r.polling.LeadsTo r.rebuild.1.polling := by
  have hreloaded := (leadsTo_perform r.polling .stopAll).trans
    (leadsTo_reload { r with polling := r.polling.stopAll.1 })
  unfold Resolver.rebuild
  dsimp only
  split
  next hresult =>
    rw [hresult] at hreloaded
    exact hreloaded.shares rfl
  next hresult =>
    rw [hresult] at hreloaded
    exact hreloaded.shares rfl

theorem leadsTo_react (r : Resolver) (e : LifecycleEvent) :
    r.polling.LeadsTo (r.react e).1.polling := by
  cases e with
  | containerUpdated container => exact leadsTo_perform r.polling (.stopContainer container)
  | containerDeleted container => exact leadsTo_perform r.polling (.stopContainer container)
  | metricUpdated _ metric => exact leadsTo_perform r.polling (.remove metric)
  | metricDeleted _ metric => exact leadsTo_perform r.polling (.remove metric)
  | policyDeleted _ => exact leadsTo_rebuild r

theorem leadsTo_route (r : Resolver) (reply : Envelope) :
    r.polling.LeadsTo (r.route reply).1.polling := by
  unfold Resolver.route
  split
  · exact (leadsTo_refl r.polling).shares rfl
  · split
    · exact leadsTo_refl r.polling
    · exact (leadsTo_refl r.polling).shares rfl

theorem leadsTo_handlePoll (r : Resolver) (history : Bool) (reply : Envelope) :
    r.polling.LeadsTo (r.handlePoll history reply).1.polling := by
  unfold Resolver.handlePoll
  split
  · exact leadsTo_refl r.polling
  · split
    · exact (leadsTo_refl r.polling).shares rfl
    · exact leadsTo_refl r.polling

theorem leadsTo_dispatch (r : Resolver) (e : Envelope) :
    r.polling.LeadsTo (r.dispatch e).1.polling := by
  unfold Resolver.dispatch
  split
  · exact (leadsTo_refl r.polling).shares rfl
  · split <;> exact leadsTo_refl r.polling

theorem leadsTo_actOn (r : Resolver) (a : Fetching.Act) :
    r.polling.LeadsTo (Fetching.actOn r a).polling := by
  cases a with
  | dispatch request => exact leadsTo_dispatch r request
  | step id => exact leadsTo_stepTask r id
  | route reply => exact leadsTo_route r reply
  | handlePoll history reply => exact leadsTo_handlePoll r history reply
  | apply event => exact (leadsTo_react r event).shares rfl
  | polling op => exact leadsTo_perform r.polling op
  | setClock now => exact (leadsTo_refl r.polling).shares rfl
  | _ => exact leadsTo_refl r.polling

end Polling
end Pulling

/-! ## Runs -/

namespace Fetching

open Pulling (Registry)

theorem leadsTo_act (s : Recorded Resolver) (a : Act) :
    s.host.polling.LeadsTo (act s a).host.polling := by
  rcases act_cases s a with heq | rfl | rfl
  · rw [heq]
    exact Pulling.Polling.leadsTo_actOn s.host a
  · rcases sameButOutbox_take s with ⟨outbox, heq⟩
    rw [heq]
    exact (Pulling.Polling.leadsTo_refl _).shares rfl
  · exact (Pulling.Polling.leadsTo_refl _).shares rfl

theorem leadsTo_run (s : Recorded Resolver) (acts : List Act) :
    s.host.polling.LeadsTo (run s acts).host.polling := by
  induction acts generalizing s with
  | nil => exact Pulling.Polling.leadsTo_refl s.host.polling
  | cons a acts ih => exact (leadsTo_act s a).trans (ih (act s a))

/-- Index and groups agree in every state of a resolver that polls nothing at first. -/
theorem registry_consistent_of_run {start : Recorded Resolver}
    (h : start.host.polling.registry = {}) (acts : List Act) :
    (run start acts).host.polling.registry.Consistent :=
  (leadsTo_run start acts).consistent (h ▸ Registry.consistent_empty)

end Fetching
end MetricGateway
