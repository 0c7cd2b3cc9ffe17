import MetricGateway.Proofs.Fetching.Outbox
import MetricGateway.Proofs.Pulling.Views

/-!
# What the tasks keep

The tasks that answer requests work at one desk: themselves, the settings that they remember while
their fetches are out, their waits, and the counters that tell how requests and replies fared.
Nothing but a request that comes in, a step of a task and a reply that is routed changes anything
there, whatever goes on in the background.
-/

namespace MetricGateway

structure Tally where
  hits : Nat := 0
  misses : Nat := 0
  issued : Nat := 0
  timeouts : Nat := 0
  unmatched : Nat := 0
deriving DecidableEq

def Metrics.tally (m : Metrics) : Tally where
  hits := m.cacheHits
  misses := m.cacheMisses
  issued := m.fetchesIssued
  timeouts := m.fetchTimeouts
  unmatched := m.unmatchedReplies

open Pulling (Polling)

namespace Resolver

structure Desk where
  tasks : Std.ExtTreeMap TaskId Task
  pending : Std.ExtTreeMap String MetricSettings
  correlator : Correlator Envelope
  tally : Tally

def desk (r : Resolver) : Desk where
  tasks := r.tasks
  pending := r.pending
  correlator := r.correlator
  tally := r.common.metrics.tally

def Desk.set (d : Desk) (id : TaskId) : Option Task → Desk
  | some t => { d with tasks := d.tasks.insert id t }
  | none => { d with tasks := d.tasks.erase id }

/-!
## Background
-/

theorem blind_tally : Polling.Blind fun c => c.metrics.tally where
  record _ _ := rfl
  gauge _ _ _ := rfl
  published _ := rfl
  freshId _ := rfl
  outbox _ _ := rfl

theorem desk_polling (r : Resolver) {polling : Polling}
    (h : polling.common.metrics.tally = r.polling.common.metrics.tally) :
    ({ r with polling } : Resolver).desk = r.desk := by
  unfold desk
  rw [Desk.mk.injEq]
  exact ⟨rfl, rfl, rfl, h⟩

theorem desk_subscribe (r : Resolver) (request : MetricRequest) (key : String) :
    (r.subscribe request key).1.desk = r.desk := by
  unfold subscribe
  split
  next => rfl
  next collaborators settings _ =>
    dsimp only
    split
    next => rfl
    next interval _ =>
      have hadded := blind_tally.add r.polling (target request key interval) request.metric
        request.valueKind settings.budget
      split
      next hadd =>
        rw [hadd] at hadded
        exact desk_polling { r with collaborators } hadded
      next hadd =>
        rw [hadd] at hadded
        exact desk_polling { r with collaborators } hadded

theorem desk_schedule (r : Resolver) (request : MetricRequest) :
    (r.schedule request).1.desk = r.desk := by
  rcases schedule_cases r request with heq | ⟨key, heq⟩
  · rw [heq]
  · rw [heq]
    exact desk_subscribe r request key

theorem desk_scheduleAll (r : Resolver) (requests : List MetricRequest) :
    (r.scheduleAll requests).1.desk = r.desk := by
  induction requests generalizing r with
  | nil => rfl
  | cons request requests ih => exact (ih (r.schedule request).1).trans (desk_schedule r request)

theorem desk_rebuild (r : Resolver) : r.rebuild.1.desk = r.desk := by
  have hstopped := desk_polling r (blind_tally.stopAll r.polling)
  unfold rebuild reload
  dsimp only
  cases r.collaborators.storedMetrics with
  | error reason => exact hstopped
  | ok requests => exact (desk_scheduleAll _ requests).trans hstopped

theorem desk_react (r : Resolver) (e : LifecycleEvent) : (r.react e).1.desk = r.desk := by
  have hcontainer : ∀ container, (r.forgetContainer container).1.desk = r.desk :=
    fun container => desk_polling r (blind_tally.stopContainer r.polling container)
  have hmetric : ∀ metric, (r.forgetMetric metric).1.desk = r.desk :=
    fun metric => desk_polling r (blind_tally.remove r.polling metric)
  cases e with
  | containerUpdated container => exact hcontainer container
  | containerDeleted container => exact hcontainer container
  | metricUpdated _ metric => exact hmetric metric
  | metricDeleted _ metric => exact hmetric metric
  | policyDeleted _ => exact desk_rebuild r

theorem desk_handlePoll (r : Resolver) (history : Bool) (reply : Envelope) :
    (r.handlePoll history reply).1.desk = r.desk := by
  unfold handlePoll
  split
  · rfl
  · split <;> rfl

end Resolver

namespace Fetching

open Resolver (TaskId Task)

/-- What comes to the desk with an act that is not a step of a task or a reply: a new task, or
nothing. -/
theorem desk_actOn (r : Resolver) {a : Act} (hstep : ∀ id, a ≠ .step id)
    (hroute : ∀ reply, a ≠ .route reply) :
    (actOn r a).desk = r.desk ∨ ∃ t : Task, t.phase = .starting ∧
      (actOn r a).desk = r.desk.set r.started (some t) := by
  cases a with
  | start request requester timeout => exact Or.inr ⟨_, rfl, rfl⟩
  | dispatch request =>
      show (r.dispatch request).1.desk = _ ∨ ∃ t : Task, _ ∧ (r.dispatch request).1.desk = _
      unfold Resolver.dispatch
      split
      · exact Or.inl rfl
      · split
        · exact Or.inl rfl
        · exact Or.inr ⟨_, rfl, rfl⟩
  | step id => exact absurd rfl (hstep id)
  | route reply => exact absurd rfl (hroute reply)
  | handlePoll history reply => exact Or.inl (r.desk_handlePoll history reply)
  | apply event => exact Or.inl (r.desk_react event)
  | polling op => exact Or.inl (r.desk_polling (Resolver.blind_tally.perform r.polling op))
  | collaborate collaborators => exact Or.inl rfl
  | setClock now => exact Or.inl rfl
  | take => exact Or.inl rfl
  | closeOutbox => exact Or.inl rfl

theorem SameButOutbox.desk {r r' : Resolver} (h : SameButOutbox r r') : r'.desk = r.desk := by
  rcases h with ⟨outbox, rfl⟩
  rfl

theorem desk_act (s : Recorded Resolver) {a : Act} (hstep : ∀ id, a ≠ .step id)
    (hroute : ∀ reply, a ≠ .route reply) :
    (act s a).host.desk = s.host.desk ∨ ∃ t : Task, t.phase = .starting ∧
      (act s a).host.desk = s.host.desk.set s.host.started (some t) := by
  rcases act_cases s a with heq | rfl | rfl
  · rw [heq]
    exact desk_actOn s.host hstep hroute
  · exact Or.inl (sameButOutbox_take s).desk
  · exact Or.inl (sameButOutbox_closeOutbox s).desk

end Fetching
end MetricGateway
