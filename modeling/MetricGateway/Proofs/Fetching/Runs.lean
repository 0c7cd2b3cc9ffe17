import MetricGateway.Dispatch
import MetricGateway.Lifecycle.Apply
import MetricGateway.Proofs.Pulling.Runs
import MetricGateway.Recorded
import MetricGateway.Replies

/-!
# Runs of the resolver

Requests come in, tasks take their steps in any order, translators reply, tickers call for rounds,
the configuration changes, and somebody takes messages from the outbox or leaves it.  A step of a
task goes on until the task has to wait; nothing else happens in between.
-/

namespace MetricGateway
namespace Fetching

open Pulling (Polling)
open Resolver (Requester TaskId)

/-- What can happen to a resolver and to its outbox. -/
inductive Act where
  | start (request : MetricRequest) (requester : Requester) (timeout : Duration)
  | dispatch (request : Envelope)
  /-- A task runs until it has to wait; nothing happens where it is not ready. -/
  | step (id : TaskId)
  | route (reply : Envelope)
  | handlePoll (history : Bool) (reply : Envelope)
  | apply (event : LifecycleEvent)
  | polling (op : Polling.Op)
  /-- The other systems, and which of their calls fail, are different from now on. -/
  | collaborate (collaborators : Collaborators)
  | setClock (now : Instant)
  | take
  | closeOutbox

def actOn (r : Resolver) : Act → Resolver
  | .start request requester timeout => (r.start request requester timeout).1
  | .dispatch request => (r.dispatch request).1
  | .step id => r.stepTask id
  | .route reply => (r.route reply).1
  | .handlePoll history reply => (r.handlePoll history reply).1
  | .apply event => (r.apply event).1
  | .polling op => { r with polling := r.polling.perform op }
  | .collaborate collaborators => { r with collaborators }
  | .setClock now => r.onCommon fun c => { c with now }
  | .take | .closeOutbox => r

/-- The resolver and the messages that have left its outbox, after something has happened. -/
def act (s : Recorded Resolver) : Act → Recorded Resolver
  | .take => s.record
  | .closeOutbox => s.closeOutbox
  | a => s.onHost fun r => actOn r a

def run (s : Recorded Resolver) (acts : List Act) : Recorded Resolver := acts.foldl act s

theorem run_append (s : Recorded Resolver) (acts more : List Act) :
    run s (acts ++ more) = run (run s acts) more :=
  List.foldl_append

/-- What is true of a state and is preserved by everything that happens is true after every run. -/
theorem run_induction {P : Recorded Resolver → Prop} {Q : Act → Prop}
    (hact : ∀ s a, Q a → P s → P (act s a)) {s : Recorded Resolver} (h : P s) {acts : List Act}
    (hacts : ∀ a ∈ acts, Q a) : P (run s acts) := by
  induction acts generalizing s with
  | nil => exact h
  | cons a acts ih =>
      have hnext := hact s a (hacts a List.mem_cons_self) h
      exact ih hnext fun b hb => hacts b (List.mem_cons_of_mem a hb)

/-- Something is so at some moment of a run. -/
def Sometime (P : Recorded Resolver → Prop) (s : Recorded Resolver) (acts : List Act) : Prop :=
  ∃ before after, acts = before ++ after ∧ P (run s before)

theorem Sometime.here {P : Recorded Resolver → Prop} {s : Recorded Resolver} (h : P s)
    (acts : List Act) : Sometime P s acts :=
  ⟨[], acts, rfl, h⟩

theorem Sometime.later {P : Recorded Resolver → Prop} {s : Recorded Resolver} {a : Act}
    {acts : List Act} (h : Sometime P (act s a) acts) : Sometime P s (a :: acts) := by
  rcases h with ⟨before, after, heq, hp⟩
  exact ⟨a :: before, after, by rw [heq, List.cons_append], hp⟩

end Fetching
end MetricGateway
