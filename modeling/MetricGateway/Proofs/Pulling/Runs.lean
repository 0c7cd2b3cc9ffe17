import MetricGateway.Pulling.Polling
import MetricGateway.Proofs.Pulling.Consistency

/-!
# Runs of background polling

Everything that happens to background polling goes through a handful of operations.  Rounds are
called for by tickers, and a ticker may be late: the group that it means may be gone, and another
one may stand under its key.  A run therefore holds rounds for any key and any generation.

Each operation changes the registry by an operation of the registry, so that the agreement of index
and groups carries over to runs.
-/

namespace MetricGateway
namespace Pulling
namespace Polling

inductive Op where
  | add (target : Target) (metric : MetricId) (valueKind : ValueKind) (budget : UInt16)
  | refresh (metric : MetricId)
  | remove (metric : MetricId)
  | stopContainer (container : ContainerId)
  | stopAll
  | shutdown
  /-- A round of the group that is meant, whether or not it is there. -/
  | tick (ref : GroupRef)
  | turn (generation : Generation) (preference : Preference)

def perform (p : Polling) : Op → Polling
  | .add target metric valueKind budget => (p.add target metric valueKind budget).1
  | .refresh metric => (p.refresh metric).1
  | .remove metric => (p.remove metric).1
  | .stopContainer container => (p.stopContainer container).1
  | .stopAll => p.stopAll.1
  | .shutdown => p.shutdown
  | .tick ref => (p.tick ref).1
  | .turn generation preference => p.stepTicker generation preference

def run (p : Polling) (ops : List Op) : Polling := ops.foldl perform p

@[simp] theorem registry_onCommon (p : Polling) (f : Commons → Commons) :
    (p.onCommon f).registry = p.registry := rfl

@[simp] theorem registry_setRegistry (p : Polling) (r : Registry) :
    (p.setRegistry r).registry = r := rfl

@[simp] theorem registry_cancel (p : Polling) (dropped : List GroupRef) :
    (p.cancel dropped).registry = p.registry := rfl

@[simp] theorem registry_recordStopped (p : Polling) (reason : String)
    (dropped : List GroupRef) : (p.recordStopped reason dropped).registry = p.registry := rfl

@[simp] theorem registry_startGroup (p : Polling) (ref : GroupRef) (interval : Duration) :
    (p.startGroup ref interval).registry = p.registry := rfl

@[simp] theorem registry_setPhase (p : Polling) (g : Generation) (t : Ticker)
    (phase : Ticker.Phase) : (p.setPhase g t phase).registry = p.registry := rfl

@[simp] theorem registry_sleep (p : Polling) (g : Generation) (t : Ticker) (due : Instant) :
    (p.sleep g t due).registry = p.registry := rfl

@[simp] theorem registry_exit (p : Polling) (g : Generation) :
    (p.exit g).registry = p.registry := rfl

/-!
## The registry after an operation
-/

theorem add_of_error {p : Polling} {target : Target} {metric : MetricId}
    {valueKind : ValueKind} {budget : UInt16} {e : GatewayError}
    (h : p.registry.add target metric valueKind budget = .error e) :
    p.add target metric valueKind budget = (p, .error e) := by
  unfold add
  rw [h]

theorem registry_add_of_ok {p : Polling} {target : Target} {metric : MetricId}
    {valueKind : ValueKind} {budget : UInt16} {r : Registry} {report : AddReport}
    (h : p.registry.add target metric valueKind budget = .ok (r, report)) :
    (p.add target metric valueKind budget).1.registry = r := by
  unfold add
  rw [h]
  dsimp only
  split <;> simp

theorem registry_remove (p : Polling) (metric : MetricId) :
    (p.remove metric).1.registry = (p.registry.remove metric).1 := by
  unfold remove
  cases hlisted : p.registry.index[metric]? with
  | none => rw [Registry.remove_of_none hlisted]
  | some key => rw [Registry.remove_of_some hlisted, registry_recordStopped, registry_cancel,
      registry_setRegistry]

theorem registry_tick (p : Polling) (ref : GroupRef) :
    (p.tick ref).1.registry = (p.registry.tick ref).1 := by
  unfold tick
  cases hround : p.registry.tick ref with
  | mk r report =>
      cases report with
      | none =>
          dsimp only
          exact (Registry.tick_none hround).symm
      | some report =>
          dsimp only
          cases report.outcome <;> rfl

theorem registry_fire (p : Polling) (g : Generation) (t : Ticker) (due : Instant) :
    (p.fire g t due).registry = (p.tick t.ref).1.registry := by
  unfold fire
  split
  next hround => rw [hround, registry_exit]
  next hround =>
    rw [hround]
    dsimp only
    split <;> simp

/-- A ticker that takes its step leaves the registry alone or calls for a round of its group. -/
theorem registry_stepTicker (p : Polling) (g : Generation) (preference : Preference) :
    (p.stepTicker g preference).registry = p.registry ∨
      ∃ ref, (p.stepTicker g preference).registry = (p.registry.tick ref).1 := by
  unfold stepTicker
  cases p.tickers[g]? with
  | none => exact Or.inl rfl
  | some t =>
      dsimp only
      cases t.phase with
      | starting =>
          dsimp only
          split <;> exact Or.inl rfl
      | sleeping due =>
          dsimp only
          split
          · exact Or.inl rfl
          · split
            · refine Or.inr ⟨t.ref, ?_⟩
              rw [registry_fire, registry_tick]
            · exact Or.inl rfl
      | publishing ticket m due =>
          dsimp only
          split <;> exact Or.inl rfl

theorem consistent_perform {p : Polling} (h : p.registry.Consistent) (op : Op) :
    (p.perform op).registry.Consistent := by
  cases op with
  | add target metric valueKind budget =>
      show (p.add target metric valueKind budget).1.registry.Consistent
      cases hadd : p.registry.add target metric valueKind budget with
      | error e =>
          rw [add_of_error hadd]
          exact h
      | ok added =>
          rw [registry_add_of_ok hadd]
          exact h.add hadd
  | refresh metric => exact h.refresh metric
  | remove metric =>
      show (p.remove metric).1.registry.Consistent
      rw [registry_remove]
      exact h.remove metric
  | stopContainer container => exact h.stopContainer container
  | stopAll => exact h.stopAll
  | shutdown => exact h.stopAll
  | tick ref =>
      show (p.tick ref).1.registry.Consistent
      rw [registry_tick]
      exact h.tick ref
  | turn generation preference =>
      show (p.stepTicker generation preference).registry.Consistent
      rcases registry_stepTicker p generation preference with hsame | ⟨ref, hround⟩
      · rw [hsame]
        exact h
      · rw [hround]
        exact h.tick ref

theorem consistent_run {p : Polling} (h : p.registry.Consistent) (ops : List Op) :
    (p.run ops).registry.Consistent := by
  induction ops generalizing p with
  | nil => exact h
  | cons op ops ih => exact ih (consistent_perform h op)

/-- Index and groups agree after every run that starts without groups, whatever the order of its
operations and however late its tickers are. -/
theorem registry_run_consistent (common : Commons) (exchange replyKey : String)
    (messageTtl : Duration) (ops : List Op) :
    (run { common, exchange, replyKey, messageTtl } ops).registry.Consistent :=
  consistent_run Registry.consistent_empty ops

end Polling
end Pulling
end MetricGateway
