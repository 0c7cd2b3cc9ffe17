import MetricGateway.Time

/-!
# Machines of tasks

A machine is a set of tasks that share one state and run one at a time.  A task that is ready takes
a step; a task that is not ready waits for another task, or for the clock.  Time passes only while
no task is ready.  Where a task could go on and has also been told to stop, either may happen.

The state may be run to rest, and time may be let pass: the clock then halts at every deadline on
the way, so that no task is late because of it.
-/

namespace MetricGateway

/-- What a task does that could go on and has been told to stop. -/
inductive Preference where
  | goOn
  | stop
deriving DecidableEq

class Machine (σ : Type) (τ : outParam Type) where
  now : σ → Instant
  setNow : σ → Instant → σ
  tasks : σ → List τ
  ready : σ → τ → Bool
  step : σ → τ → Preference → σ
  alarms : σ → List Instant

namespace Machine

variable {σ τ : Type} [Machine σ τ]

/-- Whether no task can take a step without time passing. -/
def atRest (s : σ) : Bool := (tasks s).all fun t => !ready s t

/-- Lets a task take steps while it is ready, at most `fuel` of them. -/
def runTask (fuel : Nat) (s : σ) (t : τ) : σ :=
  match fuel with
  | 0 => s
  | fuel + 1 => if ready s t then runTask fuel (step s t .goOn) t else s

/-- Lets every task that is ready run until it has to wait, one after the other. -/
def round (fuel : Nat) (s : σ) : σ :=
  ((tasks s).filter (ready s)).foldl (runTask fuel) s

def settleWithin (fuel : Nat) (s : σ) : σ :=
  match fuel with
  | 0 => s
  | rounds + 1 => if atRest s then s else settleWithin rounds (round fuel s)

/-- The number of rounds after which a machine that does not come to rest is left alone. -/
def patience : Nat := 1000000

def settle (s : σ) : σ := settleWithin patience s

/-- The first tick, after the present one and up to `last`, at which a deadline is met. -/
def nextAlarm? (s : σ) (last : Nat) : Option Nat :=
  (((alarms s).map Instant.ceilTick).filter fun tick =>
    (now s).tick < tick ∧ tick ≤ last).min?

def advanceWithin (fuel : Nat) (s : σ) (target : Instant) : σ :=
  let s := settle s
  match fuel, nextAlarm? s target.tick with
  | fuel + 1, some tick => advanceWithin fuel (setNow s (Instant.ofTick tick)) target
  | _, _ => settle (setNow s target)

/-- Lets time pass up to `target`.  Each deadline on the way takes the clock at least one tick on,
so there are no more of them than ticks. -/
def advanceTo (s : σ) (target : Instant) : σ :=
  advanceWithin (target.tick - (now s).tick) s target

/-- Lets a length of time pass, rounded up to whole ticks of the clock. -/
def advance (s : σ) (d : Duration) : σ := advanceTo s ((now s).roundedPlus d)

end Machine
end MetricGateway
