import MetricGateway.Correlator
import MetricGateway.Machine

/-!
# Waiting rooms

A waiting room is a correlator together with its clock and with what came of the waits that are
over.  Each wait is a task: it goes on as soon as it has a result, and it goes on only once.
-/

namespace MetricGateway

structure WaitResult (α : Type) where
  time : Instant
  wait : WaitId
  result : Except GatewayError α

structure WaitingRoom (α : Type) where
  now : Instant := .start
  correlator : Correlator α := {}
  /-- What came of the waits that are over, newest first. -/
  results : List (WaitResult α) := []

namespace WaitingRoom

variable {α : Type}

def listen (r : WaitingRoom α) (correlation : String) (timeout : Duration) :
    WaitingRoom α × WaitId :=
  let (correlator, wait) := r.correlator.listen correlation timeout r.now
  ({ r with correlator }, wait)

/-- Hands a payload to the wait under an id; tells whether one took it. -/
def send (r : WaitingRoom α) (correlation : String) (payload : α) : WaitingRoom α × Bool :=
  let (correlator, taken) := r.correlator.send correlation payload
  ({ r with correlator }, taken)

def step (r : WaitingRoom α) (wait : WaitId) : WaitingRoom α :=
  match r.correlator.result? wait r.now with
  | none => r
  | some result =>
      { r with
        correlator := r.correlator.finish wait
        results := { time := r.now, wait, result } :: r.results }

instance : Machine (WaitingRoom α) WaitId where
  now r := r.now
  setNow r now := { r with now }
  tasks r := r.correlator.waits.keys
  ready r wait := (r.correlator.result? wait r.now).isSome
  step r wait _ := r.step wait
  alarms r := r.correlator.alarms

end WaitingRoom
end MetricGateway
