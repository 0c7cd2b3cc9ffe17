import MetricGateway.Publisher

/-!
# Recording what is published

A machine that publishes through its outbox can be run without a broker: a recorder then reads the
outbox and notes every message with its time.  The recorder can also be left out; the outbox then
keeps its messages until they are taken one at a time.
-/

namespace MetricGateway

/-- A machine whose outbox is read by a recorder. -/
structure Recorded (σ : Type) where
  host : σ
  recording : Bool := true
  /-- What was published, newest first. -/
  published : List (Instant × Message) := []

namespace Recorded

variable {σ τ : Type}

inductive Task (τ : Type) where
  | host (t : τ)
  | recorder
deriving DecidableEq

def onHost (r : Recorded σ) (f : σ → σ) : Recorded σ := { r with host := f r.host }

variable [Publisher σ]

def common (r : Recorded σ) : Commons := Publisher.common r.host

def take (r : Recorded σ) : Recorded σ × Option Message :=
  let (common, m) := r.common.takeSent
  (r.onHost fun host => Publisher.onCommon host fun _ => common, m)

def record (r : Recorded σ) : Recorded σ :=
  match r.take with
  | (r, some m) => { r with published := (r.common.now, m) :: r.published }
  | (r, none) => r

def closeOutbox (r : Recorded σ) : Recorded σ :=
  r.onHost fun host => Publisher.onCommon host (·.closeOutbox)

instance [Machine σ τ] : Machine (Recorded σ) (Task τ) where
  now r := Machine.now r.host
  setNow r now := r.onHost fun host => Machine.setNow host now
  tasks r := (Machine.tasks r.host).map .host ++ [.recorder]
  ready r
    | .host t => Machine.ready r.host t
    | .recorder => r.recording && !r.common.outbox.isEmpty
  step r t preference :=
    match t with
    | .host t => r.onHost fun host => Machine.step host t preference
    | .recorder => r.record
  alarms r := Machine.alarms r.host

end Recorded
end MetricGateway
