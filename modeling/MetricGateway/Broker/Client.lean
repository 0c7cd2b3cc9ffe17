import MetricGateway.Broker.Basic
import MetricGateway.Topology

/-!
# Clients of the broker

Other services use the broker as well.  Two kinds of them are here.  A recorder notes every message
of its consumer and the end of it.  A translator answers every request of its consumer in place of
a device, with values that follow from the numbers of the metrics.
-/

namespace MetricGateway
namespace Broker

/-! ## Translators -/

namespace Translator

def readAt : Int64 := 1700000000

def reading (container : ContainerId) (s : MetricSelector) : Reading where
  container := container
  metric := s.metric
  valueKind := s.valueKind
  value := some (.int (s.metric.toInt64 * 10))
  timestamp := readAt

/-- What a request asks for: a whole batch where replies to background polls are wanted, else a
single metric. -/
def reply (t : Topology) (request : Envelope) : Except Wire.Fault Envelope :=
  if request.replyKey = t.pollReplyKey then
    (request.unpack : Except Wire.Fault BatchRequest).map fun r =>
      let batch : ReadingBatch :=
        { container := r.container, readings := r.metrics.map (reading r.container) }
      Envelope.pack batch .ok
  else
    (request.unpack : Except Wire.Fault MetricRequest).map fun r =>
      Envelope.pack (reading r.container { metric := r.metric, valueKind := r.valueKind }) .ok

/-- The answer to a request, if it says where to reply and can be read. -/
def answer? (t : Topology) (request : Envelope) : Option Message := do
  let key ← request.replyKey?
  let envelope ← (reply t request).toOption
  some {
    exchange := t.responseExchange
    key
    envelope := envelope.withCorrelation request.correlation }

def binding (t : Topology) (key : String) : Binding :=
  .direct t.fetchExchange ("translator." ++ key) key

end Translator

/-! ## Clients -/

abbrev ClientId := Nat

/-- What a client does with the messages of its consumer. -/
inductive ClientRole where
  | recorder
  | translator (topology : Topology)

inductive ClientNote where
  | received (m : Message)
  | ended

structure Client where
  consumer : ConsumerId
  role : ClientRole
  /-- What it noted, and when, newest first. -/
  notes : List (Instant × ClientNote) := []
  done : Bool := false

namespace Client

def ready (c : Client) (b : Broker) : Bool :=
  !c.done && (b.hasMessage c.consumer || b.hasEnded c.consumer)

def step (c : Client) (b : Broker) (now : Instant) : Client × Broker :=
  match b.take c.consumer with
  | (b, some m) =>
      match c.role with
      | .recorder => ({ c with notes := (now, .received m) :: c.notes }, b)
      | .translator t =>
          match Translator.answer? t m.envelope with
          | some answer => (c, (b.publish answer).1)
          | none => (c, b)
  | (b, none) =>
      if !c.done && b.hasEnded c.consumer then
        ({ c with notes := (now, .ended) :: c.notes, done := true }, b.close c.consumer)
      else (c, b)

end Client
end Broker
end MetricGateway
