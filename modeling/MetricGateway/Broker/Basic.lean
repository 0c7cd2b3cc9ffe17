import Std.Data.ExtTreeMap
import MetricGateway.Broker.Binding
import MetricGateway.Fifo

/-!
# The broker

A broker within the process.  It routes messages from exchanges to queues along the declared
bindings.  A queue hands each message to one of its consumers in turn; a named queue keeps a backlog
while it has no consumer, an exclusive one has no backlog and goes when its consumer is cancelled.
The broker can cancel all consumers, and it can refuse connections for a while.

A consumer has a buffer of messages that it has not read yet.  It has ended once the broker has
detached it and the buffer is read out.
-/

namespace MetricGateway
namespace Broker

def consumerBuffer : Nat := 1024

def maxBacklog : Nat := 10000

abbrev ConsumerId := Nat

/-- A queue: the consumers that were attached to it, the turn, and the messages that wait. -/
structure Queue where
  exclusive : Bool := false
  consumers : List ConsumerId := []
  rotation : UInt64 := 0
  backlog : Fifo Message := .empty

structure Consumer where
  queue : String
  buffer : Fifo Message := .empty
  attached : Bool := true

/-- A declared route from an exchange to a queue. -/
structure Route where
  exchange : String
  key : String
  queue : String
deriving DecidableEq

inductive Refusal where
  | notAccepting
  | kindMismatch (exchange : String) (kind : ExchangeKind)
  | badFrame (fault : Wire.Fault)
deriving DecidableEq

namespace Refusal

def message : Refusal → String
  | notAccepting => "broker is not accepting connections"
  | kindMismatch exchange kind =>
      "exchange " ++ exchange ++ " already declared as " ++ kind.label
  | badFrame fault => "failed to encode or decode payload: " ++ fault.message

end Refusal

end Broker

open Broker in
structure Broker where
  exchanges : Std.ExtTreeMap String ExchangeKind := ∅
  queues : Std.ExtTreeMap String Queue := ∅
  routes : List Route := []
  consumers : Std.ExtTreeMap ConsumerId Consumer := ∅
  namedQueues : Nat := 0
  opened : Nat := 0
  refusing : Bool := false

namespace Broker

instance : Inhabited Broker := ⟨{}⟩

def setRefusing (b : Broker) (refusing : Bool) : Broker := { b with refusing }

/-! ## Opening consumers -/

/-- The name of the queue of a subscription and whether it is exclusive; an exclusive queue takes
the next name that the broker makes. -/
def chooseQueue (b : Broker) : QueueSpec → Broker × String × Bool
  | .named name _ => (b, name, false)
  | .exclusive =>
      let n := b.namedQueues + 1
      ({ b with namedQueues := n }, "amq.gen-" ++ toString n, true)

def addRoutes (routes : List Route) (exchange queue : String) (keys : List String) : List Route :=
  keys.foldl
    (fun routes key =>
      let route : Route := { exchange, key, queue }
      if route ∈ routes then routes else routes ++ [route])
    routes

/-- What a new consumer takes from a backlog, and what is left of it.  The consumer takes messages
until its buffer refuses one, and the message that was refused is lost. -/
def flush (backlog : List Message) : List Message × List Message :=
  (backlog.take consumerBuffer, backlog.drop (consumerBuffer + 1))

/-- Attaches a new consumer to a queue, which is created where it is not there. -/
def attach (b : Broker) (name : String) (exclusive : Bool) : Broker × ConsumerId :=
  let queue := b.queues.getD name {}
  let (taken, left) := flush queue.backlog.toList
  let id := b.opened
  ({ b with
      opened := id + 1
      consumers := b.consumers.insert id { queue := name, buffer := .ofList taken }
      queues := b.queues.insert name { queue with
        exclusive
        consumers := queue.consumers ++ [id]
        backlog := .ofList left } },
    id)

/-- Declares the queue and the routes of a subscription, and attaches a consumer. -/
def declare (b : Broker) (binding : Binding) : Broker × String × ConsumerId :=
  let (b, name, exclusive) := b.chooseQueue binding.queue
  let b := { b with routes := addRoutes b.routes binding.exchange name binding.keys }
  let (b, id) := b.attach name exclusive
  (b, name, id)

def openConsumer (b : Broker) (binding : Binding) : Broker × Except Refusal (String × ConsumerId) :=
  if b.refusing then (b, .error .notAccepting)
  else
    match b.exchanges[binding.exchange]? with
    | some kind =>
        if kind = binding.kind then
          let (b, opened) := b.declare binding
          (b, .ok opened)
        else (b, .error (.kindMismatch binding.exchange kind))
    | none =>
        let b := { b with exchanges := b.exchanges.insert binding.exchange binding.kind }
        let (b, opened) := b.declare binding
        (b, .ok opened)

/-! ## Publishing -/

def isLive (b : Broker) (id : ConsumerId) : Bool := id ∈ b.consumers

/-- Puts a message into the buffer of a consumer; a full buffer drops it. -/
def offer (b : Broker) (id : ConsumerId) (m : Message) : Broker :=
  match b.consumers[id]? with
  | some c =>
      if c.buffer.size < consumerBuffer then
        { b with consumers := b.consumers.insert id { c with buffer := c.buffer.push m } }
      else b
  | none => b

/-- The backlog with one more message; a full backlog loses its oldest one. -/
def keep (backlog : Fifo Message) (m : Message) : Fifo Message :=
  if maxBacklog ≤ backlog.size then
    match backlog.pop? with
    | some (_, rest) => rest.push m
    | none => backlog.push m
  else backlog.push m

/-- Hands a message to a queue: to the consumer whose turn it is, or to the backlog where nobody
reads the queue.  An exclusive queue that nobody reads drops it. -/
def deliver (b : Broker) (name : String) (m : Message) : Broker :=
  match b.queues[name]? with
  | none => b
  | some queue =>
      let live := queue.consumers.filter b.isLive
      match live[queue.rotation.toNat % live.length]? with
      | some id =>
          { b with
            queues := b.queues.insert name
              { queue with consumers := live, rotation := queue.rotation + 1 } }.offer id m
      | none =>
          { b with
            queues := b.queues.insert name { queue with
              consumers := live
              backlog := if queue.exclusive then queue.backlog else keep queue.backlog m } }

/-- The queues that a message goes to, one for each route that matches it. -/
def targets (b : Broker) (kind : ExchangeKind) (m : Message) : List String :=
  (b.routes.filter fun r => r.exchange = m.exchange ∧ (kind = .fanout ∨ r.key = m.key)).map (·.queue)

def deliverAll (b : Broker) (exchange key : String) (frame : Wire.Bytes) :
    List String → Broker × Except Refusal Unit
  | [] => (b, .ok ())
  | name :: names =>
      match Envelope.ofFrame frame with
      | .error fault => (b, .error (.badFrame fault))
      | .ok envelope => (b.deliver name { exchange, key, envelope }).deliverAll exchange key frame names

/-- Publishes a message; a message for an exchange that is not there is dropped. -/
def publish (b : Broker) (m : Message) : Broker × Except Refusal Unit :=
  if b.refusing then (b, .error .notAccepting)
  else
    match b.exchanges[m.exchange]? with
    | none => (b, .ok ())
    | some kind => b.deliverAll m.exchange m.key m.envelope.toFrame (b.targets kind m)

/-! ## Reading and cancelling -/

def take (b : Broker) (id : ConsumerId) : Broker × Option Message :=
  match b.consumers[id]? with
  | none => (b, none)
  | some c =>
      match c.buffer.pop? with
      | none => (b, none)
      | some (m, buffer) => ({ b with consumers := b.consumers.insert id { c with buffer } }, some m)

/-- Takes the messages of a consumer that are there, at most `n` of them. -/
def takeUpTo (b : Broker) (id : ConsumerId) : Nat → Broker × List Message
  | 0 => (b, [])
  | n + 1 =>
      match b.take id with
      | (b, none) => (b, [])
      | (b, some m) =>
          let (b, ms) := b.takeUpTo id n
          (b, m :: ms)

/-- Publishes messages, one after the other; gives the result of the last one. -/
def publishAll (b : Broker) (ms : List Message) : Broker × Except Refusal Unit :=
  ms.foldl (fun (b, _) m => b.publish m) (b, .ok ())

def hasMessage (b : Broker) (id : ConsumerId) : Bool :=
  match b.consumers[id]? with
  | some c => !c.buffer.isEmpty
  | none => false

/-- Whether a consumer was detached by the broker and is read out. -/
def hasEnded (b : Broker) (id : ConsumerId) : Bool :=
  match b.consumers[id]? with
  | some c => !c.attached && c.buffer.isEmpty
  | none => true

/-- Stops reading a consumer; what is in its buffer is lost. -/
def close (b : Broker) (id : ConsumerId) : Broker :=
  { b with consumers := b.consumers.erase id }

/-- Detaches every consumer.  Exclusive queues are deleted with their routes, named ones keep their
backlog. -/
def cancelAll (b : Broker) : Broker :=
  let isExclusive := fun name => (b.queues[name]?).any (·.exclusive)
  { b with
    consumers := b.consumers.map fun _ c => { c with attached := false }
    queues := (b.queues.filter fun _ q => !q.exclusive).map fun _ q => { q with consumers := [] }
    routes := b.routes.filter fun r => !isExclusive r.queue }

def consumerCount (b : Broker) (name : String) : Nat :=
  match b.queues[name]? with
  | some q => (q.consumers.filter b.isLive).length
  | none => 0

def backlogSize (b : Broker) (name : String) : Nat :=
  match b.queues[name]? with
  | some q => q.backlog.size
  | none => 0

end Broker
end MetricGateway
