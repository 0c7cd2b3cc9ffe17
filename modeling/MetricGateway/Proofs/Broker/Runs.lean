import MetricGateway.Broker.Basic

/-!
# Runs of the broker

What can happen to the broker, and what a reader sees of it: the messages that wait in a queue and
the messages that a consumer has not read.
-/

namespace MetricGateway
namespace Broker

inductive Op where
  | openConsumer (binding : Binding)
  | publish (m : Message)
  | take (id : ConsumerId)
  | close (id : ConsumerId)
  | cancelAll
  | setRefusing (refusing : Bool)

def perform (b : Broker) : Op → Broker
  | .openConsumer binding => (b.openConsumer binding).1
  | .publish m => (b.publish m).1
  | .take id => (b.take id).1
  | .close id => b.close id
  | .cancelAll => b.cancelAll
  | .setRefusing refusing => b.setRefusing refusing

def run (b : Broker) (ops : List Op) : Broker := ops.foldl perform b

/-- The messages that wait in a queue; none where the queue is not there. -/
def waiting (b : Broker) (name : String) : List Message :=
  (b.queues.getD name {}).backlog.toList

def unread (b : Broker) (id : ConsumerId) : List Message :=
  match b.consumers[id]? with
  | some c => c.buffer.toList
  | none => []

def gather {α : Type} (f : Broker → Op → List α) (b : Broker) : List Op → List α
  | [] => []
  | op :: ops => f b op ++ (b.perform op).gather f ops

theorem gather_nil {α : Type} (f : Broker → Op → List α) (b : Broker) : b.gather f [] = [] := rfl

theorem gather_cons {α : Type} (f : Broker → Op → List α) (b : Broker) (op : Op) (ops : List Op) :
    b.gather f (op :: ops) = f b op ++ (b.perform op).gather f ops := rfl

theorem run_append (b : Broker) (ops more : List Op) :
    b.run (ops ++ more) = (b.run ops).run more :=
  List.foldl_append

end Broker
end MetricGateway
