import MetricGateway.Envelope
import MetricGateway.Text.Hidden

/-!
# Messages and bindings

A message is published on an exchange under a routing key.  A binding says everything that is
needed to declare a subscription, and to declare it again after it was lost: the exchange and its
kind, the queue, and the routing keys that lead from one to the other.
-/

namespace MetricGateway

/-- A message on its way through the broker. -/
structure Message where
  exchange : String
  key : String
  envelope : Envelope
deriving DecidableEq, Inhabited

namespace Broker

/-- How an exchange chooses the queues of a message. -/
inductive ExchangeKind where
  /-- The queues bound under the routing key of the message. -/
  | direct
  | fanout
deriving DecidableEq

namespace ExchangeKind

def label : ExchangeKind → String
  | direct => "Direct"
  | fanout => "Fanout"

end ExchangeKind

inductive QueueSpec where
  /-- A shared queue that outlives its consumers where it is durable. -/
  | named (name : String) (durable : Bool)
  /-- A queue private to one consumer; the broker chooses its name. -/
  | exclusive
deriving DecidableEq

namespace QueueSpec

def quotedChar (c : Char) : List Char :=
  if c = '"' then ['\\', '"']
  else if c = '\\' then ['\\', '\\']
  else if c = '\n' then ['\\', 'n']
  else if c = '\r' then ['\\', 'r']
  else if c = '\t' then ['\\', 't']
  else if c.toNat = 0 then ['\\', '0']
  else if Text.isHidden c then
    ['\\', 'u', '\x7b'] ++ Nat.toDigits 16 c.toNat ++ ['\x7d']
  else [c]

/-- A text between double quotes; quotes, backslashes and hidden characters are escaped. -/
def quoted (s : String) : String :=
  String.ofList ('"' :: s.toList.flatMap quotedChar ++ ['"'])

def describe : QueueSpec → String
  | named name durable =>
      "Named \x7b name: " ++ quoted name ++ ", durable: " ++ toString durable ++ " \x7d"
  | exclusive => "Exclusive"

end QueueSpec

structure Binding where
  exchange : String
  kind : ExchangeKind
  queue : QueueSpec
  keys : List String
deriving DecidableEq

namespace Binding

def direct (exchange queue key : String) : Binding where
  exchange := exchange
  kind := .direct
  queue := .named queue true
  keys := [key]

def fanout (exchange : String) : Binding where
  exchange := exchange
  kind := .fanout
  queue := .exclusive
  keys := [""]

end Binding

end Broker
end MetricGateway
