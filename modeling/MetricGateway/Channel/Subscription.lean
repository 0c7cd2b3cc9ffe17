import MetricGateway.Broker.Basic
import MetricGateway.Mailbox

/-!
# Subscriptions

A subscription is kept alive by a task of its own, its listener.  The listener declares the
subscription, takes the messages of its consumer into an inbox, and declares the subscription again
after a pause when the consumer is cancelled or cannot be opened.  Whoever reads the inbox sees one
uninterrupted line of messages, which ends after the listener has stopped.
-/

namespace MetricGateway
namespace Channel

abbrev SubscriptionId := Nat

/-- What the listener of a subscription is about to do. -/
inductive Subscription.Phase where
  | opening
  | receiving (consumer : Broker.ConsumerId)
  | forwarding (consumer : Broker.ConsumerId) (ticket : Ticket) (m : Message)
  | pausing (resume : Instant)
  | stopped
deriving DecidableEq

/-- A subscription with its listener and its inbox. -/
structure Subscription where
  binding : Broker.Binding
  inbox : Mailbox Message
  phase : Subscription.Phase := .opening
  /-- Losses and failed attempts since the subscription was last established. -/
  failures : UInt32 := 0
  down : Bool := false

namespace Subscription

def isPausing (s : Subscription) : Bool :=
  match s.phase with
  | .pausing _ => true
  | _ => false

def isStopped (s : Subscription) : Bool := s.phase = .stopped

def hasMessage (s : Subscription) : Bool := !s.inbox.isEmpty

def hasEnded (s : Subscription) : Bool := s.isStopped && s.inbox.isEmpty

def alarm? (s : Subscription) : Option Instant :=
  match s.phase with
  | .pausing resume => some resume
  | _ => none

end Subscription
end Channel
end MetricGateway
