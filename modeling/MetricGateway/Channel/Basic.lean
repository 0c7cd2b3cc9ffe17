import MetricGateway.Channel.Subscription
import MetricGateway.Settings

/-!
# Channels

The channels of one instance are its senders, which share the outbox, and its subscriptions.  They
count the subscriptions that are down, and they are told once to stop.
-/

namespace MetricGateway
namespace Channel

abbrev SenderId := Nat

end Channel

open Channel

/-- The senders and the subscriptions of one instance. -/
structure Channels where
  settings : ChannelSettings
  /-- The senders that have not stopped, in the order in which they take messages; the first one
  holds the outbox, the others wait for it. -/
  senders : List SenderId := []
  subscriptions : Std.ExtTreeMap SubscriptionId Subscription := ∅
  /-- The number of subscriptions that were ever made. -/
  made : Nat := 0
  /-- The number of subscriptions whose loss is on record. -/
  down : Nat := 0
  stopping : Bool := false

namespace Channels

def start (settings : ChannelSettings) : Channels :=
  { settings, senders := List.range settings.senders }

/-- Makes a subscription; its listener declares it as soon as it runs. -/
def listen (c : Channels) (binding : Broker.Binding) : Channels × SubscriptionId :=
  let id := c.made
  ({ c with
      made := id + 1
      subscriptions := c.subscriptions.insert id
        { binding, inbox := { capacity := c.settings.deliveryBuffer } } },
    id)

def stop (c : Channels) : Channels := { c with stopping := true }

def setSubscription (c : Channels) (id : SubscriptionId) (s : Subscription) : Channels :=
  { c with subscriptions := c.subscriptions.insert id s }

def receive (c : Channels) (id : SubscriptionId) : Channels × Option Message :=
  match c.subscriptions[id]? with
  | none => (c, none)
  | some s =>
      let (inbox, m) := s.inbox.take
      (c.setSubscription id { s with inbox }, m)

/-- Leaves the inbox of a subscription; its listener stops when it next has a message. -/
def unsubscribe (c : Channels) (id : SubscriptionId) : Channels :=
  match c.subscriptions[id]? with
  | none => c
  | some s => c.setSubscription id { s with inbox := s.inbox.close }

def hasMessage (c : Channels) (id : SubscriptionId) : Bool :=
  (c.subscriptions[id]?).any (·.hasMessage)

def hasEnded (c : Channels) (id : SubscriptionId) : Bool :=
  (c.subscriptions[id]?).all (·.hasEnded)

def isStopped (c : Channels) (id : SubscriptionId) : Bool :=
  (c.subscriptions[id]?).all (·.isStopped)

def pausing (c : Channels) : Nat := c.subscriptions.values.countP (·.isPausing)

def alarms (c : Channels) : List Instant := c.subscriptions.values.filterMap (·.alarm?)

end Channels
end MetricGateway
