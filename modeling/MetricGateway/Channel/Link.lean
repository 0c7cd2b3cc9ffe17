import MetricGateway.Broker.Client
import MetricGateway.Channel.Basic
import MetricGateway.Publisher

/-!
# The link to the broker

The senders take messages from the outbox and publish them; a message that the broker refuses is
counted and dropped.  The listeners keep the subscriptions alive.  While a subscription is down the
broker is reported as degraded; it is healthy again once none is down.
-/

namespace MetricGateway

open Channel

/-- The broker, and its clients other than the instances. -/
structure Network where
  broker : Broker := {}
  clients : Std.ExtTreeMap Broker.ClientId Broker.Client := ∅
  joined : Nat := 0

/-- A network, the channels of one instance, and what the parts of the instance share. -/
structure Link extends Network where
  channels : Channels
  common : Commons

namespace Link

def onCommon (l : Link) (f : Commons → Commons) : Link := { l with common := f l.common }

/-! ## Senders -/

/-- Whether a sender can take a step: it holds the outbox, and there is a message or it was told to
stop. -/
def senderReady (l : Link) (id : SenderId) : Bool :=
  l.channels.senders.head? = some id && (l.channels.stopping || !l.common.outbox.isEmpty)

/-- Publishes a message; one that the broker refuses is counted and dropped. -/
def publish (l : Link) (m : Message) : Link :=
  match l.broker.publish m with
  | (broker, .ok ()) => { l with broker }
  | (broker, .error _) => { l with broker }.onCommon (·.count Metrics.addPublishFailure)

/-- The sender that holds the outbox stops; the last one leaves the outbox without a reader. -/
def stopSender (l : Link) : Link :=
  let senders := l.channels.senders.tail
  let l := { l with channels := { l.channels with senders } }
  if senders.isEmpty then l.onCommon (·.closeOutbox) else l

/-- The sender that holds the outbox takes a message, leaves the outbox to the next sender and
publishes the message. -/
def sendNext (l : Link) (id : SenderId) : Link :=
  match l.common.takeSent with
  | (_, none) => l
  | (common, some m) =>
      { l with
        common
        channels := { l.channels with senders := l.channels.senders.tail ++ [id] } }.publish m

def stepSender (l : Link) (id : SenderId) (preference : Preference) : Link :=
  if l.channels.senders.head? = some id then
    if l.channels.stopping ∧ (preference = .stop ∨ l.common.outbox.isEmpty) then l.stopSender
    else l.sendNext id
  else l

/-! ## Listeners -/

def setSubscription (l : Link) (id : SubscriptionId) (s : Subscription) : Link :=
  { l with channels := l.channels.setSubscription id s }

def downReport (down : Nat) (exchange : String) : String :=
  toString down ++ " subscription(s) down, last lost on " ++ exchange

def lost (l : Link) (exchange : String) : Link :=
  let down := l.channels.down + 1
  { l with channels := { l.channels with down } }.onCommon
    (·.setDegraded .broker (downReport down exchange))

def restored (l : Link) : Link :=
  let down := l.channels.down - 1
  let l := { l with channels := { l.channels with down } }
  if down = 0 then l.onCommon (·.setHealthy .broker) else l

def retreat (l : Link) (id : SubscriptionId) (s : Subscription) : Link :=
  let l := if s.down then l else l.lost s.binding.exchange
  l.setSubscription id { s with
    failures := s.failures + 1
    down := true
    phase := .pausing (l.common.now.deadline l.channels.settings.reconnectDelay) }

def establish (l : Link) (id : SubscriptionId) (s : Subscription) (consumer : Broker.ConsumerId) :
    Link :=
  let l := if 0 < s.failures then l.onCommon (·.count Metrics.addChannelReconnect) else l
  let l := if s.down then l.restored else l
  l.setSubscription id { s with failures := 0, down := false, phase := .receiving consumer }

def declare (l : Link) (id : SubscriptionId) (s : Subscription) : Link :=
  match l.broker.openConsumer s.binding with
  | (broker, .ok (_, consumer)) => { l with broker }.establish id s consumer
  | (broker, .error _) => { l with broker }.retreat id s

def quit (l : Link) (id : SubscriptionId) (s : Subscription) (consumer : Broker.ConsumerId) :
    Link :=
  { l with broker := l.broker.close consumer }.setSubscription id { s with phase := .stopped }

def forwarded (l : Link) (id : SubscriptionId) (s : Subscription) (consumer : Broker.ConsumerId)
    (m : Message) : Mailbox Message × Mailbox.Offer → Link
  | (inbox, .accepted) => l.setSubscription id { s with inbox, phase := .receiving consumer }
  | (inbox, .parked ticket) =>
      l.setSubscription id { s with inbox, phase := .forwarding consumer ticket m }
  | (inbox, .refused) => l.quit id { s with inbox } consumer

/-- A listener takes the next message of its consumer, or sees that the consumer has ended. -/
def receive (l : Link) (id : SubscriptionId) (s : Subscription) (consumer : Broker.ConsumerId) :
    Link :=
  match l.broker.take consumer with
  | (broker, some m) => { l with broker }.forwarded id s consumer m (s.inbox.offer m)
  | (_, none) =>
      if l.broker.hasEnded consumer then
        { l with broker := l.broker.close consumer }.retreat id s
      else l

def listenerReady (l : Link) (id : SubscriptionId) : Bool :=
  match l.channels.subscriptions[id]? with
  | none => false
  | some s =>
      match s.phase with
      | .opening => true
      | .receiving consumer =>
          l.channels.stopping || l.broker.hasMessage consumer || l.broker.hasEnded consumer
      | .forwarding _ ticket _ => s.inbox.answers ticket
      | .pausing resume => l.channels.stopping || resume.metBy l.common.now
      | .stopped => false

/-- The step of a listener.  It sees that it was told to stop only while it waits for its consumer
or pauses. -/
def stepListener (l : Link) (id : SubscriptionId) (preference : Preference) : Link :=
  match l.channels.subscriptions[id]? with
  | none => l
  | some s =>
      match s.phase with
      | .opening => l.declare id s
      | .receiving consumer =>
          let idle := !l.broker.hasMessage consumer && !l.broker.hasEnded consumer
          if l.channels.stopping ∧ (preference = .stop ∨ idle) then l.quit id s consumer
          else l.receive id s consumer
      | .forwarding consumer ticket m => l.forwarded id s consumer m (s.inbox.retry ticket m)
      | .pausing resume =>
          let early := !resume.metBy l.common.now
          if l.channels.stopping ∧ (preference = .stop ∨ early) then
            l.setSubscription id { s with phase := .stopped }
          else if early then l
          else l.declare id s
      | .stopped => l

/-! ## Other clients -/

/-- A client joins with a consumer of its own; gives its number and the name of its queue. -/
def join (l : Link) (binding : Broker.Binding) (role : Broker.ClientRole) :
    Link × Except Broker.Refusal (Broker.ClientId × String) :=
  match l.broker.openConsumer binding with
  | (broker, .error e) => ({ l with broker }, .error e)
  | (broker, .ok (queue, consumer)) =>
      let id := l.joined
      ({ l with
          broker
          joined := id + 1
          clients := l.clients.insert id { consumer, role } },
        .ok (id, queue))

def drain (l : Link) (id : Broker.ClientId) : Link × List (Instant × Broker.ClientNote) :=
  match l.clients[id]? with
  | none => (l, [])
  | some c => ({ l with clients := l.clients.insert id { c with notes := [] } }, c.notes.reverse)

def clientReady (l : Link) (id : Broker.ClientId) : Bool :=
  (l.clients[id]?).any (·.ready l.broker)

def stepClient (l : Link) (id : Broker.ClientId) : Link :=
  match l.clients[id]? with
  | none => l
  | some c =>
      let (c, broker) := c.step l.broker l.common.now
      { l with broker, clients := l.clients.insert id c }

/-! ## Tasks -/

inductive Task where
  | sender (id : SenderId)
  | listener (id : SubscriptionId)
  | client (id : Broker.ClientId)
deriving DecidableEq

def tasks (l : Link) : List Task :=
  l.channels.senders.map .sender ++ l.channels.subscriptions.keys.map .listener
    ++ l.clients.keys.map .client

def ready (l : Link) : Task → Bool
  | .sender id => l.senderReady id
  | .listener id => l.listenerReady id
  | .client id => l.clientReady id

def step (l : Link) (t : Task) (preference : Preference) : Link :=
  match t with
  | .sender id => l.stepSender id preference
  | .listener id => l.stepListener id preference
  | .client id => l.stepClient id

instance : Machine Link Task where
  now l := l.common.now
  setNow l now := l.onCommon fun c => { c with now }
  tasks := tasks
  ready := ready
  step := step
  alarms l := l.channels.alarms

instance : Publisher Link where
  common l := l.common
  onCommon := onCommon

/-- Takes messages of a subscription, at most `n` of them.  Where there are fewer, the machine runs
to rest so that the listener can bring more. -/
def receiveUpTo (l : Link) (id : SubscriptionId) : Nat → Link × List Message
  | 0 => (l, [])
  | n + 1 =>
      match l.channels.receive id with
      | (channels, some m) =>
          let (l, ms) := { l with channels }.receiveUpTo id n
          (l, m :: ms)
      | (_, none) =>
          let l := Machine.settle l
          match l.channels.receive id with
          | (channels, some m) =>
              let (l, ms) := { l with channels }.receiveUpTo id n
              (l, m :: ms)
          | (_, none) => (l, [])

end Link
end MetricGateway
