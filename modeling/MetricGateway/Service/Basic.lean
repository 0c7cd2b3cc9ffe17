import MetricGateway.Dispatch
import MetricGateway.Lifecycle.Apply
import MetricGateway.Replies
import MetricGateway.Service.Inlet

/-!
# The service

A service is a resolver that is linked to the broker.  Until it is started nothing runs.  Starting
it opens its subscriptions and subscribes the metrics of the store to background polling; shutting
it down stops the tickers, the subscriptions and the senders, and every later message to the outbox
is refused.

Each inlet has a task that reads it.  Broadcasts are decoded by the tasks of their inlets and
applied by one handler, one after the other; others go on while it applies one.
-/

namespace MetricGateway

open Service (Inlet)

/-- A broadcast that was decoded and waits for room in the line of the handler. -/
structure Service.Parked where
  topic : LifecycleTopic
  ticket : Ticket
  event : LifecycleEvent
deriving DecidableEq

/-- What a service finds where it runs, and leaves there. -/
structure Service.Surroundings where
  site : Site
  network : Network := {}
  collaborators : Collaborators := {}

structure Service extends Network where
  channels : Channels
  settings : ServiceSettings
  resolver : Resolver
  inlets : List (Inlet × Channel.SubscriptionId) := []
  /-- Broadcasts that were decoded and not applied yet. -/
  events : Mailbox LifecycleEvent := { capacity := 256 }
  parked : List Service.Parked := []
  /-- The broadcast that the handler took and has not applied yet. -/
  applying : Option LifecycleEvent := none
  /-- Whether readings of background polls go to the history. -/
  history : Bool := false

namespace Service

def common (s : Service) : Commons := s.resolver.common

def onCommon (s : Service) (f : Commons → Commons) : Service :=
  { s with resolver := s.resolver.onCommon f }

def link (s : Service) : Link := { s.toNetwork with channels := s.channels, common := s.common }

def withLink (s : Service) (l : Link) : Service :=
  { s with toNetwork := l.toNetwork, channels := l.channels }.onCommon fun _ => l.common

def surroundings (s : Service) : Surroundings where
  site := s.common.toSite
  network := s.toNetwork
  collaborators := s.resolver.collaborators

def placeIn (s : Service) (w : Surroundings) : Service :=
  { s with
    toNetwork := w.network
    resolver := { s.resolver with collaborators := w.collaborators } }.onCommon
      fun c => { c with toSite := w.site }

def idle (settings : ServiceSettings) (historyWriter : Bool) (w : Surroundings) : Service where
  toNetwork := w.network
  settings := settings
  channels := { settings := settings.channel }
  history := settings.historyEnabled && historyWriter
  resolver := {
    polling := {
      common := { w.site with outbox := { capacity := settings.channel.publishBuffer } }
      exchange := settings.topology.fetchExchange
      replyKey := settings.topology.pollReplyKey
      messageTtl := settings.resolver.messageTtl }
    collaborators := w.collaborators
    routes := settings.routes
    settings := settings.resolver
    topology := settings.topology }

/-! ## Start and shutdown -/

def openInlet (s : Service) (i : Inlet) : Service :=
  let (channels, id) := s.channels.listen (i.binding s.settings)
  { s with channels, inlets := s.inlets ++ [(i, id)] }

/-- Subscribes the metrics of the store to background polling; a failure is reported as the health
of the resolver. -/
def warmUp (s : Service) : Service :=
  match s.resolver.reload with
  | (resolver, .ok _) => { s with resolver }
  | (resolver, .error e) =>
      { s with resolver }.onCommon (·.setDegraded .resolver ("Warm start failed: " ++ e.message))

def start (s : Service) : Service :=
  let s := s.onCommon (·.registerParts)
  let s := { s with channels := .start s.settings.channel }
  let s := (Inlet.all.foldl openInlet s).warmUp
  s.onCommon (·.setStarted true)

/-- Tells every task of the service to stop, the tasks that answer requests apart. -/
def shutdown (s : Service) : Service :=
  let s := s.onCommon (·.setStarted false)
  { s with
    resolver := { s.resolver with polling := s.resolver.polling.shutdown }
    channels := s.channels.stop }

/-! ## Inlets -/

def parked? (s : Service) (t : LifecycleTopic) : Option Parked :=
  s.parked.find? (·.topic = t)

/-- What becomes of a broadcast that was brought to the line of the handler. -/
def brought (s : Service) (topic : LifecycleTopic) (event : LifecycleEvent) :
    Mailbox LifecycleEvent × Mailbox.Offer → Service
  | (events, .parked ticket) => { s with events, parked := { topic, ticket, event } :: s.parked }
  | (events, _) => { s with events }

def notify (s : Service) (t : LifecycleTopic) (e : Envelope) : Service :=
  match t.decode e with
  | .error _ => s.onCommon (·.count Metrics.addDecodeFailure)
  | .ok event => s.brought t event (s.events.offer event)

def notifyAgain (s : Service) (p : Parked) : Service :=
  { s with parked := s.parked.erase p }.brought p.topic p.event (s.events.retry p.ticket p.event)

def closeInlet (s : Service) (i : Inlet) : Service :=
  match s.inlets.lookup i with
  | none => s
  | some id =>
      { s with channels := s.channels.unsubscribe id, inlets := s.inlets.filter (·.1 ≠ i) }

/-- Stores the readings of a poll.  A fatal attempt ends the task of the inlet. -/
def acceptPoll (s : Service) (e : Envelope) : Service :=
  match s.resolver.handlePoll s.history e with
  | (resolver, some _) => { s with resolver }
  | (resolver, none) => { s with resolver }.closeInlet .polls

def accept (s : Service) (i : Inlet) (e : Envelope) : Service :=
  match i with
  | .replies => { s with resolver := (s.resolver.route e).1 }
  | .polls => s.acceptPoll e
  | .topic t => s.notify t e
  | .requests => { s with resolver := (s.resolver.dispatch e).1 }

def backlog? (s : Service) : Inlet → Option Parked
  | .topic t => s.parked? t
  | _ => none

def inletReady (s : Service) (i : Inlet) : Bool :=
  match s.inlets.lookup i with
  | none => false
  | some id =>
      match s.backlog? i with
      | some p => s.events.answers p.ticket
      | none => s.channels.hasMessage id

def stepInlet (s : Service) (i : Inlet) : Service :=
  match s.inlets.lookup i with
  | none => s
  | some id =>
      match s.backlog? i with
      | some p => s.notifyAgain p
      | none =>
          match s.channels.receive id with
          | (_, none) => s
          | (channels, some m) => { s with channels }.accept i m.envelope

def handlerReady (s : Service) : Bool := s.applying.isSome || !s.events.isEmpty

/-- The step of the handler: it applies the broadcast that it took, or takes the next one. -/
def stepHandler (s : Service) : Service :=
  match s.applying with
  | some event => { s with applying := none, resolver := (s.resolver.apply event).1 }
  | none =>
      match s.events.take with
      | (_, none) => s
      | (events, some event) => { s with events, applying := some event }

/-! ## Tasks -/

/-- The tasks of a service and of the network around it. -/
inductive Task where
  | network (t : Link.Task)
  | inlet (i : Inlet)
  | handler
  | resolver (a : Resolver.Activity)
deriving DecidableEq

def tasks (s : Service) : List Task :=
  (Machine.tasks s.link).map .network ++ s.inlets.map (fun p => .inlet p.1) ++ [.handler]
    ++ (Machine.tasks s.resolver).map .resolver

def ready (s : Service) : Task → Bool
  | .network t => s.link.ready t
  | .inlet i => s.inletReady i
  | .handler => s.handlerReady
  | .resolver a => Machine.ready s.resolver a

def step (s : Service) (t : Task) (preference : Preference) : Service :=
  match t with
  | .network t => s.withLink (s.link.step t preference)
  | .inlet i => s.stepInlet i
  | .handler => s.stepHandler
  | .resolver a => { s with resolver := Machine.step s.resolver a preference }

instance : Machine Service Task where
  now s := s.common.now
  setNow s now := s.onCommon fun c => { c with now }
  tasks := tasks
  ready := ready
  step := step
  alarms s := s.channels.alarms ++ s.resolver.alarms

instance : Publisher Service where
  common := common
  onCommon := onCommon

end Service
end MetricGateway
