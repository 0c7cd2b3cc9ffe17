import MetricGateway.Collaborators
import MetricGateway.Pulling.Polling
import MetricGateway.Resolver.Task
import MetricGateway.Settings

/-!
# The resolver

A request is answered from the cache where the cache has a value; serving it renews the interest in
the metric.  Else the metric is subscribed to background polling and a fetch is sent to the
translator of the container; the reply is cached if it reports success, and passed on as it came.
Where no translator handles the container, the answer carries no data.  Requests for one metric that
miss the cache at the same time each send their own fetch.
-/

namespace MetricGateway

open Pulling (Target Polling)

/-- Background polling, the other systems, and the requests that are being answered. -/
structure Resolver where
  polling : Polling
  collaborators : Collaborators := {}
  correlator : Correlator Envelope := {}
  /-- The settings of the metrics whose fetches were sent and not answered. -/
  pending : Std.ExtTreeMap String MetricSettings := ∅
  tasks : Std.ExtTreeMap Resolver.TaskId Resolver.Task := ∅
  started : Nat := 0
  /-- What the tasks have done, newest first. -/
  reports : List (Instant × Resolver.TaskId × Resolver.Report) := []
  routes : RoutingTable := RoutingTable.standard
  settings : ResolverSettings := {}
  topology : Topology := {}

namespace Resolver

def common (r : Resolver) : Commons := r.polling.common

def onCommon (r : Resolver) (f : Commons → Commons) : Resolver :=
  { r with polling := r.polling.onCommon f }

def count (r : Resolver) (f : Metrics → Metrics) : Resolver := r.onCommon (·.count f)

def now (r : Resolver) : Instant := r.common.now

/-! ## Subscribing -/

def target (request : MetricRequest) (key : String) (interval : Duration) : Target where
  container := request.container
  containerKind := request.containerKind
  key := key
  interval := interval

/-- Subscribes the metric of a request to background polling; gives its settings. -/
def subscribe (r : Resolver) (request : MetricRequest) (key : String) :
    Resolver × Except GatewayError MetricSettings :=
  match r.collaborators.metricSettings request.metric with
  | (collaborators, .error e) => ({ r with collaborators }, .error e)
  | (collaborators, .ok settings) =>
      let r := { r with collaborators }
      match collaborators.containerInterval request.container with
      | .error e => (r, .error e)
      | .ok interval =>
          match r.polling.add (target request key interval) request.metric request.valueKind
              settings.budget with
          | (polling, .error e) => ({ r with polling }, .error e)
          | (polling, .ok _) => ({ r with polling }, .ok settings)

/-- Subscribes one metric of the store; tells whether it is polled now. -/
def schedule (r : Resolver) (request : MetricRequest) : Resolver × Bool :=
  match r.routes.key? request.containerKind with
  | none => (r, false)
  | some key =>
      match r.subscribe request key with
      | (r, .ok _) => (r, true)
      | (r, .error _) => (r, false)

theorem schedule_of_none {r : Resolver} {request : MetricRequest}
    (h : r.routes.key? request.containerKind = none) : r.schedule request = (r, false) := by
  unfold schedule
  rw [h]

theorem schedule_of_some {r : Resolver} {request : MetricRequest} {key : String}
    (h : r.routes.key? request.containerKind = some key) :
    r.schedule request =
      ((r.subscribe request key).1, (r.subscribe request key).2.isOk) := by
  unfold schedule
  rw [h]
  dsimp only
  cases r.subscribe request key with
  | mk after result => cases result <;> rfl

theorem schedule_cases (r : Resolver) (request : MetricRequest) :
    r.schedule request = (r, false) ∨ ∃ key, r.schedule request =
      ((r.subscribe request key).1, (r.subscribe request key).2.isOk) := by
  cases hkey : r.routes.key? request.containerKind with
  | none => exact Or.inl (schedule_of_none hkey)
  | some key => exact Or.inr ⟨key, schedule_of_some hkey⟩

/-- Subscribes metrics of the store, one after the other; gives the number of those that are polled
now. -/
def scheduleAll (r : Resolver) : List MetricRequest → Resolver × Nat
  | [] => (r, 0)
  | request :: requests =>
      let (r, polled) := r.schedule request
      let (r, n) := r.scheduleAll requests
      (r, n + if polled then 1 else 0)

/-- Subscribes every metric of the store.  Metrics that cannot be polled are passed over. -/
def reload (r : Resolver) : Resolver × Except GatewayError Nat :=
  match r.collaborators.storedMetrics with
  | .error reason => (r, .error (.store reason))
  | .ok requests =>
      let (r, n) := r.scheduleAll requests
      (r, .ok n)

/-! ## Tasks -/

def start (r : Resolver) (request : MetricRequest) (requester : Requester) (timeout : Duration) :
    Resolver × TaskId :=
  let id := r.started
  ({ r with
      started := id + 1
      tasks := r.tasks.insert id { request, requester, timeout, startedAt := r.now } },
    id)

def report (r : Resolver) (id : TaskId) (what : Report) : Resolver :=
  { r with reports := (r.now, id, what) :: r.reports }

def setPhase (r : Resolver) (id : TaskId) (t : Task) (phase : Task.Phase) : Resolver :=
  { r with tasks := r.tasks.insert id { t with phase } }

def fail (r : Resolver) (id : TaskId) (e : GatewayError) : Resolver :=
  { r with tasks := r.tasks.erase id }.report id (.finished (.error e))

/-- Ends a task that has answered its request.  The time it took is counted where there was an
answer with data to look for. -/
def complete (r : Resolver) (id : TaskId) (t : Task) (resolution : Resolution) : Resolver :=
  let r := if resolution = .noRoute then r
    else r.count fun m => m.observeLatency (r.now.nanosSince t.startedAt)
  { r with tasks := r.tasks.erase id }.report id (.finished (.ok resolution))

def answer (r : Resolver) (id : TaskId) (t : Task) (reply : Envelope) (resolution : Resolution) :
    Resolver :=
  match t.requester with
  | .caller => (r.report id (.delivered reply)).complete id t resolution
  | .gone => (r.report id (.delivered reply)).fail id .channelClosed
  | .outbox exchange key correlation =>
      let reply := reply.withCorrelation correlation
      let r := r.report id (.delivered reply)
      let m : Message := { exchange, key, envelope := reply }
      match r.common.send m with
      | (common, .accepted) => (r.onCommon fun _ => common).complete id t resolution
      | (common, .parked ticket) =>
          (r.onCommon fun _ => common).setPhase id t (.answering ticket m resolution)
      | (_, .refused) => r.fail id .channelClosed

def fetchMessage (r : Resolver) (request : MetricRequest) (key correlation : String) : Message where
  exchange := r.topology.fetchExchange
  key := key
  envelope :=
    (((Envelope.pack request .ok).withCorrelation correlation).replyTo
      r.settings.replyKey).expiringAfter r.settings.messageTtl

def await (r : Resolver) (id : TaskId) (t : Task) (correlation : String)
    (settings : MetricSettings) : Resolver :=
  let r := r.count Metrics.addFetchIssued
  let (correlator, wait) := r.correlator.listen correlation t.timeout r.now
  { r with correlator }.setPhase id t (.awaiting wait correlation settings)

def fetch (r : Resolver) (id : TaskId) (t : Task) (key : String) (settings : MetricSettings) :
    Resolver :=
  let (common, correlation) := r.common.freshId
  let r := r.onCommon fun _ => common
  let m := r.fetchMessage t.request key correlation
  let r := { r with pending := r.pending.insert correlation settings }
  match r.common.send m with
  | (common, .accepted) => (r.onCommon fun _ => common).await id t correlation settings
  | (common, .parked ticket) =>
      (r.onCommon fun _ => common).setPhase id t (.fetching ticket m correlation settings)
  | (_, .refused) =>
      { r with pending := r.pending.erase correlation }.fail id .channelClosed

def miss (r : Resolver) (id : TaskId) (t : Task) : Resolver :=
  match r.routes.key? t.request.containerKind with
  | none =>
      r.answer id t (Envelope.pack (Reading.noData t.request r.common.wall) .ok) .noRoute
  | some key =>
      match r.subscribe t.request key with
      | (r, .error e) => r.fail id e
      | (r, .ok settings) => r.fetch id t key settings

def hit (r : Resolver) (id : TaskId) (t : Task) (body : Wire.Bytes) : Resolver :=
  let (polling, _) := r.polling.refresh t.request.metric
  { r with polling }.answer id t (Envelope.ofBody body .ok) .cached

def begin (r : Resolver) (id : TaskId) (t : Task) : Resolver :=
  match r.collaborators.cachedValue r.now t.request.metric with
  | (collaborators, .error reason) => { r with collaborators }.fail id (.cache reason)
  | (collaborators, .ok (some body)) =>
      ({ r with collaborators }.count Metrics.addCacheHit).hit id t body
  | (collaborators, .ok none) =>
      ({ r with collaborators }.count Metrics.addCacheMiss).miss id t

def giveUp (r : Resolver) (id : TaskId) (t : Task) (correlation : String) (e : GatewayError) :
    Resolver :=
  let r := { r with pending := r.pending.erase correlation }
  let r :=
    if e.isTimeout then
      (r.count Metrics.addFetchTimeout).onCommon
        (·.record (.fetchTimedOut t.request.metric correlation t.timeout))
    else r
  r.fail id e

def perish (r : Resolver) (id : TaskId) : Resolver := { r with tasks := r.tasks.erase id }

/-- Passes the reply to a fetch on.  A reply that reports success is cached first; a failure of the
cache does not matter, but an attempt can be fatal. -/
def passOn (r : Resolver) (id : TaskId) (t : Task) (correlation : String)
    (settings : MetricSettings) (reply : Envelope) : Resolver :=
  let settings := (r.pending[correlation]?).getD settings
  let r := { r with pending := r.pending.erase correlation }
  if reply.status.isOk then
    match r.collaborators.cacheValue r.now t.request.metric reply.body settings.cacheFor with
    | (collaborators, .fatal) => { r with collaborators }.perish id
    | (collaborators, _) => { r with collaborators }.answer id t reply (.fetched reply.status)
  else r.answer id t reply (.fetched reply.status)

def taskReady (r : Resolver) (id : TaskId) : Bool :=
  match r.tasks[id]? with
  | none => false
  | some t =>
      match t.phase with
      | .starting => true
      | .fetching ticket _ _ _ => r.common.outbox.answers ticket
      | .awaiting wait _ _ => (r.correlator.result? wait r.now).isSome
      | .answering ticket _ _ => r.common.outbox.answers ticket

def stepTask (r : Resolver) (id : TaskId) : Resolver :=
  match r.tasks[id]? with
  | none => r
  | some t =>
      match t.phase with
      | .starting => r.begin id t
      | .fetching ticket m correlation settings =>
          match r.common.resend ticket m with
          | (common, .accepted) => (r.onCommon fun _ => common).await id t correlation settings
          | (_, .refused) =>
              { r with pending := r.pending.erase correlation }.fail id .channelClosed
          | (_, .parked _) => r
      | .awaiting wait correlation settings =>
          match r.correlator.result? wait r.now with
          | none => r
          | some result =>
              let r := { r with correlator := r.correlator.finish wait }
              match result with
              | .error e => r.giveUp id t correlation e
              | .ok reply => r.passOn id t correlation settings reply
      | .answering ticket m resolution =>
          match r.common.resend ticket m with
          | (common, .accepted) => (r.onCommon fun _ => common).complete id t resolution
          | (_, .refused) => r.fail id .channelClosed
          | (_, .parked _) => r

/-- The turn of a task: those whose replies have come go first, in the order of the replies. -/
def turn (r : Resolver) (t : Task) : Nat :=
  match t.phase with
  | .awaiting wait _ _ => r.correlator.turn wait
  | _ => r.correlator.delivered

def taskOrder (r : Resolver) : List TaskId :=
  (Turn.order (fun p => r.turn p.2) r.tasks.toList).map (·.1)

def alarms (r : Resolver) : List Instant :=
  r.polling.alarms ++ r.correlator.alarms

/-- What runs in the background: the tickers of the groups, and the tasks that answer requests. -/
inductive Activity where
  | ticker (g : Pulling.Generation)
  | request (id : TaskId)
deriving DecidableEq

instance : Publisher Resolver where
  common := common
  onCommon := onCommon

instance : Machine Resolver Activity where
  now := now
  setNow r now := r.onCommon fun c => { c with now }
  tasks r := r.polling.tasks.map .ticker ++ r.taskOrder.map .request
  ready r
    | .ticker g => r.polling.tickerReady g
    | .request id => r.taskReady id
  step r activity preference :=
    match activity with
    | .ticker g => { r with polling := r.polling.stepTicker g preference }
    | .request id => r.stepTask id
  alarms := alarms

end Resolver
end MetricGateway
