import MetricGateway.Api
import MetricGateway.Collaborators
import MetricGateway.Document.Settings
import MetricGateway.Journal
import MetricGateway.Lifecycle.Event
import MetricGateway.Resolver.Task

/-!
# Events, results and pages as documents

The structured form of the journal, of errors and results, and of the pages of the web interface.
-/

namespace MetricGateway
namespace Document

/-! ## Messages and events -/

instance : Shown Message where
  toDocument m := record
    [("exchange", text m.exchange), ("key", text m.key), ("envelope", of m.envelope)]

instance : Shown Event.Field where
  toDocument
    | .text value => text value
    | .number value => number value

/-- An event of a service with all its fields, its severity and its sentence. -/
def ofEvent (service : String) (e : Event) : Document :=
  record ((e.fields service).map (fun p => (p.1, of p.2))
    ++ [("level", text e.severity.label), ("message", text e.sentence)])

def lifecycleNumbers : LifecycleEvent → Document × Document × Document
  | .containerUpdated c | .containerDeleted c => (of c, null, null)
  | .metricUpdated c m | .metricDeleted c m => (of c, of m, null)
  | .policyDeleted p => (null, null, of p)

instance : Shown LifecycleEvent where
  toDocument e :=
    let (container, metric, policy) := lifecycleNumbers e
    record [("kind", text e.kind), ("subject", of e.subject), ("container", container),
      ("metric", metric), ("policy", policy)]

/-! ## Results -/

def ofFailure (kind message : String) : Document :=
  record [("error", text kind), ("message", text message)]

def errorKind : GatewayError → String
  | .codec _ => "Codec"
  | .channelClosed => "ChannelClosed"
  | .broker _ => "Broker"
  | .timeout _ _ => "Timeout"
  | .notConfigured _ _ => "NotConfigured"
  | .store _ => "Store"
  | .cache _ => "Cache"

instance : Shown GatewayError := ⟨fun e => ofFailure (errorKind e) e.message⟩

instance {ε α : Type} [Shown ε] [Shown α] : Shown (Except ε α) where
  toDocument
    | .ok a => of a
    | .error e => of e

instance : Shown Unit := ⟨fun _ => text "ok"⟩

instance : Shown Resolver.Resolution where
  toDocument
    | .cached => text "Cached"
    | .noRoute => text "NoRoute"
    | .fetched status => record [("Fetched", of status)]

instance : Named Pulling.AddOutcome where
  all := [.inserted, .refreshed]
  name
    | .inserted => "Inserted"
    | .refreshed => "Refreshed"

instance : Named Pulling.GroupState where
  all := [.active, .empty, .stopped]
  name
    | .active => "Active"
    | .empty => "Empty"
    | .stopped => "Stopped"

instance : Named Wellness where
  all := [.healthy, .degraded, .unhealthy]
  name := Wellness.label

instance : Named Subject where
  all := [.metric, .container]
  name := Subject.label

instance : Named Call where
  all := Call.all
  name := Call.label

/-! ## Groups -/

instance : Shown Pulling.Entry where
  toDocument e := record
    [("metric", of e.metric), ("mtype", of e.valueKind), ("remaining", of e.remaining),
      ("times", of e.budget)]

instance : Shown Pulling.GroupKey := ⟨fun k => text k.text⟩

instance : Shown Pulling.GroupView where
  toDocument v := record
    [("key", of v.key), ("state", of v.state), ("interval", of v.interval),
      ("entries", of v.entries)]

instance : Shown Pulling.Registry where
  toDocument r := record
    [("group_count", r.groupCount), ("entry_count", r.entryCount), ("groups", of r.views)]

/-! ## Pages -/

/-- The health of a part; the function writes the time of the report. -/
def ofComponent (clock : Int64 → Document) (c : ComponentHealth) : Document :=
  record ([("status", of c.status), ("last_check_timestamp", clock c.checkedAt)]
    ++ c.message.toList.map fun m => ("message", text m))

def ofHealth (clock : Int64 → Document) (r : HealthReport) : Document :=
  record [("status", of r.status),
    ("components", record (r.components.map fun p => (p.1, ofComponent clock p.2)))]

def ofReadiness (reason : Option Unreadiness) : Document :=
  record (("ready", flag reason.isNone) :: reason.toList.map fun u => ("reason", text u.message))

instance : Shown Api.MetricRow where
  toDocument m := record
    [("metric_id", of m.metric), ("pulling_remaining", of m.remaining),
      ("pulling_times", of m.budget)]

instance : Shown Api.GroupRow where
  toDocument g := record
    [("key", text g.key), ("interval_ms", of g.intervalMs), ("metrics", of g.metrics)]

end Document
end MetricGateway
