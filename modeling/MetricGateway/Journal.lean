import MetricGateway.Metric

/-!
# The journal

The journal records the significant events of the service, each with the time at which it happened.
An event has a kind, a severity, a sentence for people and named fields for machines.
-/

namespace MetricGateway

inductive Event where
  | started (version : String)
  | stopping (reason : String)
  | groupStarted (group : String) (interval : Duration)
  | groupStopped (group : String) (reason : String)
  | fetchTimedOut (metric : MetricId) (correlation : String) (after : Duration)
  | lifecycleApplied (kind : String) (subject : Int32) (affected : Nat)
deriving DecidableEq

namespace Event

inductive Severity where
  | info
  | warning
deriving DecidableEq

def Severity.label : Severity → String
  | info => "INFO"
  | warning => "WARN"

inductive Field where
  | text (value : String)
  | number (value : Int)
deriving DecidableEq

def kind : Event → String
  | started _ => "service_started"
  | stopping _ => "service_shutdown"
  | groupStarted _ _ => "pulling_group_started"
  | groupStopped _ _ => "pulling_group_stopped"
  | fetchTimedOut _ _ _ => "fetch_timeout"
  | lifecycleApplied _ _ _ => "lifecycle_applied"

def severity : Event → Severity
  | fetchTimedOut _ _ _ => .warning
  | _ => .info

def sentence : Event → String
  | started _ => "Real-time service started"
  | stopping _ => "Real-time service shutting down"
  | groupStarted _ _ => "Pulling group started"
  | groupStopped _ _ => "Pulling group stopped"
  | fetchTimedOut _ _ _ => "No reply for metric fetch"
  | lifecycleApplied _ _ _ => "Lifecycle notification applied"

def details : Event → List (String × Field)
  | started version => [("version", .text version)]
  | stopping reason => [("reason", .text reason)]
  | groupStarted group interval =>
      [("group", .text group), ("interval_ms", .number interval.millisWord.toNat)]
  | groupStopped group reason => [("group", .text group), ("reason", .text reason)]
  | fetchTimedOut metric correlation after =>
      [("metric_id", .number metric.toInt), ("correlation_id", .text correlation),
        ("after_ms", .number after.millisWord.toNat)]
  | lifecycleApplied kind subject affected =>
      [("kind", .text kind), ("subject", .number subject.toInt), ("affected", .number affected)]

def fields (service : String) (e : Event) : List (String × Field) :=
  ("event", .text e.kind) :: ("service", .text service) :: e.details

end Event

/-- The events of one service, newest first, each with its time. -/
structure Journal where
  service : String
  entries : List (Instant × Event) := []

namespace Journal

def record (j : Journal) (now : Instant) (e : Event) : Journal :=
  { j with entries := (now, e) :: j.entries }

def toList (j : Journal) : List (Instant × Event) := j.entries.reverse

end Journal
end MetricGateway
