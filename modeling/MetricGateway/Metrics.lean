import Std.Data.ExtTreeMap
import MetricGateway.Time

/-!
# Counters

The counters that the service keeps about itself, and their written form: named families, each with
one sample, with one sample for each label, or with one cumulative sample for each latency bound.
-/

namespace MetricGateway

structure Metrics where
  cacheHits : Nat := 0
  cacheMisses : Nat := 0
  fetchesIssued : Nat := 0
  fetchTimeouts : Nat := 0
  unmatchedReplies : Nat := 0
  pullingGroups : Nat := 0
  pullingEntries : Nat := 0
  pollsPublished : Nat := 0
  channelReconnects : Nat := 0
  publishFailures : Nat := 0
  decodeFailures : Nat := 0
  lifecycleEvents : Std.ExtTreeMap String Nat := ∅
  /-- Time that each answered request took, in nanoseconds, newest first. -/
  latencies : List Nat := []

namespace Metrics

def addCacheHit (m : Metrics) : Metrics := { m with cacheHits := m.cacheHits + 1 }

def addCacheMiss (m : Metrics) : Metrics := { m with cacheMisses := m.cacheMisses + 1 }

def addFetchIssued (m : Metrics) : Metrics := { m with fetchesIssued := m.fetchesIssued + 1 }

def addFetchTimeout (m : Metrics) : Metrics := { m with fetchTimeouts := m.fetchTimeouts + 1 }

def addUnmatchedReply (m : Metrics) : Metrics :=
  { m with unmatchedReplies := m.unmatchedReplies + 1 }

def setPulling (m : Metrics) (groups entries : Nat) : Metrics :=
  { m with pullingGroups := groups, pullingEntries := entries }

def addPollPublished (m : Metrics) : Metrics := { m with pollsPublished := m.pollsPublished + 1 }

def addChannelReconnect (m : Metrics) : Metrics :=
  { m with channelReconnects := m.channelReconnects + 1 }

def addPublishFailure (m : Metrics) : Metrics := { m with publishFailures := m.publishFailures + 1 }

def addDecodeFailure (m : Metrics) : Metrics := { m with decodeFailures := m.decodeFailures + 1 }

def addLifecycleEvent (m : Metrics) (kind : String) : Metrics :=
  { m with lifecycleEvents := m.lifecycleEvents.insert kind (m.lifecycleEvents.getD kind 0 + 1) }

def observeLatency (m : Metrics) (nanos : Nat) : Metrics :=
  { m with latencies := nanos :: m.latencies }

/-- The bounds of the latency samples: the text in seconds and the bound in nanoseconds. -/
def latencyBounds : List (String × Nat) :=
  [("0.0005", 500000), ("0.001", 1000000), ("0.005", 5000000), ("0.01", 10000000),
    ("0.025", 25000000), ("0.05", 50000000), ("0.1", 100000000), ("0.25", 250000000),
    ("0.5", 500000000), ("1", 1000000000), ("2.5", 2500000000), ("5", 5000000000),
    ("10", 10000000000), ("30", 30000000000)]

def countWithin (m : Metrics) (bound : Nat) : Nat :=
  m.latencies.countP (· ≤ bound)

inductive FamilyKind where
  | counter
  | gauge
  | histogram
deriving DecidableEq

namespace FamilyKind

def label : FamilyKind → String
  | counter => "counter"
  | gauge => "gauge"
  | histogram => "histogram"

end FamilyKind

/-- A sample: the name with its labels, and the value. -/
abbrev Sample := String × Nat

structure Family where
  name : String
  help : String
  kind : FamilyKind
  samples : Metrics → List Sample

def Family.single (name help : String) (kind : FamilyKind) (value : Metrics → Nat) : Family :=
  { name, help, kind, samples := fun m => [(name, value m)] }

def labelled (name label value : String) : String :=
  name ++ "\x7b" ++ label ++ "=\"" ++ value ++ "\"\x7d"

/-- The family of latencies: one sample for each bound, one without a bound, and the number of
requests. -/
def latencyFamily : Family where
  name := "rts_resolve_latency_seconds"
  help := "Time spent answering a metric request"
  kind := .histogram
  samples m :=
    (latencyBounds.map fun b =>
      (labelled "rts_resolve_latency_seconds_bucket" "le" b.1, m.countWithin b.2))
    ++ [(labelled "rts_resolve_latency_seconds_bucket" "le" "+Inf", m.latencies.length),
      ("rts_resolve_latency_seconds_count", m.latencies.length)]

/-- The family of broadcasts: one sample for each kind that was applied. -/
def lifecycleFamily : Family where
  name := "rts_lifecycle_events_total"
  help := "Lifecycle broadcasts applied to pulling state"
  kind := .counter
  samples m := m.lifecycleEvents.toList.map fun e =>
    (labelled "rts_lifecycle_events_total" "kind" e.1, e.2)

def families : List Family :=
  [ latencyFamily,
    .single "rts_cache_hits_total" "Metric requests answered from cache" .counter (·.cacheHits),
    .single "rts_cache_misses_total" "Metric requests that missed the cache" .counter
      (·.cacheMisses),
    .single "rts_fetches_issued_total" "Correlated fetch requests published to translators" .counter
      (·.fetchesIssued),
    .single "rts_fetch_timeouts_total" "Correlated fetches that received no reply in time" .counter
      (·.fetchTimeouts),
    .single "rts_unmatched_replies_total" "Correlated replies that arrived with nobody waiting"
      .counter (·.unmatchedReplies),
    .single "rts_pulling_groups" "Container pulling groups currently polling" .gauge
      (·.pullingGroups),
    .single "rts_pulling_entries" "Metrics currently being polled in the background" .gauge
      (·.pullingEntries),
    .single "rts_polls_published_total" "Batched background fetches published" .counter
      (·.pollsPublished),
    .single "rts_channel_reconnects_total" "Broker subscriptions re-established after loss" .counter
      (·.channelReconnects),
    .single "rts_publish_failures_total" "Messages dropped because the broker refused them" .counter
      (·.publishFailures),
    .single "rts_decode_failures_total" "Inbound messages dropped because their body did not decode"
      .counter (·.decodeFailures),
    lifecycleFamily ]

def Family.header (f : Family) : List String :=
  ["# HELP " ++ f.name ++ " " ++ f.help, "# TYPE " ++ f.name ++ " " ++ f.kind.label]

def samples (m : Metrics) : List Sample :=
  families.flatMap fun f => f.samples m

def contentType : String := "text/plain; charset=utf-8"

end Metrics
end MetricGateway
