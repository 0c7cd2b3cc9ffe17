import MetricGateway.Pulling.Ticker
import MetricGateway.Recorded
import MetricGateway.Turn

/-!
# Background polling

The registry of groups together with the tickers that call for their rounds.  Every change of the
registry is counted, recorded in the journal and passed on to the tickers: a new group gets a ticker
of its own, and the ticker of a group that was dropped is told to stop.  A round publishes one
request for all metrics of the group to the translator of its target.
-/

namespace MetricGateway
namespace Pulling

/-- The groups, their tickers, and what is needed to publish polls. -/
structure Polling where
  common : Commons
  registry : Registry := {}
  tickers : Std.ExtTreeMap Generation Ticker := ∅
  turns : Nat := 0
  /-- Whether polling was shut down; every later ticker is told to stop at once. -/
  shutDown : Bool := false
  /-- The exchange on which translators take requests. -/
  exchange : String
  replyKey : String
  messageTtl : Duration

namespace Polling

def onCommon (p : Polling) (f : Commons → Commons) : Polling := { p with common := f p.common }

def setRegistry (p : Polling) (registry : Registry) : Polling :=
  { p with
    registry
    common := p.common.count fun m => m.setPulling registry.groupCount registry.entryCount }

def cancel (p : Polling) (dropped : List GroupRef) : Polling :=
  { p with
    tickers := p.tickers.map fun _ t =>
      if t.ref ∈ dropped then { t with cancelled := true } else t }

def recordStopped (p : Polling) (reason : String) (dropped : List GroupRef) : Polling :=
  p.onCommon fun c => dropped.foldl (fun c ref => c.record (.groupStopped ref.key.text reason)) c

def spawn (p : Polling) (ref : GroupRef) (period : Duration) : Polling :=
  { p with
    tickers := p.tickers.insert ref.generation { ref, period, cancelled := p.shutDown } }

def startGroup (p : Polling) (ref : GroupRef) (interval : Duration) : Polling :=
  (p.onCommon fun c => c.record (.groupStarted ref.key.text interval)).spawn ref interval

/-! ## Operations -/

def add (p : Polling) (target : Target) (metric : MetricId) (valueKind : ValueKind)
    (budget : UInt16) : Polling × Except GatewayError AddOutcome :=
  match p.registry.add target metric valueKind budget with
  | .error e => (p, .error e)
  | .ok (registry, report) =>
      let dropped := report.dropped.toList
      let p := ((p.setRegistry registry).cancel dropped).recordStopped
        "metric moved to another interval" dropped
      let p := match report.created with
        | some ref => p.startGroup ref target.interval
        | none => p
      (p, .ok report.outcome)

def refresh (p : Polling) (metric : MetricId) : Polling × Bool :=
  let (registry, found) := p.registry.refresh metric
  ({ p with registry }, found)

def remove (p : Polling) (metric : MetricId) : Polling × Bool :=
  match p.registry.remove metric with
  | (_, none) => (p, false)
  | (registry, some dropped) =>
      let dropped := dropped.toList
      (((p.setRegistry registry).cancel dropped).recordStopped "last metric removed" dropped, true)

def stopContainer (p : Polling) (container : ContainerId) : Polling × Nat :=
  let (registry, dropped) := p.registry.stopContainer container
  (((p.setRegistry registry).cancel dropped).recordStopped "container changed" dropped,
    dropped.length)

def stopAll (p : Polling) : Polling × Nat :=
  let (registry, dropped) := p.registry.stopAll
  ((p.setRegistry registry).cancel dropped, dropped.length)

def shutdown (p : Polling) : Polling :=
  let p := p.stopAll.1
  { p with
    shutDown := true
    tickers := p.tickers.map fun _ t => { t with cancelled := true } }

/-! ## Rounds -/

def pollMessage (p : Polling) (key correlation : String) (request : BatchRequest) : Message where
  exchange := p.exchange
  key := key
  envelope :=
    (((Envelope.pack request .ok).withCorrelation correlation).replyTo p.replyKey).expiringAfter
      p.messageTtl

/-- One round of a group: the message to publish, or nothing where the ticker has to end. -/
def tick (p : Polling) (ref : GroupRef) : Polling × Option Message :=
  match p.registry.tick ref with
  | (_, none) => (p, none)
  | (registry, some report) =>
      let p := p.setRegistry registry
      match report.outcome with
      | .stop =>
          let dropped := report.dropped.toList
          ((p.cancel dropped).recordStopped "no metrics left" [ref], none)
      | .poll request _ =>
          let (common, correlation) := p.common.freshId
          let p := { p with common }
          (p, some (p.pollMessage report.key correlation request))

def setPhase (p : Polling) (g : Generation) (t : Ticker) (phase : Ticker.Phase) : Polling :=
  { p with tickers := p.tickers.insert g { t with phase } }

/-- Lets a ticker sleep until its next round is due, behind those that sleep already. -/
def sleep (p : Polling) (g : Generation) (t : Ticker) (due : Instant) : Polling :=
  { p with turns := p.turns + 1 }.setPhase g { t with turn := p.turns } (.sleeping due)

def exit (p : Polling) (g : Generation) : Polling :=
  { p with tickers := p.tickers.erase g }

/-- A round of a ticker whose time has come, and the publishing of its message. -/
def fire (p : Polling) (g : Generation) (t : Ticker) (due : Instant) : Polling :=
  match p.tick t.ref with
  | (p, none) => p.exit g
  | (p, some m) =>
      let next := Ticker.nextDue t.period due p.common.now
      match p.common.send m with
      | (common, .accepted) =>
          { p with common := common.count Metrics.addPollPublished }.sleep g t next
      | (common, .parked ticket) => { p with common }.setPhase g t (.publishing ticket m next)
      | (common, .refused) => { p with common }.sleep g t next

def tickerReady (p : Polling) (g : Generation) : Bool :=
  match p.tickers[g]? with
  | none => false
  | some t =>
      match t.phase with
      | .starting => true
      | .sleeping due => t.cancelled || due.metBy p.common.now
      | .publishing ticket _ _ => p.common.outbox.answers ticket

def stepTicker (p : Polling) (g : Generation) (preference : Preference) : Polling :=
  match p.tickers[g]? with
  | none => p
  | some t =>
      match t.phase with
      | .starting =>
          match t.begins? p.common.now with
          | some due => p.sleep g t due
          | none => p.exit g
      | .sleeping due =>
          if t.cancelled ∧ (preference = .stop ∨ ¬ due.metBy p.common.now) then p.exit g
          else if due.metBy p.common.now then p.fire g t due
          else p
      | .publishing ticket m due =>
          match p.common.resend ticket m with
          | (common, .accepted) =>
              { p with common := common.count Metrics.addPollPublished }.sleep g t due
          | (common, .refused) => { p with common }.sleep g t due
          | (_, .parked _) => p

def tasks (p : Polling) : List Generation := (Turn.order (·.2.turn) p.tickers.toList).map (·.1)

def alarms (p : Polling) : List Instant := p.tickers.values.filterMap (·.alarm?)

instance : Publisher Polling where
  common p := p.common
  onCommon := onCommon

instance : Machine Polling Generation where
  now p := p.common.now
  setNow p now := p.onCommon fun c => { c with now }
  tasks := tasks
  ready := tickerReady
  step := stepTicker
  alarms := alarms

end Polling
end Pulling
end MetricGateway
