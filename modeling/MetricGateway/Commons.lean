import MetricGateway.Broker.Binding
import MetricGateway.Health
import MetricGateway.Journal
import MetricGateway.Mailbox
import MetricGateway.Metrics

/-!
# What the parts of one instance share

The clock, the counters, the journal, the health board and the source of correlation ids belong to
the site at which instances run one after the other.  The outbox of messages for the broker is the
instance's own.
-/

namespace MetricGateway

namespace Correlation

def hex (width n : Nat) : List Char :=
  let digits := Nat.toDigits 16 n
  List.replicate (width - digits.length) '0' ++ digits

def start : String := "00000000-0000-4000-8000-"

/-- The `n`-th correlation id.  It has the form of a random identifier; different numbers give
different ids. -/
def id (n : Nat) : String := start ++ String.ofList (hex 12 n)

end Correlation

structure Site where
  now : Instant := .start
  wall : Int64 := 0
  metrics : Metrics := {}
  journal : Journal
  health : HealthBoard := {}
  /-- The number of correlation ids that were given out. -/
  issued : Nat := 0

structure Commons extends Site where
  outbox : Mailbox Message

namespace Commons

def freshId (c : Commons) : Commons × String :=
  ({ c with issued := c.issued + 1 }, Correlation.id c.issued)

def record (c : Commons) (e : Event) : Commons :=
  { c with journal := c.journal.record c.now e }

def count (c : Commons) (f : Metrics → Metrics) : Commons :=
  { c with metrics := f c.metrics }

def setHealthy (c : Commons) (part : Component) : Commons :=
  { c with health := c.health.setHealthy part.label c.wall }

def setDegraded (c : Commons) (part : Component) (message : String) : Commons :=
  { c with health := c.health.setDegraded part.label message c.wall }

def registerParts (c : Commons) : Commons :=
  { c with health := c.health.registerAll c.wall }

def setStarted (c : Commons) (started : Bool) : Commons :=
  { c with health := c.health.setStarted started }

def send (c : Commons) (m : Message) : Commons × Mailbox.Offer :=
  let (outbox, offer) := c.outbox.offer m
  ({ c with outbox }, offer)

def resend (c : Commons) (ticket : Ticket) (m : Message) : Commons × Mailbox.Offer :=
  let (outbox, offer) := c.outbox.retry ticket m
  ({ c with outbox }, offer)

def takeSent (c : Commons) : Commons × Option Message :=
  let (outbox, m) := c.outbox.take
  ({ c with outbox }, m)

/-- Leaves the outbox: its messages are lost, and its writers are refused from now on. -/
def closeOutbox (c : Commons) : Commons := { c with outbox := c.outbox.close }

end Commons
end MetricGateway
