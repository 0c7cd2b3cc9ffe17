import MetricGateway.Broker.Binding
import MetricGateway.Mailbox
import MetricGateway.Pulling.Registry

/-!
# Tickers

Every group has a task of its own that calls for its rounds: the first one an interval after the
task started, and then one interval after another.  A round that comes more than five milliseconds
late, because the message of the round before had to wait for room, puts the next one a whole
interval after itself.  Tickers whose rounds are due at one time go in the order in which they fell
asleep.
-/

namespace MetricGateway
namespace Pulling

inductive Ticker.Phase where
  | starting
  | sleeping (due : Instant)
  /-- It waits for room for the message of the last round; `due` is the time of the next one. -/
  | publishing (ticket : Ticket) (poll : Message) (due : Instant)
deriving DecidableEq

/-- The task that calls for the rounds of a group; it is there until it ends. -/
structure Ticker where
  ref : GroupRef
  period : Duration
  cancelled : Bool
  phase : Ticker.Phase := .starting
  /-- Its place among all tickers in the order in which they fell asleep. -/
  turn : Nat := 0
deriving DecidableEq

namespace Ticker

/-- How late a round may be without the next one being put off. -/
def tolerance : Duration := Duration.ofMillis 5

/-- The time of the round after one that was due at `due` and came at `now`. -/
def nextDue (period : Duration) (due now : Instant) : Instant :=
  if (due.plus tolerance).nanos < now.nanos then now.plus period
  else (due.later? period).getD (now.plus Instant.farFuture)

/-- The time of the first round; none where it lies beyond the end of the clock. -/
def firstDue? (period : Duration) (now : Instant) : Option Instant := now.later? period

/-- Until when a ticker sleeps that runs for the first time; none where it ends, because it was told
to stop before or its first round lies beyond the end of the clock. -/
def begins? (t : Ticker) (now : Instant) : Option Instant :=
  if t.cancelled then none else firstDue? t.period now

def alarm? (t : Ticker) : Option Instant :=
  match t.phase with
  | .sleeping due => some due
  | _ => none

end Ticker
end Pulling
end MetricGateway
