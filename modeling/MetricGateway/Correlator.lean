import Std.Data.ExtTreeMap
import MetricGateway.Error

/-!
# Waiting for correlated replies

A task that has published a request waits for the reply with the same correlation id.  Each wait
owns the registration under its id until it ends, whatever ends it.  A second wait under an id that
is registered takes the registration over, and the first one ends at once as if its time were up.
-/

namespace MetricGateway

abbrev WaitId := Nat

inductive Slot (α : Type) where
  | unfilled
  /-- The payload of the reply, and its place among all payloads that reached waits. -/
  | filled (payload : α) (place : Nat)
  /-- Nothing will come any more: the registration was taken over. -/
  | abandoned

structure Wait (α : Type) where
  correlation : String
  timeout : Duration
  /-- When the time is up; never where that lies beyond the end of the clock. -/
  due : Option Instant
  /-- Tells the registration of this wait from a later one under the same id. -/
  ticket : UInt64
  slot : Slot α := .unfilled

namespace Wait

/-- The result of a wait, once there is one: a payload that has come is taken also after the time is
up. -/
def result? {α : Type} (w : Wait α) (now : Instant) : Option (Except GatewayError α) :=
  match w.slot with
  | .filled payload _ => some (.ok payload)
  | .abandoned => some (.error (.timeout w.correlation w.timeout))
  | .unfilled =>
      if w.due.any (·.metBy now) then some (.error (.timeout w.correlation w.timeout)) else none

def place? {α : Type} (w : Wait α) : Option Nat :=
  match w.slot with
  | .filled _ place => some place
  | _ => none

end Wait

structure Registration where
  wait : WaitId
  ticket : UInt64

/-- All waits, and the one that is registered under each id. -/
structure Correlator (α : Type) where
  registered : Std.ExtTreeMap String Registration := ∅
  waits : Std.ExtTreeMap WaitId (Wait α) := ∅
  lastTicket : UInt64 := 0
  started : Nat := 0
  /-- The number of payloads that have reached waits. -/
  delivered : Nat := 0

namespace Correlator

variable {α : Type}

/-- Ends the hope of a wait for a reply. -/
def abandon (c : Correlator α) (wait : WaitId) : Correlator α :=
  match c.waits[wait]? with
  | some w => { c with waits := c.waits.insert wait { w with slot := .abandoned } }
  | none => c

/-- Starts to wait for the reply under an id.

A time that would be up beyond the end of the clock is never up here.  Pauses of such a length are
otherwise cut to thirty years (`Instant.deadline`), and a timer that did so for waits as well would
end this one then. -/
def listen (c : Correlator α) (correlation : String) (timeout : Duration) (now : Instant) :
    Correlator α × WaitId :=
  let ticket := c.lastTicket + 1
  let wait := c.started
  let c :=
    match c.registered[correlation]? with
    | some previous => c.abandon previous.wait
    | none => c
  ({ c with
      lastTicket := ticket
      started := wait + 1
      registered := c.registered.insert correlation { wait, ticket }
      waits := c.waits.insert wait { correlation, timeout, due := now.later? timeout, ticket } },
    wait)

/-- Hands a payload to the wait under an id; tells whether one took it. -/
def send (c : Correlator α) (correlation : String) (payload : α) : Correlator α × Bool :=
  match c.registered[correlation]? with
  | none => (c, false)
  | some r =>
      let c := { c with registered := c.registered.erase correlation }
      match c.waits[r.wait]? with
      | some w =>
          ({ c with
              delivered := c.delivered + 1
              waits := c.waits.insert r.wait { w with slot := .filled payload c.delivered } },
            true)
      | none => (c, false)

def result? (c : Correlator α) (wait : WaitId) (now : Instant) : Option (Except GatewayError α) := do
  (← c.waits[wait]?).result? now

/-- The turn of a wait: those that a payload has reached go first, in the order of the payloads. -/
def turn (c : Correlator α) (wait : WaitId) : Nat :=
  ((c.waits[wait]?).bind (·.place?)).getD c.delivered

/-- Forgets a wait that has its result.  A registration under its id is dropped only if it is its
own. -/
def finish (c : Correlator α) (wait : WaitId) : Correlator α :=
  match c.waits[wait]? with
  | none => c
  | some w =>
      let own := (c.registered[w.correlation]?).any (·.ticket = w.ticket)
      { c with
        waits := c.waits.erase wait
        registered := if own then c.registered.erase w.correlation else c.registered }

def alarms (c : Correlator α) : List Instant := c.waits.values.filterMap (·.due)

def pending (c : Correlator α) : Nat := c.registered.size

end Correlator
end MetricGateway
