import MetricGateway.Resolver.Basic

/-!
# Replies of translators

A reply to a fetch goes to the task that waits for it.  A reply to a background poll is a batch of
readings that nobody waits for: each of them goes into the cache, for as long as the settings of its
metric say, and into the history.  A reading that the cache can hold for no such time ends whoever
stores it.
-/

namespace MetricGateway
namespace Resolver

/-- Hands a reply to the task that waits for it; tells whether one did. -/
def route (r : Resolver) (reply : Envelope) : Resolver × Bool :=
  if reply.correlation.isEmpty then (r.count Metrics.addUnmatchedReply, false)
  else
    match r.correlator.send reply.correlation reply with
    | (correlator, true) => ({ r with correlator }, true)
    | (correlator, false) => ({ r with correlator }.count Metrics.addUnmatchedReply, false)

/-- Stores one reading of a batch; tells whether it is in the cache now.  There is no answer where
the attempt was fatal. -/
def storeReading (c : Collaborators) (now : Instant) (history : Bool) (reading : Reading) :
    Collaborators × Option Bool :=
  match c.metricSettings reading.metric with
  | (c, .error _) => (c, some false)
  | (c, .ok settings) =>
      match c.cacheValue now reading.metric (Wire.encode reading) settings.cacheFor with
      | (c, .failed _) => (c, some false)
      | (c, .fatal) => (c, none)
      | (c, .stored) => if history then ((c.writeHistory reading).1, some true) else (c, some true)

/-- Stores the readings of a batch, one after the other; gives the number of those that are in the
cache now.  A fatal attempt ends it without an answer. -/
def storeReadings (c : Collaborators) (now : Instant) (history : Bool) :
    List Reading → Collaborators × Option Nat
  | [] => (c, some 0)
  | reading :: readings =>
      match storeReading c now history reading with
      | (c, none) => (c, none)
      | (c, some stored) =>
          let (c, n) := storeReadings c now history readings
          (c, n.map (· + if stored then 1 else 0))

/-- Stores the readings of a reply to a poll; gives their number.  A reply that reports no success
or does not decode has none.  There is no answer where an attempt was fatal. -/
def handlePoll (r : Resolver) (history : Bool) (reply : Envelope) : Resolver × Option Nat :=
  if !reply.status.isOk then (r, some 0)
  else
    match (reply.unpack : Except Wire.Fault ReadingBatch) with
    | .error _ => (r.count Metrics.addDecodeFailure, some 0)
    | .ok batch =>
        let (collaborators, n) := storeReadings r.collaborators r.now history batch.readings
        ({ r with collaborators }, n)

end Resolver
end MetricGateway
