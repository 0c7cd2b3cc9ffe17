import Std.Data.ExtTreeMap
import MetricGateway.Wire.Payload

/-!
# The cache

The cache keeps the last value of a metric for a limited time, and the settings of metrics without a
limit.  A value is there until the instant at which it expires and not from then on.  A value that
has expired is dropped when it is looked up, and every write sweeps out all that have expired.  A
value whose time would run past the end of the clock cannot be stored.
-/

namespace MetricGateway

open Wire (Bytes)

/-- A value and the instant from which on it is not served any more. -/
structure CachedValue where
  body : Bytes
  expiresAt : Instant
deriving DecidableEq

namespace CachedValue

def live (v : CachedValue) (now : Instant) : Bool := now.nanos < v.expiresAt.nanos

end CachedValue

structure Cache where
  values : Std.ExtTreeMap MetricId CachedValue := ∅
  settings : Std.ExtTreeMap MetricId MetricSettings := ∅

namespace Cache

def get (c : Cache) (now : Instant) (metric : MetricId) : Cache × Option Bytes :=
  match c.values[metric]? with
  | none => (c, none)
  | some v =>
      if v.live now then (c, some v.body) else ({ c with values := c.values.erase metric }, none)

def sweep (c : Cache) (now : Instant) : Cache :=
  { c with values := c.values.filter fun _ v => v.live now }

/-- Stores a value for a time, after a sweep; tells whether it was stored. -/
def set (c : Cache) (now : Instant) (metric : MetricId) (body : Bytes) (ttl : Duration) :
    Cache × Bool :=
  let c := c.sweep now
  match now.later? ttl with
  | some expiresAt => ({ c with values := c.values.insert metric { body, expiresAt } }, true)
  | none => (c, false)

/-- The number of stored values, with those that have expired but were not dropped yet. -/
def size (c : Cache) : Nat := c.values.size

def getSettings (c : Cache) (metric : MetricId) : Option MetricSettings := c.settings[metric]?

def setSettings (c : Cache) (metric : MetricId) (s : MetricSettings) : Cache :=
  { c with settings := c.settings.insert metric s }

def deleteSettings (c : Cache) (metric : MetricId) : Cache :=
  { c with settings := c.settings.erase metric }

end Cache
end MetricGateway
