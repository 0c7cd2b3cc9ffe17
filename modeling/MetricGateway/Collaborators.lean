import MetricGateway.Cache
import MetricGateway.Error
import MetricGateway.Store

/-!
# The systems that the service works with

The service works with a cache, a store of settings and a history of readings.  Each call to one of
them can fail for a while; a call that fails changes nothing, except that what is handed to the
history is noted in any case.  Failures can also come and go while many settings are looked up, so
that any of these lookups can fail and the others succeed.
-/

namespace MetricGateway

inductive Call where
  | cacheGet
  | cacheSet
  | cacheSettingsGet
  | cacheSettingsSet
  | cacheSettingsDelete
  | storeMetric
  | storeContainer
  | storeList
  | history
deriving DecidableEq

namespace Call

def all : List Call :=
  [cacheGet, cacheSet, cacheSettingsGet, cacheSettingsSet, cacheSettingsDelete, storeMetric,
    storeContainer, storeList, history]

def label : Call → String
  | cacheGet => "cache_get"
  | cacheSet => "cache_set"
  | cacheSettingsGet => "cache_config_get"
  | cacheSettingsSet => "cache_config_set"
  | cacheSettingsDelete => "cache_config_delete"
  | storeMetric => "store_metric"
  | storeContainer => "store_container"
  | storeList => "store_list"
  | history => "history"

def failure (c : Call) : String := c.label ++ " offline"

end Call

/-- What became of a value that was brought to the cache. -/
inductive Stored where
  | stored
  | failed (reason : String)
  /-- Its time would run past the end of the clock; the task that brought it does not survive. -/
  | fatal
deriving DecidableEq

/-- The systems, and the calls that fail at present. -/
structure Collaborators where
  cache : Cache := {}
  store : Store := .empty
  /-- The readings in the history, newest first. -/
  history : List Reading := []
  /-- The readings that were handed to the history, newest first, also those it did not take. -/
  handed : List Reading := []
  failing : List Call := []
  /-- The number of lookups of the settings of a metric that were begun. -/
  lookups : Nat := 0
  /-- The calls that fail besides, from the beginning of each such lookup to that of the next. -/
  outages : Nat → List Call := fun _ => []

namespace Collaborators

/-- Whether a call fails from the beginning of a lookup to that of the next. -/
def failsDuring (c : Collaborators) (lookup : Nat) (call : Call) : Bool :=
  c.failing.contains call || (c.outages lookup).contains call

def fails (c : Collaborators) (call : Call) : Bool := c.failsDuring c.lookups call

def ask {α : Type} (c : Collaborators) (call : Call) (answer : α) : Except String α :=
  if c.fails call then .error call.failure else .ok answer

def cachedValue (c : Collaborators) (now : Instant) (metric : MetricId) :
    Collaborators × Except String (Option Wire.Bytes) :=
  if c.fails .cacheGet then (c, .error Call.cacheGet.failure)
  else
    let (cache, body) := c.cache.get now metric
    ({ c with cache }, .ok body)

def cacheValue (c : Collaborators) (now : Instant) (metric : MetricId) (body : Wire.Bytes)
    (ttl : Duration) : Collaborators × Stored :=
  if c.fails .cacheSet then (c, .failed Call.cacheSet.failure)
  else
    match c.cache.set now metric body ttl with
    | (cache, true) => ({ c with cache }, .stored)
    | (cache, false) => ({ c with cache }, .fatal)

def cachedSettings (c : Collaborators) (metric : MetricId) :
    Except String (Option MetricSettings) :=
  c.ask .cacheSettingsGet (c.cache.getSettings metric)

def cacheSettings (c : Collaborators) (metric : MetricId) (s : MetricSettings) :
    Collaborators × Except String Unit :=
  if c.fails .cacheSettingsSet then (c, .error Call.cacheSettingsSet.failure)
  else ({ c with cache := c.cache.setSettings metric s }, .ok ())

def dropSettings (c : Collaborators) (metric : MetricId) : Collaborators × Except String Unit :=
  if c.fails .cacheSettingsDelete then (c, .error Call.cacheSettingsDelete.failure)
  else ({ c with cache := c.cache.deleteSettings metric }, .ok ())

def storedMetric (c : Collaborators) (metric : MetricId) : Except String (Option MetricSettings) :=
  c.ask .storeMetric (c.store.metricSettings metric)

def storedContainer (c : Collaborators) (container : ContainerId) :
    Except String (Option ContainerSettings) :=
  c.ask .storeContainer (c.store.containerSettings container)

def storedMetrics (c : Collaborators) : Except String (List MetricRequest) :=
  c.ask .storeList c.store.list

def writeHistory (c : Collaborators) (r : Reading) : Collaborators × Except String Unit :=
  let c := { c with handed := r :: c.handed }
  if c.fails .history then (c, .error Call.history.failure)
  else ({ c with history := r :: c.history }, .ok ())

/-! ## Settings

The settings of a metric are taken from the cache, and from the store where the cache has none; what
the store says is written back to the cache.  The interval of a container always comes from the
store. -/

def beginLookup (c : Collaborators) : Collaborators := { c with lookups := c.lookups + 1 }

def metricSettings (c : Collaborators) (metric : MetricId) :
    Collaborators × Except GatewayError MetricSettings :=
  let c := c.beginLookup
  match c.cachedSettings metric with
  | .error reason => (c, .error (.cache reason))
  | .ok (some s) => (c, .ok s)
  | .ok none =>
      match c.storedMetric metric with
      | .error reason => (c, .error (.store reason))
      | .ok none => (c, .error (.notConfigured .metric metric))
      | .ok (some s) => ((c.cacheSettings metric s).1, .ok s)

/-- The interval of a container; one below a millisecond counts as none. -/
def containerInterval (c : Collaborators) (container : ContainerId) :
    Except GatewayError Duration :=
  match c.storedContainer container with
  | .error reason => .error (.store reason)
  | .ok none => .error (.notConfigured .container container)
  | .ok (some s) =>
      if 0 < s.interval.wholeMillis then .ok s.interval
      else .error (.notConfigured .container container)

def forgetSettings (c : Collaborators) (metric : MetricId) :
    Collaborators × Except GatewayError Unit :=
  match c.dropSettings metric with
  | (c, .ok ()) => (c, .ok ())
  | (c, .error reason) => (c, .error (.cache reason))

end Collaborators
end MetricGateway
