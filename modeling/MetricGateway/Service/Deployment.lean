import MetricGateway.Service.Basic

/-!
# Deployments

A service that was shut down is not started again: a new one takes its place in the surroundings
that it left.  What the old one had begun goes on beside the new one, so that its requests still run
out of time; nothing reaches it any more, since its subscriptions stop.

All instances have one surroundings.  The present instance holds them; an old one is put into them
for every step that it takes.
-/

namespace MetricGateway

/-- The present instance of a service, and those before it. -/
structure Deployment where
  current : Service
  historyWriter : Bool
  started : Bool := false
  /-- The instances that were replaced, newest first. -/
  retired : List Service := []

namespace Deployment

def idle (settings : ServiceSettings) (historyWriter : Bool) (wall : Int64) : Deployment where
  current := .idle settings historyWriter { site := { wall, journal := { service := settings.service } } }
  historyWriter := historyWriter

def withCurrent (d : Deployment) (s : Service) : Deployment := { d with current := s }

def start (d : Deployment) : Deployment :=
  if d.started then
    let successor := Service.idle d.current.settings d.historyWriter d.current.surroundings
    { d with
      current := successor.start
      retired := { d.current with channels := d.current.channels.stop } :: d.retired }
  else { d with current := d.current.start, started := true }

def shutdown (d : Deployment) : Deployment := d.withCurrent d.current.shutdown

/-! ## Tasks -/

inductive Task where
  | current (t : Service.Task)
  | retired (place : Nat) (t : Service.Task)
deriving DecidableEq

def tasksAt (place : Nat) (s : Service) : List Task := s.tasks.map (.retired place)

def tasks (d : Deployment) : List Task :=
  d.current.tasks.map .current ++ (d.retired.mapIdx tasksAt).flatten

def retired? (d : Deployment) (place : Nat) : Option Service :=
  (d.retired[place]?).map (·.placeIn d.current.surroundings)

/-- Puts an old instance back, and takes over the surroundings that it leaves. -/
def putBack (d : Deployment) (place : Nat) (s : Service) : Deployment :=
  { d with current := d.current.placeIn s.surroundings, retired := d.retired.set place s }

def ready (d : Deployment) : Task → Bool
  | .current t => d.current.ready t
  | .retired place t => (d.retired? place).any (·.ready t)

def step (d : Deployment) (t : Task) (preference : Preference) : Deployment :=
  match t with
  | .current t => d.withCurrent (d.current.step t preference)
  | .retired place t =>
      match d.retired? place with
      | some s => d.putBack place (s.step t preference)
      | none => d

instance : Machine Deployment Task where
  now d := d.current.common.now
  setNow d now := d.withCurrent (Machine.setNow d.current now)
  tasks := tasks
  ready := ready
  step := step
  alarms d := (d.current :: d.retired).flatMap Machine.alarms

instance : Publisher Deployment where
  common d := d.current.common
  onCommon d f := d.withCurrent (d.current.onCommon f)

end Deployment
end MetricGateway
