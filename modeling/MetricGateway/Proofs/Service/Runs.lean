import MetricGateway.Proofs.Broker.Runs
import MetricGateway.Proofs.Fetching.Runs
import MetricGateway.Service.Basic

/-!
# Runs of a service

The tasks of a service and of the network around it take their steps in any order.  Meanwhile
callers, other systems and the clock act on the resolver, and others use the broker.
-/

namespace MetricGateway
namespace Service

/-! ## Runs -/

inductive Act where
  | task (t : Task) (preference : Preference)
  /-- A caller, another system or the clock does something to the resolver. -/
  | resolver (a : Fetching.Act)
  | other (op : Broker.Op)
  | join (binding : Broker.Binding) (role : Broker.ClientRole)
  | shutdown

def perform (s : Service) : Act → Service
  | .task t preference => s.step t preference
  | .resolver a => { s with resolver := Fetching.actOn s.resolver a }
  | .other op => { s with broker := s.broker.perform op }
  | .join binding role => s.withLink (s.link.join binding role).1
  | .shutdown => s.shutdown

def run (s : Service) (acts : List Act) : Service := acts.foldl perform s

/-! ## What the inlets take -/

/-- The message that the task of an inlet takes next, where it has nothing to pass on. -/
def next? (s : Service) (i : Inlet) : Option Message :=
  (s.inlets.lookup i).bind fun id => (s.channels.receive id).2

theorem stepInlet_eq (s : Service) {i : Inlet} (hfree : s.backlog? i = none) :
    ∃ channels, s.stepInlet i =
      match s.next? i with
      | none => s
      | some m => { s with channels }.accept i m.envelope := by
  unfold stepInlet next?
  cases s.inlets.lookup i with
  | none => exact ⟨s.channels, rfl⟩
  | some id =>
      rw [hfree]
      dsimp only [Option.bind]
      rcases s.channels.receive id with ⟨channels, _ | m⟩
      · exact ⟨s.channels, rfl⟩
      · exact ⟨channels, rfl⟩

/-! ## What steps are made up of -/

/-- A property that is kept by the changes of which the steps of a service are made up that do not
use the network. -/
structure Stable (P : Service → Prop) : Prop where
  resolved : ∀ {s : Service} (a : Fetching.Act), P s →
    P { s with resolver := Fetching.actOn s.resolver a }
  counted : ∀ {s : Service} (f : Metrics → Metrics), P s → P (s.onCommon (·.count f))
  received : ∀ {s : Service} (id : Channel.SubscriptionId), P s →
    P { s with channels := (s.channels.receive id).1 }
  closed : ∀ {s : Service}, P s → P (s.closeInlet .polls)
  moved : ∀ {s : Service} (events : Mailbox LifecycleEvent) (parked : List Parked)
    (applying : Option LifecycleEvent), P s → P { s with events, parked, applying }

variable {P : Service → Prop} {s : Service}

theorem Stable.brought (hP : Stable P) (h : P s) (topic : LifecycleTopic) (event : LifecycleEvent)
    (offered : Mailbox LifecycleEvent × Mailbox.Offer) : P (s.brought topic event offered) := by
  rcases offered with ⟨events, offer⟩
  cases offer with
  | accepted => exact hP.moved events s.parked s.applying h
  | parked ticket => exact hP.moved events _ s.applying h
  | refused => exact hP.moved events s.parked s.applying h

theorem Stable.accept (hP : Stable P) (h : P s) (i : Inlet) (e : Envelope) : P (s.accept i e) := by
  cases i with
  | replies => exact hP.resolved (.route e) h
  | polls =>
      have hhandled := hP.resolved (.handlePoll s.history e) h
      unfold Service.accept acceptPoll
      unfold Fetching.actOn at hhandled
      dsimp only at hhandled ⊢
      rcases hresult : s.resolver.handlePoll s.history e with ⟨resolver, _ | n⟩
      · rw [hresult] at hhandled
        exact hP.closed hhandled
      · rw [hresult] at hhandled
        exact hhandled
  | topic t =>
      unfold Service.accept notify
      dsimp only
      cases t.decode e with
      | error fault => exact hP.counted Metrics.addDecodeFailure h
      | ok event => exact hP.brought h t event _
  | requests => exact hP.resolved (.dispatch e) h

theorem Stable.stepInlet (hP : Stable P) (h : P s) (i : Inlet) : P (s.stepInlet i) := by
  unfold Service.stepInlet
  cases s.inlets.lookup i with
  | none => exact h
  | some id =>
      dsimp only
      cases s.backlog? i with
      | some p =>
          have hparked := hP.moved s.events (s.parked.erase p) s.applying h
          exact hP.brought hparked p.topic p.event _
      | none =>
          have hreceived := hP.received id h
          dsimp only
          rcases hreceive : s.channels.receive id with ⟨channels, _ | m⟩
          · exact h
          · rw [hreceive] at hreceived
            exact hP.accept hreceived i m.envelope

theorem Stable.stepHandler (hP : Stable P) (h : P s) : P s.stepHandler := by
  unfold Service.stepHandler
  cases s.applying with
  | some event => exact hP.resolved (.apply event) (hP.moved s.events s.parked none h)
  | none =>
      dsimp only
      rcases s.events.take with ⟨events, _ | event⟩
      · exact h
      · exact hP.moved events s.parked (some event) h

theorem Stable.step (hP : Stable P) (h : P s) {t : Task} (hinner : ∀ l, t ≠ .network l)
    (preference : Preference) : P (s.step t preference) := by
  cases t with
  | network l => exact absurd rfl (hinner l)
  | inlet i => exact hP.stepInlet h i
  | handler => exact hP.stepHandler h
  | resolver a =>
      cases a with
      | ticker g => exact hP.resolved (.polling (.turn g preference)) h
      | request id => exact hP.resolved (.step id) h

end Service
end MetricGateway
