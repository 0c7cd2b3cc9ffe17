import MetricGateway.Proofs.Fetching.Outbox
import MetricGateway.Proofs.Pulling.Destination

/-!
# What a resolver is set up with

The routes, the settings and the names of the broker are fixed when a resolver is set up, and so is
the exchange for its background polls.  Nothing that happens to it afterwards changes them, so that
all fetches of an instance go to one exchange and ask for replies under one key.  Polls are made and
sent by tickers alone: whatever a task does, or an event, starts and stops tickers at most.
-/

namespace MetricGateway

open Pulling (Polling)

namespace Resolver

def setup (r : Resolver) : RoutingTable × ResolverSettings × Topology :=
  (r.routes, r.settings, r.topology)

/-- The resolver is set up as before, and no further poll waits for room. -/
structure Keeps (r r' : Resolver) : Prop where
  setup : r'.setup = r.setup
  exchange : r'.polling.exchange = r.polling.exchange
  parks : ∀ {m : Message}, r'.polling.Parks m → r.polling.Parks m

theorem keeps_refl (r : Resolver) : Keeps r r := ⟨rfl, rfl, id⟩

theorem Keeps.trans {r r' r'' : Resolver} (h : Keeps r r') (h' : Keeps r' r'') : Keeps r r'' where
  setup := h'.setup.trans h.setup
  exchange := h'.exchange.trans h.exchange
  parks := fun hm => h.parks (h'.parks hm)

theorem keeps_polling (r : Resolver) {polling : Polling} (hsilent : r.polling.Silent polling)
    (hexchange : polling.exchange = r.polling.exchange) : Keeps r { r with polling } where
  setup := rfl
  exchange := hexchange
  parks := hsilent.parks

theorem Keeps.pollsTo {r r' : Resolver} (h : Keeps r r') {exchange : String}
    (hpolls : r.polling.PollsTo exchange) : r'.polling.PollsTo exchange where
  exchange_eq := h.exchange.trans hpolls.exchange_eq
  parked := fun hm => hpolls.parked (h.parks hm)

theorem topology_of_setup {r r' : Resolver} (h : r'.setup = r.setup) :
    r'.topology = r.topology :=
  congrArg (·.2.2) h

theorem fetchMessage_of_setup {r r' : Resolver} (h : r'.setup = r.setup) (request : MetricRequest)
    (key correlation : String) :
    r'.fetchMessage request key correlation = r.fetchMessage request key correlation := by
  have hsettings : r'.settings = r.settings := congrArg (·.2.1) h
  unfold fetchMessage
  rw [hsettings, topology_of_setup h]

/-!
## Requests
-/

theorem keeps_subscribe (r : Resolver) (request : MetricRequest) (key : String) :
    Keeps r (r.subscribe request key).1 := by
  unfold subscribe
  split
  next => exact ⟨rfl, rfl, id⟩
  next collaborators settings _ =>
    dsimp only
    split
    next => exact ⟨rfl, rfl, id⟩
    next interval _ =>
      have hadded := keeps_polling r
        (Polling.silent_add r.polling (target request key interval) request.metric
          request.valueKind settings.budget)
        (congrArg Prod.fst (Polling.address_add r.polling _ _ _ _))
      split
      next hadd =>
        rw [hadd] at hadded
        exact ⟨hadded.setup, hadded.exchange, hadded.parks⟩
      next hadd =>
        rw [hadd] at hadded
        exact ⟨hadded.setup, hadded.exchange, hadded.parks⟩

theorem Keeps.complete {r₀ r : Resolver} (h : Keeps r₀ r) (id : TaskId) (t : Task)
    (resolution : Resolution) : Keeps r₀ (r.complete id t resolution) := by
  unfold Resolver.complete
  dsimp only
  split <;> exact ⟨h.setup, h.exchange, h.parks⟩

theorem Keeps.answer {r₀ r : Resolver} (h : Keeps r₀ r) (id : TaskId) (t : Task)
    (reply : Envelope) (resolution : Resolution) : Keeps r₀ (r.answer id t reply resolution) := by
  unfold Resolver.answer
  split
  · apply Keeps.complete
    exact ⟨h.setup, h.exchange, h.parks⟩
  · exact ⟨h.setup, h.exchange, h.parks⟩
  · dsimp only
    split
    · apply Keeps.complete
      exact ⟨h.setup, h.exchange, h.parks⟩
    · exact ⟨h.setup, h.exchange, h.parks⟩
    · exact ⟨h.setup, h.exchange, h.parks⟩

theorem Keeps.fetch {r₀ r : Resolver} (h : Keeps r₀ r) (id : TaskId) (t : Task) (key : String)
    (settings : MetricSettings) : Keeps r₀ (r.fetch id t key settings) := by
  unfold Resolver.fetch
  dsimp only
  split <;> exact ⟨h.setup, h.exchange, h.parks⟩

theorem Keeps.miss {r₀ r : Resolver} (h : Keeps r₀ r) (id : TaskId) (t : Task) :
    Keeps r₀ (r.miss id t) := by
  unfold Resolver.miss
  split
  next => exact h.answer id t _ _
  next key _ =>
    have hsubscribed := h.trans (keeps_subscribe r t.request key)
    split
    next hresult =>
      rw [hresult] at hsubscribed
      exact ⟨hsubscribed.setup, hsubscribed.exchange, hsubscribed.parks⟩
    next hresult =>
      rw [hresult] at hsubscribed
      exact hsubscribed.fetch id t key _

theorem keeps_begin (r : Resolver) (id : TaskId) (t : Task) : Keeps r (r.begin id t) := by
  unfold begin
  split
  next => exact ⟨rfl, rfl, fun hm => hm⟩
  next =>
    have hrefreshed := keeps_polling r (Polling.silent_refresh r.polling t.request.metric) rfl
    unfold hit
    apply Keeps.answer
    exact ⟨hrefreshed.setup, hrefreshed.exchange, hrefreshed.parks⟩
  next =>
    apply Keeps.miss
    exact ⟨rfl, rfl, fun hm => hm⟩

theorem keeps_giveUp (r : Resolver) (id : TaskId) (t : Task) (correlation : String)
    (e : GatewayError) : Keeps r (r.giveUp id t correlation e) := by
  unfold giveUp
  dsimp only
  split <;> exact ⟨rfl, rfl, fun hm => hm⟩

theorem keeps_passOn (r : Resolver) (id : TaskId) (t : Task) (correlation : String)
    (settings : MetricSettings) (reply : Envelope) :
    Keeps r (r.passOn id t correlation settings reply) := by
  unfold passOn
  dsimp only
  split
  · split
    · exact ⟨rfl, rfl, fun hm => hm⟩
    · apply Keeps.answer
      exact ⟨rfl, rfl, fun hm => hm⟩
  · apply Keeps.answer
    exact ⟨rfl, rfl, fun hm => hm⟩

theorem keeps_stepTask (r : Resolver) (id : TaskId) : Keeps r (r.stepTask id) := by
  unfold stepTask
  cases r.tasks[id]? with
  | none => exact keeps_refl r
  | some t =>
      dsimp only
      cases t.phase with
      | starting => exact keeps_begin r id t
      | fetching ticket m correlation settings =>
          dsimp only
          split <;> exact ⟨rfl, rfl, fun hm => hm⟩
      | awaiting wait correlation settings =>
          dsimp only
          split
          · exact keeps_refl r
          · have hfinished : Keeps r { r with correlator := r.correlator.finish wait } :=
              ⟨rfl, rfl, fun hm => hm⟩
            split
            · exact hfinished.trans (keeps_giveUp _ id t correlation _)
            · exact hfinished.trans (keeps_passOn _ id t correlation settings _)
      | answering ticket m resolution =>
          dsimp only
          split
          · apply Keeps.complete
            exact ⟨rfl, rfl, fun hm => hm⟩
          · exact ⟨rfl, rfl, fun hm => hm⟩
          · exact ⟨rfl, rfl, fun hm => hm⟩

/-!
## Everything else
-/

theorem keeps_schedule (r : Resolver) (request : MetricRequest) :
    Keeps r (r.schedule request).1 := by
  rcases schedule_cases r request with heq | ⟨key, heq⟩
  · rw [heq]
    exact keeps_refl r
  · rw [heq]
    exact keeps_subscribe r request key

theorem keeps_scheduleAll (r : Resolver) (requests : List MetricRequest) :
    Keeps r (r.scheduleAll requests).1 := by
  induction requests generalizing r with
  | nil => exact keeps_refl r
  | cons request requests ih => exact (keeps_schedule r request).trans (ih (r.schedule request).1)

theorem keeps_reload (r : Resolver) : Keeps r r.reload.1 := by
  unfold reload
  cases r.collaborators.storedMetrics with
  | error reason => exact keeps_refl r
  | ok requests => exact keeps_scheduleAll r requests

theorem keeps_rebuild (r : Resolver) : Keeps r r.rebuild.1 := by
  have hstopped := keeps_polling r (Polling.silent_stopAll r.polling) rfl
  have hreloaded := hstopped.trans (keeps_reload _)
  unfold rebuild
  dsimp only
  split
  next hresult =>
    rw [hresult] at hreloaded
    exact ⟨hreloaded.setup, hreloaded.exchange, hreloaded.parks⟩
  next hresult =>
    rw [hresult] at hreloaded
    exact ⟨hreloaded.setup, hreloaded.exchange, hreloaded.parks⟩

theorem keeps_forgetMetric (r : Resolver) (metric : MetricId) :
    Keeps r (r.forgetMetric metric).1 := by
  have hremoved := keeps_polling r (Polling.silent_remove r.polling metric)
    (congrArg Prod.fst (Polling.address_remove r.polling metric))
  exact ⟨hremoved.setup, hremoved.exchange, hremoved.parks⟩

theorem keeps_react (r : Resolver) (e : LifecycleEvent) : Keeps r (r.react e).1 := by
  cases e with
  | containerUpdated container =>
      exact keeps_polling r (Polling.silent_stopContainer r.polling container) rfl
  | containerDeleted container =>
      exact keeps_polling r (Polling.silent_stopContainer r.polling container) rfl
  | metricUpdated _ metric => exact keeps_forgetMetric r metric
  | metricDeleted _ metric => exact keeps_forgetMetric r metric
  | policyDeleted _ => exact keeps_rebuild r

theorem keeps_route (r : Resolver) (reply : Envelope) : Keeps r (r.route reply).1 := by
  unfold route
  split
  · exact ⟨rfl, rfl, fun hm => hm⟩
  · split <;> exact ⟨rfl, rfl, fun hm => hm⟩

theorem keeps_handlePoll (r : Resolver) (history : Bool) (reply : Envelope) :
    Keeps r (r.handlePoll history reply).1 := by
  unfold handlePoll
  split
  · exact keeps_refl r
  · split <;> exact ⟨rfl, rfl, fun hm => hm⟩

theorem keeps_dispatch (r : Resolver) (e : Envelope) : Keeps r (r.dispatch e).1 := by
  unfold dispatch
  split
  · exact ⟨rfl, rfl, fun hm => hm⟩
  · split
    · exact keeps_refl r
    · exact ⟨rfl, rfl, fun hm => hm⟩

end Resolver

/-!
## Runs
-/

namespace Fetching

theorem keeps_act (s : Recorded Resolver) (a : Act) :
    (∃ op, a = .polling op) ∨ s.host.Keeps (act s a).host := by
  rcases act_cases s a with heq | rfl | rfl
  · rw [heq]
    cases a with
    | polling op => exact Or.inl ⟨op, rfl⟩
    | dispatch request => exact Or.inr (s.host.keeps_dispatch request)
    | step id => exact Or.inr (s.host.keeps_stepTask id)
    | route reply => exact Or.inr (s.host.keeps_route reply)
    | handlePoll history reply => exact Or.inr (s.host.keeps_handlePoll history reply)
    | apply event =>
        have hreacted := s.host.keeps_react event
        exact Or.inr ⟨hreacted.setup, hreacted.exchange, hreacted.parks⟩
    | _ => exact Or.inr ⟨rfl, rfl, fun hm => hm⟩
  · rcases sameButOutbox_take s with ⟨outbox, heq⟩
    rw [heq]
    exact Or.inr ⟨rfl, rfl, fun hm => hm⟩
  · exact Or.inr ⟨rfl, rfl, fun hm => hm⟩

theorem setup_act (s : Recorded Resolver) (a : Act) : (act s a).host.setup = s.host.setup := by
  rcases keeps_act s a with ⟨op, rfl⟩ | hkeeps
  · rfl
  · exact hkeeps.setup

theorem setup_actOn (r : Resolver) (a : Act) : (actOn r a).setup = r.setup := by
  have hact := setup_act { host := r } a
  rcases act_cases { host := r } a with heq | rfl | rfl
  · rw [heq] at hact
    exact hact
  · rfl
  · rfl

theorem setup_run (s : Recorded Resolver) (acts : List Act) :
    (run s acts).host.setup = s.host.setup := by
  induction acts generalizing s with
  | nil => rfl
  | cons a acts ih => exact (ih (act s a)).trans (setup_act s a)

theorem pollsTo_act {s : Recorded Resolver} {exchange : String}
    (h : s.host.polling.PollsTo exchange) (a : Act) :
    (act s a).host.polling.PollsTo exchange := by
  rcases keeps_act s a with ⟨op, rfl⟩ | hkeeps
  · exact (h.perform op).pollsTo
  · exact hkeeps.pollsTo h

theorem pollsTo_run {s : Recorded Resolver} {exchange : String}
    (h : s.host.polling.PollsTo exchange) (acts : List Act) :
    (run s acts).host.polling.PollsTo exchange := by
  induction acts generalizing s with
  | nil => exact h
  | cons a acts ih => exact ih (pollsTo_act h a)

end Fetching
end MetricGateway
