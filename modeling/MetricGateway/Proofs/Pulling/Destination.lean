import MetricGateway.Proofs.Pulling.Emissions

/-!
# Where background polls go

Background polling is set up with an exchange, a key for the replies and the time that the broker
keeps its polls, and nothing that happens to it changes these.  So every poll goes to the one
exchange, also a poll that had to wait for room in the outbox since it was made.
-/

namespace MetricGateway
namespace Pulling
namespace Polling

/-!
## What polls are addressed with
-/

/-- The exchange of the polls, the key of their replies, and how long the broker keeps them. -/
def address (p : Polling) : String × String × Duration := (p.exchange, p.replyKey, p.messageTtl)

theorem address_add (p : Polling) (target : Target) (metric : MetricId) (valueKind : ValueKind)
    (budget : UInt16) : (p.add target metric valueKind budget).1.address = p.address := by
  unfold add
  split
  · rfl
  · dsimp only
    split <;> rfl

theorem address_remove (p : Polling) (metric : MetricId) :
    (p.remove metric).1.address = p.address := by
  unfold remove
  split <;> rfl

theorem address_tick (p : Polling) (ref : GroupRef) : (p.tick ref).1.address = p.address := by
  unfold tick
  split
  · rfl
  · dsimp only
    split <;> rfl

theorem address_fire (p : Polling) (g : Generation) (t : Ticker) (due : Instant) :
    (p.fire g t due).address = p.address := by
  have hticked := address_tick p t.ref
  unfold fire
  cases hround : p.tick t.ref with
  | mk p' polled =>
      rw [hround] at hticked
      cases polled with
      | none => exact hticked
      | some m =>
          dsimp only
          split <;> exact hticked

theorem address_stepTicker (p : Polling) (g : Generation) (preference : Preference) :
    (p.stepTicker g preference).address = p.address := by
  unfold stepTicker
  cases p.tickers[g]? with
  | none => rfl
  | some t =>
      dsimp only
      cases t.phase with
      | starting =>
          dsimp only
          split <;> rfl
      | sleeping due =>
          dsimp only
          split
          · rfl
          · split
            · exact address_fire p g t due
            · rfl
      | publishing ticket m due =>
          dsimp only
          split <;> rfl

theorem address_perform (p : Polling) (op : Op) : (p.perform op).address = p.address := by
  cases op with
  | add target metric valueKind budget => exact address_add p target metric valueKind budget
  | remove metric => exact address_remove p metric
  | tick ref => exact address_tick p ref
  | turn generation preference => exact address_stepTicker p generation preference
  | _ => rfl

/-!
## What is sent
-/

structure PollsTo (exchange : String) (p : Polling) : Prop where
  exchange_eq : p.exchange = exchange
  parked : ∀ {m : Message}, p.Parks m → m.exchange = exchange

/-- On the way from one state to another only messages for the exchange are sent, and so it will be
from then on. -/
structure Posts (exchange : String) (p p' : Polling) : Prop where
  pollsTo : p'.PollsTo exchange
  sent : ∃ ms, p'.common.outbox.toList = p.common.outbox.toList ++ ms ∧
    ∀ m ∈ ms, m.exchange = exchange

variable {exchange : String} {p p' p'' : Polling}

theorem Posts.trans (h : p.Posts exchange p') (h' : p'.Posts exchange p'') :
    p.Posts exchange p'' where
  pollsTo := h'.pollsTo
  sent := by
    rcases h.sent with ⟨ms, hms, hall⟩
    rcases h'.sent with ⟨ms', hms', hall'⟩
    refine ⟨ms ++ ms', ?_, ?_⟩
    · rw [hms', hms, List.append_assoc]
    · intro m hm
      exact (List.mem_append.mp hm).elim (hall m) (hall' m)

theorem PollsTo.silent (h : p.PollsTo exchange) (hsilent : p.Silent p')
    (hexchange : p'.exchange = p.exchange) : p.Posts exchange p' where
  pollsTo := ⟨hexchange.trans h.exchange_eq, fun hm => h.parked (hsilent.parks hm)⟩
  sent := ⟨[], by rw [hsilent.sent, List.append_nil], fun _ hm => absurd hm List.not_mem_nil⟩

theorem PollsTo.posts_refl (h : p.PollsTo exchange) : p.Posts exchange p :=
  h.silent (silent_refl p) rfl

theorem Posts.silent (h : p.Posts exchange p') (hsilent : p'.Silent p'')
    (hexchange : p''.exchange = p'.exchange) : p.Posts exchange p'' :=
  h.trans (h.pollsTo.silent hsilent hexchange)

/-!
## Sending
-/

theorem exchange_of_mem_taken {m m' : Message} {offer : Mailbox.Offer}
    (h : m.exchange = exchange) (hm' : m' ∈ taken m offer) : m'.exchange = exchange := by
  unfold taken at hm'
  split at hm'
  · rw [List.mem_singleton.mp hm']
    exact h
  · cases hm'

theorem Posts.sending (h : p.Posts exchange p') {m : Message} (hm : m.exchange = exchange) :
    p.Posts exchange (p'.sending m) :=
  h.trans
    { pollsTo := ⟨h.pollsTo.exchange_eq, h.pollsTo.parked⟩
      sent := ⟨_, (outbox_send p'.common m).2, fun _ => exchange_of_mem_taken hm⟩ }

theorem Posts.resending (h : p.Posts exchange p') (ticket : Ticket) {m : Message}
    (hm : m.exchange = exchange) : p.Posts exchange (p'.resending ticket m) :=
  h.trans
    { pollsTo := ⟨h.pollsTo.exchange_eq, h.pollsTo.parked⟩
      sent := ⟨_, (outbox_resend p'.common ticket m).2, fun _ => exchange_of_mem_taken hm⟩ }

theorem Posts.park (h : p.Posts exchange p') {m : Message} (hm : m.exchange = exchange)
    (g : Generation) (t : Ticker) (ticket : Ticket) (due : Instant) :
    p.Posts exchange (p'.setPhase g t (.publishing ticket m due)) where
  pollsTo := by
    refine ⟨h.pollsTo.exchange_eq, ?_⟩
    intro m' hm'
    rcases parks_insert hm' with hparked | ⟨ticket', due', hphase⟩
    · exact h.pollsTo.parked hparked
    · cases hphase
      exact hm
  sent := h.sent

theorem Posts.sleep (h : p.Posts exchange p') (f : Metrics → Metrics) (g : Generation)
    (t : Ticker) (due : Instant) : p.Posts exchange ((p'.onCommon (·.count f)).sleep g t due) :=
  h.silent ((silent_onCommon p' rfl rfl).trans (silent_sleep _ g t due)) rfl

/-!
## Operations
-/

theorem PollsTo.tick (h : p.PollsTo exchange) (ref : GroupRef) :
    p.Posts exchange (p.tick ref).1 ∧ ∀ m, (p.tick ref).2 = some m → m.exchange = exchange := by
  unfold Polling.tick
  split
  · exact ⟨h.posts_refl, fun _ hm => nomatch hm⟩
  next registry report _ =>
    dsimp only
    split
    next => exact ⟨h.silent (silent_announce p registry _ _ _) rfl, fun _ hm => nomatch hm⟩
    next =>
      refine ⟨h.silent ((silent_setRegistry p registry).trans (silent_issuing _)) rfl, ?_⟩
      intro m hm
      cases hm
      exact h.exchange_eq

theorem PollsTo.fire (h : p.PollsTo exchange) (g : Generation) (t : Ticker) (due : Instant) :
    p.Posts exchange (p.fire g t due) := by
  rcases h.tick t.ref with ⟨hticked, hpoll⟩
  unfold Polling.fire
  cases hround : p.tick t.ref with
  | mk p' polled =>
      rw [hround] at hticked hpoll
      cases polled with
      | none => exact hticked.silent (silent_exit p' g) rfl
      | some m =>
          have hm := hpoll m rfl
          have hsent := hticked.sending hm
          unfold Polling.sending at hsent
          dsimp only
          cases hoffer : p'.common.send m with
          | mk common offer =>
              rw [hoffer] at hsent
              cases offer with
              | accepted => exact hsent.sleep Metrics.addPollPublished g t _
              | parked ticket => exact hsent.park hm g t ticket _
              | refused => exact hsent.silent (silent_sleep _ g t _) rfl

theorem PollsTo.stepTicker (h : p.PollsTo exchange) (g : Generation) (preference : Preference) :
    p.Posts exchange (p.stepTicker g preference) := by
  unfold Polling.stepTicker
  cases ht : p.tickers[g]? with
  | none => exact h.posts_refl
  | some t =>
      dsimp only
      cases hphase : t.phase with
      | starting =>
          dsimp only
          split
          · exact h.silent (silent_sleep p g t _) rfl
          · exact h.silent (silent_exit p g) rfl
      | sleeping due =>
          dsimp only
          split
          · exact h.silent (silent_exit p g) rfl
          · split
            · exact h.fire g t due
            · exact h.posts_refl
      | publishing ticket m due =>
          have hsent := h.posts_refl.resending ticket (h.parked ⟨g, t, ticket, due, ht, hphase⟩)
          unfold Polling.resending at hsent
          dsimp only
          cases hoffer : p.common.resend ticket m with
          | mk common offer =>
              rw [hoffer] at hsent
              cases offer with
              | accepted => exact hsent.sleep Metrics.addPollPublished g t due
              | parked ticket => exact h.posts_refl
              | refused => exact hsent.silent (silent_sleep _ g t due) rfl

theorem PollsTo.perform (h : p.PollsTo exchange) (op : Op) : p.Posts exchange (p.perform op) := by
  cases op with
  | add target metric valueKind budget =>
      exact h.silent (silent_add p target metric valueKind budget)
        (congrArg Prod.fst (address_add p _ _ _ _))
  | refresh metric => exact h.silent (silent_refresh p metric) rfl
  | remove metric =>
      exact h.silent (silent_remove p metric) (congrArg Prod.fst (address_remove p metric))
  | stopContainer container => exact h.silent (silent_stopContainer p container) rfl
  | stopAll => exact h.silent (silent_stopAll p) rfl
  | shutdown => exact h.silent (silent_shutdown p) rfl
  | tick ref => exact (h.tick ref).1
  | turn generation preference => exact h.stepTicker generation preference

end Polling
end Pulling
end MetricGateway
