import MetricGateway.Proofs.Pulling.Rounds
import MetricGateway.Proofs.Pulling.Views

/-!
# What the step of a ticker does

A ticker that takes its step changes its own place among the tickers and leaves the other ones where
they are.  It takes no time, and it makes no room in the outbox for anybody else.  After a round it
is gone, or it waits for the time of the next round, with the message of the round where that has to
wait for room.
-/

namespace MetricGateway

namespace Mailbox

variable {α : Type}

theorem answers_offer (m : Mailbox α) (a : α) (ticket : Ticket) :
    (m.offer a).1.answers ticket = m.answers ticket := by
  unfold offer
  split
  · rfl
  · split <;> rfl

theorem answers_of_answers_retry {m : Mailbox α} {own ticket : Ticket} {a : α}
    (h : (m.retry own a).1.answers ticket = true) : m.answers ticket = true := by
  unfold retry at h
  split at h
  · exact h
  · split at h
    next =>
      unfold answers at h ⊢
      rw [Bool.or_eq_true, List.contains_iff_mem] at h ⊢
      exact h.imp_right List.mem_of_mem_erase
    next => exact h

theorem retry_of_answers {m : Mailbox α} {ticket : Ticket} (h : m.answers ticket = true) (a : α) :
    (m.retry ticket a).2 = .accepted ∨ (m.retry ticket a).2 = .refused := by
  unfold answers at h
  unfold retry
  split
  next => exact Or.inr rfl
  next hopen =>
    rw [Bool.or_eq_true] at h
    rw [if_pos (h.resolve_left hopen)]
    exact Or.inl rfl

end Mailbox

namespace Pulling
namespace Polling

variable {lapsed : Duration → Prop} {p q s : Polling} {g : Generation} {t : Ticker}

/-- What the other tickers see of the step of a ticker. -/
structure Frame (p q : Polling) (g : Generation) : Prop where
  others : ∀ other, other ≠ g → q.tickers[other]? = p.tickers[other]?
  now : q.common.now = p.common.now
  answers : ∀ ticket, q.common.outbox.answers ticket = true →
    p.common.outbox.answers ticket = true
  shutDown : q.shutDown = p.shutDown

theorem frame_refl (p : Polling) (g : Generation) : p.Frame p g where
  others := fun _ _ => rfl
  now := rfl
  answers := fun _ => id
  shutDown := rfl

theorem Frame.trans (h : p.Frame q g) (h' : q.Frame s g) : p.Frame s g where
  others := fun other hne => (h'.others other hne).trans (h.others other hne)
  now := h'.now.trans h.now
  answers := fun ticket hanswers => h.answers ticket (h'.answers ticket hanswers)
  shutDown := h'.shutDown.trans h.shutDown

theorem Frame.exit (h : p.Frame q g) : p.Frame (q.exit g) g where
  others := by
    intro other hne
    rw [← h.others other hne]
    show (q.tickers.erase g)[other]? = q.tickers[other]?
    rw [lookup_erase, if_neg hne.symm]
  now := h.now
  answers := h.answers
  shutDown := h.shutDown

theorem Frame.setPhase (h : p.Frame q g) (t : Ticker) (phase : Ticker.Phase) :
    p.Frame (q.setPhase g t phase) g where
  others := by
    intro other hne
    rw [← h.others other hne]
    exact lookup_insert_of_ne q.tickers hne _
  now := h.now
  answers := h.answers
  shutDown := h.shutDown

theorem Frame.sleep (h : p.Frame q g) (t : Ticker) (due : Instant) : p.Frame (q.sleep g t due) g :=
  ⟨(h.setPhase { t with turn := q.turns } (.sleeping due)).others, h.now, h.answers, h.shutDown⟩

theorem Frame.onCommon (h : p.Frame q g) {f : Commons → Commons}
    (hnow : (f q.common).now = q.common.now)
    (hanswers : ∀ ticket, (f q.common).outbox.answers ticket = true →
      q.common.outbox.answers ticket = true) : p.Frame (q.onCommon f) g where
  others := h.others
  now := hnow.trans h.now
  answers := fun ticket hafter => h.answers ticket (hanswers ticket hafter)
  shutDown := h.shutDown

/-!
## Rounds
-/

theorem outbox_tick (p : Polling) (ref : GroupRef) :
    (p.tick ref).1.common.outbox = p.common.outbox := by
  unfold tick
  split
  · rfl
  · dsimp only
    split <;> rfl

theorem shutDown_tick (p : Polling) (ref : GroupRef) : (p.tick ref).1.shutDown = p.shutDown := by
  unfold tick
  split
  · rfl
  · dsimp only
    split <;> rfl

theorem tickers_tick_of_ne (h : p.registry.Consistent) {ref : GroupRef} {other : Generation}
    (hne : ∀ t, p.tickers[other]? = some t → t.ref ≠ ref) :
    (p.tick ref).1.tickers[other]? = p.tickers[other]? := by
  unfold tick
  rcases h.tick_cases ref with
    ⟨hround, _⟩ | ⟨slot, _, _, ⟨_, hround⟩ | ⟨_, expired, _, _, hreport⟩⟩
  · rw [hround]
  · rw [hround]
    show (p.cancel [ref]).tickers[other]? = p.tickers[other]?
    rw [getElem?_tickers_cancel]
    cases ht : p.tickers[other]? with
    | none => rfl
    | some t =>
        have hkept : told [ref] t = t :=
          if_neg fun hmem => hne t ht (List.mem_singleton.mp hmem)
        rw [Option.map_some, hkept]
  · cases hround : p.registry.tick ref with
    | mk r report =>
        rw [hround] at hreport
        dsimp only at hreport
        subst hreport
        rfl

theorem Tended.frame_tick (h : p.Tended lapsed) (ht : p.tickers[g]? = some t) :
    p.Frame (p.tick t.ref).1 g where
  others := by
    intro other hne
    apply tickers_tick_of_ne h.consistent
    intro t' ht' href
    apply hne
    rw [← (h.numbered ht').1, ← (h.numbered ht).1, href]
  now := blind_now.tick p t.ref
  answers := by
    intro ticket hanswers
    rw [outbox_tick] at hanswers
    exact hanswers
  shutDown := shutDown_tick p t.ref

/-- A ticker that took part in a round waits until the time of the next one, with the message of the
round where that has to wait for room. -/
inductive Awaits (t : Ticker) (next : Instant) : Ticker → Prop where
  | sleeping (turn : Nat) : Awaits t next { t with turn, phase := .sleeping next }
  | parked (ticket : Ticket) (m : Message) :
      Awaits t next { t with phase := .publishing ticket m next }

/-- A round of a ticker leaves the others alone.  The ticker ends if its group has nothing to poll,
else it waits for the next round; the period of a group is a millisecond or more. -/
theorem Tended.fire_awaits (h : p.Tended lapsed) (ht : p.tickers[g]? = some t) (due : Instant) :
    p.Frame (p.fire g t due) g ∧
      ((p.tick t.ref).2 = none ∧ (p.fire g t due).tickers[g]? = none ∨
        1 ≤ t.period.wholeMillis ∧ ∃ t', (p.fire g t due).tickers[g]? = some t' ∧
          Awaits t (Ticker.nextDue t.period due p.common.now) t') := by
  have hframe := h.frame_tick ht
  have hperiod : ∀ m, (p.tick t.ref).2 = some m → 1 ≤ t.period.wholeMillis := by
    intro m hm
    rcases tick_publishes h.consistent t.ref with ⟨hnone, _⟩ | ⟨slot, _, hslot, hcurrent, _⟩
    · rw [hm] at hnone
      cases hnone
    · rw [(h.tended hslot (hcurrent.trans (h.numbered ht).1 ▸ ht)).2.1]
      exact (h.consistent.valid hslot).interval
  unfold Polling.fire
  cases hround : p.tick t.ref with
  | mk q polled =>
      rw [hround] at hframe hperiod
      have hnow : q.common.now = p.common.now := hframe.now
      cases polled with
      | none => exact ⟨hframe.exit, Or.inl ⟨rfl, Std.ExtTreeMap.getElem?_erase_self⟩⟩
      | some m =>
          have hsent : ∀ ticket, (q.common.send m).1.outbox.answers ticket = true →
              q.common.outbox.answers ticket = true := by
            intro ticket hanswers
            exact (Mailbox.answers_offer q.common.outbox m ticket).symm.trans hanswers
          have hoffered : p.Frame (q.onCommon fun _ => (q.common.send m).1) g :=
            hframe.onCommon rfl hsent
          refine ⟨?_, Or.inr ⟨hperiod m rfl, ?_⟩⟩
          · dsimp only
            split
            next hoffer =>
              rw [hoffer] at hoffered
              exact (hoffered.onCommon (f := fun c => c.count Metrics.addPollPublished) rfl
                fun _ => id).sleep t _
            next hoffer =>
              rw [hoffer] at hoffered
              exact hoffered.setPhase t _
            next hoffer =>
              rw [hoffer] at hoffered
              exact hoffered.sleep t _
          · dsimp only
            rw [hnow]
            split
            next => exact ⟨_, Std.ExtTreeMap.getElem?_insert_self, .sleeping q.turns⟩
            next ticket _ => exact ⟨_, Std.ExtTreeMap.getElem?_insert_self, .parked ticket m⟩
            next => exact ⟨_, Std.ExtTreeMap.getElem?_insert_self, .sleeping q.turns⟩

/-!
## Steps
-/

theorem tickers_sleep (p : Polling) (g : Generation) (t : Ticker) (due : Instant) :
    (p.sleep g t due).tickers[g]? = some { t with turn := p.turns, phase := .sleeping due } :=
  Std.ExtTreeMap.getElem?_insert_self

theorem tickers_exit (p : Polling) (g : Generation) : (p.exit g).tickers[g]? = none :=
  Std.ExtTreeMap.getElem?_erase_self

theorem stepTicker_starting (ht : p.tickers[g]? = some t) (hphase : t.phase = .starting)
    (preference : Preference) :
    p.stepTicker g preference =
      match t.begins? p.common.now with
      | some due => p.sleep g t due
      | none => p.exit g := by
  unfold stepTicker
  rw [ht]
  dsimp only
  rewrite [hphase]
  rfl

theorem stepTicker_sleeping {due : Instant} (ht : p.tickers[g]? = some t)
    (hphase : t.phase = .sleeping due) (preference : Preference) :
    p.stepTicker g preference =
      if t.cancelled ∧ (preference = .stop ∨ ¬ due.metBy p.common.now) then p.exit g
      else if due.metBy p.common.now then p.fire g t due
      else p := by
  unfold stepTicker
  rw [ht]
  dsimp only
  rw [hphase]

/-- A ticker that waits for room goes to sleep with an answer, and waits on without. -/
theorem stepTicker_publishing {ticket : Ticket} {m : Message} {due : Instant}
    (ht : p.tickers[g]? = some t) (hphase : t.phase = .publishing ticket m due)
    (preference : Preference) :
    p.stepTicker g preference = p ∧ p.common.outbox.answers ticket = false ∨
      ∃ common, p.stepTicker g preference = { p with common }.sleep g t due ∧
        common.now = p.common.now ∧
        ∀ other, common.outbox.answers other = true → p.common.outbox.answers other = true := by
  have hretried : ∀ other, (p.common.resend ticket m).1.outbox.answers other = true →
      p.common.outbox.answers other = true := fun _ => Mailbox.answers_of_answers_retry
  have hanswer : p.common.outbox.answers ticket = true →
      (p.common.resend ticket m).2 = .accepted ∨ (p.common.resend ticket m).2 = .refused :=
    fun hanswers => Mailbox.retry_of_answers hanswers m
  have hnow : (p.common.resend ticket m).1.now = p.common.now := rfl
  unfold stepTicker
  rw [ht]
  dsimp only
  rw [hphase]
  dsimp only
  cases hoffer : p.common.resend ticket m with
  | mk common offer =>
      rw [hoffer] at hretried hanswer hnow
      cases offer with
      | accepted => exact Or.inr ⟨_, rfl, hnow, hretried⟩
      | refused => exact Or.inr ⟨common, rfl, hnow, hretried⟩
      | parked waiting =>
          refine Or.inl ⟨rfl, ?_⟩
          rw [Bool.eq_false_iff]
          intro hanswers
          rcases hanswer hanswers with haccepted | hrefused
          · cases haccepted
          · cases hrefused

theorem Tended.frame_stepTicker (h : p.Tended lapsed) (g : Generation) (preference : Preference) :
    p.Frame (p.stepTicker g preference) g := by
  have hrefl := frame_refl p g
  cases ht : p.tickers[g]? with
  | none =>
      unfold Polling.stepTicker
      rw [ht]
      exact hrefl
  | some t =>
      cases hphase : t.phase with
      | starting =>
          rw [stepTicker_starting ht hphase]
          split
          · exact hrefl.sleep t _
          · exact hrefl.exit
      | sleeping due =>
          rw [stepTicker_sleeping ht hphase]
          split
          · exact hrefl.exit
          · split
            · exact (h.fire_awaits ht due).1
            · exact hrefl
      | publishing ticket m due =>
          rcases stepTicker_publishing ht hphase preference with
            ⟨hsame, _⟩ | ⟨common, hslept, hnow, hanswers⟩
          · rw [hsame]
            exact hrefl
          · rw [hslept]
            exact (hrefl.onCommon (f := fun _ => common) hnow hanswers).sleep t due

end Polling
end Pulling
end MetricGateway
