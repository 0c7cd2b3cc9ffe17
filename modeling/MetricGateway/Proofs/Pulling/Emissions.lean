import MetricGateway.Proofs.Fetching.Ids
import MetricGateway.Proofs.Pulling.Runs

/-!
# What background polling sends

Background polling brings messages to the outbox only behind those that are there.  Each of them
carries an id that was given out for it, be it now or before the message had to wait for room; so
no id that somebody else was given can turn up in it.
-/

namespace MetricGateway
namespace Pulling
namespace Polling

/-- A ticker waits for room for a message. -/
def Parks (p : Polling) (m : Message) : Prop :=
  ∃ (g : Generation) (t : Ticker) (ticket : Ticket) (due : Instant),
    p.tickers[g]? = some t ∧ t.phase = .publishing ticket m due

/-- A message carries an id that was given out on the way from one state to another. -/
def Fresh (p p' : Polling) (m : Message) : Prop :=
  ∃ n, p.common.issued ≤ n ∧ n < p'.common.issued ∧ m.envelope.correlation = Correlation.id n

/-- What happens to the ids and to the outbox on the way from one state to another, while messages
of somebody else are brought to the outbox as well. -/
structure Emits (p : Polling) (own : List Message) (p' : Polling) : Prop where
  issued_le : p.common.issued ≤ p'.common.issued
  closed : p'.common.outbox.closed = p.common.outbox.closed
  sent : ∃ ms, p'.common.outbox.toList = p.common.outbox.toList ++ ms ∧ (∀ m ∈ own, m ∈ ms) ∧
    ∀ m ∈ ms, m ∈ own ∨ p.Parks m ∨ p.Fresh p' m
  parks : ∀ {m : Message}, p'.Parks m → p.Parks m ∨ p.Fresh p' m

theorem Fresh.mono_right {p p' p'' : Polling} {m : Message} (h : p.Fresh p' m)
    (hle : p'.common.issued ≤ p''.common.issued) : p.Fresh p'' m := by
  rcases h with ⟨n, hlow, hhigh, heq⟩
  exact ⟨n, hlow, Nat.lt_of_lt_of_le hhigh hle, heq⟩

theorem Fresh.mono_left {p p' p'' : Polling} {m : Message} (h : p'.Fresh p'' m)
    (hle : p.common.issued ≤ p'.common.issued) : p.Fresh p'' m := by
  rcases h with ⟨n, hlow, hhigh, heq⟩
  exact ⟨n, Nat.le_trans hle hlow, hhigh, heq⟩

theorem Emits.trans {p p' p'' : Polling} {own own' : List Message} (h : p.Emits own p')
    (h' : p'.Emits own' p'') : p.Emits (own ++ own') p'' := by
  have hparks : ∀ {m : Message}, p'.Parks m → p.Parks m ∨ p.Fresh p'' m := by
    intro m hm
    rcases h.parks hm with hparked | hfresh
    · exact Or.inl hparked
    · exact Or.inr (hfresh.mono_right h'.issued_le)
  rcases h.sent with ⟨ms, hms, hown, hall⟩
  rcases h'.sent with ⟨ms', hms', hown', hall'⟩
  refine {
    issued_le := Nat.le_trans h.issued_le h'.issued_le
    closed := h'.closed.trans h.closed
    sent := ⟨ms ++ ms', ?_, ?_, ?_⟩
    parks := ?_ }
  · rw [hms', hms, List.append_assoc]
  · intro m hm
    rcases List.mem_append.mp hm with hm | hm
    · exact List.mem_append_left _ (hown m hm)
    · exact List.mem_append_right _ (hown' m hm)
  · intro m hm
    rcases List.mem_append.mp hm with hm | hm
    · rcases hall m hm with hm | hm | hm
      · exact Or.inl (List.mem_append_left _ hm)
      · exact Or.inr (Or.inl hm)
      · exact Or.inr (Or.inr (hm.mono_right h'.issued_le))
    · rcases hall' m hm with hm | hm | hm
      · exact Or.inl (List.mem_append_right _ hm)
      · exact Or.inr (hparks hm)
      · exact Or.inr (Or.inr (hm.mono_left h.issued_le))
  · intro m hm
    rcases h'.parks hm with hm | hm
    · exact hparks hm
    · exact Or.inr (hm.mono_left h.issued_le)

/-- Messages that background polling has to answer for need not be counted as somebody else's. -/
theorem Emits.disown {p p' : Polling} {own : List Message} (h : p.Emits own p')
    (hown : ∀ m ∈ own, p.Parks m ∨ p.Fresh p' m) : p.Emits [] p' := by
  rcases h.sent with ⟨ms, hms, _, hall⟩
  refine {
    issued_le := h.issued_le
    closed := h.closed
    sent := ⟨ms, hms, by simp, ?_⟩
    parks := h.parks }
  intro m hm
  rcases hall m hm with hm | hm
  · exact Or.inr (hown m hm)
  · exact Or.inr hm

/-!
## Changes that send nothing
-/

/-- Nothing was brought to the outbox, and no message was parked. -/
structure Silent (p p' : Polling) : Prop where
  issued_le : p.common.issued ≤ p'.common.issued
  closed : p'.common.outbox.closed = p.common.outbox.closed
  sent : p'.common.outbox.toList = p.common.outbox.toList
  parks : ∀ {m : Message}, p'.Parks m → p.Parks m

theorem Silent.emits {p p' : Polling} (h : p.Silent p') : p.Emits [] p' where
  issued_le := h.issued_le
  closed := h.closed
  sent := ⟨[], by rw [h.sent, List.append_nil], by simp, by simp⟩
  parks := fun hm => Or.inl (h.parks hm)

theorem Silent.trans {p p' p'' : Polling} (h : p.Silent p') (h' : p'.Silent p'') :
    p.Silent p'' where
  issued_le := Nat.le_trans h.issued_le h'.issued_le
  closed := h'.closed.trans h.closed
  sent := h'.sent.trans h.sent
  parks := fun hm => h.parks (h'.parks hm)

theorem silent_of_eq {p p' : Polling} (hissued : p'.common.issued = p.common.issued)
    (houtbox : p'.common.outbox = p.common.outbox)
    (hparks : ∀ {m : Message}, p'.Parks m → p.Parks m) : p.Silent p' where
  issued_le := Nat.le_of_eq hissued.symm
  closed := by rw [houtbox]
  sent := by rw [houtbox]
  parks := hparks

theorem silent_refl (p : Polling) : p.Silent p := silent_of_eq rfl rfl id

theorem silent_onCommon (p : Polling) {f : Commons → Commons}
    (hissued : (f p.common).issued = p.common.issued)
    (houtbox : (f p.common).outbox = p.common.outbox) : p.Silent (p.onCommon f) :=
  silent_of_eq hissued houtbox id

theorem silent_setRegistry (p : Polling) (r : Registry) : p.Silent (p.setRegistry r) :=
  silent_of_eq rfl rfl id

theorem silent_cancel (p : Polling) (dropped : List GroupRef) : p.Silent (p.cancel dropped) := by
  refine silent_of_eq rfl rfl ?_
  rintro m ⟨g, t, ticket, due, ht, hphase⟩
  simp only [cancel, Std.ExtTreeMap.getElem?_map, Option.map_eq_some_iff] at ht
  rcases ht with ⟨t', ht', rfl⟩
  refine ⟨g, t', ticket, due, ht', ?_⟩
  split at hphase <;> exact hphase

theorem record_foldl (c : Commons) (event : GroupRef → Event) (dropped : List GroupRef) :
    (dropped.foldl (fun c ref => c.record (event ref)) c).issued = c.issued ∧
      (dropped.foldl (fun c ref => c.record (event ref)) c).outbox = c.outbox := by
  induction dropped generalizing c with
  | nil => exact ⟨rfl, rfl⟩
  | cons ref dropped ih => exact ih (c.record (event ref))

theorem silent_recordStopped (p : Polling) (reason : String) (dropped : List GroupRef) :
    p.Silent (p.recordStopped reason dropped) := by
  have hfold := record_foldl p.common (fun ref => .groupStopped ref.key.text reason) dropped
  exact silent_onCommon p hfold.1 hfold.2

theorem parks_insert {p : Polling} {g : Generation} {t : Ticker} {m : Message}
    (h : Parks { p with tickers := p.tickers.insert g t } m) :
    p.Parks m ∨ ∃ ticket due, t.phase = .publishing ticket m due := by
  rcases h with ⟨g', t', ticket, due, ht, hphase⟩
  rw [Std.ExtTreeMap.getElem?_insert] at ht
  split at ht
  · cases ht
    exact Or.inr ⟨ticket, due, hphase⟩
  · exact Or.inl ⟨g', t', ticket, due, ht, hphase⟩

theorem silent_spawn (p : Polling) (ref : GroupRef) (period : Duration) :
    p.Silent (p.spawn ref period) := by
  refine silent_of_eq rfl rfl ?_
  intro m hm
  rcases parks_insert hm with hm | ⟨ticket, due, hphase⟩
  · exact hm
  · cases hphase

theorem silent_exit (p : Polling) (g : Generation) : p.Silent (p.exit g) := by
  refine silent_of_eq rfl rfl ?_
  rintro m ⟨g', t, ticket, due, ht, hphase⟩
  simp only [exit, Std.ExtTreeMap.getElem?_erase] at ht
  split at ht
  · cases ht
  · exact ⟨g', t, ticket, due, ht, hphase⟩

theorem silent_sleep (p : Polling) (g : Generation) (t : Ticker) (due : Instant) :
    p.Silent (p.sleep g t due) := by
  refine silent_of_eq rfl rfl ?_
  intro m hm
  rcases parks_insert hm with hm | ⟨ticket, due, hphase⟩
  · exact hm
  · cases hphase

theorem silent_announce (p : Polling) (r : Registry) (reason : String)
    (dropped stopped : List GroupRef) :
    p.Silent (((p.setRegistry r).cancel dropped).recordStopped reason stopped) :=
  ((silent_setRegistry p r).trans (silent_cancel _ dropped)).trans
    (silent_recordStopped _ reason stopped)

theorem silent_startGroup (p : Polling) (ref : GroupRef) (interval : Duration) :
    p.Silent (p.startGroup ref interval) :=
  (silent_onCommon p rfl rfl).trans (silent_spawn _ ref interval)

theorem silent_add (p : Polling) (target : Target) (metric : MetricId) (valueKind : ValueKind)
    (budget : UInt16) : p.Silent (p.add target metric valueKind budget).1 := by
  unfold add
  split
  next => exact silent_refl p
  next registry report _ =>
    have hannounced := silent_announce p registry "metric moved to another interval"
      report.dropped.toList report.dropped.toList
    dsimp only
    split
    next ref _ => exact hannounced.trans (silent_startGroup _ ref target.interval)
    next => exact hannounced

theorem silent_refresh (p : Polling) (metric : MetricId) : p.Silent (p.refresh metric).1 :=
  silent_of_eq rfl rfl id

theorem silent_remove (p : Polling) (metric : MetricId) : p.Silent (p.remove metric).1 := by
  unfold remove
  split
  next => exact silent_refl p
  next => exact silent_announce p _ _ _ _

theorem silent_stopContainer (p : Polling) (container : ContainerId) :
    p.Silent (p.stopContainer container).1 :=
  silent_announce p _ _ _ _

theorem silent_stopAll (p : Polling) : p.Silent p.stopAll.1 :=
  (silent_setRegistry p _).trans (silent_cancel _ _)

theorem silent_shutdown (p : Polling) : p.Silent p.shutdown := by
  refine (silent_stopAll p).trans (silent_of_eq rfl rfl ?_)
  rintro m ⟨g, t, ticket, due, ht, hphase⟩
  simp only [shutdown, Std.ExtTreeMap.getElem?_map, Option.map_eq_some_iff] at ht
  rcases ht with ⟨t', ht', rfl⟩
  exact ⟨g, t', ticket, due, ht', hphase⟩

/-!
## Changes that send
-/

def sending (p : Polling) (m : Message) : Polling := { p with common := (p.common.send m).1 }

def resending (p : Polling) (ticket : Ticket) (m : Message) : Polling :=
  { p with common := (p.common.resend ticket m).1 }

def issuing (p : Polling) : Polling := { p with common := p.common.freshId.1 }

theorem silent_issuing (p : Polling) : p.Silent p.issuing where
  issued_le := Nat.le_succ _
  closed := rfl
  sent := rfl
  parks := id

theorem fresh_issuing (p : Polling) {m : Message}
    (h : m.envelope.correlation = p.common.freshId.2) : p.Fresh p.issuing m :=
  ⟨p.common.issued, Nat.le_refl _, Nat.lt_succ_self _, h⟩

/-- The messages that an offer leaves in a mailbox besides those that are there. -/
def taken (m : Message) : Mailbox.Offer → List Message
  | .accepted => [m]
  | _ => []

theorem outbox_send (c : Commons) (m : Message) :
    (c.send m).1.outbox.closed = c.outbox.closed ∧
      (c.send m).1.outbox.toList = c.outbox.toList ++ taken m (c.send m).2 := by
  show (c.outbox.offer m).1.closed = c.outbox.closed ∧
    (c.outbox.offer m).1.toList = c.outbox.toList ++ taken m (c.outbox.offer m).2
  unfold Mailbox.offer
  split
  · exact ⟨rfl, (List.append_nil _).symm⟩
  · split
    · exact ⟨rfl, Fifo.toList_push _ _⟩
    · exact ⟨rfl, (List.append_nil _).symm⟩

theorem outbox_resend (c : Commons) (ticket : Ticket) (m : Message) :
    (c.resend ticket m).1.outbox.closed = c.outbox.closed ∧
      (c.resend ticket m).1.outbox.toList = c.outbox.toList ++ taken m (c.resend ticket m).2 := by
  show (c.outbox.retry ticket m).1.closed = c.outbox.closed ∧
    (c.outbox.retry ticket m).1.toList = c.outbox.toList ++ taken m (c.outbox.retry ticket m).2
  unfold Mailbox.retry
  split
  · exact ⟨rfl, (List.append_nil _).symm⟩
  · split
    · exact ⟨rfl, Fifo.toList_push _ _⟩
    · exact ⟨rfl, (List.append_nil _).symm⟩

theorem emits_sending (p : Polling) (m : Message) :
    p.Emits (taken m (p.common.send m).2) (p.sending m) where
  issued_le := Nat.le_refl _
  closed := (outbox_send p.common m).1
  sent := ⟨_, (outbox_send p.common m).2, fun _ hm => hm, fun _ hm => Or.inl hm⟩
  parks := fun hm => Or.inl hm

theorem emits_resending (p : Polling) (ticket : Ticket) (m : Message) :
    p.Emits (taken m (p.common.resend ticket m).2) (p.resending ticket m) where
  issued_le := Nat.le_refl _
  closed := (outbox_resend p.common ticket m).1
  sent := ⟨_, (outbox_resend p.common ticket m).2, fun _ hm => hm, fun _ hm => Or.inl hm⟩
  parks := fun hm => Or.inl hm

theorem silent_sending {p : Polling} {m : Message} (h : taken m (p.common.send m).2 = []) :
    p.Silent (p.sending m) where
  issued_le := Nat.le_refl _
  closed := (outbox_send p.common m).1
  sent := by
    show (p.common.send m).1.outbox.toList = p.common.outbox.toList
    rw [(outbox_send p.common m).2, h, List.append_nil]
  parks := id

/-- A message that was given its id on the way, or was parked before, may be parked now. -/
theorem Emits.park {p p' : Polling} (h : p.Emits [] p') {m : Message}
    (hm : p.Parks m ∨ p.Fresh p' m) (g : Generation) (t : Ticker) (ticket : Ticket)
    (due : Instant) : p.Emits [] (p'.setPhase g t (.publishing ticket m due)) where
  issued_le := h.issued_le
  closed := h.closed
  sent := h.sent
  parks := by
    intro m' hm'
    rcases parks_insert hm' with hm' | ⟨ticket', due', hphase⟩
    · exact h.parks hm'
    · cases hphase
      exact hm

/-!
## Rounds
-/

theorem emits_tick (p : Polling) (ref : GroupRef) :
    p.Emits [] (p.tick ref).1 ∧ ∀ m, (p.tick ref).2 = some m → p.Fresh (p.tick ref).1 m := by
  unfold tick
  cases hround : p.registry.tick ref with
  | mk registry report =>
      cases report with
      | none => exact ⟨(silent_refl p).emits, by simp⟩
      | some report =>
          dsimp only
          cases report.outcome with
          | stop => exact ⟨(silent_announce p registry _ _ _).emits, by simp⟩
          | poll request expired =>
              have hset := silent_setRegistry p registry
              refine ⟨(hset.trans (silent_issuing _)).emits, ?_⟩
              intro m hm
              cases hm
              exact fresh_issuing (p.setRegistry registry) rfl

theorem Emits.sleep {p p' : Polling} (h : p.Emits [] p') (f : Metrics → Metrics) (g : Generation)
    (t : Ticker) (due : Instant) :
    p.Emits [] ((p'.onCommon (·.count f)).sleep g t due) :=
  h.trans ((silent_onCommon p' rfl rfl).trans (silent_sleep _ g t due)).emits

theorem emits_fire (p : Polling) (g : Generation) (t : Ticker) (due : Instant) :
    p.Emits [] (p.fire g t due) := by
  rcases emits_tick p t.ref with ⟨hticked, hfresh⟩
  unfold fire
  cases hround : p.tick t.ref with
  | mk p' polled =>
      rw [hround] at hticked hfresh
      cases polled with
      | none => exact hticked.trans (silent_exit p' g).emits
      | some m =>
          have hm := hfresh m rfl
          have hsent : p.Emits [] (p'.sending m) := by
            apply (hticked.trans (emits_sending p' m)).disown
            intro m' hm'
            unfold taken at hm'
            split at hm'
            · rw [List.nil_append, List.mem_singleton] at hm'
              rw [hm']
              exact Or.inr hm
            · cases hm'
          have hgiven := hm.mono_right (emits_sending p' m).issued_le
          unfold sending at hsent hgiven
          dsimp only
          cases hoffer : p'.common.send m with
          | mk common offer =>
              rw [hoffer] at hsent hgiven
              cases offer with
              | accepted => exact hsent.sleep Metrics.addPollPublished g t _
              | parked ticket => exact hsent.park (Or.inr hgiven) g t ticket _
              | refused => exact hsent.trans (silent_sleep _ g t _).emits

theorem emits_stepTicker (p : Polling) (g : Generation) (preference : Preference) :
    p.Emits [] (p.stepTicker g preference) := by
  unfold stepTicker
  cases ht : p.tickers[g]? with
  | none => exact (silent_refl p).emits
  | some t =>
      dsimp only
      cases hphase : t.phase with
      | starting =>
          dsimp only
          split
          · exact (silent_sleep p g t _).emits
          · exact (silent_exit p g).emits
      | sleeping due =>
          dsimp only
          split
          · exact (silent_exit p g).emits
          · split
            · exact emits_fire p g t due
            · exact (silent_refl p).emits
      | publishing ticket m due =>
          have hparked : p.Parks m := ⟨g, t, ticket, due, ht, hphase⟩
          have hsent : p.Emits [] (p.resending ticket m) := by
            apply (emits_resending p ticket m).disown
            intro m' hm'
            unfold taken at hm'
            split at hm'
            · rw [List.mem_singleton] at hm'
              rw [hm']
              exact Or.inl hparked
            · cases hm'
          unfold resending at hsent
          dsimp only
          cases hoffer : p.common.resend ticket m with
          | mk common offer =>
              rw [hoffer] at hsent
              cases offer with
              | accepted => exact hsent.sleep Metrics.addPollPublished g t due
              | parked ticket => exact (silent_refl p).emits
              | refused => exact hsent.trans (silent_sleep _ g t due).emits

theorem emits_perform (p : Polling) (op : Op) : p.Emits [] (p.perform op) := by
  cases op with
  | add target metric valueKind budget => exact (silent_add p target metric valueKind budget).emits
  | refresh metric => exact (silent_refresh p metric).emits
  | remove metric => exact (silent_remove p metric).emits
  | stopContainer container => exact (silent_stopContainer p container).emits
  | stopAll => exact (silent_stopAll p).emits
  | shutdown => exact (silent_shutdown p).emits
  | tick ref => exact (emits_tick p ref).1
  | turn generation preference => exact emits_stepTicker p generation preference

end Polling
end Pulling
end MetricGateway
