import MetricGateway.Proofs.Fetching.Effects

/-!
# Messages on their way out

A message that was brought to the outbox stays there until it is taken, and is noted when it is
taken; only leaving the outbox loses messages.  Neither taking a message nor leaving the outbox
changes the tasks.
-/

namespace MetricGateway

namespace Fetching

open Pulling (Polling)

/-- A message is in the outbox or has left it. -/
def Brought (s : Recorded Resolver) (m : Message) : Prop :=
  (∃ x ∈ s.published, x.2 = m) ∨ m ∈ s.host.common.outbox.toList

/-- Nobody takes messages from the outbox any more. -/
def Closed (s : Recorded Resolver) : Prop := s.host.common.outbox.closed = true

theorem brought_of_own {s : Recorded Resolver} {own : List Message} {r' : Resolver}
    (hemits : s.host.polling.Emits own r'.polling) {m : Message} (hm : m ∈ own) :
    Brought { s with host := r' } m := by
  rcases hemits.sent with ⟨ms, hms, hown, _⟩
  have hm' : m ∈ s.host.polling.common.outbox.toList ++ ms :=
    List.mem_append_right _ (hown m hm)
  exact Or.inr (hms.symm ▸ hm')

theorem Brought.before {s : Recorded Resolver} {own : List Message} {r' : Resolver} {m : Message}
    (h : Brought { s with host := r' } m) (hemits : s.host.polling.Emits own r'.polling) :
    Brought s m ∨ m ∈ own ∨ s.host.polling.Parks m ∨ s.host.polling.Fresh r'.polling m := by
  rcases h with hm | hm
  · exact Or.inl (Or.inl hm)
  · rcases hemits.sent with ⟨ms, hms, _, hall⟩
    have hm' : m ∈ s.host.polling.common.outbox.toList ++ ms := hms ▸ hm
    rcases List.mem_append.mp hm' with hm' | hm'
    · exact Or.inl (Or.inr hm')
    · exact Or.inr (hall m hm')

theorem closed_of_emits {s : Recorded Resolver} {own : List Message} {r' : Resolver}
    (hemits : s.host.polling.Emits own r'.polling) :
    Closed { s with host := r' } ↔ Closed s := by
  unfold Closed
  show r'.polling.common.outbox.closed = true ↔ s.host.polling.common.outbox.closed = true
  rw [hemits.closed]

/-!
## Taking messages, and leaving the outbox
-/

def SameButOutbox (r r' : Resolver) : Prop := ∃ outbox, r' = r.onCommon fun c => { c with outbox }

theorem act_cases (s : Recorded Resolver) (a : Act) :
    act s a = { s with host := actOn s.host a } ∨ a = .take ∨ a = .closeOutbox := by
  cases a with
  | take => exact Or.inr (Or.inl rfl)
  | closeOutbox => exact Or.inr (Or.inr rfl)
  | _ => exact Or.inl rfl

theorem act_take (s : Recorded Resolver) :
    act s .take =
      let (common, m) := s.host.common.takeSent
      { s with
        host := s.host.onCommon fun _ => common
        published := (m.map (common.now, ·)).toList ++ s.published } := by
  show s.record = _
  have hcommon : s.common = s.host.common := rfl
  unfold Recorded.record Recorded.take
  rw [hcommon]
  cases s.host.common.takeSent with
  | mk common m => cases m <;> rfl

theorem sameButOutbox_take (s : Recorded Resolver) : SameButOutbox s.host (act s .take).host := by
  rw [act_take]
  exact ⟨_, rfl⟩

theorem sameButOutbox_closeOutbox (s : Recorded Resolver) :
    SameButOutbox s.host (act s .closeOutbox).host :=
  ⟨_, rfl⟩

theorem brought_take (s : Recorded Resolver) (m : Message) :
    Brought (act s .take) m ↔ Brought s m := by
  have hlist := s.host.common.outbox.toList_take
  rw [act_take]
  unfold Brought
  show (∃ x ∈ (s.host.common.outbox.take.2.map (s.host.now, ·)).toList ++ s.published, x.2 = m) ∨
    m ∈ s.host.common.outbox.take.1.toList ↔ _
  rw [hlist]
  cases s.host.common.outbox.take.2 with
  | none => simp
  | some m' =>
      simp only [Option.map_some, Option.toList_some, List.singleton_append, List.mem_cons,
        exists_eq_or_imp]
      constructor
      · rintro ((rfl | hm) | hm)
        · exact Or.inr (Or.inl rfl)
        · exact Or.inl hm
        · exact Or.inr (Or.inr hm)
      · rintro (hm | rfl | hm)
        · exact Or.inl (Or.inr hm)
        · exact Or.inl (Or.inl rfl)
        · exact Or.inr hm

theorem closed_act_take (s : Recorded Resolver) : Closed (act s .take) ↔ Closed s := by
  rw [act_take]
  unfold Closed
  show s.host.common.outbox.take.1.closed = true ↔ s.host.common.outbox.closed = true
  rw [Mailbox.closed_take]

theorem closed_act_closeOutbox (s : Recorded Resolver) : Closed (act s .closeOutbox) := rfl

theorem brought_closeOutbox {s : Recorded Resolver} {m : Message}
    (h : Brought (act s .closeOutbox) m) : Brought s m := by
  rcases h with hm | hm
  · exact Or.inl hm
  · cases hm

end Fetching
end MetricGateway
