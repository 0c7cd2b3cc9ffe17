import MetricGateway.Proofs.Fetching.Correlated

/-!
# Fetches without a reply so far

As long as no reply under an id was routed, the task that fetches under it waits for one as soon as
its fetch is in the outbox: the fetch gets there in the same step in which the task begins to wait.
So an id that can be seen outside belongs to an open wait, unless the wait was given up.
-/

namespace MetricGateway
namespace Fetching

open Pulling (Polling)
open Resolver (TaskId Task Carries)

/-- No message under an id was brought to the outbox or is parked by a ticker. -/
structure Quiet (s : Recorded Resolver) (correlation : String) : Prop where
  brought : ∀ {m : Message}, Brought s m → m.envelope.correlation ≠ correlation
  parks : ∀ {m : Message}, s.host.polling.Parks m → m.envelope.correlation ≠ correlation

/-- A task has parked its fetch under an id. -/
def HasParked (r : Resolver) (correlation : String) : Prop :=
  ∃ (id : TaskId) (t : Task) (ticket : Ticket) (m : Message) (settings : MetricSettings),
    r.tasks[id]? = some t ∧ t.phase = .fetching ticket m correlation settings

/-- A task waits for a reply under an id. -/
def Awaited (r : Resolver) (correlation : String) : Prop :=
  ∃ (id : TaskId) (t : Task) (wait : WaitId) (settings : MetricSettings),
    r.tasks[id]? = some t ∧ t.phase = .awaiting wait correlation settings

/-- No requester takes its answer from the broker under an id. -/
def Foreign (r : Resolver) (correlation : String) : Prop :=
  ∀ (id : TaskId) (t : Task), r.tasks[id]? = some t → ∀ m, t.Answers m →
    m.envelope.correlation ≠ correlation

/-- No reply was routed under the id of a number, and no requester has this id as its own. -/
structure Unanswered (n : Nat) (s : Recorded Resolver) : Prop where
  correlated : Correlated s.host
  foreign : Foreign s.host (Correlation.id n)
  quiet : s.host.common.issued ≤ n ∨ HasParked s.host (Correlation.id n) →
    Quiet s (Correlation.id n)
  waits : ∀ {id : TaskId} {t : Task} {wait : WaitId} {settings : MetricSettings},
    s.host.tasks[id]? = some t → t.phase = .awaiting wait (Correlation.id n) settings →
    s.host.correlator.Open wait (Correlation.id n)

/-- Nothing is caused by a reply under an id, or by a requester with this id. -/
def Cause.Avoids (correlation : String) : Cause → Prop
  | .reply e => e.correlation ≠ correlation
  | .request requester => requester ≠ some correlation
  | _ => True

/-!
## Messages
-/

/-- A message that a task brings to the outbox answers its requester, or the task waits for a reply
to it from now on. -/
theorem Correlated.brings {r r' : Resolver} {cause : Cause} (h : Correlated r)
    (heffect : Effect r cause r') : ∃ own, r.polling.Emits own r'.polling ∧ ∀ m ∈ own,
      (∃ (id : TaskId) (t : Task), r.tasks[id]? = some t ∧ t.Answers m) ∨
        Awaited r' m.envelope.correlation := by
  cases heffect with
  | background hb => exact ⟨[], hb.emits, by simp⟩
  | started => exact ⟨[], (Polling.silent_refl r.polling).emits, by simp⟩
  | routed e => exact ⟨[], (route_frame r e).2.2.2.emits, by simp⟩
  | parked _ _ hparks => exact ⟨[], hparks.silent.emits, by simp⟩
  | @listened id t correlation _ htask _ hlistens =>
      rcases hlistens.tasks with ⟨settings, htasks⟩
      rcases hlistens.emits with ⟨own, hemits, hown⟩
      have hid : ∀ m ∈ own, m.envelope.correlation = correlation := by
        intro m hm
        rcases hown m hm with hm | ⟨ticket, settings', hfetching⟩
        · exact hm
        · exact h.fetching htask hfetching
      refine ⟨own, hemits, ?_⟩
      intro m hm
      rw [hid m hm]
      exact Or.inr ⟨id, _, _, settings, (replaced_of_insert htasks).self, rfl⟩
  | left htask _ hleaves =>
      rcases hleaves.emits with ⟨own, hemits, hown⟩
      exact ⟨own, hemits, fun m hm => Or.inl ⟨_, _, htask, hown m hm⟩⟩
  | concluded htask _ _ _ hleaves =>
      rcases hleaves.emits with ⟨own, hemits, hown⟩
      exact ⟨own, hemits, fun m hm => Or.inl ⟨_, _, htask, hown m hm⟩⟩

theorem Quiet.emits {s : Recorded Resolver} {n : Nat} (h : Quiet s (Correlation.id n))
    {own : List Message} {r' : Resolver} (hemits : s.host.polling.Emits own r'.polling)
    (hown : ∀ m ∈ own, m.envelope.correlation ≠ Correlation.id n)
    (hold : r'.common.issued ≤ n ∨ n < s.host.common.issued) :
    Quiet { s with host := r' } (Correlation.id n) := by
  have hfresh : ∀ {m : Message}, s.host.polling.Fresh r'.polling m →
      m.envelope.correlation ≠ Correlation.id n := by
    rintro m ⟨k, hlow, hhigh, heq⟩ hid
    have hk := Correlation.id_injective (heq.symm.trans hid)
    subst hk
    rcases hold with hold | hold
    · exact Nat.lt_irrefl k (Nat.lt_of_lt_of_le hhigh hold)
    · exact Nat.lt_irrefl k (Nat.lt_of_lt_of_le hold hlow)
  constructor
  · intro m hm
    rcases hm.before hemits with hm | hm | hm | hm
    · exact h.brought hm
    · exact hown m hm
    · exact h.parks hm
    · exact hfresh hm
  · intro m hm
    rcases hemits.parks hm with hm | hm
    · exact h.parks hm
    · exact hfresh hm

theorem Quiet.silent {s : Recorded Resolver} {correlation : String} (h : Quiet s correlation)
    {r' : Resolver} (hsilent : s.host.polling.Silent r'.polling) :
    Quiet { s with host := r' } correlation where
  brought := by
    rintro m (hm | hm)
    · exact h.brought (Or.inl hm)
    · have hm' : m ∈ s.host.polling.common.outbox.toList := hsilent.sent ▸ hm
      exact h.brought (Or.inr hm')
  parks := fun hm => h.parks (hsilent.parks hm)

/-- An id that is not given out in a step stays quiet, unless a task waits for a reply to it. -/
theorem Quiet.effect {s : Recorded Resolver} {n : Nat} (h : Quiet s (Correlation.id n))
    (hcorrelated : Correlated s.host) (hforeign : Foreign s.host (Correlation.id n))
    {cause : Cause} {r' : Resolver} (heffect : Effect s.host cause r')
    (hold : r'.common.issued ≤ n ∨ n < s.host.common.issued)
    (hawaited : ¬Awaited r' (Correlation.id n)) :
    Quiet { s with host := r' } (Correlation.id n) := by
  rcases hcorrelated.brings heffect with ⟨own, hemits, hown⟩
  refine h.emits hemits ?_ hold
  intro m hm hid
  rcases hown m hm with ⟨id, t, ht, hanswers⟩ | hm'
  · exact hforeign id t ht m hanswers hid
  · exact hawaited (hid ▸ hm')

/-!
## Parked fetches
-/

theorem HasParked.carries {r : Resolver} {correlation : String} (h : HasParked r correlation) :
    ∃ id, r.Carries id correlation := by
  rcases h with ⟨id, t, ticket, m, settings, ht, hphase⟩
  exact ⟨id, carries_of_fetching ht hphase⟩

theorem Correlated.lt_of_carries {r : Resolver} (h : Correlated r) {id : TaskId} {n : Nat}
    (hcarries : r.Carries id (Correlation.id n)) : n < r.common.issued := by
  rcases h.given hcarries with ⟨k, hk, heq⟩
  rw [Correlation.id_injective heq]
  exact hk

theorem Correlated.not_awaited_of_le {r : Resolver} (h : Correlated r) {n : Nat}
    (hissued : r.common.issued ≤ n) : ¬Awaited r (Correlation.id n) := by
  rintro ⟨id, t, wait, settings, ht, hphase⟩
  have hlt := h.lt_of_carries (carries_of_awaiting ht hphase)
  exact Nat.lt_irrefl n (Nat.lt_of_lt_of_le hlt hissued)

theorem Correlated.not_awaited_of_hasParked {r : Resolver} (h : Correlated r)
    {correlation : String} (hparked : HasParked r correlation) : ¬Awaited r correlation := by
  rcases hparked with ⟨id, t, ticket, m, settings, ht, hphase⟩
  rintro ⟨other, x, wait, settings', hx, hphase'⟩
  have hsame := h.unique (carries_of_fetching ht hphase) (carries_of_awaiting hx hphase')
  subst hsame
  rw [ht] at hx
  cases hx
  rw [hphase] at hphase'
  cases hphase'

theorem Replaced.hasParked {r r' : Resolver} {id : TaskId} {t' : Option Task}
    (h : Replaced r id t' r') {correlation : String}
    (hother : ∀ x ticket m settings, t' = some x →
      x.phase ≠ .fetching ticket m correlation settings)
    (hparked : HasParked r' correlation) : HasParked r correlation := by
  rcases hparked with ⟨other, x, ticket, m, settings, hx, hphase⟩
  rw [h other] at hx
  split at hx
  next => exact absurd hphase (hother x ticket m settings hx)
  next => exact ⟨other, x, ticket, m, settings, hx, hphase⟩

theorem Leaves.hasParked {r r' : Resolver} {id : TaskId} {t : Task} (h : Leaves r id t r')
    {correlation : String} (hparked : HasParked r' correlation) : HasParked r correlation := by
  rcases h.replaced with ⟨t', hreplaced, hleft⟩
  refine hreplaced.hasParked ?_ hparked
  intro x ticket m settings hx hphase
  have hnone := (hleft x hx).1
  rw [hphase] at hnone
  cases hnone

/-- A fetch is parked under an id that is given out in the same step, and nothing is sent in it. -/
theorem Effect.hasParked {r r' : Resolver} {cause : Cause} (h : Effect r cause r')
    {correlation : String} (hparked : HasParked r' correlation) :
    HasParked r correlation ∨ GivenOut r r' correlation ∧ r.polling.Silent r'.polling := by
  cases h with
  | background hb =>
      unfold HasParked at hparked ⊢
      rw [hb.tasks] at hparked
      exact Or.inl hparked
  | started request requester timeout =>
      refine Or.inl ((replaced_start r request requester timeout).hasParked ?_ hparked)
      intro x ticket m settings hx hphase
      cases hx
      cases hphase
  | routed e =>
      unfold HasParked at hparked ⊢
      rw [(route_frame r e).1] at hparked
      exact Or.inl hparked
  | parked _ _ hparks =>
      rcases hparks.tasks with ⟨ticket, m, settings, _, htasks⟩
      rcases hparked with ⟨other, x, ticket', m', settings', hx, hphase⟩
      rw [replaced_of_insert htasks other] at hx
      split at hx
      · cases hx
        cases hphase
        exact Or.inr ⟨hparks.given, hparks.silent⟩
      · exact Or.inl ⟨other, x, ticket', m', settings', hx, hphase⟩
  | listened _ _ hlistens =>
      rcases hlistens.tasks with ⟨settings, htasks⟩
      refine Or.inl ((replaced_of_insert htasks).hasParked ?_ hparked)
      intro x ticket m settings' hx hphase
      cases hx
      cases hphase
  | left _ _ hleaves => exact Or.inl (hleaves.hasParked hparked)
  | concluded _ _ _ _ hleaves => exact Or.inl (hleaves.hasParked hparked)

/-!
## Every effect but a reply leaves the fetch unanswered
-/

theorem Replaced.foreign {r r' : Resolver} {id : TaskId} {t' : Option Task}
    (h : Replaced r id t' r') {correlation : String} (hforeign : Foreign r correlation)
    (hself : ∀ x, t' = some x → ∀ m, x.Answers m → m.envelope.correlation ≠ correlation) :
    Foreign r' correlation := by
  intro other x hx m hm
  rw [h other] at hx
  split at hx
  next => exact hself x hx m hm
  next => exact hforeign other x hx m hm

theorem Leaves.foreign {r r' : Resolver} {id : TaskId} {t : Task} (h : Leaves r id t r')
    {correlation : String} (hforeign : Foreign r correlation) (htask : r.tasks[id]? = some t) :
    Foreign r' correlation := by
  rcases h.replaced with ⟨t', hreplaced, hleft⟩
  refine hreplaced.foreign hforeign ?_
  intro x hx m hm
  rcases hleft x hx with ⟨_, hrequester, hanswering⟩
  refine hforeign id t htask m ?_
  rcases hm with ⟨ticket, resolution, hphase⟩ | hm
  · exact hanswering ticket m resolution hphase
  · exact Or.inr (hrequester ▸ hm)

theorem Foreign.effect {r r' : Resolver} {correlation : String} (h : Foreign r correlation)
    {cause : Cause} (heffect : Effect r cause r') (havoids : cause.Avoids correlation) :
    Foreign r' correlation := by
  cases heffect with
  | background hb =>
      unfold Foreign
      rw [hb.tasks]
      exact h
  | started request requester timeout =>
      refine (replaced_start r request requester timeout).foreign h ?_
      intro x hx m hm heq
      cases hx
      rcases hm with ⟨ticket, resolution, hphase⟩ | hm
      · cases hphase
      · exact havoids (heq ▸ hm)
  | routed e =>
      unfold Foreign
      rw [(route_frame r e).1]
      exact h
  | parked htask _ hparks =>
      rcases hparks.tasks with ⟨ticket, m, settings, _, htasks⟩
      refine (replaced_of_insert htasks).foreign h ?_
      intro x hx m' hm'
      cases hx
      rcases hm' with ⟨ticket', resolution, hphase⟩ | hm'
      · cases hphase
      · exact h _ _ htask m' (Or.inr hm')
  | listened htask _ hlistens =>
      rcases hlistens.tasks with ⟨settings, htasks⟩
      refine (replaced_of_insert htasks).foreign h ?_
      intro x hx m hm
      cases hx
      rcases hm with ⟨ticket, resolution, hphase⟩ | hm
      · cases hphase
      · exact h _ _ htask m (Or.inr hm)
  | left htask _ hleaves => exact hleaves.foreign h htask
  | concluded htask _ _ _ hleaves => exact hleaves.foreign h htask

theorem Leaves.not_awaiting {r r' : Resolver} {id : TaskId} {t x : Task} (h : Leaves r id t r')
    (hx : r'.tasks[id]? = some x) {wait : WaitId} {correlation : String}
    {settings : MetricSettings} : x.phase ≠ .awaiting wait correlation settings := by
  intro hphase
  have hcarries := (h.carries_iff id correlation).mp (carries_of_awaiting hx hphase)
  exact hcarries.1 rfl

theorem Unanswered.waits_effect {n : Nat} {s : Recorded Resolver} (h : Unanswered n s)
    {cause : Cause} {r' : Resolver} (heffect : Effect s.host cause r')
    (havoids : cause.Avoids (Correlation.id n)) {id : TaskId} {t : Task} {wait : WaitId}
    {settings : MetricSettings} (ht : r'.tasks[id]? = some t)
    (hphase : t.phase = .awaiting wait (Correlation.id n) settings) :
    r'.correlator.Open wait (Correlation.id n) := by
  by_cases hcause : cause = .task id
  · subst hcause
    cases heffect with
    | background hb =>
        rw [hb.correlator]
        exact h.waits (hb.tasks ▸ ht) hphase
    | parked _ _ hparks =>
        rcases hparks.tasks with ⟨ticket, m, settings', _, htasks⟩
        rw [(replaced_of_insert htasks).self] at ht
        cases ht
        cases hphase
    | listened hx hstart hlistens =>
        rcases hlistens.tasks with ⟨settings', htasks⟩
        rcases h.correlated.waits_listened hx hstart hlistens with ⟨_, hopen, _⟩
        rw [(replaced_of_insert htasks).self] at ht
        cases ht
        cases hphase
        exact hopen
    | left _ _ hleaves => exact absurd hphase (hleaves.not_awaiting ht)
    | concluded _ _ _ _ hleaves => exact absurd hphase (hleaves.not_awaiting ht)
  · rcases h.correlated.task_of_ne heffect hcause ht with hbefore | hstarting
    · have hopen := h.waits hbefore hphase
      refine hopen.of_sameAt (h.correlated.waits_effect heffect hbefore hphase hcause ?_).2
      intro e heq
      subst heq
      exact Or.inl havoids
    · rw [hstarting] at hphase
      cases hphase

theorem Unanswered.quiet_effect {n : Nat} {s : Recorded Resolver} (h : Unanswered n s)
    {cause : Cause} {r' : Resolver} (heffect : Effect s.host cause r')
    (hcase : r'.common.issued ≤ n ∨ HasParked r' (Correlation.id n)) :
    Quiet { s with host := r' } (Correlation.id n) := by
  have hafter := h.correlated.effect heffect
  rcases hcase with hissued | hparked
  · have hquiet := h.quiet (Or.inl (Nat.le_trans heffect.issued_le hissued))
    exact hquiet.effect h.correlated h.foreign heffect (Or.inl hissued)
      (hafter.not_awaited_of_le hissued)
  · rcases heffect.hasParked hparked with hbefore | ⟨⟨k, hk, _, heq⟩, hsilent⟩
    · rcases hbefore.carries with ⟨id, hcarries⟩
      exact (h.quiet (Or.inr hbefore)).effect h.correlated h.foreign heffect
        (Or.inr (h.correlated.lt_of_carries hcarries))
        (hafter.not_awaited_of_hasParked hparked)
    · rw [← Correlation.id_injective heq] at hk
      exact (h.quiet (Or.inl hk)).silent hsilent

theorem Unanswered.effect {n : Nat} {s : Recorded Resolver} (h : Unanswered n s) {cause : Cause}
    {r' : Resolver} (heffect : Effect s.host cause r') (havoids : cause.Avoids (Correlation.id n)) :
    Unanswered n { s with host := r' } where
  correlated := h.correlated.effect heffect
  foreign := h.foreign.effect heffect havoids
  quiet := h.quiet_effect heffect
  waits := h.waits_effect heffect havoids

/-!
## Runs
-/

theorem Quiet.read {s s' : Recorded Resolver} {correlation : String} (h : Quiet s correlation)
    (hsame : SameButOutbox s.host s'.host) (hbrought : ∀ m, Brought s' m → Brought s m) :
    Quiet s' correlation where
  brought := fun hm => h.brought (hbrought _ hm)
  parks := by
    rcases hsame with ⟨outbox, heq⟩
    intro m hm
    rw [heq] at hm
    exact h.parks hm

theorem Unanswered.read {n : Nat} {s s' : Recorded Resolver} (h : Unanswered n s)
    (hsame : SameButOutbox s.host s'.host) (hbrought : ∀ m, Brought s' m → Brought s m) :
    Unanswered n s' where
  correlated := h.correlated.read hsame
  foreign := by
    rcases hsame with ⟨outbox, heq⟩
    rw [heq]
    exact h.foreign
  quiet := by
    intro hcase
    refine (h.quiet ?_).read hsame hbrought
    rcases hsame with ⟨outbox, heq⟩
    rw [heq] at hcase
    exact hcase
  waits := by
    rcases hsame with ⟨outbox, heq⟩
    rw [heq]
    exact h.waits

theorem Unanswered.act {n : Nat} {s : Recorded Resolver} (h : Unanswered n s) {a : Act}
    (havoids : a.cause.Avoids (Correlation.id n)) : Unanswered n (act s a) := by
  rcases act_cases s a with heq | rfl | rfl
  · rw [heq]
    exact h.effect (effect_actOn s.host a) havoids
  · exact h.read (sameButOutbox_take s) fun m => (brought_take s m).mp
  · exact h.read (sameButOutbox_closeOutbox s) fun _ => brought_closeOutbox

theorem Unanswered.run {n : Nat} {s : Recorded Resolver} (h : Unanswered n s) {acts : List Act}
    (havoids : ∀ a ∈ acts, a.cause.Avoids (Correlation.id n)) : Unanswered n (run s acts) :=
  run_induction (fun _ _ ha hs => hs.act ha) h havoids

end Fetching
end MetricGateway
