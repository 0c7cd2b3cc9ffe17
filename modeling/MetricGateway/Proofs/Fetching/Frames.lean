import MetricGateway.Proofs.Fetching.Effects

/-!
# What an effect leaves alone

A task is replaced by its own steps only, and only its own steps report what it has done.  Ids are
given out and never taken back: a task fetches under an id that it had before, or under one that was
given out in this step.
-/

namespace MetricGateway
namespace Fetching

open Pulling (Polling)
open Resolver (TaskId Task Report Carries)

theorem phase_of_correlation? {phase : Task.Phase} {correlation : String}
    (h : phase.correlation? = some correlation) :
    (∃ ticket m settings, phase = .fetching ticket m correlation settings) ∨
      ∃ wait settings, phase = .awaiting wait correlation settings := by
  cases phase with
  | fetching ticket m correlation' settings =>
      cases h
      exact Or.inl ⟨ticket, m, settings, rfl⟩
  | awaiting wait correlation' settings =>
      cases h
      exact Or.inr ⟨wait, settings, rfl⟩
  | starting => cases h
  | answering ticket m resolution => cases h

/-!
## Tasks that are replaced
-/

/-- One task has become another one, or is gone; the others are as they were. -/
def Replaced (r : Resolver) (id : TaskId) (t' : Option Task) (r' : Resolver) : Prop :=
  ∀ other, r'.tasks[other]? = if id = other then t' else r.tasks[other]?

theorem replaced_of_insert {r r' : Resolver} {id : TaskId} {t' : Task}
    (h : r'.tasks = r.tasks.insert id t') : Replaced r id (some t') r' := by
  intro other
  rw [h, Std.ExtTreeMap.getElem?_insert]
  simp

theorem replaced_of_erase {r r' : Resolver} {id : TaskId} (h : r'.tasks = r.tasks.erase id) :
    Replaced r id none r' := by
  intro other
  rw [h, Std.ExtTreeMap.getElem?_erase]
  simp

theorem replaced_start (r : Resolver) (request : MetricRequest) (requester : Resolver.Requester)
    (timeout : Duration) :
    Replaced r r.started (some { request, requester, timeout, startedAt := r.now })
      (r.start request requester timeout).1 :=
  replaced_of_insert rfl

theorem Replaced.of_ne {r r' : Resolver} {id other : TaskId} {t' : Option Task}
    (h : Replaced r id t' r') (hne : id ≠ other) : r'.tasks[other]? = r.tasks[other]? := by
  rw [h other, if_neg hne]

theorem Replaced.self {r r' : Resolver} {id : TaskId} {t' : Option Task}
    (h : Replaced r id t' r') : r'.tasks[id]? = t' := by
  rw [h id, if_pos rfl]

theorem Replaced.carries_of_ne {r r' : Resolver} {id other : TaskId} {t' : Option Task}
    (h : Replaced r id t' r') (hne : id ≠ other) {correlation : String} :
    r'.Carries other correlation ↔ r.Carries other correlation := by
  unfold Carries
  rw [h.of_ne hne]

theorem Leaves.replaced {r r' : Resolver} {id : TaskId} {t : Task} (h : Leaves r id t r') :
    ∃ t', Replaced r id t' r' ∧ ∀ x, t' = some x → x.phase.correlation? = none ∧
      x.requester = t.requester ∧
      ∀ ticket m resolution, x.phase = .answering ticket m resolution → t.Answers m := by
  rcases h.tasks with htasks | ⟨ticket, m, resolution, hm, htasks⟩
  · exact ⟨none, replaced_of_erase htasks, by simp⟩
  · refine ⟨_, replaced_of_insert htasks, ?_⟩
    intro x hx
    cases hx
    refine ⟨rfl, rfl, ?_⟩
    intro ticket' m' resolution' hphase
    cases hphase
    exact hm

theorem Leaves.carries_iff {r r' : Resolver} {id : TaskId} {t : Task} (h : Leaves r id t r')
    (other : TaskId) (correlation : String) :
    r'.Carries other correlation ↔ id ≠ other ∧ r.Carries other correlation := by
  rcases h.replaced with ⟨t', hreplaced, hnone⟩
  by_cases hother : id = other
  · subst hother
    constructor
    · rintro ⟨x, hx, hcarries⟩
      rw [hreplaced.self] at hx
      rw [(hnone x hx).1] at hcarries
      cases hcarries
    · exact fun hcarries => absurd rfl hcarries.1
  · rw [hreplaced.carries_of_ne hother]
    exact ⟨fun hcarries => ⟨hother, hcarries⟩, And.right⟩

/-!
## Effects
-/

theorem Effect.issued_le {r r' : Resolver} {cause : Cause} (h : Effect r cause r') :
    r.common.issued ≤ r'.common.issued := by
  cases h with
  | background hb => exact hb.emits.issued_le
  | started => exact Nat.le_refl _
  | routed e => exact (route_frame r e).2.2.2.issued_le
  | parked _ _ hparks => exact hparks.silent.issued_le
  | listened _ _ hlistens =>
      rcases hlistens.emits with ⟨own, hemits, _⟩
      exact hemits.issued_le
  | left _ _ hleaves =>
      rcases hleaves.emits with ⟨own, hemits, _⟩
      exact hemits.issued_le
  | concluded _ _ _ _ hleaves =>
      rcases hleaves.emits with ⟨own, hemits, _⟩
      exact hemits.issued_le

/-- Whether somebody takes messages from the outbox is no matter of the resolver. -/
theorem Effect.closed {r r' : Resolver} {cause : Cause} (h : Effect r cause r') :
    r'.common.outbox.closed = r.common.outbox.closed := by
  cases h with
  | background hb => exact hb.emits.closed
  | started => rfl
  | routed e => exact (route_frame r e).2.2.2.closed
  | parked _ _ hparks => exact hparks.silent.closed
  | listened _ _ hlistens =>
      rcases hlistens.emits with ⟨own, hemits, _⟩
      exact hemits.closed
  | left _ _ hleaves =>
      rcases hleaves.emits with ⟨own, hemits, _⟩
      exact hemits.closed
  | concluded _ _ _ _ hleaves =>
      rcases hleaves.emits with ⟨own, hemits, _⟩
      exact hemits.closed

theorem Effect.started_cases {r r' : Resolver} {cause : Cause} (h : Effect r cause r') :
    r'.started = r.started ∨ ∃ request requester timeout,
      r' = (r.start request requester timeout).1 := by
  cases h with
  | background hb => exact Or.inl hb.started
  | started request requester timeout => exact Or.inr ⟨request, requester, timeout, rfl⟩
  | routed e => exact Or.inl (route_frame r e).2.1
  | parked _ _ hparks => exact Or.inl hparks.started
  | listened _ _ hlistens => exact Or.inl hlistens.started
  | left _ _ hleaves => exact Or.inl hleaves.started
  | concluded _ _ _ _ hleaves => exact Or.inl hleaves.started

theorem Effect.started_le {r r' : Resolver} {cause : Cause} (h : Effect r cause r') :
    r.started ≤ r'.started := by
  rcases h.started_cases with heq | ⟨request, requester, timeout, heq⟩
  · exact Nat.le_of_eq heq.symm
  · rw [heq]
    exact Nat.le_succ r.started

theorem Leaves.left {r r' : Resolver} {id : TaskId} {t : Task} (h : Leaves r id t r') {x : Task}
    (hx : r'.tasks[id]? = some x) :
    ∃ ticket m resolution, x.phase = .answering ticket m resolution := by
  rcases h.tasks with htasks | ⟨ticket, m, resolution, _, htasks⟩
  · rw [(replaced_of_erase htasks).self] at hx
    cases hx
  · rw [(replaced_of_insert htasks).self] at hx
    cases hx
    exact ⟨ticket, m, resolution, rfl⟩

/-- Nothing that is reported is lost, and a task reports only in the step with which it leaves
off. -/
theorem Effect.reports {r r' : Resolver} {cause : Cause} (h : Effect r cause r') :
    ∃ new, r'.reports = new ++ r.reports ∧ ∀ x ∈ new, cause = .task x.2.1 ∧
      (∃ t, r.tasks[x.2.1]? = some t) ∧ ∀ t, r'.tasks[x.2.1]? = some t →
        ∃ ticket m resolution, t.phase = .answering ticket m resolution := by
  cases h with
  | background hb => exact ⟨[], hb.reports, by simp⟩
  | started => exact ⟨[], rfl, by simp⟩
  | routed e => exact ⟨[], (route_frame r e).2.2.1, by simp⟩
  | parked _ _ hparks => exact ⟨[], hparks.reports, by simp⟩
  | listened _ _ hlistens => exact ⟨[], hlistens.reports, by simp⟩
  | left htask _ hleaves =>
      rcases hleaves.reports with ⟨new, hnew, hids⟩
      refine ⟨new, hnew, ?_⟩
      intro x hx
      rw [hids x hx]
      exact ⟨rfl, ⟨_, htask⟩, fun t ht => hleaves.left ht⟩
  | concluded htask _ _ _ hleaves =>
      rcases hleaves.reports with ⟨new, hnew, hids⟩
      refine ⟨new, hnew, ?_⟩
      intro x hx
      rw [hids x hx]
      exact ⟨rfl, ⟨_, htask⟩, fun t ht => hleaves.left ht⟩

theorem Effect.tasks_of_ne {r r' : Resolver} {cause : Cause} (h : Effect r cause r') {id : TaskId}
    (hcause : cause ≠ .task id) (hid : id < r.started) : r'.tasks[id]? = r.tasks[id]? := by
  have hother : ∀ {other : TaskId} {t' : Option Task}, cause = .task other →
      Replaced r other t' r' → r'.tasks[id]? = r.tasks[id]? :=
    fun heq hreplaced => hreplaced.of_ne fun hsame => hcause (hsame ▸ heq)
  cases h with
  | background hb => rw [hb.tasks]
  | started request requester timeout =>
      exact (replaced_start r request requester timeout).of_ne (Nat.ne_of_gt hid)
  | routed e => rw [(route_frame r e).1]
  | parked _ _ hparks =>
      rcases hparks.tasks with ⟨ticket, m, settings, _, htasks⟩
      exact hother rfl (replaced_of_insert htasks)
  | listened _ _ hlistens =>
      rcases hlistens.tasks with ⟨settings, htasks⟩
      exact hother rfl (replaced_of_insert htasks)
  | left _ _ hleaves =>
      rcases hleaves.replaced with ⟨t', hreplaced, _⟩
      exact hother rfl hreplaced
  | concluded _ _ _ _ hleaves =>
      rcases hleaves.replaced with ⟨t', hreplaced, _⟩
      exact hother rfl hreplaced

theorem Effect.carries {r r' : Resolver} {cause : Cause} (h : Effect r cause r') {id : TaskId}
    {correlation : String} (hcarries : r'.Carries id correlation) :
    r.Carries id correlation ∨ GivenOut r r' correlation := by
  cases h with
  | background hb =>
      unfold Carries at hcarries ⊢
      rw [hb.tasks] at hcarries
      exact Or.inl hcarries
  | started request requester timeout =>
      rcases hcarries with ⟨t, ht, hcorrelation⟩
      rw [replaced_start r request requester timeout id] at ht
      split at ht
      · cases ht
        cases hcorrelation
      · exact Or.inl ⟨t, ht, hcorrelation⟩
  | routed e =>
      unfold Carries at hcarries ⊢
      rw [(route_frame r e).1] at hcarries
      exact Or.inl hcarries
  | parked _ _ hparks =>
      rcases hparks.tasks with ⟨ticket, m, settings, _, htasks⟩
      rcases hcarries with ⟨t, ht, hcorrelation⟩
      rw [replaced_of_insert htasks id] at ht
      split at ht
      · cases ht
        cases hcorrelation
        exact Or.inr hparks.given
      · exact Or.inl ⟨t, ht, hcorrelation⟩
  | listened htask _ hlistens =>
      rcases hlistens.tasks with ⟨settings, htasks⟩
      rcases hcarries with ⟨t, ht, hcorrelation⟩
      rw [replaced_of_insert htasks id] at ht
      split at ht
      next heq =>
        cases ht
        cases hcorrelation
        subst heq
        rcases hlistens.given with hgiven | ⟨ticket, m, settings', hphase⟩
        · exact Or.inr hgiven
        · exact Or.inl ⟨_, htask, by rw [hphase]; rfl⟩
      next => exact Or.inl ⟨t, ht, hcorrelation⟩
  | left _ _ hleaves => exact Or.inl ((hleaves.carries_iff _ _).mp hcarries).2
  | concluded _ _ _ _ hleaves => exact Or.inl ((hleaves.carries_iff _ _).mp hcarries).2

end Fetching
end MetricGateway
