import MetricGateway.Proofs.Fetching.Correlated

/-!
# What tasks report

A task reports what it has done in the step with which it leaves off, and nobody else reports for
it.  So nothing is reported of a task that has not answered yet.
-/

namespace MetricGateway
namespace Resolver

def reportsOf (r : Resolver) (id : TaskId) : List Report :=
  (r.reports.filter fun x => x.2.1 = id).map (·.2.2)

end Resolver

namespace Fetching

open Resolver (TaskId Task Report reportsOf)

theorem reportsOf_report (r : Resolver) (id : TaskId) (what : Report) :
    reportsOf (r.report id what) id = what :: reportsOf r id := by
  unfold reportsOf Resolver.report
  simp

theorem reportsOf_append {r r' : Resolver} {new : List (Instant × TaskId × Report)}
    (h : r'.reports = new ++ r.reports) {id : TaskId} (hnew : ∀ x ∈ new, x.2.1 ≠ id) :
    reportsOf r' id = reportsOf r id := by
  have hnone : new.filter (fun x => x.2.1 = id) = [] := by
    simpa using hnew
  unfold reportsOf
  rw [h, List.filter_append, hnone, List.nil_append]

theorem Effect.reportsOf_of_ne {r r' : Resolver} {cause : Cause} (h : Effect r cause r')
    {id : TaskId} (hcause : cause ≠ .task id) : reportsOf r' id = reportsOf r id := by
  rcases h.reports with ⟨new, hnew, hnews⟩
  refine reportsOf_append hnew ?_
  intro x hx heq
  exact hcause (heq ▸ (hnews x hx).1)

/-- Nothing is reported of tasks to come, nor of those that have not answered yet. -/
structure Unreported (r : Resolver) : Prop where
  started : ∀ x ∈ r.reports, x.2.1 < r.started
  running : ∀ {id : TaskId} {t : Task}, r.tasks[id]? = some t →
    (∀ ticket m resolution, t.phase ≠ .answering ticket m resolution) →
    ∀ x ∈ r.reports, x.2.1 ≠ id

theorem unreported_of_empty {r : Resolver} (htasks : r.tasks = ∅) (hreports : r.reports = []) :
    Unreported r := by
  constructor
  · rw [hreports]
    simp
  · rw [htasks]
    simp

theorem Unreported.reportsOf_eq_nil {r : Resolver} (h : Unreported r) {id : TaskId} {t : Task}
    (ht : r.tasks[id]? = some t)
    (hphase : ∀ ticket m resolution, t.phase ≠ .answering ticket m resolution) :
    reportsOf r id = [] := by
  have hnone : r.reports.filter (fun x => x.2.1 = id) = [] := by
    simpa using h.running ht hphase
  unfold reportsOf
  rw [hnone]
  rfl

theorem Unreported.running_before {r r' : Resolver} (h : Unreported r) {id : TaskId} {t : Task}
    (heffect : Effect r (.task id) r') (ht : r'.tasks[id]? = some t)
    (hphase : ∀ ticket m resolution, t.phase ≠ .answering ticket m resolution) :
    ∀ x ∈ r.reports, x.2.1 ≠ id := by
  cases heffect with
  | background hb => exact h.running (hb.tasks ▸ ht) hphase
  | parked htask hstarting _ => exact h.running htask (by simp [hstarting])
  | listened htask hstart _ =>
      refine h.running htask ?_
      rcases hstart with hstarting | ⟨ticket, m, settings, hfetching⟩
      · simp [hstarting]
      · simp [hfetching]
  | left _ _ hleaves =>
      rcases hleaves.left ht with ⟨ticket, m, resolution, hanswering⟩
      exact absurd hanswering (hphase ticket m resolution)
  | concluded _ _ _ _ hleaves =>
      rcases hleaves.left ht with ⟨ticket, m, resolution, hanswering⟩
      exact absurd hanswering (hphase ticket m resolution)

theorem Unreported.effect {r r' : Resolver} {cause : Cause} (h : Unreported r)
    (hcorrelated : Correlated r) (heffect : Effect r cause r') : Unreported r' := by
  rcases heffect.reports with ⟨new, hnew, hnews⟩
  constructor
  · intro x hx
    refine Nat.lt_of_lt_of_le ?_ heffect.started_le
    rw [hnew] at hx
    rcases List.mem_append.mp hx with hx | hx
    · rcases hnews x hx with ⟨_, ⟨t, ht⟩, _⟩
      exact hcorrelated.task_lt ht
    · exact h.started x hx
  · intro id t ht hphase x hx heq
    rw [hnew] at hx
    rcases List.mem_append.mp hx with hx | hx
    · rcases (hnews x hx).2.2 t (heq.symm ▸ ht) with ⟨ticket, m, resolution, hanswering⟩
      exact hphase ticket m resolution hanswering
    · by_cases hcause : cause = .task id
      · subst hcause
        exact h.running_before heffect ht hphase x hx heq
      · have hid : id < r.started := heq ▸ h.started x hx
        exact h.running ((heffect.tasks_of_ne hcause hid).symm.trans ht) hphase x hx heq

theorem Unreported.read {r r' : Resolver} (h : Unreported r) (hsame : SameButOutbox r r') :
    Unreported r' := by
  rcases hsame with ⟨outbox, rfl⟩
  exact ⟨h.started, h.running⟩

theorem Unreported.act {s : Recorded Resolver} (h : Unreported s.host)
    (hcorrelated : Correlated s.host) (a : Act) : Unreported (act s a).host := by
  rcases act_cases s a with heq | rfl | rfl
  · rw [heq]
    exact h.effect hcorrelated (effect_actOn s.host a)
  · exact h.read (sameButOutbox_take s)
  · exact h.read (sameButOutbox_closeOutbox s)

end Fetching
end MetricGateway
