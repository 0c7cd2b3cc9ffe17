import MetricGateway.Proofs.Fetching.Turns

/-!
# What is remembered

The settings of a metric are remembered under the id of a fetch for exactly as long as a task
fetches under this id, and the id is registered at most that long.  So once the task that an id was
given to is gone, nothing is left of the id, for ever.
-/

namespace MetricGateway

namespace Resolver

structure Idle (r : Resolver) : Prop where
  tasks : r.tasks = ∅
  waits : r.correlator.waits = ∅
  registered : r.correlator.registered = ∅
  pending : r.pending = ∅
  reports : r.reports = []

namespace Desk

variable (d : Desk) (id : TaskId) (t : Option Task)

@[simp] theorem pending_set : (d.set id t).pending = d.pending := by cases t <;> rfl

@[simp] theorem correlator_set : (d.set id t).correlator = d.correlator := by cases t <;> rfl

@[simp] theorem tally_set : (d.set id t).tally = d.tally := by cases t <;> rfl

theorem tasks_set (other : TaskId) :
    (d.set id t).tasks[other]? = if id = other then t else d.tasks[other]? := by
  cases t with
  | none => exact lookup_erase d.tasks id other
  | some t => exact lookup_insert d.tasks id other t

/-- Settings are remembered under the ids of the fetches that are going on. -/
def Remembers : Prop := ∀ correlation, correlation ∈ d.pending ↔
  ∃ (id : TaskId) (t : Task), d.tasks[id]? = some t ∧ t.phase.correlation? = some correlation

end Desk

end Resolver

namespace Fetching

open Resolver (TaskId Task Report Desk Idle Carries)

theorem correlated_of_idle {r : Resolver} (h : Idle r) : Correlated r :=
  correlated_of_empty h.tasks h.waits h.registered

theorem unreported_of_idle {r : Resolver} (h : Idle r) : Unreported r :=
  unreported_of_empty h.tasks h.reports

theorem remembers_of_idle {r : Resolver} (h : Idle r) : r.desk.Remembers := by
  intro correlation
  constructor
  · intro hmem
    replace hmem : correlation ∈ r.pending := hmem
    rw [h.pending] at hmem
    simp at hmem
  · rintro ⟨id, t, ht, _⟩
    replace ht : r.tasks[id]? = some t := ht
    rw [h.tasks] at ht
    simp at ht

/-!
## Steps of tasks
-/

def carried (left : Option Task) : Option String := left.bind (·.phase.correlation?)

section

variable {s : Recorded Resolver} {id : TaskId} {t : Task} {d : Desk} {left : Option Task}
  {new : List Report} {own : List Message}

theorem Handing.carried_eq_none {reply : Envelope} {resolution : Resolver.Resolution}
    (h : Handing s t reply resolution left new own) : carried left = none := by
  cases h <;> rfl

/-- A task becomes another one; its id is forgotten, and the new one's is remembered. -/
theorem remembers_set {r : Resolver} (h : r.desk.Remembers) (hcorrelated : Correlated r)
    (htask : r.tasks[id]? = some t) (htasks : d.tasks = r.tasks)
    (hpending : ∀ correlation, correlation ∈ d.pending ↔
      (correlation ∈ r.pending ∧ t.phase.correlation? ≠ some correlation) ∨
        carried left = some correlation) :
    (d.set id left).Remembers := by
  intro correlation
  rw [Desk.pending_set, hpending]
  constructor
  · rintro (⟨hmem, hnot⟩ | hleft)
    · rcases (h correlation).mp hmem with ⟨other, x, hx, hcarries⟩
      have hne : id ≠ other := by
        intro heq
        subst heq
        cases htask.symm.trans hx
        exact hnot hcarries
      refine ⟨other, x, ?_, hcarries⟩
      rw [Desk.tasks_set, if_neg hne, htasks]
      exact hx
    · rcases Option.bind_eq_some_iff.mp hleft with ⟨x, hx, hcarries⟩
      refine ⟨id, x, ?_, hcarries⟩
      rw [Desk.tasks_set, if_pos rfl]
      exact hx
  · rintro ⟨other, x, hx, hcarries⟩
    rw [Desk.tasks_set] at hx
    split at hx
    next =>
      right
      rw [hx]
      exact hcarries
    next hne =>
      rw [htasks] at hx
      refine Or.inl ⟨(h correlation).mpr ⟨other, x, hx, hcarries⟩, ?_⟩
      intro hown
      exact hne (hcorrelated.unique ⟨t, htask, hown⟩ ⟨x, hx, hcarries⟩)

theorem not_mem_pending_of_le {r : Resolver} (h : r.desk.Remembers) (hcorrelated : Correlated r)
    {n : Nat} (hn : r.common.issued ≤ n) : Correlation.id n ∉ r.pending := by
  intro hmem
  rcases (h _).mp hmem with ⟨other, hcarries⟩
  exact Nat.lt_irrefl n (Nat.lt_of_lt_of_le (hcorrelated.lt_of_carries hcarries) hn)

theorem Turn.remembers (h : Turn s id t d new own) (htask : s.host.tasks[id]? = some t)
    (hremembers : s.host.desk.Remembers) (hcorrelated : Correlated s.host) : d.Remembers := by
  have hset : ∀ {d : Desk} {left : Option Task}, d.tasks = s.host.tasks →
      (∀ correlation, correlation ∈ d.pending ↔
        (correlation ∈ s.host.pending ∧ t.phase.correlation? ≠ some correlation) ∨
          carried left = some correlation) → (d.set id left).Remembers :=
    remembers_set hremembers hcorrelated htask
  have hbegins : ∀ {d : Desk} {left : Option Task} {n : Nat} {settings : MetricSettings},
      d.tasks = s.host.tasks → d.pending = s.host.pending.insert (Correlation.id n) settings →
      t.phase.correlation? = none → carried left = some (Correlation.id n) →
      (d.set id left).Remembers := by
    intro d left n settings htasks hpending hbefore hafter
    refine hset htasks fun other => ?_
    rw [hpending, hbefore, hafter, Std.ExtTreeMap.mem_insert]
    simp [or_comm]
  have hnone : ∀ {d : Desk} {left : Option Task}, d.tasks = s.host.tasks →
      d.pending = s.host.pending → t.phase.correlation? = none → carried left = none →
      (d.set id left).Remembers := by
    intro d left htasks hpending hbefore hafter
    refine hset htasks fun correlation => ?_
    simp [hpending, hbefore, hafter]
  have hends : ∀ {d : Desk} {left : Option Task} {correlation : String},
      d.tasks = s.host.tasks → d.pending = s.host.pending.erase correlation →
      t.phase.correlation? = some correlation → carried left = none →
      (d.set id left).Remembers := by
    intro d left correlation htasks hpending hbefore hafter
    refine hset htasks fun other => ?_
    rw [hpending, hbefore, hafter, Std.ExtTreeMap.mem_erase]
    simp [and_comm]
  cases h with
  | idle => exact hremembers
  | lookupFailed hphase => exact hnone rfl rfl (by rw [hphase]; rfl) rfl
  | hit hphase _ hhanded => exact hnone rfl rfl (by rw [hphase]; rfl) hhanded.carried_eq_none
  | unrouted hphase _ _ hhanded =>
      exact hnone rfl rfl (by rw [hphase]; rfl) hhanded.carried_eq_none
  | unconfigured hphase => exact hnone rfl rfl (by rw [hphase]; rfl) rfl
  | parked ticket hwants => exact hbegins rfl rfl (by rw [hwants.phase]; rfl) rfl
  | sent hwants => exact hbegins rfl rfl (by rw [hwants.phase]; rfl) rfl
  | @refused key settings n hwants hlow =>
      have hfresh := not_mem_pending_of_le hremembers hcorrelated hlow
      exact hnone rfl (erase_insert hfresh settings) (by rw [hwants.phase]; rfl) rfl
  | @resumed ticket fetch correlation settings hphase =>
      have hmem : correlation ∈ s.host.pending :=
        (hremembers correlation).mpr ⟨id, carries_of_fetching htask hphase⟩
      refine hset rfl fun other => ?_
      show other ∈ s.host.pending ↔ _ ∨ some correlation = some other
      rw [hphase]
      by_cases hother : correlation = other
      · subst hother
        simp [hmem]
      · simp [hother, Task.Phase.correlation?]
  | dropped hphase => exact hends rfl rfl (by rw [hphase]; rfl) rfl
  | timedOut hphase => exact hends rfl rfl (by rw [hphase]; rfl) rfl
  | perished hphase => exact hends rfl rfl (by rw [hphase]; rfl) rfl
  | passedOn hphase _ hhanded =>
      exact hends rfl rfl (by rw [hphase]; rfl) hhanded.carried_eq_none
  | answered hphase => exact hnone rfl rfl (by rw [hphase]; rfl) rfl
  | unanswered hphase => exact hnone rfl rfl (by rw [hphase]; rfl) rfl

end

/-!
## Runs
-/

theorem Move.remembers {s : Recorded Resolver} {a : Act} {d : Desk} (h : Move s a d)
    (hremembers : s.host.desk.Remembers) (hcorrelated : Correlated s.host) : d.Remembers := by
  cases h with
  | background => exact hremembers
  | @begun _ t hstep hroute hphase =>
      intro correlation
      rw [Desk.pending_set, hremembers]
      constructor
      · rintro ⟨id, x, hx, hcarries⟩
        have hne : s.host.started ≠ id := (Nat.ne_of_lt (hcorrelated.task_lt hx)).symm
        refine ⟨id, x, ?_, hcarries⟩
        rw [Desk.tasks_set, if_neg hne]
        exact hx
      · rintro ⟨id, x, hx, hcarries⟩
        rw [Desk.tasks_set] at hx
        split at hx
        · cases hx
          rw [hphase] at hcarries
          cases hcarries
        · exact ⟨id, x, hx, hcarries⟩
  | taken => exact hremembers
  | unmatched => exact hremembers
  | absent => exact hremembers
  | turned htask hturn => exact hturn.remembers htask hremembers hcorrelated

theorem remembers_run {s : Recorded Resolver} (h : s.host.desk.Remembers)
    (hcorrelated : Correlated s.host) (acts : List Act) : (run s acts).host.desk.Remembers := by
  induction acts generalizing s with
  | nil => exact h
  | cons a acts ih =>
      exact ih ((move_act hcorrelated a).remembers h hcorrelated) (hcorrelated.act a)

end Fetching
end MetricGateway
