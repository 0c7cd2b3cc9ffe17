import MetricGateway.Proofs.Fetching.Unanswered

/-!
# What becomes of a fetch

From the moment a task carries an id until a reply under the id is routed, the task carries it, or
it has reported a timeout, or its fetch was refused and never left.  So a fetch that has left and
did not time out still belongs to its task, and the wait for the reply to it is open.
-/

namespace MetricGateway
namespace Fetching

open Resolver (TaskId Task Report Carries)

/-- What has become of the fetch of a task under the id of a number. -/
inductive Fate (n : Nat) (id : TaskId) (s : Recorded Resolver) : Prop where
  | carried (hcarries : s.host.Carries id (Correlation.id n))
  | expired (time : Instant) (timeout : Duration)
      (hreport : (time, id, Report.finished (.error (.timeout (Correlation.id n) timeout))) ∈
        s.host.reports)
  | refused (hissued : n < s.host.common.issued)
      (hnobody : ∀ other, ¬s.host.Carries other (Correlation.id n))
      (hquiet : Quiet s (Correlation.id n))

theorem not_awaited_of_not_carries {r : Resolver} {correlation : String}
    (h : ∀ id, ¬r.Carries id correlation) : ¬Awaited r correlation := by
  rintro ⟨id, t, wait, settings, ht, hphase⟩
  exact h id (carries_of_awaiting ht hphase)

theorem Fate.of_left {n : Nat} {s : Recorded Resolver} (h : Unanswered n s) {id : TaskId} {t : Task}
    {r' : Resolver} (hcarries : s.host.Carries id (Correlation.id n))
    (htask : s.host.tasks[id]? = some t)
    (hphase : ∀ wait correlation settings, t.phase ≠ .awaiting wait correlation settings)
    (hleaves : Leaves s.host id t r') : Fate n id { s with host := r' } := by
  have heffect : Effect s.host (.task id) r' := .left htask hphase hleaves
  have hissued := h.correlated.lt_of_carries hcarries
  have hnobody : ∀ other, ¬r'.Carries other (Correlation.id n) := by
    intro other hother
    rcases (hleaves.carries_iff other _).mp hother with ⟨hne, hbefore⟩
    exact hne (h.correlated.unique hcarries hbefore)
  have hparked : HasParked s.host (Correlation.id n) := by
    rcases hcarries with ⟨x, hx, hcorrelation⟩
    rw [htask] at hx
    cases hx
    rcases phase_of_correlation? hcorrelation with ⟨ticket, m, settings, hfetching⟩ |
      ⟨wait, settings, hawaiting⟩
    · exact ⟨id, t, ticket, m, settings, htask, hfetching⟩
    · exact absurd hawaiting (hphase _ _ _)
  refine .refused (Nat.lt_of_lt_of_le hissued heffect.issued_le) hnobody ?_
  exact (h.quiet (Or.inr hparked)).effect h.correlated h.foreign heffect (Or.inr hissued)
    (not_awaited_of_not_carries hnobody)

theorem Fate.of_concluded {n : Nat} {s : Recorded Resolver} (h : Unanswered n s) {id : TaskId}
    {t : Task} {wait : WaitId} {correlation : String} {settings : MetricSettings}
    {w : Wait Envelope} {r' : Resolver} (hcarries : s.host.Carries id (Correlation.id n))
    (htask : s.host.tasks[id]? = some t) (hphase : t.phase = .awaiting wait correlation settings)
    (hwait : s.host.correlator.waits[wait]? = some w)
    (hresult : (∃ reply place, w.slot = .filled reply place) ∨
      ∃ time, (time, id, Report.finished (.error (.timeout w.correlation w.timeout))) ∈
        r'.reports) : Fate n id { s with host := r' } := by
  have heq : correlation = Correlation.id n := by
    rcases hcarries with ⟨x, hx, hcorrelation⟩
    rw [htask] at hx
    cases hx
    rw [hphase] at hcorrelation
    cases hcorrelation
    rfl
  subst heq
  rcases h.waits htask hphase with ⟨w', hw', hid, hslot, _⟩
  rw [hwait] at hw'
  cases hw'
  rcases hresult with ⟨reply, place, hfilled⟩ | ⟨time, hreport⟩
  · rw [hslot] at hfilled
    cases hfilled
  · rw [hid] at hreport
    exact .expired time w.timeout hreport

theorem Fate.effect {n : Nat} {id : TaskId} {s : Recorded Resolver} (h : Fate n id s)
    (hunanswered : Unanswered n s) {cause : Cause} {r' : Resolver}
    (heffect : Effect s.host cause r') : Fate n id { s with host := r' } := by
  cases h with
  | carried hcarries =>
      have hcarries' := hcarries
      rcases hcarries with ⟨t, ht, hcorrelation⟩
      by_cases hcause : cause = .task id
      · subst hcause
        cases heffect with
        | background hb =>
            refine .carried ⟨t, ?_, hcorrelation⟩
            dsimp only
            rw [hb.tasks]
            exact ht
        | parked htask hphase hparks =>
            rw [htask] at ht
            cases ht
            rw [hphase] at hcorrelation
            cases hcorrelation
        | listened htask hphase hlistens =>
            rw [htask] at ht
            cases ht
            rcases hphase with hphase | ⟨ticket, m, settings, hphase⟩
            · rw [hphase] at hcorrelation
              cases hcorrelation
            · rw [hphase] at hcorrelation
              cases hcorrelation
              rcases hlistens.tasks with ⟨settings', htasks⟩
              exact .carried ⟨_, (replaced_of_insert htasks).self, rfl⟩
        | left htask hphase hleaves => exact .of_left hunanswered hcarries' htask hphase hleaves
        | concluded htask hphase hwait hresult hleaves =>
            exact .of_concluded hunanswered hcarries' htask hphase hwait hresult
      · refine .carried ⟨t, ?_, hcorrelation⟩
        exact (heffect.tasks_of_ne hcause (hunanswered.correlated.task_lt ht)).trans ht
  | expired time timeout hreport =>
      rcases heffect.reports with ⟨new, hnew, _⟩
      refine .expired time timeout ?_
      dsimp only
      rw [hnew]
      exact List.mem_append_right new hreport
  | refused hissued hnobody hquiet =>
      have hnobody' : ∀ other, ¬r'.Carries other (Correlation.id n) := by
        intro other hother
        rcases heffect.carries hother with hbefore | ⟨k, hk, _, heq⟩
        · exact hnobody other hbefore
        · rw [← Correlation.id_injective heq] at hk
          exact Nat.lt_irrefl n (Nat.lt_of_lt_of_le hissued hk)
      exact .refused (Nat.lt_of_lt_of_le hissued heffect.issued_le) hnobody'
        (hquiet.effect hunanswered.correlated hunanswered.foreign heffect (Or.inr hissued)
          (not_awaited_of_not_carries hnobody'))

theorem Fate.read {n : Nat} {id : TaskId} {s s' : Recorded Resolver} (h : Fate n id s)
    (hsame : SameButOutbox s.host s'.host) (hbrought : ∀ m, Brought s' m → Brought s m) :
    Fate n id s' := by
  cases h with
  | carried hcarries =>
      rcases hsame with ⟨outbox, heq⟩
      refine .carried ?_
      rw [heq]
      exact hcarries
  | expired time timeout hreport =>
      rcases hsame with ⟨outbox, heq⟩
      refine .expired time timeout ?_
      rw [heq]
      exact hreport
  | refused hissued hnobody hquiet =>
      have hquiet' := hquiet.read hsame hbrought
      rcases hsame with ⟨outbox, heq⟩
      refine .refused ?_ ?_ hquiet'
      · rw [heq]
        exact hissued
      · rw [heq]
        exact hnobody

theorem Fate.act {n : Nat} {id : TaskId} {s : Recorded Resolver} (h : Fate n id s)
    (hunanswered : Unanswered n s) (a : Act) : Fate n id (act s a) := by
  rcases act_cases s a with heq | rfl | rfl
  · rw [heq]
    exact h.effect hunanswered (effect_actOn s.host a)
  · exact h.read (sameButOutbox_take s) fun m => (brought_take s m).mp
  · exact h.read (sameButOutbox_closeOutbox s) fun _ => brought_closeOutbox

theorem Fate.run {n : Nat} {id : TaskId} {s : Recorded Resolver} (h : Fate n id s)
    (hunanswered : Unanswered n s) {acts : List Act}
    (havoids : ∀ a ∈ acts, a.cause.Avoids (Correlation.id n)) :
    Unanswered n (run s acts) ∧ Fate n id (run s acts) := by
  have hact : ∀ (s : Recorded Resolver) (a : Act), a.cause.Avoids (Correlation.id n) →
      Unanswered n s ∧ Fate n id s →
      Unanswered n (Fetching.act s a) ∧ Fate n id (Fetching.act s a) := by
    rintro s a ha ⟨hs, hfate⟩
    exact ⟨hs.act ha, hfate.act hs a⟩
  exact run_induction hact ⟨hunanswered, h⟩ havoids

theorem Fate.open_of_left {n : Nat} {id : TaskId} {s : Recorded Resolver} (h : Fate n id s)
    (hunanswered : Unanswered n s)
    (hleft : ∃ x ∈ s.published, x.2.envelope.correlation = Correlation.id n)
    (hwaits : ∀ time timeout,
      (time, id, Report.finished (.error (.timeout (Correlation.id n) timeout))) ∉
        s.host.reports) :
    ∃ (t : Task) (wait : WaitId) (settings : MetricSettings), s.host.tasks[id]? = some t ∧
      t.phase = .awaiting wait (Correlation.id n) settings ∧
      s.host.correlator.Open wait (Correlation.id n) := by
  have hloud : ¬Quiet s (Correlation.id n) := by
    intro hquiet
    rcases hleft with ⟨x, hx, hid⟩
    exact hquiet.brought (Or.inl ⟨x, hx, rfl⟩) hid
  cases h with
  | carried hcarries =>
      rcases hcarries with ⟨t, ht, hcorrelation⟩
      rcases phase_of_correlation? hcorrelation with ⟨ticket, m, settings, hphase⟩ |
        ⟨wait, settings, hphase⟩
      · exact absurd (hunanswered.quiet (Or.inr ⟨id, t, ticket, m, settings, ht, hphase⟩)) hloud
      · exact ⟨t, wait, settings, ht, hphase, hunanswered.waits ht hphase⟩
  | expired time timeout hreport => exact absurd hreport (hwaits time timeout)
  | refused _ _ hquiet => exact absurd hquiet hloud

end Fetching
end MetricGateway
