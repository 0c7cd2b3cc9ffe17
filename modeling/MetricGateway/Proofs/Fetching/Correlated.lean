import MetricGateway.Proofs.Fetching.Frames
import MetricGateway.Proofs.Fetching.Outbox
import MetricGateway.Proofs.Fetching.Waits

/-!
# Tasks, waits and ids

Every id that a task fetches under was given out, and to this task only.  A task that waits for a
reply has a wait of its own under its id, which is open or has been reached by a reply under this
id; and whatever is registered under an id is the wait of the task that fetches under it.
-/

namespace MetricGateway
namespace Fetching

open Resolver (TaskId Task Carries)

structure Correlated (r : Resolver) : Prop where
  task_lt : ∀ {id : TaskId} {t : Task}, r.tasks[id]? = some t → id < r.started
  wait_lt : ∀ {wait : WaitId} {w : Wait Envelope}, r.correlator.waits[wait]? = some w →
    wait < r.correlator.started
  given : ∀ {id : TaskId} {correlation : String}, r.Carries id correlation →
    ∃ n, n < r.common.issued ∧ correlation = Correlation.id n
  unique : ∀ {id other : TaskId} {correlation : String}, r.Carries id correlation →
    r.Carries other correlation → id = other
  fetching : ∀ {id : TaskId} {t : Task} {ticket : Ticket} {m : Message} {correlation : String}
    {settings : MetricSettings}, r.tasks[id]? = some t →
    t.phase = .fetching ticket m correlation settings → m.envelope.correlation = correlation
  awaiting : ∀ {id : TaskId} {t : Task} {wait : WaitId} {correlation : String}
    {settings : MetricSettings}, r.tasks[id]? = some t →
    t.phase = .awaiting wait correlation settings →
    r.correlator.Open wait correlation ∨
      ∃ e : Envelope, e.correlation = correlation ∧ r.correlator.Handed wait correlation e
  registered : ∀ {correlation : String} {reg : Registration},
    r.correlator.registered[correlation]? = some reg →
    ∃ (id : TaskId) (t : Task) (settings : MetricSettings), r.tasks[id]? = some t ∧
      t.phase = .awaiting reg.wait correlation settings

theorem carries_of_fetching {r : Resolver} {id : TaskId} {t : Task} {ticket : Ticket}
    {m : Message} {correlation : String} {settings : MetricSettings}
    (htask : r.tasks[id]? = some t) (hphase : t.phase = .fetching ticket m correlation settings) :
    r.Carries id correlation :=
  ⟨t, htask, by rw [hphase]; rfl⟩

theorem carries_of_awaiting {r : Resolver} {id : TaskId} {t : Task} {wait : WaitId}
    {correlation : String} {settings : MetricSettings} (htask : r.tasks[id]? = some t)
    (hphase : t.phase = .awaiting wait correlation settings) : r.Carries id correlation :=
  ⟨t, htask, by rw [hphase]; rfl⟩

theorem Correlated.open_or_handed {r : Resolver} (h : Correlated r) {id : TaskId} {t : Task}
    {wait : WaitId} {correlation : String} {settings : MetricSettings}
    (htask : r.tasks[id]? = some t) (hphase : t.phase = .awaiting wait correlation settings) :
    r.correlator.Open wait correlation ∨ ∃ e, r.correlator.Handed wait correlation e := by
  rcases h.awaiting htask hphase with hopen | ⟨e, _, hhanded⟩
  · exact Or.inl hopen
  · exact Or.inr ⟨e, hhanded⟩

theorem Replaced.task_lt {r r' : Resolver} {id : TaskId} {t : Task} {t' : Option Task}
    (h : Replaced r id t' r') (hr : Correlated r) (htask : r.tasks[id]? = some t)
    (hstarted : r'.started = r.started) {other : TaskId} {x : Task}
    (hx : r'.tasks[other]? = some x) : other < r'.started := by
  rw [hstarted]
  by_cases hother : id = other
  · exact hother ▸ hr.task_lt htask
  · exact hr.task_lt (h.of_ne hother ▸ hx)

theorem correlated_of_empty {r : Resolver} (htasks : r.tasks = ∅)
    (hwaits : r.correlator.waits = ∅) (hregistered : r.correlator.registered = ∅) :
    Correlated r := by
  have hnone : ∀ {id : TaskId} {t : Task}, r.tasks[id]? ≠ some t := by
    rw [htasks]
    simp
  have hcarries : ∀ {id : TaskId} {correlation : String}, ¬r.Carries id correlation := by
    rintro id correlation ⟨t, ht, _⟩
    exact hnone ht
  refine {
    task_lt := fun ht => absurd ht hnone
    wait_lt := ?_
    given := fun hid => absurd hid hcarries
    unique := fun hid => absurd hid hcarries
    fetching := fun ht => absurd ht hnone
    awaiting := fun ht => absurd ht hnone
    registered := ?_ }
  · rw [hwaits]
    simp
  · rw [hregistered]
    simp

theorem Correlated.not_carries_of_given {r r' : Resolver} (h : Correlated r) {correlation : String}
    (hgiven : GivenOut r r' correlation) (id : TaskId) : ¬r.Carries id correlation := by
  intro hcarries
  rcases h.given hcarries with ⟨n, hn, heq⟩
  rcases hgiven with ⟨n', hn', _, heq'⟩
  have hsame := Correlation.id_injective (heq.symm.trans heq')
  omega

/-- A task that has no wait yet has nothing registered under the id that it is to wait under. -/
theorem Correlated.registered_eq_none {r r' : Resolver} (h : Correlated r) {id : TaskId} {t : Task}
    {correlation : String} (htask : r.tasks[id]? = some t)
    (hphase : ∀ wait settings, t.phase ≠ .awaiting wait correlation settings)
    (hgiven : GivenOut r r' correlation ∨ r.Carries id correlation) :
    r.correlator.registered[correlation]? = none := by
  cases hreg : r.correlator.registered[correlation]? with
  | none => rfl
  | some reg =>
      rcases h.registered hreg with ⟨other, t', settings, htask', hawaiting⟩
      have hcarries := carries_of_awaiting htask' hawaiting
      rcases hgiven with hgiven | hown
      · exact absurd hcarries (h.not_carries_of_given hgiven other)
      · have hsame := h.unique hown hcarries
        subst hsame
        rw [htask] at htask'
        cases htask'
        exact absurd hawaiting (hphase _ _)

/-!
## Every effect keeps tasks, waits and ids together
-/

theorem Correlated.given_effect {r r' : Resolver} {cause : Cause} (h : Correlated r)
    (heffect : Effect r cause r') {id : TaskId} {correlation : String}
    (hcarries : r'.Carries id correlation) :
    ∃ n, n < r'.common.issued ∧ correlation = Correlation.id n := by
  rcases heffect.carries hcarries with hbefore | ⟨n, _, hn, heq⟩
  · rcases h.given hbefore with ⟨n, hn, heq⟩
    exact ⟨n, Nat.lt_of_lt_of_le hn heffect.issued_le, heq⟩
  · exact ⟨n, hn, heq⟩

theorem Correlated.unique_replaced {r r' : Resolver} (h : Correlated r) {id : TaskId} {t' : Task}
    {correlation : String} (hreplaced : Replaced r id (some t') r')
    (hself : t'.phase.correlation? = some correlation)
    (hunused : ∀ {other : TaskId}, id ≠ other → ¬r.Carries other correlation)
    {x y : TaskId} {correlation' : String} (hx : r'.Carries x correlation')
    (hy : r'.Carries y correlation') : x = y := by
  have hcarries : ∀ {other : TaskId}, r'.Carries other correlation' →
      id = other ∧ correlation = correlation' ∨ id ≠ other ∧ r.Carries other correlation' := by
    intro other hother
    by_cases heq : id = other
    · subst heq
      rcases hother with ⟨t, ht, hcorrelation⟩
      rw [hreplaced.self] at ht
      cases ht
      exact Or.inl ⟨rfl, Option.some.inj (hself.symm.trans hcorrelation)⟩
    · exact Or.inr ⟨heq, (hreplaced.carries_of_ne heq).mp hother⟩
  rcases hcarries hx with ⟨rfl, rfl⟩ | ⟨hne, hbefore⟩ <;>
    rcases hcarries hy with ⟨rfl, heq⟩ | ⟨hne', hbefore'⟩
  · rfl
  · exact absurd hbefore' (hunused hne')
  · exact absurd hbefore (heq ▸ hunused hne)
  · exact h.unique hbefore hbefore'

theorem Correlated.of_eq {r r' : Resolver} (h : Correlated r) (htasks : r'.tasks = r.tasks)
    (hcorrelator : r'.correlator = r.correlator) (hstarted : r'.started = r.started)
    (hissued : r.common.issued ≤ r'.common.issued) : Correlated r' where
  task_lt := by
    rw [htasks, hstarted]
    exact h.task_lt
  wait_lt := by
    rw [hcorrelator]
    exact h.wait_lt
  given := by
    rintro id correlation ⟨t, ht, hcarries⟩
    rcases h.given ⟨t, htasks ▸ ht, hcarries⟩ with ⟨n, hn, heq⟩
    exact ⟨n, Nat.lt_of_lt_of_le hn hissued, heq⟩
  unique := by
    unfold Carries
    rw [htasks]
    exact h.unique
  fetching := by
    rw [htasks]
    exact h.fetching
  awaiting := by
    rw [htasks, hcorrelator]
    exact h.awaiting
  registered := by
    rw [htasks, hcorrelator]
    exact h.registered

theorem Correlated.background {r r' : Resolver} {own : List Message} (h : Correlated r)
    (hb : Background r own r') : Correlated r' :=
  h.of_eq hb.tasks hb.correlator hb.started hb.emits.issued_le

theorem Correlated.started {r : Resolver} (h : Correlated r) (request : MetricRequest)
    (requester : Resolver.Requester) (timeout : Duration) :
    Correlated (r.start request requester timeout).1 := by
  have hreplaced := replaced_start r request requester timeout
  have hnew : ∀ {id : TaskId} {t : Task}, r.tasks[id]? = some t → r.started ≠ id := by
    intro id t ht heq
    subst heq
    exact Nat.lt_irrefl r.started (h.task_lt ht)
  have hcarries : ∀ {id : TaskId} {correlation : String},
      (r.start request requester timeout).1.Carries id correlation → r.Carries id correlation := by
    rintro id correlation ⟨t, ht, hphase⟩
    rw [hreplaced id] at ht
    split at ht
    · cases ht
      cases hphase
    · exact ⟨t, ht, hphase⟩
  refine {
    task_lt := ?_
    wait_lt := h.wait_lt
    given := fun hid => h.given (hcarries hid)
    unique := fun hid hother => h.unique (hcarries hid) (hcarries hother)
    fetching := ?_
    awaiting := ?_
    registered := ?_ }
  · intro id t ht
    rw [hreplaced id] at ht
    split at ht
    next heq => exact heq ▸ Nat.lt_succ_self r.started
    next => exact Nat.lt_succ_of_lt (h.task_lt ht)
  · intro id t ticket m correlation settings ht hphase
    rw [hreplaced id] at ht
    split at ht
    · cases ht
      cases hphase
    · exact h.fetching ht hphase
  · intro id t wait correlation settings ht hphase
    rw [hreplaced id] at ht
    split at ht
    · cases ht
      cases hphase
    · exact h.awaiting ht hphase
  · intro correlation reg hreg
    rcases h.registered hreg with ⟨id, t, settings, ht, hphase⟩
    exact ⟨id, t, settings, (hreplaced.of_ne (hnew ht)).trans ht, hphase⟩

/-- A task leaves off, while the waits of the others and what is registered for them stay. -/
theorem Correlated.leaves {r r' : Resolver} (h : Correlated r) {id : TaskId} {t : Task}
    {k : Correlator Envelope} (htask : r.tasks[id]? = some t)
    (hleaves : Leaves { r with correlator := k } id t r')
    (hwaits : ∀ {wait : WaitId} {w : Wait Envelope}, k.waits[wait]? = some w →
      wait < k.started)
    (hsame : ∀ {other : TaskId} {t' : Task} {wait : WaitId} {correlation : String}
      {settings : MetricSettings}, id ≠ other → r.tasks[other]? = some t' →
      t'.phase = .awaiting wait correlation settings → r.correlator.SameAt wait correlation k)
    (hregistered : ∀ {correlation : String} {reg : Registration},
      k.registered[correlation]? = some reg →
      r.correlator.registered[correlation]? = some reg ∧
        ∀ settings, t.phase ≠ .awaiting reg.wait correlation settings) : Correlated r' := by
  rcases hleaves.replaced with ⟨t', hreplaced, hleft⟩
  replace hreplaced : Replaced r id t' r' := hreplaced
  have hcarries : ∀ {other : TaskId} {correlation : String}, r'.Carries other correlation →
      r.Carries other correlation :=
    fun hother => ((hleaves.carries_iff _ _).mp hother).2
  have hother : ∀ {other : TaskId} {x : Task}, r'.tasks[other]? = some x →
      x.phase.correlation? ≠ none → id ≠ other ∧ r.tasks[other]? = some x := by
    intro other x hx hcorrelation
    rw [hreplaced other] at hx
    split at hx
    next => exact absurd (hleft x hx).1 hcorrelation
    next hne => exact ⟨hne, hx⟩
  refine {
    task_lt := ?_
    wait_lt := ?_
    given := ?_
    unique := fun hid hid' => h.unique (hcarries hid) (hcarries hid')
    fetching := ?_
    awaiting := ?_
    registered := ?_ }
  · intro other x hx
    exact hreplaced.task_lt h htask hleaves.started hx
  · rw [hleaves.correlator]
    exact hwaits
  · intro other correlation hid
    rcases h.given (hcarries hid) with ⟨n, hn, heq⟩
    rcases hleaves.emits with ⟨own, hemits, _⟩
    exact ⟨n, Nat.lt_of_lt_of_le hn hemits.issued_le, heq⟩
  · intro other x ticket m correlation settings hx hphase
    exact h.fetching (hother hx (by rw [hphase]; exact Option.some_ne_none _)).2 hphase
  · intro other x wait correlation settings hx hphase
    rcases hother hx (by rw [hphase]; exact Option.some_ne_none _) with ⟨hne, hx'⟩
    rw [hleaves.correlator]
    rcases h.awaiting hx' hphase with hopen | ⟨e, he, hhanded⟩
    · exact Or.inl (hopen.of_sameAt (hsame hne hx' hphase))
    · exact Or.inr ⟨e, he, hhanded.of_sameAt (hsame hne hx' hphase)⟩
  · intro correlation reg hreg
    rw [hleaves.correlator] at hreg
    rcases hregistered hreg with ⟨hbefore, hnot⟩
    rcases h.registered hbefore with ⟨other, x, settings, hx, hphase⟩
    refine ⟨other, x, settings, ?_, hphase⟩
    rw [hreplaced.of_ne]
    · exact hx
    · intro heq
      subst heq
      rw [htask] at hx
      cases hx
      exact hnot settings hphase

theorem Correlated.left {r r' : Resolver} (h : Correlated r) {id : TaskId} {t : Task}
    (htask : r.tasks[id]? = some t)
    (hphase : ∀ wait correlation settings, t.phase ≠ .awaiting wait correlation settings)
    (hleaves : Leaves r id t r') : Correlated r' :=
  h.leaves htask hleaves h.wait_lt (fun _ _ _ => ⟨rfl, rfl⟩) fun hreg =>
    ⟨hreg, fun settings => hphase _ _ settings⟩

theorem Correlated.wait_ne {r : Resolver} (h : Correlated r) {id other : TaskId} {t x : Task}
    {wait wait' : WaitId} {correlation correlation' : String} {settings settings' : MetricSettings}
    (hne : id ≠ other) (ht : r.tasks[id]? = some t)
    (hphase : t.phase = .awaiting wait correlation settings) (hx : r.tasks[other]? = some x)
    (hphase' : x.phase = .awaiting wait' correlation' settings') :
    correlation ≠ correlation' ∧ wait ≠ wait' := by
  have hids : correlation ≠ correlation' := by
    intro heq
    subst heq
    exact hne (h.unique (carries_of_awaiting ht hphase) (carries_of_awaiting hx hphase'))
  refine ⟨hids, ?_⟩
  intro heq
  subst heq
  have hwait : ∃ w, r.correlator.waits[wait]? = some w ∧ w.correlation = correlation := by
    rcases h.awaiting ht hphase with ⟨w, hw, hid, _⟩ | ⟨e, _, w, place, hw, hid, _⟩
    · exact ⟨w, hw, hid⟩
    · exact ⟨w, hw, hid⟩
  have hwait' : ∃ w, r.correlator.waits[wait]? = some w ∧ w.correlation = correlation' := by
    rcases h.awaiting hx hphase' with ⟨w, hw, hid, _⟩ | ⟨e, _, w, place, hw, hid, _⟩
    · exact ⟨w, hw, hid⟩
    · exact ⟨w, hw, hid⟩
  rcases hwait with ⟨w, hw, hid⟩
  rcases hwait' with ⟨w', hw', hid'⟩
  rw [hw] at hw'
  cases hw'
  exact hids (hid.symm.trans hid')

theorem Correlated.concluded {r r' : Resolver} (h : Correlated r) {id : TaskId} {t : Task}
    {wait : WaitId} {correlation : String} {settings : MetricSettings}
    (htask : r.tasks[id]? = some t) (hphase : t.phase = .awaiting wait correlation settings)
    (hleaves : Leaves { r with correlator := r.correlator.finish wait } id t r') :
    Correlated r' := by
  have hown := h.open_or_handed htask hphase
  refine h.leaves htask hleaves ?_ ?_ ?_
  · intro other w hw
    rw [Correlator.waits_finish hown, Std.ExtTreeMap.getElem?_erase] at hw
    rw [Correlator.started_finish]
    split at hw
    · cases hw
    · exact h.wait_lt hw
  · intro other x wait' correlation' settings' hne hx hphase'
    rcases h.wait_ne hne htask hphase hx hphase' with ⟨hids, hwaits⟩
    exact Correlator.sameAt_finish hown hids hwaits
  · intro correlation' reg hreg
    rw [Correlator.registered_finish hown] at hreg
    split at hreg
    next => cases hreg
    next hne =>
      refine ⟨hreg, ?_⟩
      intro settings' hphase'
      rw [hphase] at hphase'
      cases hphase'
      exact hne rfl

theorem Correlated.parked {r r' : Resolver} (h : Correlated r) {id : TaskId} {t : Task}
    {correlation : String} (htask : r.tasks[id]? = some t) (hphase : t.phase = .starting)
    (hparks : ParksFetch r id t correlation r') : Correlated r' := by
  rcases hparks.tasks with ⟨ticket, m, settings, hm, htasks⟩
  have hreplaced := replaced_of_insert htasks
  have hfresh := h.not_carries_of_given hparks.given
  refine {
    task_lt := hreplaced.task_lt h htask hparks.started
    wait_lt := ?_
    given := h.given_effect (.parked htask hphase hparks)
    unique := h.unique_replaced hreplaced rfl fun {other} _ => hfresh other
    fetching := ?_
    awaiting := ?_
    registered := ?_ }
  · rw [hparks.correlator]
    exact h.wait_lt
  · intro other x ticket' m' correlation' settings' hx hphase'
    rw [hreplaced other] at hx
    split at hx
    · cases hx
      cases hphase'
      exact hm
    · exact h.fetching hx hphase'
  · intro other x wait correlation' settings' hx hphase'
    rw [hreplaced other] at hx
    rw [hparks.correlator]
    split at hx
    · cases hx
      cases hphase'
    · exact h.awaiting hx hphase'
  · intro correlation' reg hreg
    rw [hparks.correlator] at hreg
    rcases h.registered hreg with ⟨other, x, settings', hx, hphase'⟩
    refine ⟨other, x, settings', ?_, hphase'⟩
    rw [hreplaced.of_ne]
    · exact hx
    · intro heq
      subst heq
      rw [htask] at hx
      cases hx
      rw [hphase] at hphase'
      cases hphase'

/-- A task that begins to wait uses an id that is its own: nobody else fetches under it. -/
theorem Correlated.unused {r r' : Resolver} (h : Correlated r) {id : TaskId} {t : Task}
    {correlation : String} (htask : r.tasks[id]? = some t)
    (hlistens : Listens r id t correlation r') :
    (GivenOut r r' correlation ∨ r.Carries id correlation) ∧
      ∀ {other : TaskId}, id ≠ other → ¬r.Carries other correlation := by
  have hgiven : GivenOut r r' correlation ∨ r.Carries id correlation := by
    rcases hlistens.given with hgiven | ⟨ticket, m, settings, hfetching⟩
    · exact Or.inl hgiven
    · exact Or.inr (carries_of_fetching htask hfetching)
  refine ⟨hgiven, ?_⟩
  intro other hne hother
  rcases hgiven with hgiven | hown
  · exact h.not_carries_of_given hgiven other hother
  · exact hne (h.unique hown hother)

theorem Correlated.waits_listened {r r' : Resolver} (h : Correlated r) {id : TaskId} {t : Task}
    {correlation : String} (htask : r.tasks[id]? = some t)
    (hphase : t.phase = .starting ∨
      ∃ ticket m settings, t.phase = .fetching ticket m correlation settings)
    (hlistens : Listens r id t correlation r') :
    r.correlator.registered[correlation]? = none ∧
      r'.correlator.Open r.correlator.started correlation ∧
      ∀ {other : TaskId} {x : Task} {wait : WaitId} {correlation' : String}
        {settings : MetricSettings}, id ≠ other → r.tasks[other]? = some x →
        x.phase = .awaiting wait correlation' settings →
        r.correlator.SameAt wait correlation' r'.correlator := by
  rcases h.unused htask hlistens with ⟨hgiven, hunused⟩
  rcases hlistens.correlator with ⟨now, hcorrelator⟩
  have hnot : ∀ wait settings, t.phase ≠ .awaiting wait correlation settings := by
    rcases hphase with hphase | ⟨ticket, m, settings, hphase⟩ <;> simp [hphase]
  have hfree := h.registered_eq_none htask hnot hgiven
  rw [hcorrelator]
  refine ⟨hfree, Correlator.open_listen hfree t.timeout now, ?_⟩
  intro other x wait correlation' settings hne hx hphase'
  apply Correlator.sameAt_listen hfree
  · intro heq
    subst heq
    exact hunused hne (carries_of_awaiting hx hphase')
  · intro heq
    subst heq
    rcases h.awaiting hx hphase' with ⟨w, hw, _⟩ | ⟨e, _, w, place, hw, _⟩
    · exact Nat.lt_irrefl _ (h.wait_lt hw)
    · exact Nat.lt_irrefl _ (h.wait_lt hw)

theorem Correlated.listened {r r' : Resolver} (h : Correlated r) {id : TaskId} {t : Task}
    {correlation : String} (htask : r.tasks[id]? = some t)
    (hphase : t.phase = .starting ∨
      ∃ ticket m settings, t.phase = .fetching ticket m correlation settings)
    (hlistens : Listens r id t correlation r') : Correlated r' := by
  rcases h.unused htask hlistens with ⟨hgiven, hunused⟩
  rcases h.waits_listened htask hphase hlistens with ⟨hfree, hopen, hothers⟩
  rcases hlistens.tasks with ⟨settings, htasks⟩
  rcases hlistens.correlator with ⟨now, hcorrelator⟩
  have hreplaced := replaced_of_insert htasks
  refine {
    task_lt := hreplaced.task_lt h htask hlistens.started
    wait_lt := ?_
    given := h.given_effect (.listened htask hphase hlistens)
    unique := h.unique_replaced hreplaced rfl hunused
    fetching := ?_
    awaiting := ?_
    registered := ?_ }
  · intro wait w hw
    rw [hcorrelator, Correlator.listen_eq hfree] at hw ⊢
    rw [Std.ExtTreeMap.getElem?_insert] at hw
    split at hw
    next heq =>
      rw [Std.LawfulEqOrd.compare_eq_iff_eq] at heq
      exact heq ▸ Nat.lt_succ_self _
    next => exact Nat.lt_succ_of_lt (h.wait_lt hw)
  · intro other x ticket m correlation' settings' hx hphase'
    rw [hreplaced other] at hx
    split at hx
    · cases hx
      cases hphase'
    · exact h.fetching hx hphase'
  · intro other x wait correlation' settings' hx hphase'
    rw [hreplaced other] at hx
    split at hx
    · cases hx
      cases hphase'
      exact Or.inl hopen
    next hne =>
      have hsame := hothers hne hx hphase'
      rcases h.awaiting hx hphase' with hopen' | ⟨e, he, hhanded⟩
      · exact Or.inl (hopen'.of_sameAt hsame)
      · exact Or.inr ⟨e, he, hhanded.of_sameAt hsame⟩
  · intro correlation' reg hreg
    rw [hcorrelator, Correlator.listen_eq hfree, Std.ExtTreeMap.getElem?_insert] at hreg
    split at hreg
    next heq =>
      rw [Std.LawfulEqOrd.compare_eq_iff_eq] at heq
      subst heq
      cases hreg
      exact ⟨id, _, settings, hreplaced.self, rfl⟩
    next =>
      rcases h.registered hreg with ⟨other, x, settings', hx, hphase'⟩
      refine ⟨other, x, settings', ?_, hphase'⟩
      rw [hreplaced.of_ne]
      · exact hx
      · intro heq
        subst heq
        rw [htask] at hx
        cases hx
        rcases hphase with hphase | ⟨ticket, m, settings'', hphase⟩ <;>
          rw [hphase] at hphase' <;> cases hphase'

theorem Correlated.open_of_registered {r : Resolver} (h : Correlated r) {correlation : String}
    {reg : Registration} (hreg : r.correlator.registered[correlation]? = some reg) :
    ∃ (id : TaskId) (t : Task) (settings : MetricSettings), r.tasks[id]? = some t ∧
      t.phase = .awaiting reg.wait correlation settings ∧
      r.correlator.Open reg.wait correlation := by
  rcases h.registered hreg with ⟨id, t, settings, htask, hphase⟩
  refine ⟨id, t, settings, htask, hphase, ?_⟩
  rcases h.awaiting htask hphase with hopen | ⟨e', _, w, place, _, _, _, hfree⟩
  · exact hopen
  · rw [hreg] at hfree
    cases hfree

/-- A reply that is routed reaches the open wait under its id, or nothing changes. -/
theorem Correlated.route_cases {r : Resolver} (h : Correlated r) (e : Envelope) :
    Background r [] (r.route e).1 ∨
      ∃ (id : TaskId) (t : Task) (wait : WaitId) (settings : MetricSettings),
        r.tasks[id]? = some t ∧ t.phase = .awaiting wait e.correlation settings ∧
        r.correlator.Open wait e.correlation ∧
        (r.route e).2 = true ∧
        (r.route e).1 = { r with correlator := (r.correlator.send e.correlation e).1 } := by
  unfold Resolver.route
  split
  · exact Or.inl (still_count r _).background
  · cases hreg : r.correlator.registered[e.correlation]? with
    | none =>
        rw [Correlator.send_of_free hreg]
        exact Or.inl (still_count r _).background
    | some reg =>
        rcases h.open_of_registered hreg with ⟨id, t, settings, htask, hphase, hopen⟩
        rcases Correlator.send_of_open hopen e with ⟨w, hw, hid, hsend⟩
        rw [hsend]
        exact Or.inr ⟨id, t, reg.wait, settings, htask, hphase, hopen, rfl, rfl⟩

theorem Correlated.routed {r : Resolver} (h : Correlated r) (e : Envelope) :
    Correlated (r.route e).1 := by
  rcases h.route_cases e with hbackground | ⟨id, t, wait, settings, htask, hphase, hopen, _, heq⟩
  · exact h.background hbackground
  · rw [heq]
    rcases Correlator.send_of_open hopen e with ⟨w, hw, _, hsend⟩
    refine {
      task_lt := h.task_lt
      wait_lt := ?_
      given := h.given
      unique := h.unique
      fetching := h.fetching
      awaiting := ?_
      registered := ?_ }
    · intro other x hx
      dsimp only at hx ⊢
      rw [Correlator.started_send]
      rw [hsend] at hx
      dsimp only at hx
      rw [Std.ExtTreeMap.getElem?_insert] at hx
      split at hx
      next heq' =>
        rw [Std.LawfulEqOrd.compare_eq_iff_eq] at heq'
        exact heq' ▸ h.wait_lt hw
      next => exact h.wait_lt hx
    · intro other x wait' correlation' settings' hx hphase'
      by_cases hne : id = other
      · subst hne
        rw [htask] at hx
        cases hx
        rw [hphase] at hphase'
        cases hphase'
        exact Or.inr ⟨e, rfl, Correlator.handed_send hopen e⟩
      · rcases h.wait_ne hne htask hphase hx hphase' with ⟨hids, hwaits⟩
        have hsame := Correlator.sameAt_send hopen hids hwaits e
        rcases h.awaiting hx hphase' with hopen' | ⟨e', he', hhanded⟩
        · exact Or.inl (hopen'.of_sameAt hsame)
        · exact Or.inr ⟨e', he', hhanded.of_sameAt hsame⟩
    · intro correlation' reg hreg
      rw [hsend] at hreg
      dsimp only at hreg
      rw [Std.ExtTreeMap.getElem?_erase] at hreg
      split at hreg
      · cases hreg
      · exact h.registered hreg

theorem Correlated.effect {r r' : Resolver} {cause : Cause} (h : Correlated r)
    (heffect : Effect r cause r') : Correlated r' := by
  cases heffect with
  | background hb => exact h.background hb
  | started request requester timeout => exact h.started request requester timeout
  | routed e => exact h.routed e
  | parked htask hphase hparks => exact h.parked htask hphase hparks
  | listened htask hphase hlistens => exact h.listened htask hphase hlistens
  | left htask hphase hleaves => exact h.left htask hphase hleaves
  | concluded htask hphase _ _ hleaves => exact h.concluded htask hphase hleaves

theorem Correlated.read {r r' : Resolver} (h : Correlated r) (hsame : SameButOutbox r r') :
    Correlated r' := by
  rcases hsame with ⟨outbox, rfl⟩
  exact h.of_eq rfl rfl rfl (Nat.le_refl _)

theorem Correlated.act {s : Recorded Resolver} (h : Correlated s.host) (a : Act) :
    Correlated (act s a).host := by
  rcases act_cases s a with heq | rfl | rfl
  · rw [heq]
    exact h.effect (effect_actOn s.host a)
  · exact h.read (sameButOutbox_take s)
  · exact h.read (sameButOutbox_closeOutbox s)

theorem Correlated.task_of_ne {r r' : Resolver} {cause : Cause} (h : Correlated r)
    (heffect : Effect r cause r') {id : TaskId} {t : Task} (hcause : cause ≠ .task id)
    (ht : r'.tasks[id]? = some t) : r.tasks[id]? = some t ∨ t.phase = .starting := by
  by_cases hid : id < r.started
  · left
    rw [← heffect.tasks_of_ne hcause hid]
    exact ht
  · rcases heffect.started_cases with heq | ⟨request, requester, timeout, heq⟩
    · have hlt := (h.effect heffect).task_lt ht
      exact absurd (heq ▸ hlt) hid
    · right
      rw [heq, replaced_start r request requester timeout id] at ht
      split at ht
      · cases ht
        rfl
      · exact absurd (h.task_lt ht) hid

/-!
## A task that waits
-/

/-- A reply that is not for a wait, or comes too late for it, leaves it as it was. -/
theorem Correlated.waits_routed {r : Resolver} (h : Correlated r) {e : Envelope} {id : TaskId}
    {t : Task} {wait : WaitId} {correlation : String} {settings : MetricSettings}
    (htask : r.tasks[id]? = some t) (hphase : t.phase = .awaiting wait correlation settings)
    (he : e.correlation ≠ correlation ∨ ∃ e', r.correlator.Handed wait correlation e') :
    r.correlator.SameAt wait correlation (r.route e).1.correlator := by
  rcases h.route_cases e with hb | ⟨other, x, wait', settings', hx, hphase', hopen, _, heq⟩
  · rw [hb.correlator]
    exact ⟨rfl, rfl⟩
  · rw [heq]
    have hne : other ≠ id := by
      intro hsame
      subst hsame
      rw [htask] at hx
      cases hx
      rw [hphase] at hphase'
      cases hphase'
      rcases he with he | ⟨e', w, place, hw, _, hslot, _⟩
      · exact he rfl
      · rcases hopen with ⟨w', hw', _, hslot', _⟩
        rw [hw] at hw'
        cases hw'
        rw [hslot] at hslot'
        cases hslot'
    rcases h.wait_ne hne hx hphase' htask hphase with ⟨hids, hwaits⟩
    exact Correlator.sameAt_send hopen hids hwaits e

theorem Correlated.waits_effect {r r' : Resolver} {cause : Cause} (h : Correlated r)
    (heffect : Effect r cause r') {id : TaskId} {t : Task} {wait : WaitId} {correlation : String}
    {settings : MetricSettings} (htask : r.tasks[id]? = some t)
    (hphase : t.phase = .awaiting wait correlation settings) (hcause : cause ≠ .task id)
    (hreply : ∀ e, cause = .reply e →
      e.correlation ≠ correlation ∨ ∃ e', r.correlator.Handed wait correlation e') :
    r'.tasks[id]? = some t ∧ r.correlator.SameAt wait correlation r'.correlator := by
  refine ⟨(heffect.tasks_of_ne hcause (h.task_lt htask)).trans htask, ?_⟩
  cases heffect with
  | background hb =>
      rw [hb.correlator]
      exact ⟨rfl, rfl⟩
  | started request requester timeout => exact ⟨rfl, rfl⟩
  | routed e => exact h.waits_routed htask hphase (hreply e rfl)
  | parked _ _ hparks =>
      rw [hparks.correlator]
      exact ⟨rfl, rfl⟩
  | listened hx hstart hlistens =>
      rcases h.waits_listened hx hstart hlistens with ⟨_, _, hothers⟩
      exact hothers (fun heq => hcause (by rw [heq])) htask hphase
  | left _ _ hleaves =>
      rw [hleaves.correlator]
      exact ⟨rfl, rfl⟩
  | concluded hx hwaiting _ _ hleaves =>
      rcases h.wait_ne (fun heq => hcause (by rw [heq])) hx hwaiting htask hphase with
        ⟨hids, hwaits⟩
      rw [hleaves.correlator]
      exact Correlator.sameAt_finish (h.open_or_handed hx hwaiting) hids hwaits

end Fetching
end MetricGateway
