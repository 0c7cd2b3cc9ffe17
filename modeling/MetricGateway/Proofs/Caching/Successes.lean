import MetricGateway.Proofs.Caching.Deposits
import MetricGateway.Proofs.Caching.Settings
import MetricGateway.Proofs.Fetching.Replies
import MetricGateway.Proofs.Text.Numbers

/-!
# Which replies are stored

A reply is stored if its type field writes the status of success.  A type field that writes another
status, or a number that is congruent to that of success, or no number at all, leaves the cache, the
cached settings and the history as they are, whether the reply is one to a fetch or one to a poll.
-/

namespace MetricGateway
namespace Fetching

open Resolver (TaskId Task)

/-- A reply reaches somebody who may store it: the task that has made the fetch takes its step, or
the reply is one to a poll. -/
inductive Brings (r : Resolver) (reply : Envelope) : Act → Prop where
  | fetched {id : TaskId} {t : Task} {wait : WaitId} {correlation : String}
      {settings : MetricSettings} (htask : r.tasks[id]? = some t)
      (hphase : t.phase = .awaiting wait correlation settings)
      (hresult : r.correlator.result? wait r.now = some (.ok reply)) : Brings r reply (.step id)
  | polled (history : Bool) : Brings r reply (.handlePoll history reply)

theorem isOk_status_iff {reply : Envelope} :
    reply.status.isOk = true ↔ Status.ok.WrittenIn reply.msgType := by
  have hok : Status.ok ≠ .untyped := by decide
  rw [Status.isOk_iff]
  exact Status.ofText_eq_iff hok

theorem collaborators_passOn {r : Resolver} {reply : Envelope} (h : reply.status.isOk = false)
    (id : TaskId) (t : Task) (correlation : String) (settings : MetricSettings) :
    (r.passOn id t correlation settings reply).collaborators = r.collaborators := by
  unfold Resolver.passOn
  rw [h]
  exact Resolver.collaborators_answer _ id t reply _

theorem handlePoll_of_not_ok {reply : Envelope} (h : reply.status.isOk = false) (r : Resolver)
    (history : Bool) : r.handlePoll history reply = (r, some 0) := by
  unfold Resolver.handlePoll
  rw [h]
  rfl

theorem Brings.collaborators_eq {s : Recorded Resolver} {reply : Envelope} {a : Act}
    (h : Brings s.host reply a) (hstatus : reply.status.isOk = false) :
    (act s a).host.collaborators = s.host.collaborators := by
  cases h with
  | @fetched id t wait correlation settings htask hphase hresult =>
      show (s.host.stepTask id).collaborators = _
      rw [Resolver.stepTask_awaiting htask hphase, hresult]
      exact collaborators_passOn hstatus id t correlation settings
  | polled history =>
      show (s.host.handlePoll history reply).1.collaborators = _
      rw [handlePoll_of_not_ok hstatus]

theorem exists_brings_of_deposit {r : Resolver} {a : Act} {d : Deposit} (h : d ∈ depositsIn r a) :
    ∃ reply, Brings r reply a ∧ reply.status.isOk = true := by
  cases a with
  | step id =>
      rcases Resolver.mem_stepDeposits h with
        ⟨t, wait, correlation, settings, reply, htask, hphase, hresult, hstatus, -⟩
      exact ⟨reply, .fetched htask hphase hresult, hstatus⟩
  | handlePoll history reply =>
      exact ⟨reply, .polled history, (Resolver.mem_pollDeposits history h).1⟩
  | _ => cases h

/-- Whatever changes a lookup in the cache, except for time and for those who share the cache, is a
reply that reports success. -/
theorem exists_brings_of_shown {s : Recorded Resolver} {a : Act} (ha : ∀ c, a ≠ .collaborate c)
    {t : Instant} (hle : s.host.now.nanos ≤ t.nanos) {metric : MetricId}
    (hchanged : ((act s a).host.collaborators.cache.get t metric).2 ≠
      (s.host.collaborators.cache.get t metric).2) :
    ∃ reply, Brings s.host reply a ∧ reply.status.isOk = true := by
  have hfollows := follows_act s ha t metric hle
  cases hdeposits : depositsIn s.host a with
  | nil =>
      rw [hdeposits] at hfollows
      exact absurd hfollows hchanged
  | cons d ds => exact exists_brings_of_deposit (hdeposits ▸ List.mem_cons_self)

/-- A type field is read as a status if and only if it writes the status: its digit, behind any
number of zeros and at most one plus sign, between blanks.  All other texts are those of untyped
messages.  So a reply to a fetch or to a poll leaves the other systems as they are unless its type
field writes the status of success, and nothing else changes what lookups in the cache give. -/
theorem types_of_stored_replies :
    (∀ (field : String) (s : Status), s ≠ .untyped →
      (Status.ofText field = s ↔ s.WrittenIn field)) ∧
      (∀ field : String, Status.ofText field = .untyped ↔
        ∀ s : Status, s ≠ .untyped → ¬s.WrittenIn field) ∧
      (∀ (s : Recorded Resolver) (reply : Envelope) (a : Act), Brings s.host reply a →
        ¬Status.ok.WrittenIn reply.msgType →
          (act s a).host.collaborators = s.host.collaborators) ∧
      ∀ (s : Recorded Resolver) (a : Act), (∀ c, a ≠ .collaborate c) →
        ∀ (t : Instant) (metric : MetricId), s.host.now.nanos ≤ t.nanos →
          ((act s a).host.collaborators.cache.get t metric).2 ≠
            (s.host.collaborators.cache.get t metric).2 →
          ∃ reply, Brings s.host reply a ∧ Status.ok.WrittenIn reply.msgType := by
  refine ⟨fun field s hs => Status.ofText_eq_iff hs, ?_, ?_, ?_⟩
  · intro field
    constructor
    · intro huntyped s hs hwritten
      exact hs ((Status.ofText_eq_iff hs).mpr hwritten ▸ huntyped)
    · intro hnone
      by_contra hs
      exact hnone _ hs ((Status.ofText_eq_iff hs).mp rfl)
  · intro s reply a hbrings hwritten
    apply hbrings.collaborators_eq
    rw [← Bool.not_eq_true, isOk_status_iff]
    exact hwritten
  · intro s a ha t metric hle hchanged
    obtain ⟨reply, hbrings, hstatus⟩ := exists_brings_of_shown ha hle hchanged
    exact ⟨reply, hbrings, isOk_status_iff.mp hstatus⟩

/-- The first reply is cached by the task that has asked for it.  A reply of the type 257 is not, as
257 is no number of one byte. -/
theorem types_of_stored_replies_first :
    let s := run unasked (asked .caller ++ [.route firstReply])
    let overflowing : Envelope := { msgType := "257", correlation := Correlation.id 0 }
    Status.ok.WrittenIn "\u3000+001 " ∧
      (act s (.handlePoll true overflowing)).host.collaborators = s.host.collaborators ∧
      ∃ reply, Brings s.host reply (.step 0) ∧ Status.ok.WrittenIn reply.msgType := by
  intro s overflowing
  obtain ⟨hread, -, hkept, hcached⟩ := types_of_stored_replies
  have hok : Status.ok ≠ .untyped := by decide
  have hoverflowing : ¬Status.ok.WrittenIn overflowing.msgType :=
    mt (hread overflowing.msgType .ok hok).mpr (by decide +kernel)
  have hsigned : Status.ofText "\u3000+001 " = .ok := by decide +kernel
  have hchanged : ((act s (.step 0)).host.collaborators.cache.get s.host.now 42).2 ≠
      (s.host.collaborators.cache.get s.host.now 42).2 := by decide +kernel
  exact ⟨(hread _ .ok hok).mp hsigned, hkept s overflowing _ (.polled true) hoverflowing,
    hcached s (.step 0) (by simp) s.host.now 42 (Nat.le_refl _) hchanged⟩

end Fetching
end MetricGateway
