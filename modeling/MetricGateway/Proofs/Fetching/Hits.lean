import MetricGateway.Proofs.Fetching.Memory
import MetricGateway.Proofs.Fetching.Polled
import MetricGateway.Proofs.Fetching.Replies
import MetricGateway.Proofs.Pulling.Rows

/-!
# Requests that the cache answers

A request whose metric has a live value in the cache renews the interest in the metric and is
answered.  Of all that is polled, only the budget of the metric is different afterwards, wherever
the metric is polled and whatever container the request names.  What a task does that answers from
the cache is listed as a frame: apart from the renewal only its own report, the counters and the
outbox change, and the outbox takes the answer at most.
-/

namespace MetricGateway

/-!
## Renewing a metric
-/

namespace Pulling

namespace Registry

end Registry
end Pulling

/-!
## Answering and nothing else
-/

namespace Resolver

/-- From one resolver to another, a task does nothing but answer: it may change or end and reports
about itself, the time it took may be counted, and what it brings to the outbox is `own`. -/
structure OnlyAnswers (id : TaskId) (own : List Message) (r r' : Resolver) : Prop where
  frame : ∃ tasks reports outbox metrics,
    r' = { r with
      tasks
      reports
      polling := { r.polling with common := { r.polling.common with outbox, metrics } } }
  others : ∀ other, id ≠ other → r'.tasks[other]? = r.tasks[other]?
  reports : ∃ new, r'.reports = new ++ r.reports ∧ ∀ x ∈ new, x.2.1 = id
  counters : ∃ taken, r'.common.metrics =
    { r.common.metrics with latencies := taken ++ r.common.metrics.latencies }
  sent : r'.common.outbox.toList = r.common.outbox.toList ++ own

variable {r r' r'' : Resolver} {id : TaskId}

theorem onlyAnswers_refl (r : Resolver) (id : TaskId) : OnlyAnswers id [] r r where
  frame := ⟨_, _, _, _, rfl⟩
  others := fun _ _ => rfl
  reports := ⟨[], rfl, by simp⟩
  counters := ⟨[], rfl⟩
  sent := (List.append_nil _).symm

theorem OnlyAnswers.trans {own own' : List Message} (h : OnlyAnswers id own r r')
    (h' : OnlyAnswers id own' r' r'') : OnlyAnswers id (own ++ own') r r'' where
  frame := by
    rcases h.frame with ⟨_, _, _, _, rfl⟩
    rcases h'.frame with ⟨_, _, _, _, rfl⟩
    exact ⟨_, _, _, _, rfl⟩
  others := fun other hne => (h'.others other hne).trans (h.others other hne)
  reports := by
    rcases h.reports with ⟨new, hnew, hids⟩
    rcases h'.reports with ⟨new', hnew', hids'⟩
    refine ⟨new' ++ new, by rw [hnew', hnew, List.append_assoc], ?_⟩
    intro x hx
    rcases List.mem_append.mp hx with hx | hx
    · exact hids' x hx
    · exact hids x hx
  counters := by
    rcases h.counters with ⟨taken, htaken⟩
    rcases h'.counters with ⟨taken', htaken'⟩
    exact ⟨taken' ++ taken, by rw [htaken', htaken, List.append_assoc]⟩
  sent := by rw [h'.sent, h.sent, List.append_assoc]

theorem onlyAnswers_report (r : Resolver) (id : TaskId) (what : Report) :
    OnlyAnswers id [] r (r.report id what) where
  frame := ⟨_, _, _, _, rfl⟩
  others := fun _ _ => rfl
  reports := ⟨[(r.now, id, what)], rfl, by simp⟩
  counters := ⟨[], rfl⟩
  sent := (List.append_nil _).symm

theorem onlyAnswers_perish (r : Resolver) (id : TaskId) : OnlyAnswers id [] r (r.perish id) where
  frame := ⟨_, _, _, _, rfl⟩
  others := fun _ hne => (lookup_erase _ _ _).trans (if_neg hne)
  reports := ⟨[], rfl, by simp⟩
  counters := ⟨[], rfl⟩
  sent := (List.append_nil _).symm

theorem onlyAnswers_latency (r : Resolver) (id : TaskId) (nanos : Nat) :
    OnlyAnswers id [] r (r.count fun m => m.observeLatency nanos) where
  frame := ⟨_, _, _, _, rfl⟩
  others := fun _ _ => rfl
  reports := ⟨[], rfl, by simp⟩
  counters := ⟨[nanos], rfl⟩
  sent := (List.append_nil _).symm

theorem onlyAnswers_outbox (r : Resolver) (id : TaskId) {outbox : Mailbox Message}
    {own : List Message} (h : outbox.toList = r.common.outbox.toList ++ own) :
    OnlyAnswers id own r (r.onCommon fun c => { c with outbox }) where
  frame := ⟨_, _, _, _, rfl⟩
  others := fun _ _ => rfl
  reports := ⟨[], rfl, by simp⟩
  counters := ⟨[], rfl⟩
  sent := h

theorem onlyAnswers_fail (r : Resolver) (id : TaskId) (e : GatewayError) :
    OnlyAnswers id [] r (r.fail id e) :=
  (onlyAnswers_perish r id).trans (onlyAnswers_report (r.perish id) id _)

theorem onlyAnswers_complete (r : Resolver) (id : TaskId) (t : Task) (resolution : Resolution) :
    OnlyAnswers id [] r (r.complete id t resolution) := by
  have hends : ∀ r : Resolver, OnlyAnswers id [] r
      ((r.perish id).report id (.finished (.ok resolution))) :=
    fun r => (onlyAnswers_perish r id).trans (onlyAnswers_report (r.perish id) id _)
  unfold complete
  dsimp only
  split
  · exact hends r
  · exact (onlyAnswers_latency r id _).trans (hends _)

/-- A task that waits for room for its answer hands it over and ends, or waits on; nothing else
happens. -/
theorem onlyAnswers_answering {t : Task} {ticket : Ticket} {m : Message} {resolution : Resolution}
    (htask : r.tasks[id]? = some t) (hphase : t.phase = .answering ticket m resolution) :
    ((r.stepTask id).tasks[id]? = none ∨ (r.stepTask id).tasks[id]? = r.tasks[id]?) ∧
      ∃ own, (own = [] ∨ own = [m]) ∧ OnlyAnswers id own r (r.stepTask id) := by
  have hsent := (Pulling.Polling.outbox_resend r.common ticket m).2
  have hresend : r.common.resend ticket m = ({ r.common with
    outbox := (r.common.outbox.retry ticket m).1 }, (r.common.outbox.retry ticket m).2) := rfl
  rw [stepTask_answering htask hphase]
  rw [hresend] at hsent ⊢
  cases hoffer : r.common.outbox.retry ticket m with
  | mk outbox offer =>
      rw [hoffer] at hsent
      cases offer with
      | accepted =>
          have hgiven := onlyAnswers_outbox r id hsent
          have hgone := (Fetching.complete_frame (r.onCommon fun _ => { r.common with outbox }) id
            t resolution).1
          refine ⟨Or.inl ?_, [m], Or.inr rfl, hgiven.trans (onlyAnswers_complete _ id t resolution)⟩
          dsimp only
          rw [hgone]
          exact Std.ExtTreeMap.getElem?_erase_self
      | refused =>
          exact ⟨Or.inl Std.ExtTreeMap.getElem?_erase_self, [], Or.inl rfl,
            onlyAnswers_fail r id .channelClosed⟩
      | parked _ => exact ⟨Or.inr rfl, [], Or.inl rfl, onlyAnswers_refl r id⟩

/-!
## Hits
-/

end Resolver
namespace Fetching

open Resolver (TaskId Task Report OnlyAnswers Idle reportsOf)

variable {s : Recorded Resolver} {id : TaskId} {t : Task}

/-!
## From the hit to the end of the task
-/

/-- A task that has found a live value is gone, or waits for room for its answer. -/
def Replying (r : Resolver) (id : TaskId) (left : Option Task) (answer : List Message) : Prop :=
  r.tasks[id]? = none ∨ r.tasks[id]? = left ∧
    ∀ t, left = some t → ∃ ticket m resolution, t.phase = .answering ticket m resolution ∧
      answer = [m]

/-- In each of its steps the task hands its answer over and ends, or waits on. -/
theorem Replying.step {left : Option Task} {answer : List Message}
    (h : Replying s.host id left answer) :
    Replying (act s (.step id)).host id left answer ∧
      ∃ own, (own = [] ∨ own = answer) ∧ OnlyAnswers id own s.host (act s (.step id)).host := by
  have hgone : s.host.tasks[id]? = none →
      Replying (act s (.step id)).host id left answer ∧
        ∃ own, (own = [] ∨ own = answer) ∧ OnlyAnswers id own s.host (act s (.step id)).host := by
    intro hnone
    have hsame : (act s (.step id)).host = s.host := Resolver.stepTask_of_none hnone
    rw [hsame]
    exact ⟨h, [], Or.inl rfl, Resolver.onlyAnswers_refl s.host id⟩
  rcases h with hnone | ⟨hleft, hanswering⟩
  · exact hgone hnone
  · cases left with
    | none => exact hgone hleft
    | some x =>
        rcases hanswering x rfl with ⟨ticket, m, resolution, hphase, rfl⟩
        rcases Resolver.onlyAnswers_answering hleft hphase with ⟨hnone | hsame, honly⟩
        · exact ⟨Or.inl hnone, honly⟩
        · exact ⟨Or.inr ⟨hsame.trans hleft, hanswering⟩, honly⟩

theorem Replying.run {left : Option Task} {answer : List Message}
    (h : Replying s.host id left answer) (hid : id < s.host.started) (acts : List Act) :
    Replying (run s acts).host id left answer := by
  induction acts generalizing s with
  | nil => exact h
  | cons a acts ih =>
      refine ih ?_ (Nat.lt_of_lt_of_le hid (started_act s a))
      by_cases ha : a = .step id
      · subst ha
        exact h.step.1
      · unfold Replying
        rw [tasks_act_of_ne hid ha]
        exact h

def latecomer : Task where
  request := ⟨8, .generic, 42, .text, 3⟩
  requester := .outbox "reply" "desk" "c"
  timeout := Duration.ofSecs 5
  startedAt := ⟨1000000000⟩

end Fetching
end MetricGateway
