import MetricGateway.Proofs.Pulling.Targets

/-!
# How long a group polls

A group is halted once it has been stopped or a round has found nothing to poll.  Adding a metric
does not bring a halted group back: its rounds come to nothing for good.  Until then the state of a
group says whether it has metrics, and a round is a poll of all of them, in the order of their
numbers, exactly where there are some.
-/

namespace MetricGateway
namespace Pulling
namespace Group

/-!
## Operations
-/

inductive Op where
  | add (metric : MetricId) (valueKind : ValueKind) (budget : UInt16)
  | refresh (metric : MetricId)
  | remove (metric : MetricId)
  | tick
  | stop

def perform (g : Group) : Op → Group
  | .add metric valueKind budget => (g.add metric valueKind budget).1
  | .refresh metric => (g.refresh metric).1
  | .remove metric => (g.remove metric).1
  | .tick => g.tick.1
  | .stop => g.stop.1

def performAll (g : Group) (ops : List Op) : Group := ops.foldl perform g

def round? (g : Group) : Op → Option TickOutcome
  | .tick => some g.tick.2
  | _ => none

/-- What the rounds among some operations come to, in the order in which they take place. -/
def rounds (g : Group) : List Op → List TickOutcome
  | [] => []
  | op :: ops => (g.round? op).toList ++ (g.perform op).rounds ops

/-- An operation halts a group if it stops the group, or if it is a round with nothing to poll. -/
inductive Halts (g : Group) : Op → Prop where
  | stop : Halts g .stop
  | tick (hround : g.tick.2 = .stop) : Halts g .tick

/-- Some operation halts the group on the way. -/
def Halted (g : Group) (ops : List Op) : Prop :=
  ∃ before op after, ops = before ++ op :: after ∧ (g.performAll before).Halts op

variable {g : Group}

theorem not_halted_nil : ¬g.Halted [] := by
  rintro ⟨before, op, after, heq, _⟩
  exact List.append_ne_nil_of_right_ne_nil before (List.cons_ne_nil op after) heq.symm

theorem halted_cons {op : Op} {ops : List Op} :
    g.Halted (op :: ops) ↔ g.Halts op ∨ (g.perform op).Halted ops := by
  constructor
  · rintro ⟨before, halting, after, heq, hhalts⟩
    cases before with
    | nil =>
        cases heq
        exact Or.inl hhalts
    | cons first before =>
        cases heq
        exact Or.inr ⟨before, halting, after, rfl, hhalts⟩
  · rintro (hhalts | ⟨before, halting, after, rfl, hhalts⟩)
    · exact ⟨[], op, ops, rfl, hhalts⟩
    · exact ⟨op :: before, halting, after, rfl, hhalts⟩

theorem target_perform (g : Group) (op : Op) : (g.perform op).target = g.target := by
  cases op with
  | add metric valueKind budget => exact target_add g metric valueKind budget
  | refresh metric => exact target_refresh g metric
  | remove metric => exact target_remove g metric
  | tick => exact target_tick g
  | stop => rfl

theorem target_performAll (g : Group) (ops : List Op) : (g.performAll ops).target = g.target := by
  induction ops generalizing g with
  | nil => rfl
  | cons op ops ih => exact (ih (g.perform op)).trans (target_perform g op)

/-!
## Halted groups
-/

theorem state_of_halts {op : Op} (h : g.Halts op) : (g.perform op).state = .stopped := by
  cases h with
  | stop => rfl
  | tick hround =>
      have hstop : g.state = .stopped ∨ g.isEmpty = true := by
        by_contra hgoes
        rw [tick_of_poll hgoes] at hround
        cases hround
      show g.tick.1.state = _
      rw [tick_of_stop hstop]

theorem state_perform_of_stopped (h : g.state = .stopped) (op : Op) :
    (g.perform op).state = .stopped := by
  cases op with
  | add metric valueKind budget => exact if_pos h
  | refresh metric => exact (state_refresh g metric).trans h
  | remove metric =>
      have hinactive : ¬((g.remove metric).1.isEmpty ∧ g.state = .active) := by
        rw [h]
        rintro ⟨_, hactive⟩
        cases hactive
      exact (if_neg hinactive).trans h
  | tick => exact state_of_halts (.tick (congrArg Prod.snd (tick_of_stop (Or.inl h))))
  | stop => rfl

theorem state_performAll_of_stopped (h : g.state = .stopped) (ops : List Op) :
    (g.performAll ops).state = .stopped := by
  induction ops generalizing g with
  | nil => exact h
  | cons op ops ih => exact ih (state_perform_of_stopped h op)

theorem rounds_of_stopped (h : g.state = .stopped) (ops : List Op) :
    ∀ outcome ∈ g.rounds ops, outcome = .stop := by
  induction ops generalizing g with
  | nil => exact fun _ hmem => absurd hmem List.not_mem_nil
  | cons op ops ih =>
      unfold rounds
      rw [List.forall_mem_append]
      refine ⟨?_, ih (state_perform_of_stopped h op)⟩
      cases op with
      | tick =>
          intro outcome hmem
          rw [List.mem_singleton.mp hmem, tick_of_stop (Or.inl h)]
      | _ => exact fun _ hmem => absurd hmem List.not_mem_nil

theorem state_of_halted {ops : List Op} (h : g.Halted ops) :
    (g.performAll ops).state = .stopped := by
  induction ops generalizing g with
  | nil => exact absurd h not_halted_nil
  | cons op ops ih =>
      rcases halted_cons.mp h with hhalts | hlater
      · exact state_performAll_of_stopped (state_of_halts hhalts) ops
      · exact ih hlater

/-!
## Groups that are not halted
-/

theorem Sound.perform (h : g.Sound) {op : Op} (hgoes : ¬g.Halts op) : (g.perform op).Sound := by
  cases op with
  | add metric valueKind budget => exact h.add metric valueKind budget
  | refresh metric => exact h.refresh metric
  | remove metric => exact h.remove metric
  | tick =>
      cases hround : g.tick.2 with
      | poll request expired => exact h.tick hround
      | stop => exact absurd (.tick hround) hgoes
  | stop => exact absurd .stop hgoes

theorem Sound.performAll (h : g.Sound) {ops : List Op} (hgoes : ¬g.Halted ops) :
    (g.performAll ops).Sound := by
  induction ops generalizing g with
  | nil => exact h
  | cons op ops ih =>
      rw [halted_cons, not_or] at hgoes
      exact ih (h.perform hgoes.1) hgoes.2

theorem Sound.state_eq_active_iff (h : g.Sound) : g.state = .active ↔ g.isEmpty = false := by
  rw [h.state_eq]
  cases g.isEmpty <;> decide

theorem Sound.state_eq_empty_iff (h : g.Sound) : g.state = .empty ↔ g.isEmpty = true := by
  rw [h.state_eq]
  cases g.isEmpty <;> decide

theorem Sound.tick_eq_stop_iff (h : g.Sound) : g.tick.2 = .stop ↔ g.isEmpty = true := by
  constructor
  · intro hround
    by_contra hsome
    rw [tick_of_poll (not_or.mpr ⟨h.state_ne_stopped, hsome⟩)] at hround
    cases hround
  · intro hempty
    rw [tick_of_stop (Or.inr hempty)]

/-- A poll asks for every entry of its group, the lowest number first, and reports those that it
asks for and that are gone after it, in the same order. -/
structure Surveys (g : Group) (request : BatchRequest) (expired : List MetricId) : Prop where
  container : request.container = g.target.container
  containerKind : request.containerKind = g.target.containerKind
  ascending : request.metrics.Pairwise fun selector later => selector.metric < later.metric
  mem_iff : ∀ selector, selector ∈ request.metrics ↔
    ∃ e, g.entries[selector.metric]? = some e ∧ e.selector = selector
  expired_ascending : expired.Pairwise (· < ·)
  mem_expired_iff : ∀ metric, metric ∈ expired ↔
    metric ∈ request.metrics.map (·.metric) ∧ metric ∉ g.tick.1.entries

theorem Sound.mem_metrics_iff (h : g.Sound) (selector : MetricSelector) :
    selector ∈ g.request.metrics ↔
      ∃ e, g.entries[selector.metric]? = some e ∧ e.selector = selector := by
  show selector ∈ g.toList.map (·.selector) ↔ _
  rw [List.mem_map]
  constructor
  · rintro ⟨e, hmem, rfl⟩
    obtain ⟨metric, hentry⟩ := (mem_toList_iff g e).mp hmem
    have hfiled : e.selector.metric = metric := h.metric_eq hentry
    exact ⟨e, hfiled ▸ hentry, rfl⟩
  · rintro ⟨e, hentry, hselector⟩
    exact ⟨e, (mem_toList_iff g e).mpr ⟨selector.metric, hentry⟩, hselector⟩

theorem pairwise_keys {α : Type} (m : Std.ExtTreeMap MetricId α) : m.keys.Pairwise (· < ·) :=
  Std.ExtTreeMap.ordered_keys.imp fun hlt => Std.compare_eq_lt.mp hlt

theorem Sound.surveys (h : g.Sound) {request : BatchRequest} {expired : List MetricId}
    (hpoll : g.tick.2 = .poll request expired) : g.Surveys request expired := by
  have hround := tick_of_poll (poll_of_tick hpoll)
  rw [hpoll] at hround
  injection hround with hrequest hexpired
  subst hrequest
  exact {
    container := rfl
    containerKind := rfl
    ascending := by
      have hkeys := pairwise_keys g.entries
      rw [← h.metrics_request, List.pairwise_map] at hkeys
      exact hkeys
    mem_iff := h.mem_metrics_iff
    expired_ascending := hexpired ▸ pairwise_keys _
    mem_expired_iff := by
      intro metric
      rw [h.mem_request_iff, mem_tick hpoll, not_and_not_right]
      constructor
      · intro hmem
        rcases (mem_expired hpoll metric).mp hmem with ⟨e, hentry, _⟩
        exact ⟨mem_of_lookup hentry, fun _ => hmem⟩
      · rintro ⟨hlisted, hgone⟩
        exact hgone hlisted }

/-!
## The life of a group
-/

/-- Once a group has been stopped or a round of it has found nothing to poll, none of its rounds is
a poll, whatever is done with it.  Before that, it is active if it has metrics and empty otherwise,
and its next round finds nothing to poll exactly if it has none.  Each poll asks for all of them, in
the order of their numbers, and reports in the same order which of them are gone after it. -/
theorem polls_until_halted (target : Target) (ops : List Op) :
    let g := (new target).performAll ops
    g.target = target ∧
      ((new target).Halted ops →
        g.state = .stopped ∧ ∀ later, ∀ outcome ∈ g.rounds later, outcome = .stop) ∧
      (¬(new target).Halted ops →
        (g.state = .active ↔ g.isEmpty = false) ∧ (g.state = .empty ↔ g.isEmpty = true) ∧
          (g.tick.2 = .stop ↔ g.isEmpty = true)) ∧
      ∀ request expired, g.tick.2 = .poll request expired → g.Surveys request expired := by
  intro g
  have hsound : ¬(new target).Halted ops → g.Sound := (sound_new target).performAll
  refine ⟨target_performAll (new target) ops, ?_, ?_, ?_⟩
  · intro hhalted
    have hstopped := state_of_halted hhalted
    exact ⟨hstopped, rounds_of_stopped hstopped⟩
  · intro hgoes
    have hg := hsound hgoes
    exact ⟨hg.state_eq_active_iff, hg.state_eq_empty_iff, hg.tick_eq_stop_iff⟩
  · intro request expired hpoll
    have hgoes : ¬(new target).Halted ops :=
      fun hhalted => poll_of_tick hpoll (Or.inl (state_of_halted hhalted))
    exact (hsound hgoes).surveys hpoll

/-- A group that has found nothing to poll in its second round takes in a metric, but does not poll
it. -/
theorem polls_until_halted_too_late :
    let target : Target := ⟨7, .snmpV2c, "snmp", Duration.ofSecs 5⟩
    let polling := (new target).performAll [.add 43 .text 2, .add 42 .int 1]
    let late := (new target).performAll [.add 42 .int 1, .tick, .tick, .add 44 .int 2]
    polling.Surveys ⟨7, .snmpV2c, [⟨42, .int⟩, ⟨43, .text⟩]⟩ [42] ∧ late.isEmpty = false ∧
      ∀ outcome ∈ late.rounds [.refresh 44, .tick], outcome = .stop := by
  intro target polling late
  have hhalts : ((new target).performAll [.add 42 .int 1, .tick]).Halts .tick :=
    .tick (by decide +kernel)
  have hhalted : (new target).Halted [.add 42 .int 1, .tick, .tick, .add 44 .int 2] :=
    ⟨[.add 42 .int 1, .tick], .tick, [.add 44 .int 2], rfl, hhalts⟩
  obtain ⟨-, hlate, -, -⟩ :=
    polls_until_halted target [.add 42 .int 1, .tick, .tick, .add 44 .int 2]
  obtain ⟨-, -, -, hpolling⟩ := polls_until_halted target [.add 43 .text 2, .add 42 .int 1]
  exact ⟨hpolling _ _ (by decide +kernel), by decide +kernel, (hlate hhalted).2 _⟩

end Group
end Pulling
end MetricGateway
