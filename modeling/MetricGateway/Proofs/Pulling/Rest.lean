import MetricGateway.Machine
import MetricGateway.Proofs.Pulling.Steps

/-!
# Polling comes to rest

While no time passes, a ticker takes a few steps only.  Its rounds are a millisecond or more apart,
and a round that comes more than five milliseconds late puts off the next one, so that only the
rounds of the last milliseconds can be due at once.  A ticker that waits makes no other one ready,
and so a single round in which each ready ticker runs until it has to wait brings polling to rest.
-/

namespace MetricGateway

/-! ## Times of rounds -/

theorem Duration.nanosPerMilli_le {d : Duration} (h : 1 ≤ d.wholeMillis) :
    nanosPerMilli ≤ d.toNanos := by
  unfold Duration.wholeMillis at h
  rw [Nat.le_div_iff_mul_le (by decide)] at h
  omega

namespace Pulling
namespace Ticker

/-- How many ticks of the clock ago a round was due, where that is not long ago. -/
def lag (now due : Instant) : Nat := min (now.tick + 1 - due.ceilTick) 8

theorem lag_pos_iff (now due : Instant) : 0 < lag now due ↔ due.metBy now = true := by
  unfold lag
  rw [Instant.metBy_iff]
  omega

theorem lag_le (now due : Instant) : lag now due ≤ 8 := Nat.min_le_right _ _

theorem lag_eq_zero_of_ahead {now due : Instant} (h : now.nanos + nanosPerMilli ≤ due.nanos) :
    lag now due = 0 := by
  unfold lag Instant.tick Instant.ceilTick
  simp only [nanosPerMilli] at h ⊢
  omega

/-- A round that took place brings the next one nearer to the present, or beyond it. -/
theorem lag_nextDue {period : Duration} {due now : Instant} (hperiod : 1 ≤ period.wholeMillis)
    (hdue : due.metBy now = true) : lag now (nextDue period due now) < lag now due := by
  have hstep := Duration.nanosPerMilli_le hperiod
  have hpos := (lag_pos_iff now due).mpr hdue
  unfold nextDue
  split
  next =>
    rw [lag_eq_zero_of_ahead]
    · exact hpos
    · show now.nanos + nanosPerMilli ≤ period.toNanos + now.nanos
      omega
  next hearly =>
    unfold Instant.later?
    split
    next =>
      have hlate : now.nanos ≤ due.nanos + 5000000 := by
        have htolerance : (due.plus tolerance).nanos = tolerance.toNanos + due.nanos := rfl
        have hfive : tolerance.toNanos = 5000000 := by decide
        omega
      show lag now (due.plus period) < lag now due
      have hmet := (Instant.metBy_iff due now).mp hdue
      have hnext : (due.plus period).nanos = period.toNanos + due.nanos := rfl
      unfold lag
      unfold Instant.tick Instant.ceilTick at hmet ⊢
      rw [hnext]
      simp only [nanosPerMilli] at hstep hmet ⊢
      omega
    next =>
      show lag now (now.plus Instant.farFuture) < lag now due
      rw [lag_eq_zero_of_ahead]
      · exact hpos
      · have hfar : nanosPerMilli ≤ Instant.farFuture.toNanos := by decide
        show now.nanos + nanosPerMilli ≤ Instant.farFuture.toNanos + now.nanos
        omega

end Ticker

namespace Polling

variable {lapsed : Duration → Prop} {p q : Polling} {g : Generation} {t : Ticker}

/-! ## One ticker -/

/-- A bound on the steps that a ticker can take while no time passes. -/
def burden (p : Polling) (g : Generation) : Nat :=
  match p.tickers[g]? with
  | none => 0
  | some t =>
      match t.phase with
      | .starting => 18
      | .sleeping due => 2 * Ticker.lag p.common.now due + 1
      | .publishing _ _ due => 2 * Ticker.lag p.common.now due + 2

theorem burden_of_none (h : p.tickers[g]? = none) : p.burden g = 0 := by
  unfold burden
  rw [h]

theorem burden_of_sleeping {due : Instant} (ht : p.tickers[g]? = some t)
    (hphase : t.phase = .sleeping due) : p.burden g = 2 * Ticker.lag p.common.now due + 1 := by
  unfold burden
  rw [ht]
  dsimp only
  rw [hphase]

theorem burden_of_publishing {ticket : Ticket} {m : Message} {due : Instant}
    (ht : p.tickers[g]? = some t) (hphase : t.phase = .publishing ticket m due) :
    p.burden g = 2 * Ticker.lag p.common.now due + 2 := by
  unfold burden
  rw [ht]
  dsimp only
  rw [hphase]

theorem burden_le (p : Polling) (g : Generation) : p.burden g ≤ 18 := by
  unfold burden
  split
  · exact Nat.zero_le _
  next t _ =>
    have hlag := Ticker.lag_le p.common.now
    split
    · exact Nat.le_refl _
    next due _ =>
      have := hlag due
      omega
    next due _ =>
      have := hlag due
      omega

theorem Awaits.burden_le {t' : Ticker} {next : Instant} (h : Awaits t next t')
    (ht' : q.tickers[g]? = some t') : q.burden g ≤ 2 * Ticker.lag q.common.now next + 2 := by
  cases h with
  | sleeping turn =>
      rw [burden_of_sleeping ht' rfl]
      exact Nat.le_succ _
  | parked ticket m => rw [burden_of_publishing ht' rfl]

theorem ready_of_starting (ht : p.tickers[g]? = some t) (hphase : t.phase = .starting) :
    p.tickerReady g = true := by
  unfold tickerReady
  rw [ht]
  dsimp only
  rw [hphase]

theorem ready_of_sleeping {due : Instant} (ht : p.tickers[g]? = some t)
    (hphase : t.phase = .sleeping due) :
    p.tickerReady g = (t.cancelled || due.metBy p.common.now) := by
  unfold tickerReady
  rw [ht]
  dsimp only
  rw [hphase]

theorem ready_of_publishing {ticket : Ticket} {m : Message} {due : Instant}
    (ht : p.tickers[g]? = some t) (hphase : t.phase = .publishing ticket m due) :
    p.tickerReady g = p.common.outbox.answers ticket := by
  unfold tickerReady
  rw [ht]
  dsimp only
  rw [hphase]

/-- A ready ticker that takes its step comes closer to a point where it has to wait. -/
theorem Tended.burden_step (h : p.Tended lapsed) (hready : p.tickerReady g = true)
    (preference : Preference) : (p.stepTicker g preference).burden g < p.burden g := by
  cases ht : p.tickers[g]? with
  | none =>
      unfold tickerReady at hready
      rw [ht] at hready
      cases hready
  | some t =>
      cases hphase : t.phase with
      | starting =>
          have hburden : p.burden g = 18 := by
            unfold burden
            rw [ht]
            dsimp only
            rw [hphase]
          rw [stepTicker_starting ht hphase, hburden]
          split
          next due _ =>
            rw [burden_of_sleeping (tickers_sleep p g t due) rfl]
            have := Ticker.lag_le p.common.now due
            show 2 * Ticker.lag p.common.now due + 1 < 18
            omega
          next =>
            rw [burden_of_none (tickers_exit p g)]
            decide
      | sleeping due =>
          rw [stepTicker_sleeping ht hphase, burden_of_sleeping ht hphase]
          split
          next =>
            rw [burden_of_none (tickers_exit p g)]
            exact Nat.succ_pos _
          next hgoes =>
            have hdue : due.metBy p.common.now = true := by
              rw [ready_of_sleeping ht hphase, Bool.or_eq_true] at hready
              rcases hready with hcancelled | hdue
              · by_contra hearly
                exact hgoes ⟨hcancelled, Or.inr hearly⟩
              · exact hdue
            rw [if_pos hdue]
            rcases h.fire_awaits ht due with
              ⟨hframe, ⟨_, hgone⟩ | ⟨hperiod, t', ht', hawaits⟩⟩
            · rw [burden_of_none hgone]
              exact Nat.succ_pos _
            · have hle := hawaits.burden_le ht'
              rw [hframe.now] at hle
              have hlag := Ticker.lag_nextDue hperiod hdue
              omega
      | publishing ticket m due =>
          rw [ready_of_publishing ht hphase] at hready
          rcases stepTicker_publishing ht hphase preference with
            ⟨_, hwaits⟩ | ⟨common, hslept, hnow, _⟩
          · rw [hready] at hwaits
            cases hwaits
          · rw [hslept, burden_of_publishing ht hphase,
              burden_of_sleeping (tickers_sleep _ g t due) rfl]
            show 2 * Ticker.lag common.now due + 1 < _
            rw [hnow]
            exact Nat.lt_succ_self _

theorem Frame.ready {other : Generation} (h : p.Frame q g) (hne : other ≠ g)
    (hready : q.tickerReady other = true) : p.tickerReady other = true := by
  unfold tickerReady at hready ⊢
  rw [h.others other hne, h.now] at hready
  cases ht : p.tickers[other]? with
  | none =>
      rw [ht] at hready
      exact hready
  | some t =>
      rw [ht] at hready
      dsimp only at hready ⊢
      cases hphase : t.phase with
      | starting => rfl
      | sleeping due =>
          rw [hphase] at hready
          exact hready
      | publishing ticket m due =>
          rw [hphase] at hready
          exact h.answers ticket hready

/-! ## Rounds of the machine -/

/-- Polling got from one state to another by steps of tickers alone. -/
def Turned (p q : Polling) : Prop :=
  ∃ turns : List Generation, q = p.follow (turns.map fun g => .perform (.turn g .goOn))

theorem turned_refl (p : Polling) : p.Turned p := ⟨[], rfl⟩

theorem Turned.trans {s : Polling} (h : p.Turned q) (h' : q.Turned s) : p.Turned s := by
  rcases h with ⟨turns, rfl⟩
  rcases h' with ⟨more, rfl⟩
  exact ⟨turns ++ more, by rw [List.map_append, follow_append]⟩

theorem turned_step (p : Polling) (g : Generation) : p.Turned (p.stepTicker g .goOn) := ⟨[g], rfl⟩

theorem Turned.tended (h : p.Turned q) (htended : p.Tended fun _ => True) :
    q.Tended fun _ => True := by
  rcases h with ⟨turns, rfl⟩
  induction turns generalizing p with
  | nil => exact htended
  | cons g turns ih => exact ih ((htended.stepTicker g .goOn).mono fun _ _ => trivial)

theorem runTask_rests (fuel : Nat) (h : p.Tended fun _ => True) (hfuel : p.burden g ≤ fuel) :
    p.Turned (Machine.runTask fuel p g) ∧ p.Frame (Machine.runTask fuel p g) g ∧
      (Machine.runTask fuel p g).tickerReady g = false := by
  induction fuel generalizing p with
  | zero =>
      refine ⟨turned_refl p, frame_refl p g, ?_⟩
      rw [Bool.eq_false_iff]
      intro hready
      exact Nat.not_lt_zero _ (Nat.lt_of_lt_of_le (h.burden_step hready .goOn) hfuel)
  | succ fuel ih =>
      have hunfold : Machine.runTask (fuel + 1) p g =
          if p.tickerReady g then Machine.runTask fuel (p.stepTicker g .goOn) g else p := rfl
      rw [hunfold]
      split
      next hready =>
        have hless := h.burden_step hready .goOn
        rcases ih ((h.stepTicker g .goOn).mono fun _ _ => trivial) (by omega) with
          ⟨hturned, hframe, hrests⟩
        exact ⟨(turned_step p g).trans hturned, (h.frame_stepTicker g .goOn).trans hframe, hrests⟩
      next hwaits => exact ⟨turned_refl p, frame_refl p g, Bool.eq_false_iff.mpr hwaits⟩

theorem runTasks_rest {fuel : Nat} (hfuel : 18 ≤ fuel) (tasks : List Generation)
    (h : p.Tended fun _ => True) :
    p.Turned (tasks.foldl (Machine.runTask fuel) p) ∧
      ∀ g, (tasks.foldl (Machine.runTask fuel) p).tickerReady g = true →
        p.tickerReady g = true ∧ g ∉ tasks := by
  induction tasks generalizing p with
  | nil => exact ⟨turned_refl p, fun g hready => ⟨hready, List.not_mem_nil⟩⟩
  | cons first tasks ih =>
      rcases runTask_rests (g := first) fuel h (Nat.le_trans (p.burden_le first) hfuel) with
        ⟨hturned, hframe, hrests⟩
      rcases ih (hturned.tended h) with ⟨hrest, hlater⟩
      refine ⟨hturned.trans hrest, ?_⟩
      intro g hready
      rcases hlater g hready with ⟨hbefore, hnot⟩
      have hne : g ≠ first := by
        rintro rfl
        rw [hrests] at hbefore
        cases hbefore
      exact ⟨hframe.ready hne hbefore, List.not_mem_cons_of_ne_of_not_mem hne hnot⟩

theorem mem_tasks_of_ready (h : p.tickerReady g = true) : g ∈ p.tasks := by
  cases ht : p.tickers[g]? with
  | none =>
      unfold tickerReady at h
      rw [ht] at h
      cases h
  | some t =>
      apply List.mem_map.mpr
      refine ⟨(g, t), ?_, rfl⟩
      rw [Turn.mem_order]
      exact Std.ExtTreeMap.mem_toList_iff_getElem?_eq_some.mpr ht

theorem atRest_iff (p : Polling) : Machine.atRest p = true ↔ ∀ g, p.tickerReady g = false := by
  have hall : Machine.atRest p = true ↔ ∀ g ∈ p.tasks, p.tickerReady g = false := by
    show (p.tasks.all fun g => !p.tickerReady g) = true ↔ _
    simp
  rw [hall]
  constructor
  · intro hrest g
    rw [Bool.eq_false_iff]
    intro hready
    rw [hrest g (mem_tasks_of_ready hready)] at hready
    cases hready
  · exact fun hrest g _ => hrest g

theorem atRest_round {fuel : Nat} (hfuel : 18 ≤ fuel) (h : p.Tended fun _ => True) :
    p.Turned (Machine.round fuel p) ∧ Machine.atRest (Machine.round fuel p) = true := by
  rcases runTasks_rest hfuel (p.tasks.filter p.tickerReady) h with ⟨hturned, hlater⟩
  refine ⟨hturned, ?_⟩
  rw [atRest_iff]
  intro g
  rw [Bool.eq_false_iff]
  intro hready
  rcases hlater g hready with ⟨hbefore, hnot⟩
  exact hnot (List.mem_filter.mpr ⟨mem_tasks_of_ready hbefore, hbefore⟩)

theorem settleWithin_of_atRest (rounds : Nat) (h : Machine.atRest p = true) :
    Machine.settleWithin rounds p = p := by
  cases rounds with
  | zero => rfl
  | succ rounds =>
      unfold Machine.settleWithin
      rw [if_pos h]

theorem settleWithin_rests {fuel : Nat} (hfuel : 18 ≤ fuel) (h : p.Tended fun _ => True) :
    p.Turned (Machine.settleWithin fuel p) ∧
      Machine.atRest (Machine.settleWithin fuel p) = true := by
  cases fuel with
  | zero => exact absurd hfuel (by decide)
  | succ rounds =>
      unfold Machine.settleWithin
      split
      next hrest => exact ⟨turned_refl p, hrest⟩
      next =>
        rcases atRest_round hfuel h with ⟨hturned, hrest⟩
        rw [settleWithin_of_atRest _ hrest]
        exact ⟨hturned, hrest⟩

/-- Whatever happened to polling, its tickers come to a point from which they have to wait. -/
theorem settle_rests (h : p.Tended fun _ => True) :
    p.Turned (Machine.settle p) ∧ Machine.atRest (Machine.settle p) = true :=
  settleWithin_rests (by decide) h

end Polling
end Pulling
end MetricGateway
