import MetricGateway.Proofs.Pulling.Rest

/-!
# While time passes

Nothing that happens to background polling takes time.  Time passes in between, while every ticker
has to wait, and it halts at each time for which one of them waits.  A clock that is advanced by any
length, however many rounds are due on the way, goes on in this manner.
-/

namespace MetricGateway
namespace Pulling
namespace Polling

/-- What happens to background polling in the course of time. -/
inductive Event where
  | move (m : Move)
  | wait (target : Instant)

def Event.toMove : Event → Move
  | .move m => m
  | .wait target => .share fun c => { c with now := target }

def react (p : Polling) (e : Event) : Polling := p.move e.toMove

def pass (p : Polling) (events : List Event) : Polling := events.foldl react p

/-- An event takes no time, or it waits while all tickers do, and no longer than any of them. -/
def Allows (p : Polling) : Event → Prop
  | .move (.perform _) => True
  | .move (.share f) => (f p.common).now = p.common.now
  | .wait target => Machine.atRest p = true ∧ p.common.now.nanos ≤ target.nanos ∧
      ∀ due ∈ p.alarms, target.tick ≤ due.ceilTick

/-- Each event of a run is allowed when it happens. -/
def Timely (p : Polling) : List Event → Prop
  | [] => True
  | e :: events => p.Allows e ∧ (p.react e).Timely events

/-- Polling can get from one state to another in the course of time. -/
def Passes (p q : Polling) : Prop := ∃ events, p.Timely events ∧ p.pass events = q

variable {p q s : Polling}

theorem pass_eq_follow (p : Polling) (events : List Event) :
    p.pass events = p.follow (events.map Event.toMove) := by
  unfold pass follow
  rw [List.foldl_map]
  rfl

theorem pass_append (p : Polling) (events more : List Event) :
    p.pass (events ++ more) = (p.pass events).pass more :=
  List.foldl_append

theorem Timely.append {events more : List Event} (h : p.Timely events)
    (hmore : (p.pass events).Timely more) : p.Timely (events ++ more) := by
  induction events generalizing p with
  | nil => exact hmore
  | cons e events ih => exact ⟨h.1, ih h.2 hmore⟩

theorem Passes.trans (h : p.Passes q) (h' : q.Passes s) : p.Passes s := by
  rcases h with ⟨events, htimely, rfl⟩
  rcases h' with ⟨more, hmore, rfl⟩
  exact ⟨events ++ more, htimely.append hmore, pass_append p events more⟩

theorem Tended.pass (h : p.Tended fun _ => True) (events : List Event) :
    (p.pass events).Tended fun _ => True := by
  induction events generalizing p with
  | nil => exact h
  | cons e events ih =>
      show ((p.react e).pass events).Tended _
      apply ih
      unfold react
      cases e.toMove with
      | perform op => exact (h.perform op).mono fun _ _ => trivial
      | share f => exact h.onCommon f

theorem Passes.tended (h : p.Passes q) (htended : p.Tended fun _ => True) :
    q.Tended fun _ => True := by
  rcases h with ⟨events, _, rfl⟩
  exact htended.pass events

theorem Turned.passes (h : p.Turned q) : p.Passes q := by
  rcases h with ⟨turns, rfl⟩
  induction turns generalizing p with
  | nil => exact ⟨[], trivial, rfl⟩
  | cons g turns ih =>
      rcases ih (p := p.stepTicker g .goOn) with ⟨events, htimely, hpass⟩
      exact ⟨.move (.perform (.turn g .goOn)) :: events, ⟨trivial, htimely⟩, hpass⟩

theorem now_turned (h : p.Turned q) : q.common.now = p.common.now := by
  rcases h with ⟨turns, rfl⟩
  induction turns generalizing p with
  | nil => rfl
  | cons g turns ih => exact (ih (p := p.stepTicker g .goOn)).trans (blind_now.stepTicker p g .goOn)

theorem passes_wait {target : Instant} (hrest : Machine.atRest p = true)
    (hlater : p.common.now.nanos ≤ target.nanos)
    (halarms : ∀ due ∈ p.alarms, target.tick ≤ due.ceilTick) :
    p.Passes (Machine.setNow p target) :=
  ⟨[.wait target], ⟨⟨hrest, hlater, halarms⟩, trivial⟩, rfl⟩

/-! ## Advancing the clock -/

theorem ahead_of_atRest (hrest : Machine.atRest p = true) {due : Instant} (hdue : due ∈ p.alarms) :
    p.common.now.tick < due.ceilTick := by
  rcases List.mem_filterMap.mp hdue with ⟨t, ht, halarm⟩
  rw [values_eq_map_toList, List.mem_map] at ht
  rcases ht with ⟨⟨g, t'⟩, hmem, rfl⟩
  have hlookup := Std.ExtTreeMap.mem_toList_iff_getElem?_eq_some.mp hmem
  have hphase : t'.phase = .sleeping due := by
    unfold Ticker.alarm? at halarm
    split at halarm
    next other hphase =>
      cases halarm
      exact hphase
    next => cases halarm
  have hwaits := (atRest_iff p).mp hrest g
  rw [ready_of_sleeping hlookup hphase, Bool.or_eq_false_iff] at hwaits
  have hunmet : ¬due.metBy p.common.now = true := Bool.eq_false_iff.mp hwaits.2
  rw [Instant.metBy_iff] at hunmet
  omega

theorem nextAlarm_cases (hrest : Machine.atRest p = true) (last : Nat) :
    (Machine.nextAlarm? p last = none ∧ ∀ due ∈ p.alarms, last < due.ceilTick) ∨
      ∃ tick, Machine.nextAlarm? p last = some tick ∧ p.common.now.tick < tick ∧ tick ≤ last ∧
        ∀ due ∈ p.alarms, tick ≤ due.ceilTick := by
  have hmem : ∀ tick, tick ∈ ((p.alarms.map Instant.ceilTick).filter fun tick =>
      decide (p.common.now.tick < tick ∧ tick ≤ last)) ↔
        (∃ due ∈ p.alarms, due.ceilTick = tick) ∧ p.common.now.tick < tick ∧ tick ≤ last := by
    intro tick
    rw [List.mem_filter, List.mem_map, decide_eq_true_iff]
  cases hnext : Machine.nextAlarm? p last with
  | none =>
      refine Or.inl ⟨rfl, ?_⟩
      intro due hdue
      rw [← Nat.not_le]
      intro hsoon
      have hempty := List.min?_eq_none_iff.mp hnext
      have hin := (hmem due.ceilTick).mpr ⟨⟨due, hdue, rfl⟩, ahead_of_atRest hrest hdue, hsoon⟩
      have hnone : due.ceilTick ∈ ([] : List Nat) := hempty ▸ hin
      exact List.not_mem_nil hnone
  | some tick =>
      rcases List.min?_eq_some_iff.mp hnext with ⟨hin, hleast⟩
      rcases (hmem tick).mp hin with ⟨_, hahead, hsoon⟩
      refine Or.inr ⟨tick, rfl, hahead, hsoon, ?_⟩
      intro due hdue
      by_cases hlate : due.ceilTick ≤ last
      · exact hleast _ ((hmem _).mpr ⟨⟨due, hdue, rfl⟩, ahead_of_atRest hrest hdue, hlate⟩)
      · omega

/-- Time passes up to an instant before which no ticker wakes up, and those that wake up then go. -/
theorem settle_setNow_passes {target : Instant} (h : p.Tended fun _ => True)
    (hrest : Machine.atRest p = true) (hlater : p.common.now.nanos ≤ target.nanos)
    (halarms : ∀ due ∈ p.alarms, target.tick ≤ due.ceilTick) :
    p.Passes (Machine.settle (Machine.setNow p target)) ∧
      Machine.atRest (Machine.settle (Machine.setNow p target)) = true := by
  have hwaited := passes_wait hrest hlater halarms
  rcases settle_rests (hwaited.tended h) with ⟨hturned, hend⟩
  exact ⟨hwaited.trans hturned.passes, hend⟩

theorem advanceWithin_passes (fuel : Nat) {target : Instant} (h : p.Tended fun _ => True)
    (hlater : p.common.now.nanos ≤ target.nanos)
    (hfuel : target.tick - p.common.now.tick ≤ fuel) :
    p.Passes (Machine.advanceWithin fuel p target) ∧
      Machine.atRest (Machine.advanceWithin fuel p target) = true := by
  induction fuel generalizing p with
  | zero =>
      rcases settle_rests h with ⟨hturned, hrest⟩
      have hnow := now_turned hturned
      have hlast : Machine.advanceWithin 0 p target =
          Machine.settle (Machine.setNow (Machine.settle p) target) := rfl
      rw [hlast]
      have hthere : target.tick ≤ (Machine.settle p).common.now.tick := by
        rw [hnow]
        exact Nat.sub_eq_zero_iff_le.mp (Nat.le_zero.mp hfuel)
      rcases settle_setNow_passes (hturned.tended h) hrest (hnow ▸ hlater) (fun due hdue =>
        Nat.le_trans hthere (Nat.le_of_lt (ahead_of_atRest hrest hdue))) with ⟨hpasses, hend⟩
      exact ⟨hturned.passes.trans hpasses, hend⟩
  | succ fuel ih =>
      rcases settle_rests h with ⟨hturned, hrest⟩
      have hnow := now_turned hturned
      unfold Machine.advanceWithin
      dsimp only
      rcases nextAlarm_cases hrest target.tick with
        ⟨hnone, hfar⟩ | ⟨tick, hnext, hahead, hsoon, hleast⟩
      · rw [hnone]
        dsimp only
        rcases settle_setNow_passes (hturned.tended h) hrest (hnow ▸ hlater)
          (fun due hdue => Nat.le_of_lt (hfar due hdue)) with ⟨hpasses, hend⟩
        exact ⟨hturned.passes.trans hpasses, hend⟩
      · rw [hnext]
        dsimp only
        have hhalt : (Instant.ofTick tick).tick = tick := Instant.tick_ofTick tick
        rw [hnow] at hahead
        have hwaited : (Machine.settle p).Passes
            (Machine.setNow (Machine.settle p) (Instant.ofTick tick)) := by
          apply passes_wait hrest
          · rw [hnow]
            unfold Instant.tick at hahead
            show p.common.now.nanos ≤ nanosPerMilli * tick
            simp only [nanosPerMilli] at hahead ⊢
            omega
          · rw [hhalt]
            exact hleast
        have hstart := hturned.passes.trans hwaited
        have hnow' : (Machine.setNow (Machine.settle p) (Instant.ofTick tick)).common.now =
            Instant.ofTick tick := rfl
        rcases ih (hstart.tended h) (by
            rw [hnow']
            unfold Instant.tick at hsoon
            show nanosPerMilli * tick ≤ target.nanos
            simp only [nanosPerMilli] at hsoon ⊢
            omega) (by
            rw [hnow', hhalt]
            omega) with ⟨hpasses, hend⟩
        exact ⟨hstart.trans hpasses, hend⟩

/-- A clock that is advanced by any length moves as time passes, and leaves polling at rest. -/
theorem advance_passes (h : p.Tended fun _ => True) (d : Duration) :
    p.Passes (Machine.advance p d) ∧ Machine.atRest (Machine.advance p d) = true := by
  have hlater : p.common.now.nanos ≤ (p.common.now.roundedPlus d).nanos := by
    show p.common.now.nanos ≤ nanosPerMilli * (p.common.now.plus d).ceilTick
    unfold Instant.ceilTick Instant.plus
    simp only [nanosPerMilli]
    omega
  exact advanceWithin_passes _ h hlater (Nat.le_refl _)

end Polling
end Pulling
end MetricGateway
