import MetricGateway.Proofs.Pulling.Passing
import MetricGateway.Proofs.Pulling.Silence

/-!
# The cadence of a group

The rounds of a group follow each other at its interval, counted from the time when the group was
created, to the nanosecond: a ticker that is woken up at the next tick of the millisecond clock
counts on from the time for which it waited.  The rounding of one round is therefore gone in the
next one.  Time halts at every such tick, so that no round is so late that the next one is put off.
-/

namespace MetricGateway

/-- The time of a round: as many periods after the start. -/
def Instant.roundAt (start : Instant) (period : Duration) (k : Nat) : Instant :=
  ⟨start.nanos + k * period.toNanos⟩

namespace Instant

variable {start : Instant} {period : Duration}

theorem plus_roundAt (start : Instant) (period : Duration) (k : Nat) :
    (start.roundAt period k).plus period = start.roundAt period (k + 1) := by
  unfold plus roundAt
  rw [Instant.mk.injEq, Nat.succ_mul]
  show period.toNanos + (start.nanos + k * period.toNanos) = _
  omega

theorem nanos_roundAt_le (start : Instant) (period : Duration) {k l : Nat} (h : k ≤ l) :
    (start.roundAt period k).nanos ≤ (start.roundAt period l).nanos :=
  Nat.add_le_add_left (Nat.mul_le_mul_right _ h) _

theorem countable_of_le {k l : Nat} (h : k ≤ l) (hl : (start.roundAt period l).countable = true) :
    (start.roundAt period k).countable = true := by
  unfold countable at hl ⊢
  rw [decide_eq_true_iff] at hl ⊢
  exact Nat.lt_of_le_of_lt (nanos_roundAt_le start period h) hl

theorem ceilTick_roundAt_le (start : Instant) (period : Duration) {k l : Nat} (h : k ≤ l) :
    (start.roundAt period k).ceilTick ≤ (start.roundAt period l).ceilTick :=
  Nat.div_le_div_right (Nat.add_le_add_left (nanos_roundAt_le start period h) _)

end Instant

namespace Pulling

/-- A round that takes place at the first tick at which it can puts the next one a period after the
time that it was due. -/
theorem Ticker.nextDue_of_punctual {period : Duration} {due now : Instant}
    (hpunctual : now.tick ≤ due.ceilTick) (hnext : (due.plus period).countable = true) :
    Ticker.nextDue period due now = due.plus period := by
  unfold nextDue
  rw [if_neg]
  · unfold Instant.later?
    rw [if_pos hnext]
    rfl
  · have htolerance : (due.plus tolerance).nanos = 5000000 + due.nanos := rfl
    rw [htolerance]
    unfold Instant.tick Instant.ceilTick at hpunctual
    simp only [nanosPerMilli] at hpunctual
    omega

/-- A ticker goes on with its task, whether or not it was told to stop. -/
structure Ticker.Continues (t t' : Ticker) : Prop where
  ref : t'.ref = t.ref
  period : t'.period = t.period
  phase : t'.phase = t.phase

namespace Polling

variable {lapsed : Duration → Prop} {p q : Polling} {g : Generation} {ref : GroupRef} {t : Ticker}
  {start : Instant} {period : Duration} {n : Nat} {e : Event}

/-- The tick of the clock at which the ticker of a generation calls for a round, if that is what an
event is. -/
def firing? (p : Polling) (g : Generation) : Event → Option Nat
  | .move (.perform (.turn g' preference)) =>
      if g' = g ∧ (p.calls? (.perform (.turn g' preference))).isSome then some p.common.now.tick
      else none
  | _ => none

/-- The ticks at which the ticker of a generation calls for a round, one after the other. -/
def firings (p : Polling) (g : Generation) : List Event → List Nat
  | [] => []
  | e :: events => (p.firing? g e).toList ++ (p.react e).firings g events

def Registers (p : Polling) (ref : GroupRef) : Prop :=
  ∃ slot, p.registry.groups[ref.key]? = some slot ∧ slot.generation = ref.generation

/-!
## Tickers while other things happen
-/

theorem continues_refl (t : Ticker) : Ticker.Continues t t := ⟨rfl, rfl, rfl⟩

theorem continues_told (dropped : List GroupRef) (t : Ticker) :
    Ticker.Continues t (told dropped t) := by
  refine ⟨ref_told dropped t, period_told dropped t, ?_⟩
  unfold told
  split <;> rfl

theorem continues_cancel (ht : p.tickers[g]? = some t) (dropped : List GroupRef) :
    ∃ t', (p.cancel dropped).tickers[g]? = some t' ∧ Ticker.Continues t t' :=
  ⟨told dropped t, by rw [getElem?_tickers_cancel, ht]; rfl, continues_told dropped t⟩

theorem Tended.continues (h : p.Tended lapsed) (ht : p.tickers[g]? = some t) {op : Op}
    (hother : ∀ preference, op ≠ .turn g preference) :
    ∃ t', (p.perform op).tickers[g]? = some t' ∧ Ticker.Continues t t' := by
  have hsame : ∃ t', p.tickers[g]? = some t' ∧ Ticker.Continues t t' := ⟨t, ht, continues_refl t⟩
  cases op with
  | add target metric valueKind budget =>
      show ∃ t', (p.add target metric valueKind budget).1.tickers[g]? = some t' ∧ _
      unfold Polling.add
      cases hadd : p.registry.add target metric valueKind budget with
      | error err => exact hsame
      | ok added =>
          have hcancelled := continues_cancel ht added.2.dropped.toList
          dsimp only
          cases hcreated : added.2.created with
          | none => exact hcancelled
          | some created =>
              have hnew : created.generation = p.registry.generations + 1 := by
                by_cases hmem : target.groupKey ∈ p.registry.groups
                · rw [(Registry.thins_add hadd hmem).2] at hcreated
                  cases hcreated
                · rw [(Registry.creates_add hadd hmem).1] at hcreated
                  cases hcreated
                  rfl
              have hne : g ≠ created.generation := by
                rw [hnew]
                exact Nat.ne_of_lt (Nat.lt_succ_of_le (h.numbered ht).2)
              rcases hcancelled with ⟨t', ht', hcontinues⟩
              exact ⟨t', (lookup_insert_of_ne _ hne _).trans ht', hcontinues⟩
  | refresh metric => exact hsame
  | remove metric =>
      show ∃ t', (p.remove metric).1.tickers[g]? = some t' ∧ _
      unfold Polling.remove
      split
      · exact hsame
      · exact continues_cancel (p := p) ht _
  | stopContainer container => exact continues_cancel (p := p) ht _
  | stopAll => exact continues_cancel (p := p) ht _
  | shutdown =>
      rcases continues_cancel ht p.registry.stopAll.2 with ⟨t', ht', hcontinues⟩
      refine ⟨{ t' with cancelled := true }, ?_, hcontinues.1, hcontinues.2, hcontinues.3⟩
      show (p.stopAll.1.tickers.map fun _ t => { t with cancelled := true })[g]? = _
      rw [Std.ExtTreeMap.getElem?_map, show p.stopAll.1.tickers[g]? = some t' from ht']
      rfl
  | tick other =>
      show ∃ t', (p.tick other).1.tickers[g]? = some t' ∧ _
      unfold Polling.tick
      split
      · exact hsame
      · dsimp only
        split
        · exact continues_cancel (p := p) ht _
        · exact hsame
  | turn g' preference =>
      have hne : g ≠ g' := by
        rintro rfl
        exact hother preference rfl
      exact ⟨t, ((h.frame_stepTicker g' preference).others g hne).trans ht, continues_refl t⟩

theorem Tended.shutDown_react (h : p.Tended lapsed) (hrunning : p.shutDown = false)
    (hregisters : (p.react e).Registers ref) : (p.react e).shutDown = false := by
  unfold react at hregisters ⊢
  cases hmove : e.toMove with
  | share f => exact hrunning
  | perform op =>
      rw [hmove] at hregisters
      cases op with
      | add target metric valueKind budget =>
          exact (shutDown_add p target metric valueKind budget).trans hrunning
      | refresh metric => exact hrunning
      | remove metric =>
          show (p.remove metric).1.shutDown = false
          unfold Polling.remove
          split <;> exact hrunning
      | stopContainer container => exact hrunning
      | stopAll => exact hrunning
      | shutdown =>
          rcases hregisters with ⟨slot, hslot, _⟩
          have hnone : (p.move (.perform .shutdown)).registry.groups[ref.key]? = none :=
            Registry.groups_stopAll _ _
          rw [hnone] at hslot
          cases hslot
      | tick other => exact (shutDown_tick p other).trans hrunning
      | turn g preference => exact (h.frame_stepTicker g preference).shutDown.trans hrunning

theorem Tended.descends_react (h : p.Tended lapsed) (e : Event) :
    p.registry.Descends (p.react e).registry := by
  unfold react
  cases e.toMove with
  | perform op => exact descends_perform h.consistent op
  | share f => exact (Registry.thins_refl _).descends

/-- A group that is registered, and was given out before, was registered before. -/
theorem Tended.registers_of_pass (h : p.Tended fun _ => True) (events : List Event)
    (hgiven : ref.generation ≤ p.registry.generations)
    (hregisters : (p.pass events).Registers ref) : p.Registers ref := by
  rcases hregisters with ⟨slot', hslot', hcurrent⟩
  rw [pass_eq_follow] at hslot'
  rcases (descends_follow h.consistent _).slot hslot' (hcurrent ▸ hgiven) with
    ⟨slot, hslot, hgeneration, _⟩
  exact ⟨slot, hslot, hgeneration.trans hcurrent⟩

theorem Tended.uncancelled (h : p.Tended lapsed) (hrunning : p.shutDown = false)
    (hregisters : p.Registers ref) (ht : p.tickers[ref.generation]? = some t) :
    t.cancelled = false := by
  rcases hregisters with ⟨slot, hslot, hcurrent⟩
  rw [Bool.eq_false_iff]
  intro hcancelled
  have hshut := (h.tended hslot (hcurrent ▸ ht)).2.2 hcancelled
  rw [hrunning] at hshut
  cases hshut

/-!
## Rounds on time
-/

/-- A ticker that took part in `n` rounds waits for the next one, or is about to run for the first
time, and that round is not late. -/
structure InStep (p : Polling) (ref : GroupRef) (start : Instant) (period : Duration) (n : Nat)
    (t : Ticker) : Prop where
  found : p.tickers[ref.generation]? = some t
  period_eq : t.period = period
  phase : (t.phase = .starting ∧ n = 0 ∧ p.common.now = start) ∨
    t.phase = .sleeping (start.roundAt period (n + 1))
  punctual : p.common.now.tick ≤ (start.roundAt period (n + 1)).ceilTick

/-- The next round of a group is still to come, if the clock can count up to it. -/
def Due (p : Polling) (ref : GroupRef) (start : Instant) (period : Duration) (n : Nat) : Prop :=
  (start.roundAt period (n + 1)).countable = true → ∃ t, p.InStep ref start period n t

theorem InStep.continues (h : p.InStep ref start period n t) {t' : Ticker}
    (ht' : q.tickers[ref.generation]? = some t') (hcontinues : Ticker.Continues t t')
    (hnow : q.common.now = p.common.now) : q.InStep ref start period n t' where
  found := ht'
  period_eq := hcontinues.period.trans h.period_eq
  phase := by
    rw [hcontinues.phase, hnow]
    exact h.phase
  punctual := by
    rw [hnow]
    exact h.punctual

theorem InStep.wait (h : p.InStep ref start period n t) {target : Instant}
    (hallows : p.Allows (.wait target)) :
    (p.react (.wait target)).InStep ref start period n t := by
  rcases hallows with ⟨hrest, _, halarms⟩
  rcases h.phase with ⟨hstarting, _, _⟩ | hsleeping
  · have hwaits := (atRest_iff p).mp hrest ref.generation
    rw [ready_of_starting h.found hstarting] at hwaits
    cases hwaits
  · refine ⟨h.found, h.period_eq, Or.inr hsleeping, ?_⟩
    apply halarms
    apply List.mem_filterMap.mpr
    refine ⟨t, ?_, ?_⟩
    · rw [values_eq_map_toList]
      exact List.mem_map.mpr
        ⟨(ref.generation, t), Std.ExtTreeMap.mem_toList_iff_getElem?_eq_some.mpr h.found, rfl⟩
    · unfold Ticker.alarm?
      rw [hsleeping]

/-- The ticker of the group takes its step: it goes to sleep until the first round, or it sleeps on,
or its round takes place at the first tick that is not before its time. -/
theorem InStep.turn (h : p.InStep ref start period n t) (htended : p.Tended lapsed)
    (hgoes : t.cancelled = false) {preference : Preference}
    (hregisters : (p.stepTicker ref.generation preference).Registers ref)
    (hroom : (p.stepTicker ref.generation preference).held? ref.generation = none)
    (hcountable : (start.roundAt period (n + 1)).countable = true) :
    match p.calls? (.perform (.turn ref.generation preference)) with
    | none => ∃ t', (p.stepTicker ref.generation preference).InStep ref start period n t'
    | some _ => p.common.now.tick = (start.roundAt period (n + 1)).ceilTick ∧
        (p.stepTicker ref.generation preference).Due ref start period (n + 1) := by
  have hcalls : p.calls? (.perform (.turn ref.generation preference)) =
      t.calls? preference p.common.now := by
    show p.tickers[ref.generation]?.bind _ = _
    rw [h.found]
    rfl
  rw [hcalls]
  unfold Ticker.calls?
  rcases h.phase with ⟨hstarting, hzero, hnow⟩ | hsleeping
  · have hfirst : start.plus period = start.roundAt period (n + 1) := by
      rw [hzero, ← Instant.plus_roundAt]
      unfold Instant.roundAt
      rw [Nat.zero_mul]
      rfl
    have hbegins : t.begins? p.common.now = some (start.roundAt period (n + 1)) := by
      unfold Ticker.begins? Ticker.firstDue? Instant.later?
      rw [hgoes, h.period_eq, hnow, hfirst, if_pos hcountable]
      rfl
    have hslept : p.stepTicker ref.generation preference =
        p.sleep ref.generation t (start.roundAt period (n + 1)) := by
      rw [stepTicker_starting h.found hstarting, hbegins]
    rw [hstarting]
    dsimp only
    rw [hslept]
    exact ⟨_, tickers_sleep _ _ _ _, h.period_eq, Or.inr rfl, h.punctual⟩
  · have hstep : p.stepTicker ref.generation preference =
        if (start.roundAt period (n + 1)).metBy p.common.now then
          p.fire ref.generation t (start.roundAt period (n + 1))
        else p := by
      rw [stepTicker_sleeping h.found hsleeping, hgoes, if_neg]
      rintro ⟨hcancelled, _⟩
      cases hcancelled
    rw [hstep] at hregisters hroom ⊢
    rw [hsleeping, hgoes]
    dsimp only
    rw [if_neg (by simp)]
    split at hregisters
    next hdue =>
      rw [if_pos hdue] at hroom ⊢
      rw [if_pos hdue]
      have hontime : p.common.now.tick = (start.roundAt period (n + 1)).ceilTick :=
        Nat.le_antisymm h.punctual ((Instant.metBy_iff _ _).mp hdue)
      refine ⟨hontime, ?_⟩
      intro hnext
      rw [← Instant.plus_roundAt] at hnext
      rcases htended.fire_awaits h.found (start.roundAt period (n + 1)) with
        ⟨hframe, ⟨hnone, _⟩ | ⟨_, t', ht', hawaits⟩⟩
      · rcases hregisters with ⟨slot, hslot, hcurrent⟩
        rw [registry_fire] at hslot
        exact absurd hcurrent (htended.generation_ne_of_tick h.found hnone hslot)
      · rw [h.period_eq, Ticker.nextDue_of_punctual h.punctual hnext, Instant.plus_roundAt]
          at hawaits
        cases hawaits with
        | sleeping turn =>
            refine ⟨_, ht', h.period_eq, Or.inr rfl, ?_⟩
            rw [hframe.now, hontime]
            exact Instant.ceilTick_roundAt_le start period (Nat.le_succ _)
        | parked ticket m =>
            unfold held? at hroom
            rw [ht'] at hroom
            cases hroom
    next hearly =>
      rw [if_neg hearly]
      rw [if_neg hearly]
      exact ⟨t, h⟩

theorem firing?_of_ne {op : Op} (hother : ∀ preference, op ≠ .turn g preference) :
    p.firing? g (.move (.perform op)) = none := by
  cases op with
  | turn g' preference =>
      unfold firing?
      dsimp only
      rw [if_neg]
      rintro ⟨rfl, _⟩
      exact hother preference rfl
  | _ => rfl

/-- An event is a round of the group, at its time, or it leaves the next round to come. -/
theorem Due.react (h : p.Due ref start period n) (htended : p.Tended lapsed)
    (hrunning : p.shutDown = false) (hbefore : p.Registers ref) (hallows : p.Allows e)
    (hregisters : (p.react e).Registers ref)
    (hroom : (p.react e).held? ref.generation = none) :
    (∀ tick, p.firing? ref.generation e = some tick →
      (start.roundAt period (n + 1)).countable = true →
        tick = (start.roundAt period (n + 1)).ceilTick) ∧
      (p.react e).Due ref start period (n + (p.firing? ref.generation e).toList.length) := by
  cases e with
  | wait target =>
      constructor
      · intro tick hfiring
        cases hfiring
      · intro hcountable
        rcases h hcountable with ⟨t, hstep⟩
        exact ⟨t, hstep.wait hallows⟩
  | move m =>
      cases m with
      | share f =>
          constructor
          · intro tick hfiring
            cases hfiring
          · intro hcountable
            rcases h hcountable with ⟨t, hstep⟩
            exact ⟨t, hstep.continues hstep.found (continues_refl t) hallows⟩
      | perform op =>
          by_cases hown : ∃ preference, op = .turn ref.generation preference
          · rcases hown with ⟨preference, rfl⟩
            have hturn := fun hcountable : (start.roundAt period (n + 1)).countable = true =>
              let ⟨t, hstep⟩ := h hcountable
              hstep.turn htended (htended.uncancelled hrunning hbefore hstep.found)
                hregisters hroom hcountable
            unfold firing?
            dsimp only
            cases hcalls : p.calls? (.perform (.turn ref.generation preference)) with
            | none =>
                rw [hcalls] at hturn
                rw [if_neg (by simp)]
                refine ⟨?_, hturn⟩
                intro tick hfiring
                cases hfiring
            | some called =>
                rw [hcalls] at hturn
                rw [if_pos ⟨rfl, rfl⟩]
                refine ⟨?_, ?_⟩
                · intro tick hfiring hcountable
                  cases hfiring
                  exact (hturn hcountable).1
                · intro hnext
                  exact (hturn (Instant.countable_of_le (Nat.le_succ _) hnext)).2 hnext
          · have hother : ∀ preference, op ≠ .turn ref.generation preference :=
              fun preference heq => hown ⟨preference, heq⟩
            rw [firing?_of_ne hother]
            constructor
            · intro tick hfiring
              cases hfiring
            · intro hcountable
              rcases h hcountable with ⟨t, hstep⟩
              rcases htended.continues hstep.found hother with ⟨t', ht', hcontinues⟩
              exact ⟨t', hstep.continues ht' hcontinues (blind_now.perform p op)⟩

/-- The rounds of a run come at their times, and the one after them is still to come. -/
theorem Due.pass {events : List Event} (h : p.Due ref start period n)
    (htended : p.Tended fun _ => True) (hrunning : p.shutDown = false)
    (hgiven : ref.generation ≤ p.registry.generations) (htimely : p.Timely events)
    (hregisters : (p.pass events).Registers ref)
    (hroom : ∀ earlier later, events = earlier ++ later →
      (p.pass earlier).held? ref.generation = none) :
    (∀ (k tick : Nat), (p.firings ref.generation events)[k]? = some tick →
      (start.roundAt period (n + k + 1)).countable = true →
        tick = (start.roundAt period (n + k + 1)).ceilTick) ∧
      (p.pass events).Due ref start period (n + (p.firings ref.generation events).length) := by
  induction events generalizing p n with
  | nil => exact ⟨fun k tick hfiring => (by cases hfiring), h⟩
  | cons e events ih =>
      have hafter : (p.react e).Tended fun _ => True := htended.pass [e]
      have hgiven' : ref.generation ≤ (p.react e).registry.generations :=
        Nat.le_trans hgiven (htended.descends_react e).generations
      have hkept : (p.react e).Registers ref := hafter.registers_of_pass events hgiven' hregisters
      have hbefore : p.Registers ref := htended.registers_of_pass [e] hgiven hkept
      rcases h.react htended hrunning hbefore htimely.1 hkept (hroom [e] events rfl) with
        ⟨hfirst, hnext⟩
      rcases ih hnext hafter (htended.shutDown_react hrunning hkept) hgiven' htimely.2 hregisters
        (fun earlier later hsplit => hroom (e :: earlier) later (by rw [hsplit]; rfl)) with
        ⟨hlater, hend⟩
      cases hfiring : p.firing? ref.generation e with
      | none =>
          rw [hfiring] at hlater hend
          rw [firings, hfiring]
          exact ⟨hlater, hend⟩
      | some tick =>
          rw [hfiring] at hlater hend
          rw [firings, hfiring]
          refine ⟨?_, ?_⟩
          · intro k tick' hat
            cases k with
            | zero =>
                cases hat
                exact hfirst tick hfiring
            | succ k =>
                have hplace := hlater k tick' hat
                have hcount : n + 1 + k = n + (k + 1) := by omega
                rw [Option.toList_some, List.length_singleton, hcount] at hplace
                exact hplace
          · show (p.pass (e :: events)).Due ref start period (n + ([tick] ++ _).length)
            rw [List.length_append, ← Nat.add_assoc]
            exact hend

/-- At rest, the next round of a group is not overdue, and still less those after it. -/
theorem Due.not_past (h : p.Due ref start period n) (hrest : Machine.atRest p = true) {k : Nat}
    (hk : n ≤ k) (hcountable : (start.roundAt period (k + 1)).countable = true) :
    p.common.now.tick < (start.roundAt period (k + 1)).ceilTick := by
  have hsooner := Nat.succ_le_succ hk
  rcases h (Instant.countable_of_le hsooner hcountable) with ⟨t, hstep⟩
  have hwaits := (atRest_iff p).mp hrest ref.generation
  rcases hstep.phase with ⟨hstarting, _, _⟩ | hsleeping
  · rw [ready_of_starting hstep.found hstarting] at hwaits
    cases hwaits
  · rw [ready_of_sleeping hstep.found hsleeping, Bool.or_eq_false_iff] at hwaits
    have hunmet := Bool.eq_false_iff.mp hwaits.2
    rw [Ne, Instant.metBy_iff, Nat.not_le] at hunmet
    exact Nat.lt_of_lt_of_le hunmet (Instant.ceilTick_roundAt_le _ _ hsooner)

/-- The first round of a group that was just created is to come at its interval from now. -/
theorem due_of_creates {target : Target} {metric : MetricId} {valueKind : ValueKind}
    {budget : UInt16} {registry : Registry} {report : AddReport}
    (hadd : p.registry.add target metric valueKind budget = .ok (registry, report))
    (hnew : target.groupKey ∉ p.registry.groups) :
    (p.add target metric valueKind budget).1.Due
      ⟨target.groupKey, p.registry.generations + 1⟩ p.common.now target.interval 0 := by
  have hreport := (Registry.creates_add hadd hnew).1
  have hnow := blind_now.add p target metric valueKind budget
  have hticker : (p.add target metric valueKind budget).1.tickers[p.registry.generations + 1]? =
      some {
        ref := ⟨target.groupKey, p.registry.generations + 1⟩
        period := target.interval
        cancelled := p.shutDown } := by
    unfold Polling.add
    rw [hadd]
    dsimp only
    rw [hreport]
    exact Std.ExtTreeMap.getElem?_insert_self
  intro _
  refine ⟨_, hticker, rfl, Or.inl ⟨rfl, rfl, hnow⟩, ?_⟩
  show (p.add target metric valueKind budget).1.common.now.tick ≤ _
  rw [hnow]
  have hlater := Instant.nanos_roundAt_le p.common.now target.interval (Nat.zero_le 1)
  unfold Instant.roundAt at hlater
  unfold Instant.roundAt Instant.tick Instant.ceilTick
  simp only [nanosPerMilli] at hlater ⊢
  omega

/-- The rounds of a group that is created while polling is not shut down, and that stays, come at
its interval after its creation, each at the first tick of the millisecond clock that is not before
its time; at rest, none of those up to the present is missing.  This holds for as long as the
messages of the group never have to wait for room and the clock can count up to the round.

`Timely` says how time goes here: whatever else happens takes none, and it passes only while every
ticker has to wait and at most up to the next timer.  A clock that is advanced by any length with
`Machine.advance` halts at every timer on its way and so moves like this.  A clock that jumps over
several timers in one step is not covered. -/
theorem rounds_keep_time (common : Commons) (exchange replyKey : String) (messageTtl : Duration)
    (before : List Move) (target : Target) (metric : MetricId) (valueKind : ValueKind)
    (budget : UInt16) {outcome : AddOutcome} :
    let start : Polling := { common, exchange, replyKey, messageTtl }
    let p := start.follow before
    let created := (p.add target metric valueKind budget).1
    let ref : GroupRef := ⟨target.groupKey, p.registry.generations + 1⟩
    let round (k : Nat) := p.common.now.roundAt target.interval k
    p.shutDown = false → target.groupKey ∉ p.registry.groups →
    (p.add target metric valueKind budget).2 = .ok outcome →
      ∀ events, created.Timely events →
        let last := created.pass events
        let ticks := created.firings ref.generation events
        last.Registers ref →
        (∀ earlier later, events = earlier ++ later →
          (created.pass earlier).held? ref.generation = none) →
          (∀ (k tick : Nat), ticks[k]? = some tick → (round (k + 1)).countable = true →
            tick = (round (k + 1)).ceilTick) ∧
          (Machine.atRest last = true → ∀ k, (round (k + 1)).countable = true →
            (round (k + 1)).ceilTick ≤ last.common.now.tick → k < ticks.length) ∧
          ∀ d, last.Passes (Machine.advance last d) ∧
            Machine.atRest (Machine.advance last d) = true := by
  intro start p created ref round hrunning hnew hok events htimely last ticks hregisters hroom
  rcases add_of_ok hok with ⟨report, hadd⟩
  have hempty : start.Tended (start.Lapsed []) :=
    tended_empty common exchange replyKey messageTtl _
  have hbefore : p.Tended (start.Lapsed before) := hempty.follow before
  have htended : created.Tended fun _ => True :=
    (hbefore.add target metric valueKind budget).mono fun _ _ => trivial
  have hup : created.shutDown = false :=
    (shutDown_add p target metric valueKind budget).trans hrunning
  have hgiven : ref.generation ≤ created.registry.generations := by
    have hgenerations := (Registry.creates_add hadd hnew).2.1
    exact Nat.le_of_eq hgenerations.symm
  have hfirst : created.Due ref p.common.now target.interval 0 := due_of_creates hadd hnew
  rcases hfirst.pass htended hup hgiven htimely hregisters hroom with ⟨hticks, hend⟩
  refine ⟨?_, ?_, fun d => advance_passes (htended.pass events) d⟩
  · intro k tick hat
    have hplace := hticks k tick hat
    rw [Nat.zero_add] at hplace
    exact hplace
  · intro hrest k hcountable hpast
    rw [← Nat.not_le]
    intro hmissing
    rw [Nat.zero_add] at hend
    exact Nat.not_le.mpr (hend.not_past hrest hmissing hcountable) hpast

/-!
## An interval with half a millisecond

The rounds of the group are due half a millisecond after a tick and at a tick, in turn.
-/

def viaHalf : Target := ⟨7, .snmpV2c, "snmp", { secs := 1, nanos := 500000 }⟩

def millis (ms : Nat) : Instant := ⟨nanosPerMilli * ms⟩

/-- The ticker goes to sleep, and its first two rounds come; the messages are taken. -/
def twoRounds : List Event :=
  [.move (.perform (.turn 1 .goOn)), .wait (millis 1001), .move (.perform (.turn 1 .goOn)),
    .move (.share fun c => c.takeSent.1), .wait (millis 2001), .move (.perform (.turn 1 .goOn))]

theorem rounds_keep_time_twice :
    let created := (unused.add viaHalf 1 .int 5).1
    let round (k : Nat) := unused.common.now.roundAt viaHalf.interval k
    (∀ (k tick : Nat), (created.firings 1 twoRounds)[k]? = some tick →
      (round (k + 1)).countable = true → tick = (round (k + 1)).ceilTick) ∧
    (∀ k, (round (k + 1)).countable = true → (round (k + 1)).ceilTick ≤ 2001 →
      k < (created.firings 1 twoRounds).length) ∧
    created.firings 1 twoRounds = [1001, 2001] := by
  intro created round
  have hok : (unused.add viaHalf 1 .int 5).2 = .ok .inserted := by decide +kernel
  have hnew : viaHalf.groupKey ∉ unused.registry.groups := by decide +kernel
  have htimely : created.Timely twoRounds :=
    ⟨trivial, ⟨by decide +kernel, by decide +kernel, by decide +kernel⟩, trivial, rfl,
      ⟨by decide +kernel, by decide +kernel, by decide +kernel⟩, trivial, trivial⟩
  have hregisters : (created.pass twoRounds).Registers ⟨viaHalf.groupKey, 1⟩ := by
    have hgroup : ((created.pass twoRounds).registry.groups[viaHalf.groupKey]?).map
        (·.generation) = some 1 := by decide +kernel
    exact Option.map_eq_some_iff.mp hgroup
  have hroom : ∀ earlier later, twoRounds = earlier ++ later →
      (created.pass earlier).held? 1 = none := by
    intro earlier later hsplit
    have hmem : earlier ∈ twoRounds.inits :=
      (List.mem_inits earlier twoRounds).mpr ⟨later, hsplit.symm⟩
    simp only [twoRounds, List.inits, List.map_cons, List.map_nil, List.mem_cons,
      List.not_mem_nil, or_false] at hmem
    rcases hmem with rfl | rfl | rfl | rfl | rfl | rfl | rfl <;> decide +kernel
  obtain ⟨hticks, hall, -⟩ := rounds_keep_time unused.common unused.exchange unused.replyKey
    unused.messageTtl [] viaHalf 1 .int 5 rfl hnew hok twoRounds htimely hregisters hroom
  have hrest : Machine.atRest (created.pass twoRounds) = true := by decide +kernel
  have hnow : (created.pass twoRounds).common.now.tick = 2001 := by decide +kernel
  refine ⟨hticks, ?_, by decide +kernel⟩
  intro k hcountable hpast
  exact hall hrest k hcountable (hpast.trans (Nat.le_of_eq hnow.symm))

/-!
## A group that is created after the shutdown

Its ticker is told to stop before it runs for the first time.  The group stays, and no round of it
ever comes.
-/

def afterShutdown : Polling := (unused.perform .shutdown).perform (.add viaSnmp 1 .int 5)

def threeSeconds : List Event := [.move (.perform (.turn 1 .goOn)), .wait (millis 3000)]

theorem rounds_need_polling :
    let p := afterShutdown
    let last := p.pass threeSeconds
    p.Timely threeSeconds ∧ last.Registers ⟨viaSnmp.groupKey, 1⟩ ∧
      (∀ earlier later, threeSeconds = earlier ++ later → (p.pass earlier).held? 1 = none) ∧
      Machine.atRest last = true ∧
      (p.common.now.roundAt viaSnmp.interval 1).ceilTick = 1000 ∧ last.common.now.tick = 3000 ∧
      p.firings 1 threeSeconds = [] := by
  intro p last
  refine ⟨⟨trivial, ⟨by decide +kernel, by decide +kernel, by decide +kernel⟩, trivial⟩, ?_, ?_,
    by decide +kernel, by decide +kernel, by decide +kernel, by decide +kernel⟩
  · have hgroup : (last.registry.groups[viaSnmp.groupKey]?).map (·.generation) = some 1 := by
      decide +kernel
    exact Option.map_eq_some_iff.mp hgroup
  · intro earlier later hsplit
    have hmem : earlier ∈ threeSeconds.inits :=
      (List.mem_inits earlier threeSeconds).mpr ⟨later, hsplit.symm⟩
    simp only [threeSeconds, List.inits, List.map_cons, List.map_nil, List.mem_cons,
      List.not_mem_nil, or_false] at hmem
    rcases hmem with rfl | rfl | rfl <;> decide +kernel

end Polling
end Pulling
end MetricGateway
