import Mathlib.Data.List.Infix
import MetricGateway.Proofs.Pulling.Targets

/-!
# One ticker for each group

A group that is registered has one ticker, which carries the generation of the group.  All other
tickers are stale: their group was dropped, and where there is a group under its key again, that one
has another generation.  Generations are given out once, so a stale ticker stays stale whatever
happens later.  A stale ticker that wakes up ends, and nothing else changes, also where it was told
to stop and finds its round due at the same time.
-/

namespace MetricGateway
namespace Pulling

/-- No group that is registered is the one that is meant. -/
def Registry.Stale (r : Registry) (ref : GroupRef) : Prop :=
  ∀ slot, r.groups[ref.key]? = some slot → slot.generation ≠ ref.generation

theorem Registry.Stale.descends {r r' : Registry} {ref : GroupRef} (h : r.Stale ref)
    (hdescends : r.Descends r') (hgiven : ref.generation ≤ r.generations) : r'.Stale ref := by
  intro slot' hslot' hmeant
  rcases hdescends.slot hslot' (hmeant ▸ hgiven) with ⟨slot, hslot, hgeneration, _⟩
  exact h slot hslot (hgeneration.trans hmeant)

namespace Polling

variable {lapsed : Duration → Prop} {p : Polling}

theorem tick_of_stale {ref : GroupRef} (h : p.registry.Stale ref) : p.tick ref = (p, none) := by
  unfold tick
  rw [Registry.tick_of_stale h]

theorem fire_of_stale {g : Generation} {t : Ticker} (h : p.registry.Stale t.ref) (due : Instant) :
    p.fire g t due = p.exit g := by
  unfold fire
  rw [tick_of_stale h]

/-- A stale ticker that wakes up ends, whichever of the two things it does that it could do. -/
theorem stepTicker_of_stale {g : Generation} {t : Ticker} {due : Instant}
    (ht : p.tickers[g]? = some t) (hstale : p.registry.Stale t.ref)
    (hphase : t.phase = .sleeping due)
    (hwakes : t.cancelled = true ∨ due.metBy p.common.now = true) (preference : Preference) :
    p.stepTicker g preference = p.exit g := by
  unfold stepTicker
  rw [ht]
  dsimp only
  rw [hphase]
  dsimp only
  split
  next => rfl
  next hgoes =>
    have hdue : due.metBy p.common.now = true := by
      rcases hwakes with hcancelled | hdue
      · by_contra hearly
        exact hgoes ⟨hcancelled, Or.inr hearly⟩
      · exact hdue
    rw [if_pos hdue]
    exact fire_of_stale hstale due

/-- The ticker of a group that is registered. -/
structure TickerOf (p : Polling) (ref : GroupRef) (interval : Duration) (t : Ticker) : Prop where
  found : p.tickers[ref.generation]? = some t
  ref_eq : t.ref = ref
  period : t.period = interval
  uncancelled : t.cancelled = false
  only : ∀ g t', p.tickers[g]? = some t' → t'.ref = ref → g = ref.generation

theorem Tended.exists_tickerOf (h : p.Tended lapsed) (hrunning : p.shutDown = false)
    {key : GroupKey} {slot : Slot} (hslot : p.registry.groups[key]? = some slot)
    (hinterval : ¬lapsed slot.group.target.interval) :
    ∃ t, p.TickerOf ⟨key, slot.generation⟩ slot.group.target.interval t := by
  rcases h.alive hrunning hslot with hmem | hlapsed
  · rcases exists_lookup_of_mem hmem with ⟨t, ht⟩
    rcases h.tended hslot ht with ⟨hkey, hperiod, hcancelled⟩
    have hnumber := (h.numbered ht).1
    refine ⟨t, ht, ?_, hperiod, ?_, ?_⟩
    · cases href : t.ref
      rw [href] at hkey hnumber
      rw [GroupRef.mk.injEq]
      exact ⟨hkey, hnumber⟩
    · cases hflag : t.cancelled with
      | false => rfl
      | true =>
          rw [hcancelled hflag] at hrunning
          cases hrunning
    · intro g t' ht' href
      rw [← (h.numbered ht').1, href]
  · exact absurd hlapsed hinterval

/-- The generation of the next group belongs to no ticker, so no ticker is ever replaced. -/
theorem Tended.next_free (h : p.Tended lapsed) : p.registry.generations + 1 ∉ p.tickers := by
  intro hmem
  rcases exists_lookup_of_mem hmem with ⟨t, ht⟩
  exact Nat.not_succ_le_self _ (h.numbered ht).2

/-- As long as polling is not shut down, every registered group has one ticker, which carries its
key and generation, runs at its interval and was not told to stop; only where the first round of the
group lay beyond the end of the clock it may be gone.  Any other ticker that wakes up ends without
another change, and a round called for in its name changes and publishes nothing.  It is stale, and
it stays so in every continuation: also the groups that come later under its key have other
generations, and their tickers take no place of earlier ones. -/
theorem one_ticker_per_group (common : Commons) (exchange replyKey : String)
    (messageTtl : Duration) (moves : List Move) :
    let start : Polling := { common, exchange, replyKey, messageTtl }
    let p := start.follow moves
    p.shutDown = false →
      (∀ key slot, p.registry.groups[key]? = some slot →
        ¬start.Lapsed moves slot.group.target.interval →
          ∃ t, p.TickerOf ⟨key, slot.generation⟩ slot.group.target.interval t) ∧
      (∀ ref, p.registry.Stale ref → p.tick ref = (p, none)) ∧
      (∀ (g : Generation) (t : Ticker) (due : Instant) (preference : Preference),
        p.tickers[g]? = some t → p.registry.Stale t.ref → t.phase = .sleeping due →
          t.cancelled = true ∨ due.metBy p.common.now = true →
            p.stepTicker g preference = { p with tickers := p.tickers.erase g }) ∧
      (∀ (g : Generation) (t : Ticker), p.tickers[g]? = some t → p.registry.Stale t.ref →
        ∀ more, (p.follow more).registry.Stale t.ref) ∧
      ∀ more, (p.follow more).registry.generations + 1 ∉ (p.follow more).tickers := by
  intro start p hrunning
  have hempty : start.Tended (start.Lapsed []) :=
    tended_empty common exchange replyKey messageTtl _
  have htended : p.Tended (start.Lapsed moves) := hempty.follow moves
  refine ⟨?_, ?_, ?_, ?_, ?_⟩
  · intro key slot hslot hinterval
    exact htended.exists_tickerOf hrunning hslot hinterval
  · intro ref hstale
    exact tick_of_stale hstale
  · intro g t due preference ht hstale hphase hwakes
    exact stepTicker_of_stale ht hstale hphase hwakes preference
  · intro g t ht hstale more
    rcases htended.numbered ht with ⟨hnumber, hgiven⟩
    exact hstale.descends (descends_follow htended.consistent more) (hnumber ▸ hgiven)
  · intro more
    have hlater := hempty.follow (moves ++ more)
    rw [follow_append] at hlater
    exact hlater.next_free

/-!
## A group that comes again

The group of a container is stopped while its ticker sleeps, and started again under the same key
before the ticker wakes up.  When it does, its round is due and it was told to stop.
-/

def wakesLate : List Move :=
  [.perform (.add viaSnmp 1 .int 1), .perform (.turn 1 .goOn), .perform .stopAll,
    .perform (.add viaSnmp 2 .int 3), .share fun c => { c with now := ⟨nanosPerSec⟩ }]

theorem not_lapsed_wakesLate : ¬unused.Lapsed wakesLate viaSnmp.interval := by
  rintro ⟨before, after, hmoves, hbeyond⟩
  have hmem : before ∈ wakesLate.inits := (List.mem_inits before wakesLate).mpr ⟨after, hmoves.symm⟩
  simp only [wakesLate, List.inits, List.map_cons, List.map_nil, List.mem_cons,
    List.not_mem_nil, or_false] at hmem
  rcases hmem with rfl | rfl | rfl | rfl | rfl | rfl <;> revert hbeyond <;> decide +kernel

def latecomer : Ticker where
  ref := ⟨viaSnmp.groupKey, 1⟩
  period := viaSnmp.interval
  cancelled := true
  phase := .sleeping ⟨nanosPerSec⟩

theorem one_ticker_per_group_again :
    let p := unused.follow wakesLate
    (∃ t, p.TickerOf ⟨viaSnmp.groupKey, 2⟩ viaSnmp.interval t) ∧
      p.tickers[1]? = some latecomer ∧
      p.stepTicker 1 .goOn = { p with tickers := p.tickers.erase 1 } ∧
      (p.follow [.perform .stopAll]).registry.Stale latecomer.ref := by
  intro p
  have hrunning : p.shutDown = false := by decide +kernel
  obtain ⟨hone, -, hends, hstays, -⟩ := one_ticker_per_group unused.common unused.exchange
    unused.replyKey unused.messageTtl wakesLate hrunning
  have hlate : p.tickers[1]? = some latecomer := by decide +kernel
  have hgroup : (p.registry.groups[viaSnmp.groupKey]?).map
      (fun slot => (slot.generation, slot.group.target)) = some (2, viaSnmp) := by decide +kernel
  obtain ⟨slot, hslot, hsame⟩ := Option.map_eq_some_iff.mp hgroup
  rw [Prod.mk.injEq] at hsame
  obtain ⟨hgeneration, htarget⟩ := hsame
  have hstale : p.registry.Stale latecomer.ref := by
    intro slot' hslot' hmeant
    cases hslot.symm.trans hslot'
    exact absurd (hgeneration.symm.trans hmeant) (by decide)
  have hinterval : ¬unused.Lapsed wakesLate slot.group.target.interval := by
    rw [htarget]
    exact not_lapsed_wakesLate
  have hticker := hone viaSnmp.groupKey slot hslot hinterval
  rw [hgeneration, htarget] at hticker
  refine ⟨hticker, hlate, ?_, ?_⟩
  · exact hends 1 latecomer ⟨nanosPerSec⟩ .goOn hlate hstale rfl (Or.inl rfl)
  · exact hstays 1 latecomer hlate hstale _

end Polling
end Pulling
end MetricGateway
