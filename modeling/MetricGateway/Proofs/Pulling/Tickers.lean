import Mathlib.Data.List.Induction
import MetricGateway.Proofs.Pulling.Descent
import MetricGateway.Proofs.Pulling.Runs

/-!
# Tickers and their groups

Every group has a ticker of its own.  It carries the key and the generation of the group and runs at
the interval of the target that the group was created for, and it is told to stop only when the
group is dropped or polling is shut down.  It ends early only where the first round of the group
lies beyond the end of the clock.

A ticker may be late, and the clock and the other parts of the instance go on between two of its
steps, so a run holds every operation of background polling and every change of what the parts of
the instance share.
-/

namespace MetricGateway
namespace Pulling
namespace Polling

inductive Move where
  | perform (op : Op)
  /-- The clock, the outbox or anything else that is shared changes. -/
  | share (f : Commons → Commons)

def move (p : Polling) : Move → Polling
  | .perform op => p.perform op
  | .share f => p.onCommon f

def follow (p : Polling) (moves : List Move) : Polling := moves.foldl move p

/-- The groups and their tickers, where `lapsed` holds of the intervals that at some time ran past
the end of the clock. -/
structure Tended (lapsed : Duration → Prop) (p : Polling) : Prop where
  consistent : p.registry.Consistent
  numbered : ∀ {g : Generation} {t : Ticker}, p.tickers[g]? = some t →
    t.ref.generation = g ∧ g ≤ p.registry.generations
  tended : ∀ {key : GroupKey} {slot : Slot} {t : Ticker}, p.registry.groups[key]? = some slot →
    p.tickers[slot.generation]? = some t →
      t.ref.key = key ∧ t.period = slot.group.target.interval ∧
        (t.cancelled = true → p.shutDown = true)
  alive : p.shutDown = false → ∀ {key : GroupKey} {slot : Slot},
    p.registry.groups[key]? = some slot →
      slot.generation ∈ p.tickers ∨ lapsed slot.group.target.interval

theorem tended_empty (common : Commons) (exchange replyKey : String) (messageTtl : Duration)
    (lapsed : Duration → Prop) :
    ({ common, exchange, replyKey, messageTtl } : Polling).Tended lapsed where
  consistent := Registry.consistent_empty
  numbered := by simp
  tended := by simp
  alive := by simp

variable {lapsed : Duration → Prop} {p q : Polling}

theorem Tended.mono {lapsed' : Duration → Prop} (h : p.Tended lapsed)
    (himp : ∀ d, lapsed d → lapsed' d) : p.Tended lapsed' where
  consistent := h.consistent
  numbered := h.numbered
  tended := h.tended
  alive := by
    intro hrunning key slot hslot
    rcases h.alive hrunning hslot with hticker | hlapsed
    · exact Or.inl hticker
    · exact Or.inr (himp _ hlapsed)

theorem Tended.congr (h : p.Tended lapsed) (hregistry : q.registry = p.registry)
    (htickers : q.tickers = p.tickers) (hshut : q.shutDown = p.shutDown) : q.Tended lapsed where
  consistent := hregistry ▸ h.consistent
  numbered := by
    rw [htickers, hregistry]
    exact h.numbered
  tended := by
    rw [htickers, hregistry, hshut]
    exact h.tended
  alive := by
    rw [htickers, hregistry, hshut]
    exact h.alive

def told (dropped : List GroupRef) (t : Ticker) : Ticker :=
  if t.ref ∈ dropped then { t with cancelled := true } else t

theorem getElem?_tickers_cancel (p : Polling) (dropped : List GroupRef) (g : Generation) :
    (p.cancel dropped).tickers[g]? = p.tickers[g]?.map (told dropped) :=
  Std.ExtTreeMap.getElem?_map

theorem told_nil (t : Ticker) : told [] t = t := if_neg List.not_mem_nil

theorem ref_told (dropped : List GroupRef) (t : Ticker) : (told dropped t).ref = t.ref := by
  unfold told
  split <;> rfl

theorem period_told (dropped : List GroupRef) (t : Ticker) :
    (told dropped t).period = t.period := by
  unfold told
  split <;> rfl

theorem cancelled_told {dropped : List GroupRef} {t : Ticker}
    (h : (told dropped t).cancelled = true) : t.ref ∈ dropped ∨ t.cancelled = true := by
  unfold told at h
  split at h
  next hmem => exact Or.inl hmem
  next => exact Or.inr h

/-!
## Operations that create no group
-/

/-- A ticker of a group that is still there was there before and goes on as before. -/
theorem Tended.tended_told (h : p.Tended lapsed) {dropped : List GroupRef} {key : GroupKey}
    {slot : Slot} {t : Ticker} (hslot : p.registry.groups[key]? = some slot)
    (ht : p.tickers[slot.generation]? = some t) (hkept : ∀ ref ∈ dropped, ref.key ≠ key) :
    (told dropped t).ref.key = key ∧
      (told dropped t).period = slot.group.target.interval ∧
        ((told dropped t).cancelled = true → p.shutDown = true) := by
  rcases h.tended hslot ht with ⟨hkey, hperiod, hcancelled⟩
  refine ⟨(congrArg GroupRef.key (ref_told dropped t)).trans hkey,
    (period_told dropped t).trans hperiod, ?_⟩
  intro hstopped
  rcases cancelled_told hstopped with hmem | hbefore
  · exact absurd hkey (hkept t.ref hmem)
  · exact hcancelled hbefore

theorem Tended.thin (h : p.Tended lapsed) {dropped : List GroupRef}
    (hconsistent : q.registry.Consistent) (hthins : p.registry.Thins q.registry)
    (hgone : ∀ ref ∈ dropped, q.registry.groups[ref.key]? = none)
    (htickers : ∀ g : Generation, q.tickers[g]? = p.tickers[g]?.map (told dropped))
    (hshut : q.shutDown = p.shutDown) : q.Tended lapsed where
  consistent := hconsistent
  numbered := by
    intro g t ht
    rw [htickers] at ht
    rcases Option.map_eq_some_iff.mp ht with ⟨before, hbefore, rfl⟩
    rw [ref_told, hthins.generations]
    exact h.numbered hbefore
  tended := by
    intro key slot' t hslot' ht
    rcases hthins.slot hslot' with ⟨slot, hslot, hgeneration, htarget⟩
    rw [htickers, ← hgeneration] at ht
    rcases Option.map_eq_some_iff.mp ht with ⟨before, hbefore, rfl⟩
    rw [← htarget, hshut]
    apply h.tended_told hslot hbefore
    intro ref hmem hkey
    rw [← hkey, hgone ref hmem] at hslot'
    cases hslot'
  alive := by
    intro hrunning key slot' hslot'
    rcases hthins.slot hslot' with ⟨slot, hslot, hgeneration, htarget⟩
    rw [← hgeneration, ← htarget]
    rcases h.alive (hshut ▸ hrunning) hslot with hticker | hlapsed
    · left
      rw [Std.ExtTreeMap.mem_iff_isSome_getElem?] at hticker ⊢
      rw [htickers, Option.isSome_map]
      exact hticker
    · exact Or.inr hlapsed

theorem Tended.announce (h : p.Tended lapsed) {r : Registry} {dropped : List GroupRef}
    (hconsistent : r.Consistent) (hthins : p.registry.Thins r)
    (hgone : ∀ ref ∈ dropped, r.groups[ref.key]? = none) :
    ((p.setRegistry r).cancel dropped).Tended lapsed :=
  h.thin hconsistent hthins hgone (getElem?_tickers_cancel _ dropped) rfl

theorem Tended.setRegistry (h : p.Tended lapsed) {r : Registry} (hconsistent : r.Consistent)
    (hthins : p.registry.Thins r) : (p.setRegistry r).Tended lapsed := by
  have htickers : ∀ g : Generation, p.tickers[g]? = p.tickers[g]?.map (told []) := by
    intro g
    cases p.tickers[g]? with
    | none => rfl
    | some t => rw [Option.map_some, told_nil]
  exact h.thin hconsistent hthins (fun _ hmem => absurd hmem List.not_mem_nil) htickers rfl

theorem Tended.recordStopped (h : p.Tended lapsed) (reason : String) (dropped : List GroupRef) :
    (p.recordStopped reason dropped).Tended lapsed :=
  h.congr rfl rfl rfl

theorem Tended.refresh (h : p.Tended lapsed) (metric : MetricId) :
    (p.refresh metric).1.Tended lapsed :=
  (h.setRegistry (h.consistent.refresh metric) (Registry.thins_refresh p.registry metric)).congr
    rfl rfl rfl

theorem Tended.remove (h : p.Tended lapsed) (metric : MetricId) :
    (p.remove metric).1.Tended lapsed := by
  have hconsistent := h.consistent.remove metric
  have hthins := Registry.thins_remove p.registry metric
  unfold Polling.remove
  cases hremoved : p.registry.remove metric with
  | mk r removed =>
      rw [hremoved] at hconsistent hthins
      cases removed with
      | none => exact h
      | some dropped =>
          refine (h.announce hconsistent hthins ?_).recordStopped _ _
          intro ref hmem
          have hreported := Option.mem_toList.mp hmem
          have hgone := Registry.gone_remove (congrArg Prod.snd hremoved) hreported
          rw [hremoved] at hgone
          exact hgone

theorem Tended.stopContainer (h : p.Tended lapsed) (container : ContainerId) :
    (p.stopContainer container).1.Tended lapsed :=
  (h.announce (h.consistent.stopContainer container) (Registry.thins_dropGroups _ _)
    fun _ => Registry.gone_dropGroups).recordStopped _ _

theorem Tended.stopAll (h : p.Tended lapsed) : p.stopAll.1.Tended lapsed :=
  h.announce h.consistent.stopAll (Registry.thins_dropGroups _ _) fun _ => Registry.gone_dropGroups

theorem Tended.shutdown (h : p.Tended lapsed) : p.shutdown.Tended lapsed := by
  have hstopped := h.stopAll
  have htickers : ∀ g : Generation, p.shutdown.tickers[g]? =
      p.stopAll.1.tickers[g]?.map fun t => { t with cancelled := true } :=
    fun g => Std.ExtTreeMap.getElem?_map
  constructor
  · exact hstopped.consistent
  · intro g t ht
    rw [htickers] at ht
    rcases Option.map_eq_some_iff.mp ht with ⟨before, hbefore, rfl⟩
    have hnumbered := hstopped.numbered hbefore
    exact hnumbered
  · intro key slot t hslot ht
    rw [htickers] at ht
    rcases Option.map_eq_some_iff.mp ht with ⟨before, hbefore, rfl⟩
    rcases hstopped.tended hslot hbefore with ⟨hkey, hperiod, _⟩
    exact ⟨hkey, hperiod, fun _ => rfl⟩
  · intro hrunning
    cases hrunning

/-!
## Creating a group
-/

theorem Tended.create (h : p.Tended lapsed) {r : Registry} {dropped : List GroupRef}
    {target : Target} (hconsistent : r.Consistent)
    (hgenerations : r.generations = p.registry.generations + 1)
    (hslots : ∀ {key : GroupKey} {slot' : Slot}, r.groups[key]? = some slot' →
      if key = target.groupKey then
        slot'.generation = p.registry.generations + 1 ∧ slot'.group.target = target
      else ∃ slot, p.registry.groups[key]? = some slot ∧ slot.generation = slot'.generation ∧
        slot.group.target = slot'.group.target)
    (hgone : ∀ ref ∈ dropped, r.groups[ref.key]? = none)
    (hregistry : q.registry = r) (hshut : q.shutDown = p.shutDown)
    (htickers : q.tickers = (p.cancel dropped).tickers.insert (p.registry.generations + 1)
      { ref := ⟨target.groupKey, p.registry.generations + 1⟩, period := target.interval,
        cancelled := p.shutDown }) : q.Tended lapsed := by
  have hlookup : ∀ g : Generation, q.tickers[g]? =
      if p.registry.generations + 1 = g then
        some { ref := ⟨target.groupKey, p.registry.generations + 1⟩, period := target.interval,
               cancelled := p.shutDown }
      else p.tickers[g]?.map (told dropped) := by
    intro g
    rw [htickers, lookup_insert, getElem?_tickers_cancel]
  -- No group had the new generation before, so the new ticker stands for the new group alone.
  have hold : ∀ {key : GroupKey} {slot : Slot}, p.registry.groups[key]? = some slot →
      p.registry.generations + 1 ≠ slot.generation := by
    intro key slot hslot heq
    have hle := (h.consistent.valid hslot).generation_le
    rw [← heq] at hle
    exact Nat.not_succ_le_self _ hle
  constructor
  · rw [hregistry]
    exact hconsistent
  · intro g t ht
    rw [hregistry, hgenerations]
    rw [hlookup] at ht
    split at ht
    next heq =>
      cases ht
      exact ⟨heq, Nat.le_of_eq heq.symm⟩
    next =>
      rcases Option.map_eq_some_iff.mp ht with ⟨before, hbefore, rfl⟩
      rcases h.numbered hbefore with ⟨hgeneration, hle⟩
      rw [ref_told]
      exact ⟨hgeneration, Nat.le_succ_of_le hle⟩
  · intro key slot' t hslot' ht
    rw [hregistry] at hslot'
    rw [hshut]
    rw [hlookup] at ht
    have hslot := hslots hslot'
    split at hslot
    next hkey =>
      rw [if_pos hslot.1.symm] at ht
      cases ht
      rw [hslot.2]
      exact ⟨hkey.symm, rfl, id⟩
    next =>
      rcases hslot with ⟨slot, hslot, hgeneration, htarget⟩
      rw [← hgeneration, if_neg (hold hslot)] at ht
      rcases Option.map_eq_some_iff.mp ht with ⟨before, hbefore, rfl⟩
      rw [← htarget]
      apply h.tended_told hslot hbefore
      intro ref hmem hkey
      rw [← hkey, hgone ref hmem] at hslot'
      cases hslot'
  · intro hrunning key slot' hslot'
    rw [hregistry] at hslot'
    rw [Std.ExtTreeMap.mem_iff_isSome_getElem?, hlookup]
    have hslot := hslots hslot'
    split at hslot
    next =>
      rw [if_pos hslot.1.symm]
      exact Or.inl rfl
    next =>
      rcases hslot with ⟨slot, hslot, hgeneration, htarget⟩
      rw [← hgeneration, ← htarget, if_neg (hold hslot), Option.isSome_map]
      rcases h.alive (hshut ▸ hrunning) hslot with hticker | hlapsed
      · exact Or.inl (Std.ExtTreeMap.mem_iff_isSome_getElem?.mp hticker)
      · exact Or.inr hlapsed

theorem Tended.add (h : p.Tended lapsed) (target : Target) (metric : MetricId)
    (valueKind : ValueKind) (budget : UInt16) :
    (p.add target metric valueKind budget).1.Tended lapsed := by
  unfold Polling.add
  cases hadd : p.registry.add target metric valueKind budget with
  | error e => exact h
  | ok added =>
      rcases added with ⟨r, report⟩
      have hconsistent := h.consistent.add hadd
      have hgone : ∀ ref ∈ report.dropped.toList, r.groups[ref.key]? = none :=
        fun ref hmem => Registry.gone_add hadd (Option.mem_toList.mp hmem)
      dsimp only
      by_cases hmem : target.groupKey ∈ p.registry.groups
      · rcases Registry.thins_add hadd hmem with ⟨hthins, hcreated⟩
        rw [hcreated]
        exact (h.announce hconsistent hthins hgone).recordStopped _ _
      · rcases Registry.creates_add hadd hmem with ⟨hcreated, hgenerations, hslots⟩
        rw [hcreated]
        exact h.create hconsistent hgenerations hslots hgone rfl rfl rfl

/-!
## Rounds
-/

theorem Tended.tick (h : p.Tended lapsed) (ref : GroupRef) : (p.tick ref).1.Tended lapsed := by
  have hconsistent := h.consistent.tick ref
  have hthins := h.consistent.thins_tick ref
  unfold Polling.tick
  rcases h.consistent.tick_cases ref with ⟨hstale, _⟩ | ⟨slot, _, _, ⟨_, hstop⟩ | hpoll⟩
  · rw [hstale]
    exact h
  · rw [hstop] at hconsistent hthins ⊢
    refine (h.announce hconsistent hthins ?_).recordStopped _ _
    intro dropped hmem
    have heq : ref = dropped := Option.some.inj (Option.mem_toList.mp hmem)
    exact heq ▸ Registry.gone_dropGroup p.registry ref.key
  · rcases hpoll with ⟨_, expired, _, _, hreport⟩
    cases hround : p.registry.tick ref with
    | mk r report =>
        rw [hround] at hreport hconsistent hthins
        subst hreport
        exact (h.setRegistry hconsistent hthins).congr rfl rfl rfl

theorem Tended.generation_ne_of_tick (h : p.Tended lapsed) {g : Generation} {t : Ticker}
    (ht : p.tickers[g]? = some t) (hnone : (p.tick t.ref).2 = none) {key : GroupKey} {slot : Slot}
    (hslot : (p.tick t.ref).1.registry.groups[key]? = some slot) : slot.generation ≠ g := by
  intro hgeneration
  rw [registry_tick] at hslot
  rcases (h.consistent.thins_tick t.ref).slot hslot with ⟨before, hbefore, hsame, _⟩
  have hkey := (h.tended hbefore ((hsame.trans hgeneration) ▸ ht)).1
  have hmeant := (h.numbered ht).1
  rcases h.consistent.tick_cases t.ref with
    ⟨_, hstale⟩ | ⟨slot', _, _, ⟨_, hstop⟩ | ⟨_, expired, _, _, hreport⟩⟩
  · rw [hkey] at hstale
    exact hstale before hbefore ((hsame.trans hgeneration).trans hmeant.symm)
  · rw [hstop, hkey] at hslot
    rw [Registry.gone_dropGroup] at hslot
    cases hslot
  · unfold Polling.tick at hnone
    cases hround : p.registry.tick t.ref with
    | mk r report =>
        rw [hround] at hreport hnone
        dsimp only at hreport
        subst hreport
        cases hnone

/-!
## Steps of tickers
-/

theorem Tended.exit (h : p.Tended lapsed) {g : Generation}
    (hend : p.shutDown = false → ∀ {key : GroupKey} {slot : Slot},
      p.registry.groups[key]? = some slot → slot.generation = g →
        lapsed slot.group.target.interval) : (p.exit g).Tended lapsed := by
  have hlookup : ∀ other : Generation,
      (p.exit g).tickers[other]? = if g = other then none else p.tickers[other]? := by
    intro other
    exact lookup_erase p.tickers g other
  constructor
  · exact h.consistent
  · intro other t ht
    rw [hlookup] at ht
    split at ht
    · cases ht
    · exact h.numbered ht
  · intro key slot t hslot ht
    rw [hlookup] at ht
    split at ht
    · cases ht
    · exact h.tended hslot ht
  · intro hrunning key slot hslot
    rw [Std.ExtTreeMap.mem_iff_isSome_getElem?, hlookup]
    split
    next heq => exact Or.inr (hend hrunning hslot heq.symm)
    next => exact (h.alive hrunning hslot).imp Std.ExtTreeMap.mem_iff_isSome_getElem?.mp id

theorem Tended.advance (h : p.Tended lapsed) {g : Generation} {t : Ticker}
    (ht : p.tickers[g]? = some t) (t' : Ticker) (href : t'.ref = t.ref)
    (hperiod : t'.period = t.period) (hcancelled : t'.cancelled = t.cancelled)
    (hregistry : q.registry = p.registry) (hshut : q.shutDown = p.shutDown)
    (htickers : q.tickers = p.tickers.insert g t') : q.Tended lapsed := by
  have hlookup : ∀ {other : Generation} {t'' : Ticker}, q.tickers[other]? = some t'' →
      ∃ before, p.tickers[other]? = some before ∧ t''.ref = before.ref ∧
        t''.period = before.period ∧ t''.cancelled = before.cancelled := by
    intro other t'' ht''
    rw [htickers, lookup_insert] at ht''
    split at ht''
    next heq =>
      cases ht''
      exact ⟨t, heq ▸ ht, href, hperiod, hcancelled⟩
    next => exact ⟨t'', ht'', rfl, rfl, rfl⟩
  constructor
  · exact hregistry ▸ h.consistent
  · intro other t'' ht''
    rcases hlookup ht'' with ⟨before, hbefore, href', _⟩
    rw [href', hregistry]
    exact h.numbered hbefore
  · intro key slot t'' hslot ht''
    rcases hlookup ht'' with ⟨before, hbefore, href', hperiod', hcancelled'⟩
    rw [href', hperiod', hcancelled', hshut]
    exact h.tended (hregistry ▸ hslot) hbefore
  · intro hrunning key slot hslot
    rw [htickers, Std.ExtTreeMap.mem_insert]
    exact (h.alive (hshut ▸ hrunning) (hregistry ▸ hslot)).imp Or.inr id

theorem Tended.sleep (h : p.Tended lapsed) {g : Generation} {t : Ticker}
    (ht : p.tickers[g]? = some t) (due : Instant) : (p.sleep g t due).Tended lapsed :=
  h.advance ht { t with turn := p.turns, phase := .sleeping due } rfl rfl rfl rfl rfl rfl

theorem Tended.setPhase (h : p.Tended lapsed) {g : Generation} {t : Ticker}
    (ht : p.tickers[g]? = some t) (phase : Ticker.Phase) : (p.setPhase g t phase).Tended lapsed :=
  h.advance ht { t with phase } rfl rfl rfl rfl rfl rfl

theorem Tended.onCommon (h : p.Tended lapsed) (f : Commons → Commons) :
    (p.onCommon f).Tended lapsed :=
  h.congr rfl rfl rfl

theorem tickers_tick_of_some {ref : GroupRef} {m : Message} (h : (p.tick ref).2 = some m) :
    (p.tick ref).1.tickers = p.tickers := by
  unfold tick at h ⊢
  cases hround : p.registry.tick ref with
  | mk r report =>
      rw [hround] at h
      cases report with
      | none => rfl
      | some report =>
          dsimp only at h ⊢
          cases houtcome : report.outcome with
          | stop =>
              rw [houtcome] at h
              cases h
          | poll request expired => rfl

theorem Tended.fire (h : p.Tended lapsed) {g : Generation} {t : Ticker}
    (ht : p.tickers[g]? = some t) (due : Instant) : (p.fire g t due).Tended lapsed := by
  have hticked := h.tick t.ref
  have hend : (p.tick t.ref).2 = none → ∀ {key : GroupKey} {slot : Slot},
      (p.tick t.ref).1.registry.groups[key]? = some slot → slot.generation ≠ g :=
    fun hnone => h.generation_ne_of_tick ht hnone
  have hticker : ∀ m, (p.tick t.ref).2 = some m → (p.tick t.ref).1.tickers[g]? = some t := by
    intro m hsome
    rw [tickers_tick_of_some hsome]
    exact ht
  unfold Polling.fire
  cases hround : p.tick t.ref with
  | mk q polled =>
      rw [hround] at hticked hend hticker
      cases polled with
      | none =>
          apply hticked.exit
          intro _ key slot hslot hgeneration
          exact absurd hgeneration (hend rfl hslot)
      | some m =>
          have ht' := hticker m rfl
          dsimp only
          split
          next common _ =>
            have hcounted := hticked.onCommon fun _ => common.count Metrics.addPollPublished
            exact hcounted.sleep ht' _
          next common ticket _ => exact (hticked.onCommon fun _ => common).setPhase ht' _
          next common _ => exact (hticked.onCommon fun _ => common).sleep ht' _

/-- A ticker that takes its step may end early only where its first round lies beyond the end of the
clock. -/
theorem Tended.stepTicker (h : p.Tended lapsed) (g : Generation) (preference : Preference) :
    (p.stepTicker g preference).Tended fun d =>
      lapsed d ∨ Ticker.firstDue? d p.common.now = none := by
  have hmono : p.Tended fun d => lapsed d ∨ Ticker.firstDue? d p.common.now = none :=
    h.mono fun _ => Or.inl
  unfold Polling.stepTicker
  cases ht : p.tickers[g]? with
  | none => exact hmono
  | some t =>
      dsimp only
      cases t.phase with
      | starting =>
          dsimp only
          split
          next => exact hmono.sleep ht _
          next hends =>
            apply hmono.exit
            intro hrunning key slot hslot hgeneration
            rcases h.tended hslot (hgeneration ▸ ht) with ⟨_, hperiod, hcancelled⟩
            unfold Ticker.begins? at hends
            split at hends
            next htold =>
              have hshut := hcancelled htold
              rw [hrunning] at hshut
              cases hshut
            next => exact Or.inr (hperiod ▸ hends)
      | sleeping due =>
          dsimp only
          split
          next hstop =>
            apply hmono.exit
            intro hrunning key slot hslot hgeneration
            have hshut := (h.tended hslot (hgeneration ▸ ht)).2.2 hstop.1
            rw [hrunning] at hshut
            cases hshut
          next =>
            split
            · exact hmono.fire ht due
            · exact hmono
      | publishing ticket m due =>
          dsimp only
          split
          next common _ =>
            have hcounted := hmono.onCommon fun _ => common.count Metrics.addPollPublished
            exact hcounted.sleep ht due
          next common _ => exact (hmono.onCommon fun _ => common).sleep ht due
          next => exact hmono

/-!
## Runs
-/

theorem Tended.perform (h : p.Tended lapsed) (op : Op) :
    (p.perform op).Tended fun d => lapsed d ∨ Ticker.firstDue? d p.common.now = none := by
  have hmono : p.Tended fun d => lapsed d ∨ Ticker.firstDue? d p.common.now = none :=
    h.mono fun _ => Or.inl
  cases op with
  | add target metric valueKind budget => exact hmono.add target metric valueKind budget
  | refresh metric => exact hmono.refresh metric
  | remove metric => exact hmono.remove metric
  | stopContainer container => exact hmono.stopContainer container
  | stopAll => exact hmono.stopAll
  | shutdown => exact hmono.shutdown
  | tick ref => exact hmono.tick ref
  | turn generation preference => exact h.stepTicker generation preference

/-- Whether the first round of a ticker lay beyond the end of the clock at some time of a run. -/
def Lapsed (p : Polling) (moves : List Move) (interval : Duration) : Prop :=
  ∃ before after, moves = before ++ after ∧
    Ticker.firstDue? interval (p.follow before).common.now = none

theorem follow_append (p : Polling) (moves more : List Move) :
    p.follow (moves ++ more) = (p.follow moves).follow more :=
  List.foldl_append

theorem Lapsed.append {moves : List Move} {interval : Duration} (h : p.Lapsed moves interval)
    (more : List Move) : p.Lapsed (moves ++ more) interval := by
  rcases h with ⟨before, after, hmoves, hbeyond⟩
  exact ⟨before, after ++ more, by rw [hmoves, List.append_assoc], hbeyond⟩

theorem Tended.follow (h : p.Tended (p.Lapsed [])) (moves : List Move) :
    (p.follow moves).Tended (p.Lapsed moves) := by
  induction moves using List.reverseRecOn with
  | nil => exact h
  | append_singleton moves m ih =>
      rw [follow_append]
      have hnow : ∀ d, p.Lapsed moves d ∨
          Ticker.firstDue? d (p.follow moves).common.now = none → p.Lapsed (moves ++ [m]) d := by
        rintro d (hlapsed | hbeyond)
        · exact hlapsed.append [m]
        · exact ⟨moves, [m], rfl, hbeyond⟩
      cases m with
      | perform op => exact (ih.perform op).mono hnow
      | share f => exact (ih.onCommon f).mono fun d hlapsed => hnow d (Or.inl hlapsed)

end Polling
end Pulling
end MetricGateway
