import MetricGateway.Proofs.Pulling.Rounds

/-!
# Groups without metrics

A group that lost its last metric in a poll stays registered, with nothing to poll, until its next
round.  Only adding a metric under its key or stopping the groups of its container comes to it
before; everything else leaves it as it is.  A metric that is added under its key joins it, and the
ticker of the group goes on as before.  The next round of a group that is still vacant ends it, and
its ticker with it, and sends nothing.
-/

namespace MetricGateway
namespace Pulling
namespace Registry

variable {r r' : Registry} {ref : GroupRef} {metric : MetricId} {key : GroupKey}

/-- The group that is meant is registered and has nothing to poll. -/
def Vacant (r : Registry) (ref : GroupRef) : Prop :=
  ∃ slot, r.groups[ref.key]? = some slot ∧ slot.generation = ref.generation ∧
    slot.group.isEmpty = true

theorem Vacant.unlisted (h : r.Vacant ref) (hconsistent : r.Consistent) (metric : MetricId) :
    r.index[metric]? ≠ some ref.key := by
  rcases h with ⟨slot, hslot, _, hempty⟩
  intro hlisted
  rcases (hconsistent.index_iff metric ref.key).mp hlisted with ⟨slot', hslot', hmem⟩
  cases hslot.symm.trans hslot'
  unfold Group.isEmpty at hempty
  rw [Std.ExtTreeMap.isEmpty_iff.mp hempty] at hmem
  exact Std.ExtTreeMap.not_mem_empty hmem

theorem Vacant.of_groups_eq (h : r.Vacant ref)
    (hgroups : r'.groups[ref.key]? = r.groups[ref.key]?) : r'.Vacant ref := by
  rcases h with ⟨slot, hslot, hcurrent, hempty⟩
  exact ⟨slot, hgroups.trans hslot, hcurrent, hempty⟩

/-!
## Operations on other groups
-/

theorem groups_add_of_ne {target : Target} {valueKind : ValueKind} {budget : UInt16}
    {report : AddReport} (hadd : r.add target metric valueKind budget = .ok (r', report))
    (hkey : target.groupKey ≠ key) (hunlisted : r.index[metric]? ≠ some key) :
    r'.groups[key]? = r.groups[key]? := by
  have hleft : (r.leaveOther target.groupKey metric).1.groups[key]? = r.groups[key]? := by
    rcases stays_or_moves r target.groupKey metric with hstays | ⟨previous, hlisted, hmoves⟩
    · rw [leaveOther_of_stays hstays]
    · have hne : previous ≠ key := by
        rintro rfl
        exact hunlisted hlisted
      rw [leaveOther_of_moves hlisted hmoves, groups_dropEntry_of_ne _ hne]
  have hready : ((r.leaveOther target.groupKey metric).1.ensureGroup target).1.groups[key]? =
      r.groups[key]? := by
    rw [groups_ensureGroup, if_neg fun h => hkey h.1]
    exact hleft
  rcases mem_ensureGroup (r.leaveOther target.groupKey metric).1 target with ⟨slot, hslot⟩
  rw [(add_steps hadd).1, enter_of_some hslot]
  show (Std.ExtTreeMap.insert _ _ _)[key]? = _
  rw [lookup_insert, if_neg hkey]
  exact hready

theorem groups_refresh_of_ne (hunlisted : r.index[metric]? ≠ some key) :
    (r.refresh metric).1.groups[key]? = r.groups[key]? := by
  unfold refresh
  split
  · rfl
  next other hlisted =>
    split
    · rfl
    next slot _ =>
      show (r.groups.insert other _)[key]? = r.groups[key]?
      rw [lookup_insert, if_neg]
      rintro rfl
      exact hunlisted hlisted

theorem groups_remove_of_ne (hunlisted : r.index[metric]? ≠ some key) :
    (r.remove metric).1.groups[key]? = r.groups[key]? := by
  cases hlisted : r.index[metric]? with
  | none => rw [remove_of_none hlisted]
  | some other =>
      have hne : other ≠ key := by
        rintro rfl
        exact hunlisted hlisted
      rw [remove_of_some hlisted]
      exact groups_dropEntry_of_ne _ hne metric

theorem groups_stopContainer_of_ne (r : Registry) {container : ContainerId}
    (hne : key.container ≠ container) :
    (r.stopContainer container).1.groups[key]? = r.groups[key]? := by
  unfold stopContainer
  rw [groups_dropGroups, if_neg]
  intro hmem
  exact hne (of_decide_eq_true (List.mem_filter.mp hmem).2)

/-!
## Rounds
-/

theorem Vacant.tick_other (h : r.Vacant ref) (hconsistent : r.Consistent) {other : GroupRef}
    (hne : other ≠ ref) : (r.tick other).1.Vacant ref := by
  rcases h with ⟨slot, hslot, hcurrent, hempty⟩
  have hother : other ≠ ⟨ref.key, slot.generation⟩ := by
    rw [hcurrent]
    exact hne
  exact ⟨slot, hconsistent.groups_tick_of_ne hslot hother, hcurrent, hempty⟩

theorem Vacant.tick (h : r.Vacant ref) (hconsistent : r.Consistent) :
    ∃ key, r.tick ref =
      ((r.dropGroup ref.key).1, some { outcome := .stop, key, dropped := some ref }) := by
  rcases h with ⟨slot, hslot, hcurrent, hempty⟩
  rcases hconsistent.tick_cases ref with
    ⟨_, hstale⟩ | ⟨slot', hslot', _, ⟨_, hround⟩ | ⟨hgo, _⟩⟩
  · exact absurd hcurrent (hstale slot hslot)
  · exact ⟨slot'.group.target.key, hround⟩
  · cases hslot.symm.trans hslot'
    exact absurd (Or.inr hempty) hgo

theorem Consistent.vacant_of_poll (h : r.Consistent) {poll : Poll}
    (hpoll : r.poll? ref = some poll)
    (hlast : ∀ metric, r.Polls ref metric → metric ∈ poll.expired) : (r.tick ref).1.Vacant ref := by
  rcases h.poll_cases hpoll with ⟨slot, hslot, hcurrent, htick, _, hgroups⟩
  refine ⟨{ slot with group := slot.group.tick.1 }, ?_, hcurrent, ?_⟩
  · rw [hgroups]
    exact Std.ExtTreeMap.getElem?_insert_self
  · show slot.group.tick.1.isEmpty = true
    unfold Group.isEmpty
    rw [Std.ExtTreeMap.isEmpty_iff, Std.ExtTreeMap.eq_empty_iff_forall_not_mem]
    intro metric hmem
    rcases (Group.mem_tick htick metric).mp hmem with ⟨hbefore, hkept⟩
    exact hkept (hlast metric ⟨slot, hslot, hcurrent, hbefore⟩)

end Registry

namespace Polling

/-- A move adds nothing under a key and does not stop the groups of its container. -/
def Move.Leaves (key : GroupKey) : Move → Prop
  | .perform (.add target _ _ _) => target.groupKey ≠ key
  | .perform (.stopContainer stopped) => key.container ≠ stopped
  | .perform .stopAll => False
  | .perform .shutdown => False
  | _ => True

variable {lapsed : Duration → Prop} {p q : Polling} {ref : GroupRef} {m : Move}

/-- Nothing but a round of its own comes to a vacant group that is left alone. -/
theorem vacant_move (hconsistent : p.registry.Consistent) (h : p.registry.Vacant ref)
    (hleaves : m.Leaves ref.key) (hcalls : p.calls? m ≠ some ref) :
    (p.move m).registry.Vacant ref := by
  cases hround : p.calls? m with
  | some other =>
      rw [registry_move_of_calls hround]
      apply h.tick_other hconsistent
      rintro rfl
      exact hcalls hround
  | none =>
      cases m with
      | share f => exact h
      | perform op =>
          cases op with
          | add target metric valueKind budget =>
              show (p.add target metric valueKind budget).1.registry.Vacant ref
              cases hadd : p.registry.add target metric valueKind budget with
              | error err =>
                  rw [add_of_error hadd]
                  exact h
              | ok added =>
                  rw [registry_add_of_ok hadd]
                  exact h.of_groups_eq
                    (Registry.groups_add_of_ne hadd hleaves (h.unlisted hconsistent metric))
          | refresh metric =>
              exact h.of_groups_eq (Registry.groups_refresh_of_ne (h.unlisted hconsistent metric))
          | remove metric =>
              show (p.remove metric).1.registry.Vacant ref
              rw [registry_remove]
              exact h.of_groups_eq (Registry.groups_remove_of_ne (h.unlisted hconsistent metric))
          | stopContainer container =>
              exact h.of_groups_eq (Registry.groups_stopContainer_of_ne p.registry hleaves)
          | stopAll => cases hleaves
          | shutdown => cases hleaves
          | tick other => cases hround
          | turn g preference =>
              show (p.stepTicker g preference).registry.Vacant ref
              rw [registry_turn_of_idle hround]
              exact h

theorem vacant_follow (hconsistent : p.registry.Consistent) (h : p.registry.Vacant ref)
    {moves : List Move} (hleaves : ∀ m ∈ moves, m.Leaves ref.key)
    (hrounds : ref ∉ p.roundsAlong moves) :
    (p.follow moves).registry.Consistent ∧ (p.follow moves).registry.Vacant ref := by
  induction moves generalizing p with
  | nil => exact ⟨hconsistent, h⟩
  | cons m moves ih =>
      have hfirst : p.calls? m ≠ some ref := by
        intro hcalls
        exact hrounds (List.mem_append_left _ (Option.mem_toList.mpr hcalls))
      apply ih (consistent_move hconsistent m)
        (vacant_move hconsistent h (hleaves m List.mem_cons_self) hfirst)
      · exact fun m' hmem => hleaves m' (List.mem_cons_of_mem m hmem)
      · exact fun hmem => hrounds (List.mem_append_right _ hmem)

structure Ends (p : Polling) (ref : GroupRef) (m : Move) : Prop where
  stops : ∃ key, (p.registry.tick ref).2 = some { outcome := .stop, key, dropped := some ref }
  deregistered : ref.key ∉ (p.move m).registry.groups
  message : (p.tick ref).2 = none
  outbox : (p.move m).common.outbox = p.common.outbox

theorem ends_of_vacant (hconsistent : p.registry.Consistent) (h : p.registry.Vacant ref)
    (hcalls : p.calls? m = some ref) : p.Ends ref m := by
  rcases h.tick hconsistent with ⟨key, hround⟩
  have hquiet : p.tick ref = (((p.setRegistry (p.registry.dropGroup ref.key).1).cancel
      [ref]).recordStopped "no metrics left" [ref], none) := by
    unfold tick
    rw [hround]
    rfl
  refine ⟨⟨key, by rw [hround]⟩, ?_, by rw [hquiet], ?_⟩
  · rw [registry_move_of_calls hcalls, hround, Registry.groups_dropGroup]
    exact not_mem_erase _ _
  · cases m with
    | share f => cases hcalls
    | perform op =>
        cases op with
        | tick other =>
            cases hcalls
            show (p.tick ref).1.common.outbox = p.common.outbox
            rw [hquiet]
            rfl
        | turn g preference =>
            rcases fires_of_calls hcalls with ⟨t, due, _, href, _, _, hstep⟩
            show (p.stepTicker g preference).common.outbox = p.common.outbox
            rw [hstep]
            unfold fire
            rw [href, hquiet]
            rfl
        | _ => cases hcalls

/-!
## Joining a group
-/

/-- A metric joined a group that was there, and the ticker of the group goes on. -/
structure Joins (p q : Polling) (ref : GroupRef) (metric : MetricId) : Prop where
  polls : q.registry.Polls ref metric
  generations : q.registry.generations = p.registry.generations
  ticker : ∀ t interval, p.TickerOf ref interval t → q.TickerOf ref interval t
  asked : ∃ poll, q.registry.poll? ref = some poll ∧ poll.asks metric = 1

theorem tickerOf_cancel {interval : Duration} {t : Ticker} (h : p.TickerOf ref interval t)
    {dropped : List GroupRef} (hkept : ref ∉ dropped) :
    (p.cancel dropped).TickerOf ref interval t where
  found := by
    have hsame : told dropped t = t := by
      unfold told
      rw [h.ref_eq, if_neg hkept]
    rw [getElem?_tickers_cancel, h.found, Option.map_some, hsame]
  ref_eq := h.ref_eq
  period := h.period
  uncancelled := h.uncancelled
  only := by
    intro g t' ht' href
    rw [getElem?_tickers_cancel] at ht'
    rcases Option.map_eq_some_iff.mp ht' with ⟨before, hbefore, rfl⟩
    rw [ref_told] at href
    exact h.only g before hbefore href

theorem joins_of_add (hconsistent : p.registry.Consistent) {slot : Slot}
    (hslot : p.registry.groups[ref.key]? = some slot) (hcurrent : slot.generation = ref.generation)
    {target : Target} (hkey : target.groupKey = ref.key) {metric : MetricId}
    {valueKind : ValueKind} {budget : UInt16} {outcome : AddOutcome}
    (hok : (p.add target metric valueKind budget).2 = .ok outcome) :
    p.Joins (p.add target metric valueKind budget).1 ref metric := by
  rcases add_of_ok hok with ⟨report, hadd⟩
  have hthere : target.groupKey ∈ p.registry.groups := hkey ▸ mem_of_lookup hslot
  rcases Registry.thins_add hadd hthere with ⟨hthins, hcreated⟩
  have hafter := hconsistent.add hadd
  have hpolls : (p.add target metric valueKind budget).1.registry.Polls ref metric := by
    rcases hconsistent.slot_add hadd with ⟨slot', hslot', hentry⟩
    rw [hkey] at hslot'
    rcases hthins.slot hslot' with ⟨before, hbefore, hgeneration, _⟩
    cases hslot.symm.trans hbefore
    exact ⟨slot', hslot', hgeneration.symm.trans hcurrent, mem_of_lookup hentry⟩
  have htickers : (p.add target metric valueKind budget).1.tickers =
      (p.cancel report.dropped.toList).tickers := by
    unfold Polling.add
    rw [hadd]
    dsimp only
    rw [hcreated]
    rfl
  have hkept : ref ∉ report.dropped.toList := by
    intro hmem
    have hgone := Registry.gone_add hadd (Option.mem_toList.mp hmem)
    rcases hpolls with ⟨slot', hslot', _, _⟩
    rw [hgone] at hslot'
    cases hslot'
  refine ⟨hpolls, hthins.generations, ?_, ?_⟩
  · intro t interval ht
    have hticker := tickerOf_cancel ht hkept
    exact ⟨htickers ▸ hticker.found, hticker.ref_eq, hticker.period, hticker.uncancelled,
      htickers ▸ hticker.only⟩
  · classical
    rcases hafter.exists_poll hpolls with ⟨poll, hpoll⟩
    exact ⟨poll, hpoll, by rw [hafter.asks_of_poll hpoll, if_pos hpolls]⟩

end Polling
end Pulling
end MetricGateway
