import MetricGateway.Proofs.Pulling.Vacancy

/-!
# Budgets are spent exactly

A metric that was added with a budget is asked for in as many polls of its group, and in one poll
where the budget is empty.  Nothing that happens to other metrics changes this: the entry of the
metric keeps its group alive, and only the polls of that group spend it.  The last of these polls
reports the metric as expired, and from then on it is in no group until somebody adds it again.

A group that lost its last metric in a poll waits for one more round.  A metric that is added before
finds the group and its ticker as they are; else that round ends both.
-/

namespace MetricGateway
namespace Pulling

namespace Entry

/-- How many polls an entry has left; also an empty budget is good for one. -/
def left (e : Entry) : Nat := max e.remaining.toNat 1

theorem exhausted_spend_iff (e : Entry) : e.spend.exhausted = true ↔ e.left = 1 := by
  unfold exhausted left
  rw [decide_eq_true_iff, ← UInt16.toNat_inj, toNat_remaining_spend]
  show e.remaining.toNat - 1 = 0 ↔ _
  omega

theorem left_spend {e : Entry} (h : e.spend.exhausted = false) : e.spend.left = e.left - 1 := by
  have hmore : e.left ≠ 1 := by
    intro hlast
    rw [(exhausted_spend_iff e).mpr hlast] at h
    cases h
  unfold left at hmore ⊢
  rw [toNat_remaining_spend]
  omega

end Entry

namespace Registry

variable {r r' : Registry} {ref : GroupRef} {metric : MetricId} {e : Entry}

/-- The group that is meant holds an entry for a metric. -/
def Carries (r : Registry) (ref : GroupRef) (metric : MetricId) (e : Entry) : Prop :=
  ∃ slot, r.groups[ref.key]? = some slot ∧ slot.generation = ref.generation ∧
    slot.group.entries[metric]? = some e

/-- No group holds a metric. -/
def Lacks (r : Registry) (metric : MetricId) : Prop := ∀ key, ¬r.Holds key metric

theorem Carries.polls (h : r.Carries ref metric e) : r.Polls ref metric := by
  rcases h with ⟨slot, hslot, hcurrent, hentry⟩
  exact ⟨slot, hslot, hcurrent, mem_of_lookup hentry⟩

theorem Carries.entryUnder (h : r.Carries ref metric e) :
    r.entryUnder ref.key metric = some e := by
  rcases h with ⟨slot, hslot, _, hentry⟩
  unfold Registry.entryUnder
  rw [hslot]
  exact hentry

theorem Lacks.not_polls (h : r.Lacks metric) (ref : GroupRef) : ¬r.Polls ref metric := by
  rintro ⟨slot, hslot, _, hmem⟩
  exact h ref.key ⟨slot, hslot, hmem⟩

theorem Consistent.row_of_entryUnder (h : r.Consistent) {key : GroupKey}
    (hentry : r.entryUnder key metric = some e) : r.row metric = some (key, e) := by
  rcases Option.bind_eq_some_iff.mp hentry with ⟨slot, hslot, he⟩
  have hlisted := (h.index_iff metric key).mpr ⟨slot, hslot, mem_of_lookup he⟩
  unfold row
  rw [hlisted, Option.bind_some, hentry]
  rfl

theorem entryUnder_of_row {key : GroupKey} (hrow : r.row metric = some (key, e)) :
    r.entryUnder key metric = some e := by
  rcases Option.bind_eq_some_iff.mp hrow with ⟨key', _, hmapped⟩
  rcases Option.map_eq_some_iff.mp hmapped with ⟨e', hentry, heq⟩
  cases heq
  exact hentry

/-!
## Operations that leave the metric alone
-/

theorem Carries.of_thins (h : r.Carries ref metric e) (hthins : r.Thins r') {e' : Entry}
    (hentry : r'.entryUnder ref.key metric = some e') : r'.Carries ref metric e' := by
  rcases h with ⟨slot, hslot, hcurrent, _⟩
  rcases Option.bind_eq_some_iff.mp hentry with ⟨slot', hslot', he'⟩
  rcases hthins.slot hslot' with ⟨before, hbefore, hgeneration, _⟩
  cases hslot.symm.trans hbefore
  exact ⟨slot', hslot', hgeneration.symm.trans hcurrent, he'⟩

theorem Carries.add (h : r.Carries ref metric e) (hconsistent : r.Consistent) {target : Target}
    {other : MetricId} (hne : other ≠ metric) {valueKind : ValueKind} {budget : UInt16}
    {report : AddReport} (hadd : r.add target other valueKind budget = .ok (r', report)) :
    r'.Carries ref metric e := by
  have hrow := (row_add_of_ne hne hadd).trans (hconsistent.row_of_entryUnder h.entryUnder)
  have hentry := entryUnder_of_row hrow
  by_cases hmem : target.groupKey ∈ r.groups
  · exact h.of_thins (thins_add hadd hmem).1 hentry
  · rcases h with ⟨slot, hslot, hcurrent, _⟩
    rcases Option.bind_eq_some_iff.mp hentry with ⟨slot', hslot', he⟩
    have hbefore := (creates_add hadd hmem).2.2 hslot'
    rw [if_neg fun hkey : ref.key = target.groupKey => hmem (hkey ▸ mem_of_lookup hslot)] at hbefore
    rcases hbefore with ⟨before, hbefore, hgeneration, _⟩
    cases hslot.symm.trans hbefore
    exact ⟨slot', hslot', hgeneration.symm.trans hcurrent, he⟩

theorem entryUnder_refresh_of_ne (r : Registry) {other : MetricId} (hne : other ≠ metric)
    (key : GroupKey) : (r.refresh other).1.entryUnder key metric = r.entryUnder key metric := by
  unfold refresh
  split
  · rfl
  · split
    · rfl
    next slot hslot =>
      apply entryUnder_replace hslot
      rw [Group.getElem?_refresh, if_neg hne]

theorem entryUnder_remove_of_ne (r : Registry) {other : MetricId} (hne : other ≠ metric)
    (key : GroupKey) : (r.remove other).1.entryUnder key metric = r.entryUnder key metric := by
  cases hlisted : r.index[other]? with
  | none => rw [remove_of_none hlisted]
  | some previous =>
      rw [remove_of_some hlisted]
      exact entryUnder_dropEntry_of_ne _ previous key hne

theorem Carries.refresh (h : r.Carries ref metric e) {other : MetricId} (hne : other ≠ metric) :
    (r.refresh other).1.Carries ref metric e :=
  h.of_thins (thins_refresh r other)
    ((entryUnder_refresh_of_ne r hne ref.key).trans h.entryUnder)

theorem Carries.remove (h : r.Carries ref metric e) {other : MetricId} (hne : other ≠ metric) :
    (r.remove other).1.Carries ref metric e :=
  h.of_thins (thins_remove r other) ((entryUnder_remove_of_ne r hne ref.key).trans h.entryUnder)

theorem Carries.stopContainer (h : r.Carries ref metric e) {container : ContainerId}
    (hne : ref.key.container ≠ container) : (r.stopContainer container).1.Carries ref metric e := by
  rcases h with ⟨slot, hslot, hcurrent, hentry⟩
  exact ⟨slot, (groups_stopContainer_of_ne r hne).trans hslot, hcurrent, hentry⟩

/-!
## Rounds
-/

theorem Carries.tick_other (h : r.Carries ref metric e) (hconsistent : r.Consistent)
    {other : GroupRef} (hne : other ≠ ref) : (r.tick other).1.Carries ref metric e := by
  rcases h with ⟨slot, hslot, hcurrent, hentry⟩
  have hother : other ≠ ⟨ref.key, slot.generation⟩ := by
    rw [hcurrent]
    exact hne
  exact ⟨slot, hconsistent.groups_tick_of_ne hslot hother, hcurrent, hentry⟩

/-- A poll asks for each metric of its group once and spends one poll of each; what this exhausts
leaves, and is reported. -/
theorem Carries.tick (h : r.Carries ref metric e) (hconsistent : r.Consistent) {poll : Poll}
    (hpoll : r.poll? ref = some poll) :
    poll.asks metric = 1 ∧ (metric ∈ poll.expired ↔ e.spend.exhausted = true) ∧
      if e.spend.exhausted then (r.tick ref).1.Lacks metric
      else (r.tick ref).1.Carries ref metric e.spend := by
  classical
  have hasks : poll.asks metric = 1 := by
    rw [hconsistent.asks_of_poll hpoll, if_pos h.polls]
  rcases h with ⟨slot, hslot, hcurrent, hentry⟩
  rcases hconsistent.poll_cases hpoll with ⟨slot', hslot', _, htick, _, hgroups⟩
  cases hslot.symm.trans hslot'
  have hexpired : metric ∈ poll.expired ↔ e.spend.exhausted = true := by
    rw [Group.mem_expired htick, hentry]
    simp
  have hafter : (r.tick ref).1.groups[ref.key]? = some { slot with group := slot.group.tick.1 } := by
    rw [hgroups]
    exact Std.ExtTreeMap.getElem?_insert_self
  refine ⟨hasks, hexpired, ?_⟩
  split
  next hlast =>
    intro key hholds
    rcases hholds with ⟨after, hslot', hmem⟩
    rw [hgroups, lookup_insert] at hslot'
    split at hslot'
    next =>
      cases hslot'
      exact ((Group.mem_tick htick metric).mp hmem).2 (hexpired.mpr hlast)
    next hne =>
      have hlisted := (hconsistent.index_iff metric key).mpr ⟨after, hslot', hmem⟩
      rw [(hconsistent.index_iff metric ref.key).mpr ⟨slot, hslot, mem_of_lookup hentry⟩] at hlisted
      exact hne (Option.some.inj hlisted)
  next hmore =>
    refine ⟨_, hafter, hcurrent, ?_⟩
    show slot.group.tick.1.entries[metric]? = some e.spend
    rw [Group.getElem?_tick (Group.poll_of_tick htick), hentry, Option.map_some,
      Option.filter_some, if_pos (by simpa using hmore)]

/-!
## A metric that is in no group

Only adding a metric puts it into a group.
-/

theorem Lacks.of_row (hconsistent : r.Consistent) (hconsistent' : r'.Consistent)
    (h : r.Lacks metric) (hrow : r'.row metric = r.row metric) : r'.Lacks metric := by
  apply (hconsistent'.row_eq_none_iff metric).mp
  rw [hrow]
  exact (hconsistent.row_eq_none_iff metric).mpr h

theorem Lacks.of_holds (h : r.Lacks metric)
    (hholds : ∀ key, r'.Holds key metric → r.Holds key metric) : r'.Lacks metric :=
  fun key hheld => h key (hholds key hheld)

theorem Lacks.unlisted (h : r.Lacks metric) (hconsistent : r.Consistent) :
    r.index[metric]? = none := by
  cases hlisted : r.index[metric]? with
  | none => rfl
  | some key => exact absurd ((hconsistent.index_iff metric key).mp hlisted) (h key)

theorem Lacks.of_entryUnder (h : r.Lacks metric)
    (hentry : ∀ key, r'.entryUnder key metric = r.entryUnder key metric) : r'.Lacks metric := by
  apply h.of_holds
  intro key hholds
  rw [holds_iff_entryUnder, hentry] at hholds
  exact (holds_iff_entryUnder r key metric).mpr hholds

theorem Lacks.refresh (h : r.Lacks metric) (hconsistent : r.Consistent) (other : MetricId) :
    (r.refresh other).1.Lacks metric := by
  by_cases hother : other = metric
  · rw [hother, refresh_of_none (h.unlisted hconsistent)]
    exact h
  · exact h.of_entryUnder (entryUnder_refresh_of_ne r hother)

theorem Lacks.remove (h : r.Lacks metric) (hconsistent : r.Consistent) (other : MetricId) :
    (r.remove other).1.Lacks metric := by
  by_cases hother : other = metric
  · rw [hother, remove_of_none (h.unlisted hconsistent)]
    exact h
  · exact h.of_entryUnder (entryUnder_remove_of_ne r hother)

theorem Lacks.dropGroups (h : r.Lacks metric) (keys : List GroupKey) :
    (r.dropGroups keys).1.Lacks metric := by
  apply h.of_holds
  rintro key ⟨slot, hslot, hmem⟩
  rw [groups_dropGroups] at hslot
  split at hslot
  · cases hslot
  · exact ⟨slot, hslot, hmem⟩

theorem Lacks.tick (h : r.Lacks metric) (hconsistent : r.Consistent) (ref : GroupRef) :
    (r.tick ref).1.Lacks metric := by
  rcases hconsistent.tick_cases ref with
    ⟨hround, _⟩ | ⟨slot, hslot, _, ⟨_, hround⟩ | ⟨hgo, expired, hgroups, _, _⟩⟩
  · rw [hround]
    exact h
  · rw [hround]
    exact h.dropGroups [ref.key]
  · apply h.of_holds
    rintro key ⟨slot', hslot', hmem⟩
    rw [hgroups, lookup_insert] at hslot'
    split at hslot'
    next heq =>
      cases hslot'
      exact ⟨slot, heq ▸ hslot, ((Group.mem_tick (Group.tick_of_poll hgo) metric).mp hmem).1⟩
    next => exact ⟨slot', hslot', hmem⟩

end Registry

/-- A metric is asked for once by each of its next polls, that many, and by no other poll; the last
of them reports it as expired. -/
structure Spent (metric : MetricId) (rounds : Nat) (polls : List Poll) : Prop where
  asks : ∀ (i : Nat) (poll : Poll), polls[i]? = some poll →
    poll.asks metric = if i < rounds then 1 else 0
  expired : ∀ (i : Nat) (poll : Poll), polls[i]? = some poll →
    (metric ∈ poll.expired ↔ i + 1 = rounds)

namespace Polling

/-- A move neither adds, refreshes nor removes a metric, nor stops the groups of its container. -/
def Move.Spares (metric : MetricId) (container : ContainerId) : Move → Prop
  | .perform (.add _ other _ _) => other ≠ metric
  | .perform (.refresh other) => other ≠ metric
  | .perform (.remove other) => other ≠ metric
  | .perform (.stopContainer stopped) => container ≠ stopped
  | .perform .stopAll => False
  | .perform .shutdown => False
  | _ => True

def Move.AddsNot (metric : MetricId) : Move → Prop
  | .perform (.add _ other _ _) => other ≠ metric
  | _ => True

variable {p : Polling} {ref : GroupRef} {metric : MetricId} {e : Entry} {m : Move}

theorem Move.Spares.addsNot {container : ContainerId} (h : m.Spares metric container) :
    m.AddsNot metric := by
  cases m with
  | perform op =>
      cases op with
      | add target other valueKind budget => exact h
      | _ => trivial
  | share f => trivial

theorem carries_move (hconsistent : p.registry.Consistent) (h : p.registry.Carries ref metric e)
    (hspares : m.Spares metric ref.key.container) (hcalls : p.calls? m ≠ some ref) :
    (p.move m).registry.Carries ref metric e := by
  cases hround : p.calls? m with
  | some other =>
      rw [registry_move_of_calls hround]
      apply h.tick_other hconsistent
      rintro rfl
      exact hcalls hround
  | none =>
      cases m with
      | share f => exact h
      | perform op =>
          cases op with
          | add target other valueKind budget =>
              show (p.add target other valueKind budget).1.registry.Carries ref metric e
              cases hadd : p.registry.add target other valueKind budget with
              | error err =>
                  rw [add_of_error hadd]
                  exact h
              | ok added =>
                  rw [registry_add_of_ok hadd]
                  exact h.add hconsistent hspares hadd
          | refresh other => exact h.refresh hspares
          | remove other =>
              show (p.remove other).1.registry.Carries ref metric e
              rw [registry_remove]
              exact h.remove hspares
          | stopContainer container => exact h.stopContainer hspares
          | stopAll => cases hspares
          | shutdown => cases hspares
          | tick other => cases hround
          | turn g preference =>
              show (p.stepTicker g preference).registry.Carries ref metric e
              rw [registry_turn_of_idle hround]
              exact h

theorem lacks_move (hconsistent : p.registry.Consistent) (h : p.registry.Lacks metric)
    (hnot : m.AddsNot metric) : (p.move m).registry.Lacks metric := by
  cases hround : p.calls? m with
  | some other =>
      rw [registry_move_of_calls hround]
      exact h.tick hconsistent other
  | none =>
      cases m with
      | share f => exact h
      | perform op =>
          cases op with
          | add target other valueKind budget =>
              show (p.add target other valueKind budget).1.registry.Lacks metric
              cases hadd : p.registry.add target other valueKind budget with
              | error err =>
                  rw [add_of_error hadd]
                  exact h
              | ok added =>
                  rw [registry_add_of_ok hadd]
                  exact h.of_row hconsistent (hconsistent.add hadd) (Registry.row_add_of_ne hnot hadd)
          | refresh other => exact h.refresh hconsistent other
          | remove other =>
              show (p.remove other).1.registry.Lacks metric
              rw [registry_remove]
              exact h.remove hconsistent other
          | stopContainer container => exact h.dropGroups _
          | stopAll => exact h.dropGroups _
          | shutdown => exact h.dropGroups _
          | tick other => cases hround
          | turn g preference =>
              show (p.stepTicker g preference).registry.Lacks metric
              rw [registry_turn_of_idle hround]
              exact h

theorem pollOf_eq_some {poll : Poll} (h : p.pollOf ref m = some poll) :
    p.calls? m = some ref ∧ p.registry.poll? ref = some poll := by
  unfold pollOf at h
  split at h
  next hcalls => exact ⟨hcalls, h⟩
  next => cases h

/-!
## Runs
-/

/-- How many more polls of the group that is meant ask for a metric; after the last one it is in no
group. -/
def Owes (p : Polling) (ref : GroupRef) (metric : MetricId) : Nat → Prop
  | 0 => p.registry.Lacks metric
  | left + 1 => ∃ e, p.registry.Carries ref metric e ∧ e.left = left + 1

/-- A move is a poll of the group, which spends one, or leaves the count alone. -/
theorem Owes.move {left : Nat} (h : p.Owes ref metric left) (hconsistent : p.registry.Consistent)
    (hspares : m.Spares metric ref.key.container) :
    (p.move m).Owes ref metric (left - (p.pollOf ref m).toList.length) ∧
      (∀ poll, p.pollOf ref m = some poll →
        poll.asks metric = (if 0 < left then 1 else 0) ∧ (metric ∈ poll.expired ↔ left = 1)) ∧
      ∀ other, other ≠ ref → ∀ poll, p.pollOf other m = some poll → poll.Omits metric := by
  cases left with
  | zero =>
      have hlacks : p.registry.Lacks metric := h
      have homits : ∀ other poll, p.pollOf other m = some poll → poll.Omits metric := by
        intro other poll hpoll
        exact hconsistent.omits_of_poll (pollOf_eq_some hpoll).2 (hlacks.not_polls other)
      refine ⟨?_, ?_, fun other _ => homits other⟩
      · rw [Nat.zero_sub]
        exact lacks_move hconsistent hlacks hspares.addsNot
      · intro poll hpoll
        have hnone := homits ref poll hpoll
        refine ⟨hnone.asks, ?_⟩
        simp [hnone.not_expired]
  | succ left =>
      rcases h with ⟨e, hcarries, hleft⟩
      have homits : ∀ other, other ≠ ref → ∀ poll, p.pollOf other m = some poll →
          poll.Omits metric := by
        intro other hne poll hpoll
        apply hconsistent.omits_of_poll (pollOf_eq_some hpoll).2
        intro hother
        exact hne (hconsistent.polls_unique hcarries.polls hother)
      by_cases hcalls : p.calls? m = some ref
      · rcases hconsistent.exists_poll hcarries.polls with ⟨poll, hpoll⟩
        rcases hcarries.tick hconsistent hpoll with ⟨hasks, hexpired, hafter⟩
        have hmine : p.pollOf ref m = some poll := by
          unfold pollOf
          rw [if_pos hcalls, hpoll]
        have hlast : e.spend.exhausted = true ↔ left = 0 := by
          rw [Entry.exhausted_spend_iff, hleft]
          omega
        refine ⟨?_, ?_, homits⟩
        · rw [hmine]
          show (p.move m).Owes ref metric left
          rw [← registry_move_of_calls hcalls] at hafter
          split at hafter
          next hspent =>
            rw [hlast.mp hspent]
            exact hafter
          next hmore =>
            have hpos : left ≠ 0 := fun hzero => hmore (hlast.mpr hzero)
            rcases Nat.exists_eq_succ_of_ne_zero hpos with ⟨rest, rfl⟩
            refine ⟨e.spend, hafter, ?_⟩
            rw [Entry.left_spend (by simpa using hmore), hleft]
            rfl
        · intro poll' hpoll'
          cases hmine.symm.trans hpoll'
          refine ⟨by rw [hasks, if_pos (Nat.succ_pos left)], ?_⟩
          rw [hexpired, hlast]
          omega
      · have hnone : p.pollOf ref m = none := if_neg hcalls
        refine ⟨?_, ?_, homits⟩
        · rw [hnone]
          exact ⟨e, carries_move hconsistent hcarries hspares hcalls, hleft⟩
        · intro poll hpoll
          rw [hnone] at hpoll
          cases hpoll

theorem Owes.follow {left : Nat} (h : p.Owes ref metric left) (hconsistent : p.registry.Consistent)
    {moves : List Move} (hspares : ∀ m ∈ moves, m.Spares metric ref.key.container) :
    (p.follow moves).Owes ref metric (left - (p.pollsAlong ref moves).length) ∧
      Spent metric left (p.pollsAlong ref moves) ∧
      ∀ other, other ≠ ref → ∀ poll ∈ p.pollsAlong other moves, poll.Omits metric := by
  induction moves generalizing p left with
  | nil =>
      refine ⟨h, ⟨?_, ?_⟩, ?_⟩
      · intro i poll hpoll
        cases hpoll
      · intro i poll hpoll
        cases hpoll
      · intro other _ poll hmem
        cases hmem
  | cons m moves ih =>
      rcases h.move hconsistent (hspares m List.mem_cons_self) with ⟨hafter, hpolled, hothers⟩
      rcases ih hafter (consistent_move hconsistent m)
        (fun m' hmem => hspares m' (List.mem_cons_of_mem m hmem)) with ⟨hend, hspent, hrest⟩
      refine ⟨?_, ?_, ?_⟩
      · show ((p.move m).follow moves).Owes ref metric _
        rw [pollsAlong, List.length_append, Nat.sub_add_eq]
        exact hend
      · cases hpoll : p.pollOf ref m with
        | none =>
            rw [hpoll] at hspent
            rw [pollsAlong, hpoll]
            exact hspent
        | some first =>
            rcases hpolled first hpoll with ⟨hasks, hexpired⟩
            rw [hpoll] at hspent
            rw [pollsAlong, hpoll]
            constructor
            · intro i poll hat
              cases i with
              | zero =>
                  cases hat
                  exact hasks
              | succ i =>
                  rw [hspent.asks i poll hat]
                  show (if i < left - 1 then 1 else 0) = if i + 1 < left then 1 else 0
                  simp only [Nat.lt_sub_iff_add_lt]
            · intro i poll hat
              cases i with
              | zero =>
                  cases hat
                  rw [hexpired]
                  exact eq_comm
              | succ i =>
                  rw [hspent.expired i poll hat]
                  show i + 1 = left - 1 ↔ i + 1 + 1 = left
                  omega
      · intro other hne poll hmem
        rcases List.mem_append.mp hmem with hfirst | hmore
        · exact hothers other hne poll (Option.mem_toList.mp hfirst)
        · exact hrest other hne poll hmore

theorem lacks_follow (hconsistent : p.registry.Consistent) (h : p.registry.Lacks metric)
    {moves : List Move} (hnot : ∀ m ∈ moves, m.AddsNot metric) (other : GroupRef) :
    ∀ poll ∈ p.pollsAlong other moves, poll.Omits metric := by
  induction moves generalizing p with
  | nil =>
      intro poll hmem
      cases hmem
  | cons m moves ih =>
      intro poll hmem
      rcases List.mem_append.mp hmem with hfirst | hmore
      · have hpoll := pollOf_eq_some (Option.mem_toList.mp hfirst)
        exact hconsistent.omits_of_poll hpoll.2 (h.not_polls other)
      · exact ih (consistent_move hconsistent m)
          (lacks_move hconsistent h (hnot m List.mem_cons_self))
          (fun m' hmem' => hnot m' (List.mem_cons_of_mem m hmem')) poll hmore

/-- A metric that was added is owed as many polls of its group as its budget says, and one where the
budget is empty. -/
theorem owes_add {common : Commons} {exchange replyKey : String} {messageTtl : Duration}
    {before : List Move} {target : Target} {valueKind : ValueKind} {budget : UInt16}
    {outcome : AddOutcome} :
    let start : Polling := { common, exchange, replyKey, messageTtl }
    let added := (start.follow before).add target metric valueKind budget
    added.2 = .ok outcome →
      added.1.registry.Consistent ∧ ∃ generation,
        added.1.registry.Polls ⟨target.groupKey, generation⟩ metric ∧
          added.1.Owes ⟨target.groupKey, generation⟩ metric (max budget.toNat 1) := by
  intro start added hok
  have htended : start.Tended (start.Lapsed []) :=
    tended_empty common exchange replyKey messageTtl _
  have hbefore : (start.follow before).registry.Consistent := (htended.follow before).consistent
  rcases add_of_ok hok with ⟨report, hadd⟩
  rcases hbefore.slot_add hadd with ⟨slot, hslot, hentry⟩
  have hcarries : added.1.registry.Carries ⟨target.groupKey, slot.generation⟩ metric
      (.new metric valueKind budget) := ⟨slot, hslot, rfl, hentry⟩
  refine ⟨hbefore.add hadd, slot.generation, hcarries.polls, ?_⟩
  rcases Nat.exists_eq_succ_of_ne_zero (Nat.ne_of_gt (Nat.le_max_right budget.toNat 1)) with
    ⟨fewer, hfewer⟩
  rw [hfewer]
  exact ⟨_, hcarries, hfewer⟩

theorem consistent_follow (h : p.registry.Consistent) (moves : List Move) :
    (p.follow moves).registry.Consistent := by
  induction moves generalizing p with
  | nil => exact h
  | cons m moves ih => exact ih (consistent_move h m)

theorem Owes.asked_next {left : Nat} (h : p.Owes ref metric left)
    (hconsistent : p.registry.Consistent) (hpos : 0 < left) :
    ∃ poll key correlation, p.registry.poll? ref = some poll ∧ poll.asks metric = 1 ∧
      (p.tick ref).2 = some (p.pollMessage key correlation poll.request) := by
  classical
  rcases Nat.exists_eq_succ_of_ne_zero (Nat.ne_of_gt hpos) with ⟨fewer, rfl⟩
  rcases h with ⟨e, hheld, _⟩
  rcases hconsistent.exists_poll hheld.polls with ⟨poll, hpoll⟩
  rcases message_of_poll hconsistent hpoll with ⟨key, correlation, hmessage⟩
  refine ⟨poll, key, correlation, hpoll, ?_, hmessage⟩
  rw [hconsistent.asks_of_poll hpoll, if_pos hheld.polls]

/-- A group that has lost all its metrics in a poll ends in its next round, or takes in a metric
that is added before. -/
theorem ends_or_joins (hconsistent : p.registry.Consistent) (hcalls : p.calls? m = some ref)
    {poll : Poll} (hpoll : p.registry.poll? ref = some poll)
    (hall : ∀ other, p.registry.Polls ref other → other ∈ poll.expired) {idle : List Move}
    (hleaves : ∀ m' ∈ idle, m'.Leaves ref.key) (hrounds : ref ∉ (p.move m).roundsAlong idle) :
    let vacant := (p.move m).follow idle
    (∀ m', vacant.calls? m' = some ref → vacant.Ends ref m') ∧
      ∀ target other kind budget outcome, target.groupKey = ref.key →
        (vacant.add target other kind budget).2 = .ok outcome →
          vacant.Joins (vacant.add target other kind budget).1 ref other := by
  intro vacant
  have hemptied : (p.move m).registry.Vacant ref := by
    rw [registry_move_of_calls hcalls]
    exact hconsistent.vacant_of_poll hpoll hall
  rcases vacant_follow (consistent_move hconsistent m) hemptied hleaves hrounds with
    ⟨hstill, hvacant⟩
  refine ⟨fun m' => ends_of_vacant hstill hvacant, ?_⟩
  intro target other kind budget outcome hkey hok
  rcases hvacant with ⟨slot, hslot, hcurrent, _⟩
  exact joins_of_add hstill hslot hcurrent hkey hok

/-- A metric that was added is asked for in the next polls of its group, once in each of as many as
its budget says and in one where the budget is empty, whatever happens to other metrics meanwhile.
The last of these polls reports it as expired.  No other poll has to do with it, and none later,
until it is added again.

A poll that reports all metrics of its group leaves the group and its ticker in place.  If nothing is
added under its key before its next round, that round ends the group and sends nothing; a metric that
is added before joins the group, and the ticker goes on. -/
theorem budgets_are_spent (common : Commons) (exchange replyKey : String) (messageTtl : Duration)
    (before : List Move) (target : Target) (metric : MetricId) (valueKind : ValueKind)
    (budget : UInt16) {outcome : AddOutcome} :
    let start : Polling := { common, exchange, replyKey, messageTtl }
    let added := (start.follow before).add target metric valueKind budget
    let rounds := max budget.toNat 1
    added.2 = .ok outcome →
      ∃ generation,
        let ref : GroupRef := ⟨target.groupKey, generation⟩
        added.1.registry.Polls ref metric ∧
        ∀ after, (∀ m ∈ after, m.Spares metric target.container) →
          let polls := added.1.pollsAlong ref after
          let last := added.1.follow after
          Spent metric rounds polls ∧
          (∀ other, other ≠ ref → ∀ poll ∈ added.1.pollsAlong other after, poll.Omits metric) ∧
          (polls.length < rounds →
            ∃ poll key correlation, last.registry.poll? ref = some poll ∧ poll.asks metric = 1 ∧
              (last.tick ref).2 = some (last.pollMessage key correlation poll.request)) ∧
          (rounds ≤ polls.length → ∀ more, (∀ m ∈ more, m.AddsNot metric) →
            ∀ other, ∀ poll ∈ last.pollsAlong other more, poll.Omits metric) ∧
          ∀ m poll, last.calls? m = some ref → last.registry.poll? ref = some poll →
            (∀ other, last.registry.Polls ref other → other ∈ poll.expired) →
            ∀ idle, (∀ m' ∈ idle, m'.Leaves ref.key) → ref ∉ (last.move m).roundsAlong idle →
              let vacant := (last.move m).follow idle
              (∀ m', vacant.calls? m' = some ref → vacant.Ends ref m') ∧
              ∀ target' other kind budget' outcome', target'.groupKey = ref.key →
                (vacant.add target' other kind budget').2 = .ok outcome' →
                  vacant.Joins (vacant.add target' other kind budget').1 ref other := by
  intro start added rounds hok
  rcases owes_add hok with ⟨hadded, generation, hpolls, howes⟩
  refine ⟨generation, hpolls, ?_⟩
  intro after hspares polls last
  rcases howes.follow hadded hspares with ⟨hend, hspent, hothers⟩
  have hlast : last.registry.Consistent := consistent_follow hadded after
  refine ⟨hspent, hothers, ?_, ?_, ?_⟩
  · exact fun hmore => hend.asked_next hlast (Nat.sub_pos_of_lt hmore)
  · intro hdone more hnot other
    have hlacks : last.Owes ⟨target.groupKey, generation⟩ metric (rounds - polls.length) := hend
    rw [Nat.sub_eq_zero_of_le hdone] at hlacks
    exact lacks_follow hlast hlacks hnot other
  · intro m poll hcalls hpoll hall idle hleaves hrounds
    exact ends_or_joins hlast hcalls hpoll hall hleaves hrounds

/-!
## A metric with two polls

The group of the metric is polled twice.  The second poll takes its only metric out, and the group
waits for one more round, in which it ends, unless another metric is added before.
-/

def snmpGroup : GroupRef := ⟨viaSnmp.groupKey, 1⟩

theorem budgets_are_spent_twice :
    let added := (unused.add viaSnmp 1 .int 2).1
    let last := added.follow [.perform (.tick snmpGroup)]
    let emptied := last.move (.perform (.tick snmpGroup))
    Spent 1 2 (added.pollsAlong snmpGroup
        [.perform (.tick snmpGroup), .perform (.tick snmpGroup), .perform (.tick snmpGroup)]) ∧
      emptied.Ends snmpGroup (.perform (.tick snmpGroup)) ∧
      emptied.Joins (emptied.add viaFlex 2 .int 3).1 snmpGroup 2 := by
  intro added last emptied
  have hok : (unused.add viaSnmp 1 .int 2).2 = .ok .inserted := by decide +kernel
  rcases budgets_are_spent unused.common unused.exchange unused.replyKey unused.messageTtl []
    viaSnmp 1 .int 2 hok with ⟨generation, hpolls, hafter⟩
  have hgeneration : generation = 1 := by
    rcases hpolls with ⟨slot, hslot, hcurrent, _⟩
    have hfirst : (added.registry.groups[viaSnmp.groupKey]?).map (·.generation) = some 1 := by
      decide +kernel
    have hmapped := (congrArg (Option.map (·.generation)) hslot).symm.trans hfirst
    exact hcurrent.symm.trans (Option.some.inj hmapped)
  subst hgeneration
  have hticks : ∀ n, ∀ m ∈ List.replicate n (Move.perform (.tick snmpGroup)),
      m.Spares 1 viaSnmp.container := by
    intro n m hmem
    rw [List.eq_of_mem_replicate hmem]
    trivial
  obtain ⟨hspent, -⟩ := hafter _ (hticks 3)
  obtain ⟨-, -, -, -, hvacant⟩ := hafter _ (hticks 1)
  have hpoll : last.registry.poll? snmpGroup = some ⟨⟨7, .snmpV2c, [⟨1, .int⟩]⟩, [1]⟩ := by
    decide +kernel
  have hconsistent : last.registry.Consistent :=
    consistent_run Registry.consistent_empty
      [.add viaSnmp 1 .int 2, .tick snmpGroup]
  have hall : ∀ other, last.registry.Polls snmpGroup other → other ∈ [1] := by
    classical
    intro other hother
    have hasked := hconsistent.asks_of_poll hpoll other
    rw [if_pos hother] at hasked
    have hcount : List.count other [1] = 1 := hasked
    apply List.count_pos_iff.mp
    rw [hcount]
    exact Nat.one_pos
  obtain ⟨hends, hjoins⟩ := hvacant (.perform (.tick snmpGroup)) _ rfl hpoll hall []
    (fun m hmem => absurd hmem List.not_mem_nil) List.not_mem_nil
  refine ⟨hspent, hends (.perform (.tick snmpGroup)) rfl, ?_⟩
  exact hjoins viaFlex 2 .int 3 .inserted rfl (by decide +kernel)

end Polling
end Pulling
end MetricGateway
