import MetricGateway.Proofs.Pulling.Refinement

/-!
# Containers do not meddle with each other

All containers share one index and one count of generations.  Still, what an operation leaves under
a key depends on nothing but what it found there, on where the metric that it names was listed, and
on the count if it creates a group.  An operation that has to do with one container only leaves the
groups of the others alone, and does not change where their metrics are listed.  So two operations
that have to do with different containers, and name different metrics, may be done in either order:
the groups differ at most in their generations, and each of the two gives the same answer.
-/

namespace MetricGateway
namespace Pulling

namespace Slot

def without (s : Slot) (metric : MetricId) : Option Slot :=
  let group := (s.group.remove metric).1
  if group.isEmpty then none else some { s with group }

/-- The slot after a round that is meant for the group of a generation. -/
def round (s : Slot) (meant : Generation) : Option Slot :=
  if s.generation = meant then
    match s.group.tick with
    | (_, .stop) => none
    | (group, .poll _ _) => some { s with group }
  else some s

theorem mem_without {s s' : Slot} {metric m : MetricId} (h : s.without metric = some s')
    (hm : m ∈ s'.group.entries) : m ∈ s.group.entries := by
  unfold without at h
  dsimp only at h
  split at h
  · cases h
  · cases h
    exact ((Group.mem_remove s.group metric m).mp hm).2

theorem mem_round {s s' : Slot} {meant : Generation} {m : MetricId} (h : s.round meant = some s')
    (hm : m ∈ s'.group.entries) : m ∈ s.group.entries := by
  unfold round at h
  split at h
  · cases hround : s.group.tick with
    | mk group outcome =>
        rw [hround] at h
        cases outcome with
        | stop => cases h
        | poll request expired =>
            cases h
            have hpoll : s.group.tick.2 = .poll request expired := by rw [hround]
            have hleft : m ∈ s.group.tick.1.entries := by
              rw [hround]
              exact hm
            exact ((Group.mem_tick hpoll m).mp hleft).1
  · cases h
    exact hm

end Slot

namespace Polling

inductive Action where
  | add (target : Target) (metric : MetricId) (valueKind : ValueKind) (budget : UInt16)
  | refresh (metric : MetricId)
  | remove (metric : MetricId)
  | stopContainer (container : ContainerId)
  | tick (ref : GroupRef)

inductive Answer where
  | added (outcome : Except GatewayError AddOutcome)
  | refreshed (found : Bool)
  | removed (found : Bool)
  | stopped (groups : Nat)
  | ticked (poll : Option Message)

namespace Action

def metric? : Action → Option MetricId
  | .add _ metric _ _ => some metric
  | .refresh metric => some metric
  | .remove metric => some metric
  | .stopContainer _ => none
  | .tick _ => none

def container? : Action → Option ContainerId
  | .add target _ _ _ => some target.container
  | .refresh _ => none
  | .remove _ => none
  | .stopContainer container => some container
  | .tick ref => some ref.key.container

/-- What an action leaves under a key where it found a slot or none.  The metric that it names is
`listed` under a key or nowhere, and `newest` is the generation of the newest group. -/
def leaves (x : Action) (listed : Option GroupKey) (newest : Generation) (key : GroupKey)
    (slot : Option Slot) : Option Slot :=
  match x with
  | .add target metric valueKind budget =>
      if target.interval.wholeMillis = 0 then slot
      else if target.groupKey = key then
        let s := slot.getD { group := Group.new target, generation := newest + 1 }
        some { s with group := (s.group.add metric valueKind budget).1 }
      else if listed = some key then slot.bind (·.without metric)
      else slot
  | .refresh metric =>
      if listed = some key then
        slot.map fun s => { s with group := (s.group.refresh metric).1 }
      else slot
  | .remove metric => if listed = some key then slot.bind (·.without metric) else slot
  | .stopContainer container => if key.container = container then none else slot
  | .tick ref => if ref.key = key then slot.bind (·.round ref.generation) else slot

def births (r : Registry) : Action → Nat
  | .add target _ _ _ =>
      if target.interval.wholeMillis = 0 ∨ target.groupKey ∈ r.groups then 0 else 1
  | _ => 0

def op : Action → Op
  | .add target metric valueKind budget => .add target metric valueKind budget
  | .refresh metric => .refresh metric
  | .remove metric => .remove metric
  | .stopContainer container => .stopContainer container
  | .tick ref => .tick ref

end Action

/-- The answer to a poll without the correlation id that its message was given. -/
def Answer.anonymous : Answer → Answer
  | .ticked poll =>
      .ticked (poll.map fun m => { m with envelope := m.envelope.withCorrelation "" })
  | answer => answer

def act (p : Polling) : Action → Polling × Answer
  | .add target metric valueKind budget =>
      let (p, outcome) := p.add target metric valueKind budget
      (p, .added outcome)
  | .refresh metric =>
      let (p, found) := p.refresh metric
      (p, .refreshed found)
  | .remove metric =>
      let (p, found) := p.remove metric
      (p, .removed found)
  | .stopContainer container =>
      let (p, groups) := p.stopContainer container
      (p, .stopped groups)
  | .tick ref =>
      let (p, poll) := p.tick ref
      (p, .ticked poll)

end Polling

namespace Registry

open Polling (Action)

def listed (r : Registry) (x : Action) : Option GroupKey := x.metric?.bind (r.index[·]?)

/-- An action has to do with one container only: it is told no other one, and the metric that it
names is polled for that container or not at all. -/
structure Concerns (r : Registry) (x : Action) (container : ContainerId) : Prop where
  told : ∀ c, x.container? = some c → c = container
  named : ∀ key, r.listed x = some key → key.container = container

/-- The registries have the same groups, but for their generations. -/
structure Alike (r r' : Registry) : Prop where
  groups : ∀ key : GroupKey, r.groups[key]?.map (·.group) = r'.groups[key]?.map (·.group)
  index : r.index = r'.index
  generations : r.generations = r'.generations

variable {r : Registry} {key : GroupKey} {metric : MetricId}

/-! ## What is left under a key -/

theorem groups_dropEntry_self (r : Registry) (key : GroupKey) (metric : MetricId) :
    (r.dropEntry key metric).1.groups[key]? = r.groups[key]?.bind (·.without metric) := by
  cases hslot : r.groups[key]? with
  | none =>
      rw [dropEntry_of_none hslot]
      exact hslot
  | some slot =>
      rw [dropEntry_of_some hslot, Option.bind_some]
      unfold Slot.without
      dsimp only
      split
      · rw [groups_dropGroup, lookup_erase, if_pos rfl]
      · exact Std.ExtTreeMap.getElem?_insert_self

theorem groups_dropEntry (r : Registry) (key other : GroupKey) (metric : MetricId) :
    (r.dropEntry key metric).1.groups[other]? =
      if key = other then r.groups[other]?.bind (·.without metric) else r.groups[other]? := by
  by_cases heq : key = other
  · rw [if_pos heq, ← heq, groups_dropEntry_self]
  · rw [if_neg heq, groups_dropEntry_of_ne r heq]

theorem groups_leaveOther (r : Registry) (key other : GroupKey) (metric : MetricId) :
    (r.leaveOther key metric).1.groups[other]? =
      if key ≠ other ∧ r.index[metric]? = some other then
        r.groups[other]?.bind (·.without metric)
      else r.groups[other]? := by
  rcases stays_or_moves r key metric with hstays | ⟨previous, hlisted, hne⟩
  · rw [leaveOther_of_stays hstays, if_neg]
    rintro ⟨hother, hlisted⟩
    rcases hstays with hnone | hstays
    · cases hnone.symm.trans hlisted
    · cases hstays.symm.trans hlisted
      exact hother rfl
  · rw [leaveOther_of_moves hlisted hne, groups_dropEntry, hlisted]
    by_cases heq : previous = other
    · rw [if_pos heq, if_pos ⟨fun hkey => hne (heq.trans hkey.symm), congrArg some heq⟩]
    · rw [if_neg heq, if_neg fun h => heq (Option.some.inj h.2)]

theorem groups_add {r' : Registry} {target : Target} {valueKind : ValueKind} {budget : UInt16}
    {report : AddReport} (hadd : r.add target metric valueKind budget = .ok (r', report))
    (key : GroupKey) : r'.groups[key]? =
      (Action.add target metric valueKind budget).leaves r.index[metric]? r.generations key
        r.groups[key]? := by
  have hinterval : target.interval.wholeMillis ≠ 0 := by
    intro hzero
    rw [add_of_refused hzero] at hadd
    cases hadd
  rcases add_steps hadd with ⟨hr', _, _⟩
  rcases mem_ensureGroup (r.leaveOther target.groupKey metric).1 target with ⟨slot, hslot⟩
  have hsame := groups_leaveOther_self r target.groupKey metric
  unfold Action.leaves
  dsimp only
  rw [if_neg hinterval, hr', enter_of_some hslot]
  refine (lookup_insert _ _ _ _).trans ?_
  by_cases hkey : target.groupKey = key
  · subst hkey
    rw [if_pos rfl, if_pos rfl]
    have hfound : slot = r.groups[target.groupKey]?.getD
        { group := Group.new target, generation := r.generations + 1 } := by
      rw [groups_ensureGroup, (thins_leaveOther r target.groupKey metric).generations] at hslot
      simp only [Std.ExtTreeMap.mem_iff_isSome_getElem?, hsame, true_and] at hslot
      cases hthere : r.groups[target.groupKey]? with
      | none =>
          rw [hthere] at hslot
          exact (Option.some.inj hslot).symm
      | some there =>
          rw [hthere] at hslot
          exact (Option.some.inj hslot).symm
    rw [← hfound]
  · rw [if_neg hkey, if_neg hkey, groups_ensureGroup, if_neg fun h => hkey h.1, groups_leaveOther]
    simp [hkey]

theorem groups_stopContainer (r : Registry) (container : ContainerId) (key : GroupKey) :
    (r.stopContainer container).1.groups[key]? =
      if key.container = container then none else r.groups[key]? := by
  have hkeys := mem_keys_of_container r container key
  unfold stopContainer
  rw [groups_dropGroups]
  by_cases hof : key.container = container
  · rw [if_pos hof]
    split
    · rfl
    next hnot => exact Std.ExtTreeMap.getElem?_eq_none fun hmem => hnot (hkeys.mpr ⟨hmem, hof⟩)
  · rw [if_neg hof, if_neg fun hmem => hof (hkeys.mp hmem).2]

theorem Consistent.groups_tick (h : r.Consistent) (ref : GroupRef) (key : GroupKey) :
    (r.tick ref).1.groups[key]? =
      if ref.key = key then r.groups[key]?.bind (·.round ref.generation) else r.groups[key]? := by
  by_cases hmeant : ∃ slot, r.groups[ref.key]? = some slot ∧ slot.generation = ref.generation
  · rcases hmeant with ⟨slot, hslot, hcurrent⟩
    have hround : slot.round ref.generation = match slot.group.tick with
        | (_, .stop) => none
        | (group, .poll _ _) => some { slot with group } := if_pos hcurrent
    cases htick : slot.group.tick with
    | mk group outcome =>
        have hleft : slot.group.tick.1 = group := congrArg Prod.fst htick
        have houtcome : slot.group.tick.2 = outcome := congrArg Prod.snd htick
        rw [htick] at hround
        cases outcome with
        | stop =>
            rw [h.tick_of_stop hslot hcurrent houtcome, groups_dropGroup, lookup_erase]
            by_cases hkey : ref.key = key
            · rw [if_pos hkey, if_pos hkey, ← hkey, hslot, Option.bind_some, hround]
            · rw [if_neg hkey, if_neg hkey]
        | poll request expired =>
            rw [tick_of_poll hslot hcurrent houtcome]
            refine (lookup_insert _ _ _ _).trans ?_
            by_cases hkey : ref.key = key
            · rw [if_pos hkey, if_pos hkey, ← hkey, hslot, Option.bind_some, hround, hleft]
            · rw [if_neg hkey, if_neg hkey]
  · have hstale : ∀ slot, r.groups[ref.key]? = some slot → slot.generation ≠ ref.generation :=
      fun slot hslot hcurrent => hmeant ⟨slot, hslot, hcurrent⟩
    rw [tick_of_stale hstale]
    by_cases hkey : ref.key = key
    · rw [if_pos hkey, ← hkey]
      cases hslot : r.groups[ref.key]? with
      | none => rfl
      | some slot => exact (if_neg (hstale slot hslot)).symm
    · rw [if_neg hkey]

theorem Consistent.groups_refresh (h : r.Consistent) (metric : MetricId) (key : GroupKey) :
    (r.refresh metric).1.groups[key]? =
      if r.index[metric]? = some key then
        r.groups[key]?.map fun s => { s with group := (s.group.refresh metric).1 }
      else r.groups[key]? := by
  cases hlisted : r.index[metric]? with
  | none =>
      rw [refresh_of_none hlisted, if_neg]
      exact nofun
  | some under =>
      rcases (h.index_iff metric under).mp hlisted with ⟨slot, hslot, _⟩
      rw [refresh_of_some hlisted hslot]
      refine (lookup_insert _ _ _ _).trans ?_
      by_cases hkey : under = key
      · rw [if_pos hkey, if_pos (congrArg some hkey), ← hkey, hslot]
        rfl
      · rw [if_neg hkey, if_neg fun heq => hkey (Option.some.inj heq)]

theorem groups_remove (r : Registry) (metric : MetricId) (key : GroupKey) :
    (r.remove metric).1.groups[key]? =
      if r.index[metric]? = some key then r.groups[key]?.bind (·.without metric)
      else r.groups[key]? := by
  cases hlisted : r.index[metric]? with
  | none =>
      rw [remove_of_none hlisted, if_neg]
      exact nofun
  | some under =>
      rw [remove_of_some hlisted, groups_dropEntry]
      by_cases hkey : under = key
      · rw [if_pos hkey, if_pos (congrArg some hkey)]
      · rw [if_neg hkey, if_neg fun heq => hkey (Option.some.inj heq)]

theorem holds_congr {r' : Registry}
    (h : r.groups[key]?.map (·.group) = r'.groups[key]?.map (·.group)) (m : MetricId) :
    r.Holds key m ↔ r'.Holds key m := by
  have hgroup : ∀ r : Registry, r.Holds key m ↔
      ∃ g, r.groups[key]?.map (·.group) = some g ∧ m ∈ g.entries := by
    intro r
    unfold Holds
    simp only [Option.map_eq_some_iff]
    constructor
    · rintro ⟨slot, hslot, hmem⟩
      exact ⟨slot.group, ⟨slot, hslot, rfl⟩, hmem⟩
    · rintro ⟨_, ⟨slot, hslot, rfl⟩, hmem⟩
      exact ⟨slot, hslot, hmem⟩
  rw [hgroup, hgroup, h]

end Registry

namespace Polling
namespace Action

variable {x : Action} {listed : Option GroupKey} {newest : Generation} {key : GroupKey}
  {slot : Option Slot} {container : ContainerId}

theorem leaves_elsewhere (htold : ∀ c, x.container? = some c → c = container)
    (hnamed : ∀ key, listed = some key → key.container = container)
    (hkey : key.container ≠ container) : x.leaves listed newest key slot = slot := by
  have hlisted : listed ≠ some key := fun heq => hkey (hnamed key heq)
  unfold leaves
  cases x with
  | add target metric valueKind budget =>
      have htarget : target.groupKey ≠ key := by
        rintro rfl
        exact hkey (htold target.container rfl)
      dsimp only
      rw [if_neg htarget, if_neg hlisted]
      split <;> rfl
  | refresh metric => exact if_neg hlisted
  | remove metric => exact if_neg hlisted
  | stopContainer c =>
      have hother : key.container ≠ c := fun heq => hkey (heq.trans (htold c rfl))
      exact if_neg hother
  | tick ref =>
      have hother : ref.key ≠ key := by
        rintro rfl
        exact hkey (htold ref.key.container rfl)
      exact if_neg hother

/-- Only the generation of a group depends on how many groups there have been. -/
theorem group_leaves (x : Action) (listed : Option GroupKey) (newest newest' : Generation)
    (key : GroupKey) (slot : Option Slot) :
    (x.leaves listed newest key slot).map (·.group) =
      (x.leaves listed newest' key slot).map (·.group) := by
  cases x with
  | add target metric valueKind budget =>
      unfold leaves
      dsimp only
      split
      · rfl
      · split
        · cases slot <;> rfl
        · rfl
  | _ => rfl

theorem mem_leaves {s' : Slot} {m : MetricId} (hm : x.metric? ≠ some m)
    (hleft : x.leaves listed newest key slot = some s') (hmem : m ∈ s'.group.entries) :
    ∃ s, slot = some s ∧ m ∈ s.group.entries := by
  have hbind : ∀ {f : Slot → Option Slot}, slot.bind f = some s' →
      (∀ {s}, f s = some s' → m ∈ s.group.entries) → ∃ s, slot = some s ∧ m ∈ s.group.entries := by
    intro f hf hstays
    rcases Option.bind_eq_some_iff.mp hf with ⟨s, hslot, hs⟩
    exact ⟨s, hslot, hstays hs⟩
  unfold leaves at hleft
  cases x with
  | add target metric valueKind budget =>
      dsimp only at hleft
      split at hleft
      · exact ⟨s', hleft, hmem⟩
      · split at hleft
        · cases hleft
          rcases (Group.mem_add _ metric m valueKind budget).mp hmem with heq | hold
          · exact absurd (congrArg some heq) hm
          · cases slot with
            | none => exact absurd hold Std.ExtTreeMap.not_mem_empty
            | some s => exact ⟨s, rfl, hold⟩
        · split at hleft
          · exact hbind hleft fun hs => Slot.mem_without hs hmem
          · exact ⟨s', hleft, hmem⟩
  | refresh metric =>
      dsimp only at hleft
      split at hleft
      · rcases Option.map_eq_some_iff.mp hleft with ⟨s, hslot, rfl⟩
        exact ⟨s, hslot, (Group.mem_refresh s.group metric m).mp hmem⟩
      · exact ⟨s', hleft, hmem⟩
  | remove metric =>
      dsimp only at hleft
      split at hleft
      · exact hbind hleft fun hs => Slot.mem_without hs hmem
      · exact ⟨s', hleft, hmem⟩
  | stopContainer c =>
      dsimp only at hleft
      split at hleft
      · cases hleft
      · exact ⟨s', hleft, hmem⟩
  | tick ref =>
      dsimp only at hleft
      split at hleft
      · exact hbind hleft fun hs => Slot.mem_round hs hmem
      · exact ⟨s', hleft, hmem⟩

end Action

variable {p q : Polling} {x y : Action} {a b : ContainerId}

/-! ## One action -/

theorem act_eq_perform (p : Polling) (x : Action) : (p.act x).1 = p.perform x.op := by
  cases x <;> rfl

theorem consistent_act (h : p.registry.Consistent) (x : Action) :
    (p.act x).1.registry.Consistent := by
  rw [act_eq_perform]
  exact consistent_perform h x.op

/-- What is left under a key depends on what was there, and not on other keys. -/
theorem groups_act (h : p.registry.Consistent) (x : Action) (key : GroupKey) :
    (p.act x).1.registry.groups[key]? =
      x.leaves (p.registry.listed x) p.registry.generations key p.registry.groups[key]? := by
  cases x with
  | add target metric valueKind budget =>
      show (p.add target metric valueKind budget).1.registry.groups[key]? =
        (Action.add target metric valueKind budget).leaves p.registry.index[metric]? _ key _
      cases hadd : p.registry.add target metric valueKind budget with
      | error e =>
          have hzero : target.interval.wholeMillis = 0 := by
            by_contra hinterval
            rcases Registry.add_of_accepted p.registry hinterval metric valueKind budget with
              ⟨_, haccepted⟩
            cases haccepted.symm.trans hadd
          rw [add_of_error hadd]
          exact (if_pos hzero).symm
      | ok added =>
          rw [registry_add_of_ok hadd]
          exact Registry.groups_add hadd key
  | refresh metric => exact h.groups_refresh metric key
  | remove metric =>
      show (p.remove metric).1.registry.groups[key]? = _
      rw [registry_remove]
      exact Registry.groups_remove p.registry metric key
  | stopContainer container => exact Registry.groups_stopContainer p.registry container key
  | tick ref =>
      show (p.tick ref).1.registry.groups[key]? = _
      rw [registry_tick]
      exact h.groups_tick ref key

theorem groups_act_of_ne (h : p.registry.Consistent) (hx : p.registry.Concerns x a)
    {key : GroupKey} (hkey : key.container ≠ a) :
    (p.act x).1.registry.groups[key]? = p.registry.groups[key]? := by
  rw [groups_act h]
  exact Action.leaves_elsewhere hx.told hx.named hkey

/-- Where a metric of another container is listed, or one that is listed nowhere, does not change
unless it is named. -/
theorem index_act_of_ne (h : p.registry.Consistent) (hx : p.registry.Concerns x a) {m : MetricId}
    (hm : x.metric? ≠ some m)
    (helsewhere : ∀ key, p.registry.index[m]? = some key → key.container ≠ a) :
    (p.act x).1.registry.index[m]? = p.registry.index[m]? := by
  have hholds : ∀ key, (p.act x).1.registry.Holds key m ↔ p.registry.Holds key m := by
    intro key
    by_cases hkey : key.container = a
    · constructor
      · rintro ⟨s', hs', hmem⟩
        rw [groups_act h] at hs'
        exact Action.mem_leaves hm hs' hmem
      · intro hheld
        exact absurd hkey (helsewhere key ((h.index_iff m key).mpr hheld))
    · unfold Registry.Holds
      rw [groups_act_of_ne h hx hkey]
  apply Option.ext
  intro key
  rw [(consistent_act h x).index_iff, h.index_iff]
  exact hholds key

theorem listed_act (h : p.registry.Consistent) (hx : p.registry.Concerns x a)
    (hy : p.registry.Concerns y b) (hab : a ≠ b)
    (hmetrics : ∀ m, x.metric? = some m → y.metric? ≠ some m) :
    (p.act x).1.registry.listed y = p.registry.listed y := by
  unfold Registry.listed
  cases hm : y.metric? with
  | none => rfl
  | some m =>
      apply index_act_of_ne h hx (fun hsame => hmetrics m hsame hm)
      intro key hlisted hkey
      have hown : p.registry.listed y = some key := by
        unfold Registry.listed
        rw [hm]
        exact hlisted
      exact hab (hkey.symm.trans (hy.named key hown))

/-- What an action has to do with does not change by one that has to do with another container. -/
theorem concerns_act (h : p.registry.Consistent) (hx : p.registry.Concerns x a)
    (hy : p.registry.Concerns y b) (hab : a ≠ b)
    (hmetrics : ∀ m, x.metric? = some m → y.metric? ≠ some m) :
    (p.act x).1.registry.Concerns y b where
  told := hy.told
  named := by
    rw [listed_act h hx hy hab hmetrics]
    exact hy.named

theorem generations_act (h : p.registry.Consistent) (x : Action) :
    (p.act x).1.registry.generations = p.registry.generations + x.births p.registry := by
  cases x with
  | add target metric valueKind budget =>
      show (p.add target metric valueKind budget).1.registry.generations = _
      unfold Action.births
      dsimp only
      by_cases hinterval : target.interval.wholeMillis = 0
      · rw [add_of_error (Registry.add_of_refused hinterval metric valueKind budget),
          if_pos (Or.inl hinterval)]
        rfl
      · rcases Registry.add_of_accepted p.registry hinterval metric valueKind budget with
          ⟨report, hadd⟩
        rw [registry_add_of_ok hadd]
        by_cases hmem : target.groupKey ∈ p.registry.groups
        · rw [if_pos (Or.inr hmem)]
          exact (Registry.thins_add hadd hmem).1.generations
        · rw [if_neg fun h => h.elim hinterval hmem]
          exact (Registry.creates_add hadd hmem).2.1
  | refresh metric => exact (Registry.thins_refresh p.registry metric).generations
  | remove metric =>
      show (p.remove metric).1.registry.generations = _
      rw [registry_remove]
      exact (Registry.thins_remove p.registry metric).generations
  | stopContainer container => exact (Registry.thins_dropGroups p.registry _).generations
  | tick ref =>
      show (p.tick ref).1.registry.generations = _
      rw [registry_tick]
      exact (h.thins_tick ref).generations

theorem births_act (h : p.registry.Consistent) (hx : p.registry.Concerns x a)
    (hy : p.registry.Concerns y b) (hab : a ≠ b) :
    y.births (p.act x).1.registry = y.births p.registry := by
  cases y with
  | add target metric valueKind budget =>
      have hother : target.groupKey.container ≠ a := by
        intro heq
        exact hab (heq.symm.trans (hy.told target.container rfl))
      unfold Action.births
      dsimp only
      simp only [Std.ExtTreeMap.mem_iff_isSome_getElem?, groups_act_of_ne h hx hother]
  | _ => rfl

/-! ## Answers -/

theorem answer_add (h : p.registry.Consistent) (target : Target) (metric : MetricId)
    (valueKind : ValueKind) (budget : UInt16) :
    (p.add target metric valueKind budget).2 =
      if target.interval.wholeMillis = 0 then .error (.notConfigured .container target.container)
      else .ok (if p.registry.index[metric]? = some target.groupKey then .refreshed
        else .inserted) := by
  by_cases hinterval : target.interval.wholeMillis = 0
  · rw [add_of_error (Registry.add_of_refused hinterval metric valueKind budget), if_pos hinterval]
  · rcases Registry.add_of_accepted p.registry hinterval metric valueKind budget with ⟨report, hadd⟩
    rw [if_neg hinterval, ← h.outcome_add hadd]
    unfold add
    rw [hadd]

theorem answer_refresh (h : p.registry.Consistent) (metric : MetricId) :
    (p.refresh metric).2 = p.registry.index[metric]?.isSome := by
  show (p.registry.refresh metric).2 = _
  cases hlisted : p.registry.index[metric]? with
  | none =>
      rw [Registry.refresh_of_none hlisted]
      rfl
  | some key =>
      rcases (h.index_iff metric key).mp hlisted with ⟨slot, hslot, hmem⟩
      rcases exists_lookup_of_mem hmem with ⟨e, he⟩
      rw [Registry.refresh_of_some hlisted hslot]
      exact Group.refresh_found he

theorem answer_remove (p : Polling) (metric : MetricId) :
    (p.remove metric).2 = p.registry.index[metric]?.isSome := by
  unfold remove
  cases hlisted : p.registry.index[metric]? with
  | none =>
      rw [Registry.remove_of_none hlisted]
      rfl
  | some key =>
      rw [Registry.remove_of_some hlisted]
      rfl

theorem answer_stopContainer (p : Polling) (container : ContainerId) :
    (p.stopContainer container).2 =
      (p.registry.keys.filter (·.container = container)).length := by
  apply Registry.length_dropGroups
  · exact (Registry.nodup_keys p.registry).filter _
  · exact fun key hkey => ((Registry.mem_keys_of_container p.registry container key).mp hkey).1

theorem answer_tick (h : p.registry.Consistent) (ref : GroupRef) :
    (Answer.ticked (p.tick ref).2).anonymous =
      .ticked (p.registry.groups[ref.key]?.bind fun slot =>
        if slot.generation = ref.generation ∧ slot.group.isEmpty = false then
          some (p.pollMessage slot.group.target.key "" slot.group.request)
        else none) := by
  by_cases hmeant : ∃ slot, p.registry.groups[ref.key]? = some slot ∧
      slot.generation = ref.generation
  · rcases hmeant with ⟨slot, hslot, hcurrent⟩
    have hmessage := message_tick h hslot hcurrent
    rw [hslot, Option.bind_some]
    cases hempty : slot.group.isEmpty with
    | true =>
        rw [hempty, if_pos rfl] at hmessage
        rw [hmessage, if_neg fun h => Bool.noConfusion h.2]
        rfl
    | false =>
        rw [hempty, if_neg Bool.false_ne_true] at hmessage
        rcases hmessage with ⟨correlation, hmessage⟩
        rw [hmessage, if_pos ⟨hcurrent, rfl⟩]
        rfl
  · have hstale : p.registry.Stale ref := fun slot hslot hcurrent => hmeant ⟨slot, hslot, hcurrent⟩
    rw [tick_of_stale hstale]
    cases hslot : p.registry.groups[ref.key]? with
    | none => rfl
    | some slot =>
        rw [Option.bind_some, if_neg fun h => hstale slot hslot h.1]
        rfl

theorem pollMessage_act (p : Polling) (x : Action) : (p.act x).1.pollMessage = p.pollMessage := by
  cases x with
  | add target metric valueKind budget =>
      show (p.add target metric valueKind budget).1.pollMessage = _
      unfold add
      split
      · rfl
      · dsimp only
        split <;> rfl
  | refresh metric => rfl
  | remove metric =>
      show (p.remove metric).1.pollMessage = _
      unfold remove
      split <;> rfl
  | stopContainer container => rfl
  | tick ref =>
      show (p.tick ref).1.pollMessage = _
      unfold tick
      split
      · rfl
      · dsimp only
        split <;> rfl

/-- The answer to an action depends on where its metric is listed and on the groups of the container
that it has to do with. -/
theorem answer_congr (hp : p.registry.Consistent) (hq : q.registry.Consistent)
    (hx : p.registry.Concerns x a) (hlisted : q.registry.listed x = p.registry.listed x)
    (hgroups : ∀ key : GroupKey, key.container = a →
      q.registry.groups[key]? = p.registry.groups[key]?)
    (hmessage : q.pollMessage = p.pollMessage) :
    (q.act x).2.anonymous = (p.act x).2.anonymous := by
  cases x with
  | add target metric valueKind budget =>
      have hindex : q.registry.index[metric]? = p.registry.index[metric]? := hlisted
      show Answer.added (q.add target metric valueKind budget).2 =
        .added (p.add target metric valueKind budget).2
      rw [answer_add hp, answer_add hq, hindex]
  | refresh metric =>
      have hindex : q.registry.index[metric]? = p.registry.index[metric]? := hlisted
      show Answer.refreshed (q.refresh metric).2 = .refreshed (p.refresh metric).2
      rw [answer_refresh hp, answer_refresh hq, hindex]
  | remove metric =>
      have hindex : q.registry.index[metric]? = p.registry.index[metric]? := hlisted
      show Answer.removed (q.remove metric).2 = .removed (p.remove metric).2
      rw [answer_remove, answer_remove, hindex]
  | stopContainer container =>
      have hown : container = a := hx.told container rfl
      show Answer.stopped (q.stopContainer container).2 = .stopped (p.stopContainer container).2
      rw [answer_stopContainer, answer_stopContainer]
      apply congrArg
      apply List.Perm.length_eq
      rw [List.perm_ext_iff_of_nodup ((Registry.nodup_keys q.registry).filter _)
        ((Registry.nodup_keys p.registry).filter _)]
      intro key
      rw [Registry.mem_keys_of_container, Registry.mem_keys_of_container]
      apply and_congr_left
      intro hkey
      rw [Std.ExtTreeMap.mem_iff_isSome_getElem?, Std.ExtTreeMap.mem_iff_isSome_getElem?,
        hgroups key (hkey.trans hown)]
  | tick ref =>
      show (Answer.ticked (q.tick ref).2).anonymous = (Answer.ticked (p.tick ref).2).anonymous
      rw [answer_tick hp, answer_tick hq, hgroups ref.key (hx.told ref.key.container rfl), hmessage]

/-! ## Two actions -/

theorem answer_act (h : p.registry.Consistent) (hx : p.registry.Concerns x a)
    (hy : p.registry.Concerns y b) (hab : a ≠ b)
    (hmetrics : ∀ m, x.metric? = some m → y.metric? ≠ some m) :
    ((p.act x).1.act y).2.anonymous = (p.act y).2.anonymous := by
  apply answer_congr h (consistent_act h x) hy (listed_act h hx hy hab hmetrics)
  · intro key hkey
    exact groups_act_of_ne h hx fun heq => hab (heq.symm.trans hkey)
  · exact pollMessage_act p x

/-- The groups of a container are those that its own action leaves, wherever that action came. -/
theorem group_act_act (h : p.registry.Consistent) (hx : p.registry.Concerns x a)
    (hy : p.registry.Concerns y b) (hab : a ≠ b)
    (hmetrics : ∀ m, x.metric? = some m → y.metric? ≠ some m) {key : GroupKey}
    (hkey : key.container ≠ b) :
    ((p.act x).1.act y).1.registry.groups[key]?.map (·.group) =
      ((p.act y).1.act x).1.registry.groups[key]?.map (·.group) := by
  have hmetrics' : ∀ m, y.metric? = some m → x.metric? ≠ some m :=
    fun m hy hx => hmetrics m hx hy
  have hlater := concerns_act h hx hy hab hmetrics
  rw [groups_act_of_ne (consistent_act h x) hlater hkey, groups_act h,
    groups_act (consistent_act h y), listed_act h hy hx (Ne.symm hab) hmetrics',
    groups_act_of_ne h hy hkey]
  exact Action.group_leaves x _ _ _ key _

/-- In every state that background polling can reach, two actions that have to do with different
containers and name different metrics may be done in either order: the groups, with their entries,
budgets and states, and the index come out the same, but for the generations of groups that were
created, and each action answers the same and asks for the same poll, but for its correlation id. -/
theorem containers_commute (common : Commons) (exchange replyKey : String) (messageTtl : Duration)
    (moves : List Move) :
    let p : Polling := ({ common, exchange, replyKey, messageTtl } : Polling).follow moves
    ∀ {x y : Action} {a b : ContainerId}, p.registry.Concerns x a → p.registry.Concerns y b →
      a ≠ b → (∀ m, x.metric? = some m → y.metric? ≠ some m) →
      ((p.act x).1.act y).1.registry.Alike ((p.act y).1.act x).1.registry ∧
        ((p.act y).1.act x).2.anonymous = (p.act x).2.anonymous ∧
        ((p.act x).1.act y).2.anonymous = (p.act y).2.anonymous := by
  intro p x y a b hx hy hab hmetrics
  have h : p.registry.Consistent := (roster_follow Registry.consistent_empty moves).1
  have hmetrics' : ∀ m, y.metric? = some m → x.metric? ≠ some m :=
    fun m hy hx => hmetrics m hx hy
  have hxy : ((p.act x).1.act y).1.registry.Consistent := consistent_act (consistent_act h x) y
  have hyx : ((p.act y).1.act x).1.registry.Consistent := consistent_act (consistent_act h y) x
  have hgroups : ∀ key : GroupKey,
      ((p.act x).1.act y).1.registry.groups[key]?.map (·.group) =
        ((p.act y).1.act x).1.registry.groups[key]?.map (·.group) := by
    intro key
    by_cases hkey : key.container = b
    · have hother : key.container ≠ a := fun heq => hab (heq.symm.trans hkey)
      exact (group_act_act h hy hx (Ne.symm hab) hmetrics' hother).symm
    · exact group_act_act h hx hy hab hmetrics hkey
  refine ⟨⟨hgroups, ?_, ?_⟩, answer_act h hy hx (Ne.symm hab) hmetrics',
    answer_act h hx hy hab hmetrics⟩
  · apply Std.ExtTreeMap.ext_getElem?
    intro m
    apply Option.ext
    intro key
    rw [hxy.index_iff, hyx.index_iff]
    exact Registry.holds_congr (hgroups key) m
  · rw [generations_act (consistent_act h x), generations_act h, births_act h hx hy hab,
      generations_act (consistent_act h y), generations_act h, births_act h hy hx (Ne.symm hab)]
    exact Nat.add_right_comm _ _ _

/-- A metric moves to another interval of its container while the first metric of another container
is added.  The groups that this creates get their generations in the order of the two. -/
theorem containers_commute_moved :
    let p := unused.follow [.perform (.add viaSnmp 1 .int 5)]
    let everyHour : Target := { viaSnmp with interval := Duration.ofSecs 3600 }
    let moved : Action := .add everyHour 1 .int 5
    let other : Action := .add { viaSnmp with container := 8 } 2 .int 5
    let generation := fun p : Polling => p.registry.groups[everyHour.groupKey]?.map (·.generation)
    ((p.act moved).1.act other).1.registry.Alike ((p.act other).1.act moved).1.registry ∧
      ((p.act other).1.act moved).2.anonymous = (p.act moved).2.anonymous ∧
      generation ((p.act moved).1.act other).1 = some 2 ∧
      generation ((p.act other).1.act moved).1 = some 3 := by
  intro p everyHour moved other generation
  have hlisted : p.registry.listed moved = some viaSnmp.groupKey := by decide +kernel
  have hnowhere : p.registry.listed other = none := by decide +kernel
  have hmoved : p.registry.Concerns moved 7 := by
    constructor
    · intro c hc
      exact (Option.some.inj hc).symm
    · intro key hkey
      cases hlisted.symm.trans hkey
      rfl
  have hother : p.registry.Concerns other 8 := by
    constructor
    · intro c hc
      exact (Option.some.inj hc).symm
    · intro key hkey
      cases hnowhere.symm.trans hkey
  have hmetrics : ∀ m, moved.metric? = some m → other.metric? ≠ some m := by
    intro m hm hm'
    exact absurd (hm'.trans hm.symm) (by decide)
  have hcommute := containers_commute unused.common "fetch" "rts" (Duration.ofSecs 30)
    [.perform (.add viaSnmp 1 .int 5)] hmoved hother (by decide) hmetrics
  exact ⟨hcommute.1, hcommute.2.1, by decide +kernel, by decide +kernel⟩

end Polling
end Pulling
end MetricGateway
