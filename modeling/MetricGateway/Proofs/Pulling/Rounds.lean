import MetricGateway.Proofs.Pulling.Refinement

/-!
# The rounds of a run

A round of a group takes place where an operation calls for it, or where a ticker takes its step at
a time when its round is due.  A round that has something to poll is a poll: it asks for the metrics
of the group and reports those that leave it.  A run has a list of polls for each group, in the order
in which they take place.
-/

namespace MetricGateway
namespace Pulling

/-- The group of the round that a ticker calls for if it takes its step now. -/
def Ticker.calls? (t : Ticker) (preference : Preference) (now : Instant) : Option GroupRef :=
  match t.phase with
  | .sleeping due =>
      if t.cancelled ∧ (preference = .stop ∨ ¬ due.metBy now) then none
      else if due.metBy now then some t.ref
      else none
  | _ => none

/-- What a round asks for, and which metrics left the group in it. -/
structure Poll where
  request : BatchRequest
  expired : List MetricId
deriving DecidableEq

def Poll.asks (poll : Poll) (metric : MetricId) : Nat :=
  (poll.request.metrics.map (·.metric)).count metric

structure Poll.Omits (poll : Poll) (metric : MetricId) : Prop where
  asks : poll.asks metric = 0
  not_expired : metric ∉ poll.expired

def TickOutcome.poll? : TickOutcome → Option Poll
  | .poll request expired => some { request, expired }
  | .stop => none

/-- The poll of the next round of a group; none where there is nothing to poll. -/
def Registry.poll? (r : Registry) (ref : GroupRef) : Option Poll :=
  (r.tick ref).2.bind fun report => report.outcome.poll?

namespace Polling

def calls? (p : Polling) : Move → Option GroupRef
  | .perform (.tick ref) => some ref
  | .perform (.turn g preference) => p.tickers[g]?.bind (·.calls? preference p.common.now)
  | _ => none

def pollOf (p : Polling) (ref : GroupRef) (m : Move) : Option Poll :=
  if p.calls? m = some ref then p.registry.poll? ref else none

def pollsAlong (p : Polling) (ref : GroupRef) : List Move → List Poll
  | [] => []
  | m :: moves => (p.pollOf ref m).toList ++ (p.move m).pollsAlong ref moves

def roundsAlong (p : Polling) : List Move → List GroupRef
  | [] => []
  | m :: moves => (p.calls? m).toList ++ (p.move m).roundsAlong moves

end Polling

/-!
## What a poll asks for
-/

namespace Group

theorem Sound.count_request {g : Group} (h : g.Sound) (metric : MetricId) :
    (g.request.metrics.map (·.metric)).count metric = if metric ∈ g.entries then 1 else 0 := by
  rw [h.metrics_request, Std.ExtTreeMap.nodup_keys.count]
  simp only [Std.ExtTreeMap.mem_keys]

end Group

namespace Registry

variable {r r' : Registry} {ref : GroupRef} {poll : Poll}

theorem Consistent.poll_cases (h : r.Consistent) (hpoll : r.poll? ref = some poll) :
    ∃ slot, r.groups[ref.key]? = some slot ∧ slot.generation = ref.generation ∧
      slot.group.tick.2 = .poll poll.request poll.expired ∧ poll.request = slot.group.request ∧
      (r.tick ref).1.groups = r.groups.insert ref.key { slot with group := slot.group.tick.1 } := by
  unfold poll? at hpoll
  rcases h.tick_cases ref with
    ⟨hround, _⟩ | ⟨slot, hslot, hcurrent, ⟨_, hround⟩ | ⟨hgo, expired, hgroups, _, hreport⟩⟩
  · rw [hround] at hpoll
    cases hpoll
  · rw [hround] at hpoll
    cases hpoll
  · have htick := Group.tick_of_poll hgo
    have hmine : (r.tick ref).2 =
        some { outcome := slot.group.tick.2, key := slot.group.target.key, dropped := none } := by
      unfold Registry.tick
      rw [hslot]
      dsimp only
      rw [if_pos hcurrent, htick]
    rw [hmine, Option.bind_some, htick] at hpoll
    cases hpoll
    exact ⟨slot, hslot, hcurrent, htick, rfl, hgroups⟩

theorem Consistent.asks_of_poll (h : r.Consistent) (hpoll : r.poll? ref = some poll)
    (metric : MetricId) [Decidable (r.Polls ref metric)] :
    poll.asks metric = if r.Polls ref metric then 1 else 0 := by
  rcases h.poll_cases hpoll with ⟨slot, hslot, hcurrent, _, hrequest, _⟩
  have hpolls : r.Polls ref metric ↔ metric ∈ slot.group.entries := by
    constructor
    · rintro ⟨slot', hslot', _, hmem⟩
      cases hslot.symm.trans hslot'
      exact hmem
    · exact fun hmem => ⟨slot, hslot, hcurrent, hmem⟩
  unfold Poll.asks
  rw [hrequest, (h.valid hslot).sound.count_request]
  simp only [hpolls]

/-- A poll of a group has nothing to do with a metric that the group does not hold. -/
theorem Consistent.omits_of_poll (h : r.Consistent) (hpoll : r.poll? ref = some poll)
    {metric : MetricId} (hnot : ¬r.Polls ref metric) : poll.Omits metric := by
  classical
  refine ⟨by rw [h.asks_of_poll hpoll, if_neg hnot], ?_⟩
  intro hexpired
  rcases h.poll_cases hpoll with ⟨slot, hslot, hcurrent, htick, _⟩
  rcases (Group.mem_expired htick metric).mp hexpired with ⟨e, hentry, _⟩
  exact hnot ⟨slot, hslot, hcurrent, mem_of_lookup hentry⟩

theorem Consistent.exists_poll (h : r.Consistent) {metric : MetricId}
    (hpolls : r.Polls ref metric) : ∃ poll, r.poll? ref = some poll := by
  rcases hpolls with ⟨slot, hslot, hcurrent, hmem⟩
  rcases h.tick_cases ref with
    ⟨_, hstale⟩ | ⟨slot', hslot', _, ⟨hstop, _⟩ | ⟨_, expired, _, _, hreport⟩⟩
  · exact absurd hcurrent (hstale slot hslot)
  · cases hslot.symm.trans hslot'
    have hempty := hstop.resolve_left (h.valid hslot).sound.state_ne_stopped
    unfold Group.isEmpty at hempty
    rw [Std.ExtTreeMap.isEmpty_iff.mp hempty] at hmem
    exact absurd hmem Std.ExtTreeMap.not_mem_empty
  · refine ⟨⟨slot'.group.request, expired⟩, ?_⟩
    unfold poll?
    rw [hreport]
    rfl

theorem Consistent.polls_unique (h : r.Consistent) {other : GroupRef} {metric : MetricId}
    (hpolls : r.Polls ref metric) (hother : r.Polls other metric) : other = ref := by
  rcases hpolls with ⟨slot, hslot, hcurrent, hmem⟩
  rcases hother with ⟨slot', hslot', hcurrent', hmem'⟩
  have hlisted := (h.index_iff metric ref.key).mpr ⟨slot, hslot, hmem⟩
  rw [(h.index_iff metric other.key).mpr ⟨slot', hslot', hmem'⟩] at hlisted
  cases other
  cases ref
  cases hlisted
  cases hslot.symm.trans hslot'
  rw [GroupRef.mk.injEq]
  exact ⟨rfl, hcurrent'.symm.trans hcurrent⟩

theorem Consistent.groups_tick_of_ne (h : r.Consistent) {slot : Slot} {key : GroupKey}
    (hslot : r.groups[key]? = some slot) (hne : ref ≠ ⟨key, slot.generation⟩) :
    (r.tick ref).1.groups[key]? = some slot := by
  rcases h.tick_cases ref with
    ⟨hround, _⟩ | ⟨slot', hslot', hcurrent, ⟨_, hround⟩ | ⟨_, expired, hgroups, _, _⟩⟩
  · rw [hround]
    exact hslot
  all_goals
    have hkey : ref.key ≠ key := by
      rintro rfl
      cases hslot.symm.trans hslot'
      apply hne
      cases ref
      rw [GroupRef.mk.injEq]
      exact ⟨rfl, hcurrent.symm⟩
  · rw [hround, groups_dropGroup, lookup_erase, if_neg hkey]
    exact hslot
  · rw [hgroups, lookup_insert, if_neg hkey]
    exact hslot

end Registry

/-!
## What a move does to the registry
-/

namespace Polling

variable {p : Polling}

theorem fires_of_calls {g : Generation} {preference : Preference} {ref : GroupRef}
    (h : p.calls? (.perform (.turn g preference)) = some ref) :
    ∃ t due, p.tickers[g]? = some t ∧ t.ref = ref ∧ t.phase = .sleeping due ∧
      due.metBy p.common.now = true ∧ p.stepTicker g preference = p.fire g t due := by
  rcases Option.bind_eq_some_iff.mp h with ⟨t, ht, hcalls⟩
  unfold Ticker.calls? at hcalls
  split at hcalls
  next due hphase =>
    split at hcalls
    · cases hcalls
    next hgoes =>
      split at hcalls
      next hdue =>
        refine ⟨t, due, ht, Option.some.inj hcalls, hphase, hdue, ?_⟩
        unfold stepTicker
        rw [ht]
        dsimp only
        rw [hphase]
        dsimp only
        rw [if_neg hgoes, if_pos hdue]
      · cases hcalls
  · cases hcalls

theorem registry_turn_of_idle {g : Generation} {preference : Preference}
    (h : p.calls? (.perform (.turn g preference)) = none) :
    (p.stepTicker g preference).registry = p.registry := by
  have hidle : ∀ t, p.tickers[g]? = some t → t.calls? preference p.common.now = none := by
    intro t ht
    have hbind : p.tickers[g]?.bind (·.calls? preference p.common.now) = none := h
    rw [ht] at hbind
    exact hbind
  unfold stepTicker
  cases ht : p.tickers[g]? with
  | none => rfl
  | some t =>
      have hquiet := hidle t ht
      unfold Ticker.calls? at hquiet
      dsimp only
      cases hphase : t.phase with
      | starting =>
          dsimp only
          split <;> rfl
      | sleeping due =>
          rw [hphase] at hquiet
          dsimp only at hquiet ⊢
          split
          next => rfl
          next hgoes =>
            rw [if_neg hgoes] at hquiet
            split at hquiet
            · cases hquiet
            next hearly => rw [if_neg hearly]
      | publishing ticket m due =>
          dsimp only
          split <;> rfl

theorem registry_move_of_calls {m : Move} {ref : GroupRef} (h : p.calls? m = some ref) :
    (p.move m).registry = (p.registry.tick ref).1 := by
  cases m with
  | share f => cases h
  | perform op =>
      cases op with
      | tick ref' =>
          cases h
          exact registry_tick p ref
      | turn g preference =>
          rcases fires_of_calls h with ⟨t, due, _, href, _, _, hstep⟩
          show (p.stepTicker g preference).registry = _
          rw [hstep, registry_fire, registry_tick, href]
      | _ => cases h

theorem consistent_move (h : p.registry.Consistent) (m : Move) :
    (p.move m).registry.Consistent := by
  cases m with
  | perform op => exact consistent_perform h op
  | share f => exact h

theorem message_of_poll (h : p.registry.Consistent) {ref : GroupRef} {poll : Poll}
    (hpoll : p.registry.poll? ref = some poll) :
    ∃ key correlation, (p.tick ref).2 = some (p.pollMessage key correlation poll.request) := by
  rcases h.poll_cases hpoll with ⟨slot, hslot, hcurrent, htick, hrequest, _⟩
  have hmessage := message_tick h hslot hcurrent
  rw [if_neg fun hempty => Group.poll_of_tick htick (Or.inr hempty)] at hmessage
  rcases hmessage with ⟨correlation, hmessage⟩
  rw [hrequest]
  exact ⟨_, correlation, hmessage⟩

end Polling
end Pulling
end MetricGateway
