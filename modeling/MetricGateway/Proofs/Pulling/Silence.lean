import MetricGateway.Proofs.Pulling.Emissions
import MetricGateway.Proofs.Pulling.Refinement

/-!
# After the shutdown

Shutting polling down drops every group and tells every ticker to stop.  Metrics can be added
afterwards all the same, and they get groups and tickers, also under keys that were there before.
Such a ticker is told to stop before it runs for the first time, and an earlier one means a group
that is gone for good, so that no round of a group takes place any more.

What is left are the tickers that wait for room for the message of an earlier round.  Each of them
brings its message to the outbox when room is made, if the outbox is still read then, and ends.
-/

namespace MetricGateway
namespace Pulling

/-!
## Budgets in full
-/

/-- Every metric has its whole budget left. -/
def Roster.Unspent (f : Roster) : Prop :=
  ∀ (metric : MetricId) (row : Row), f.rows[metric]? = some row → row.remaining = row.budget

namespace Roster

theorem unspent_empty : ({} : Roster).Unspent := by
  intro metric row hrow
  rw [Std.ExtTreeMap.getElem?_empty] at hrow
  cases hrow

variable {f : Roster}

theorem Unspent.insert (h : f.Unspent) (metric : MetricId) {row : Row}
    (hrow : row.remaining = row.budget) :
    Unspent { f with rows := f.rows.insert metric row } := by
  intro other row' hrow'
  rw [lookup_insert] at hrow'
  split at hrow'
  · cases hrow'
    exact hrow
  · exact h other row' hrow'

theorem Unspent.congr (h : f.Unspent) {f' : Roster} (hrows : f'.rows = f.rows) : f'.Unspent := by
  intro metric row hrow
  rw [hrows] at hrow
  exact h metric row hrow

theorem Unspent.add (h : f.Unspent) (key : GroupKey) (metric : MetricId) (valueKind : ValueKind)
    (budget : UInt16) : (f.add key metric valueKind budget).1.Unspent := by
  have hentered : (f.enter metric { key, valueKind, remaining := budget, budget }).Unspent :=
    (h.insert metric rfl).congr rfl
  unfold Roster.add
  dsimp only
  split
  · exact hentered
  · split
    · exact hentered
    · exact hentered.congr (rows_release _ _)

theorem Unspent.refresh (h : f.Unspent) (metric : MetricId) : (f.refresh metric).1.Unspent := by
  unfold Roster.refresh
  split
  · exact h
  · exact h.insert metric rfl

theorem Unspent.remove (h : f.Unspent) (metric : MetricId) : (f.remove metric).1.Unspent := by
  unfold Roster.remove
  split
  · exact h
  · intro other row hrow
    rw [rows_release, lookup_erase] at hrow
    split at hrow
    · cases hrow
    · exact h other row hrow

theorem Unspent.stopContainer (h : f.Unspent) (container : ContainerId) :
    (f.stopContainer container).1.Unspent := by
  intro metric row hrow
  unfold Roster.stopContainer at hrow
  rw [Std.ExtTreeMap.getElem?_filter', Option.filter_eq_some_iff] at hrow
  exact h metric row hrow.1

end Roster

theorem Registry.unspent_iff (r : Registry) :
    r.roster.Unspent ↔ ∀ metric e, r.entry? metric = some e → e.remaining = e.budget := by
  unfold Roster.Unspent
  simp only [lookup_roster, entry?_eq, Option.map_eq_some_iff]
  constructor
  · rintro h metric e ⟨placed, hplaced, rfl⟩
    exact h metric (.ofEntry placed.1 placed.2) ⟨placed, hplaced, rfl⟩
  · rintro h metric row ⟨placed, hplaced, rfl⟩
    exact h metric placed.2 ⟨placed, hplaced, rfl⟩

/-!
## What tickers hold
-/

def Ticker.poll? (t : Ticker) : Option Message :=
  match t.phase with
  | .publishing _ m _ => some m
  | _ => none

theorem Ticker.poll?_congr {t t' : Ticker} (h : t'.phase = t.phase) : t'.poll? = t.poll? := by
  unfold poll?
  rw [h]

theorem Ticker.poll?_of_starting {t : Ticker} (h : t.phase = .starting) : t.poll? = none := by
  unfold poll?
  rw [h]

theorem Ticker.poll?_of_publishing {t : Ticker} {ticket : Ticket} {m : Message} {due : Instant}
    (h : t.phase = .publishing ticket m due) : t.poll? = some m := by
  unfold poll?
  rw [h]

/-- Rounds are left to the tickers: nobody else calls for one. -/
def Polling.Move.RoundFree : Polling.Move → Prop
  | .perform (.tick _) => False
  | _ => True

namespace Polling

def held? (p : Polling) (g : Generation) : Option Message := p.tickers[g]?.bind Ticker.poll?

/-- The messages that the step of a ticker adds to the outbox, with the generation of the ticker. -/
def brings (p : Polling) : Move → List (Generation × Message)
  | .perform (.turn g preference) =>
      ((p.stepTicker g preference).common.outbox.toList.drop p.common.outbox.toList.length).map
        fun m => (g, m)
  | _ => []

def broughtAlong (p : Polling) : List Move → List (Generation × Message)
  | [] => []
  | move :: moves => p.brings move ++ (p.move move).broughtAlong moves

variable {p q : Polling}

theorem held?_eq_some_iff {g : Generation} {m : Message} :
    p.held? g = some m ↔ ∃ t, p.tickers[g]? = some t ∧ t.poll? = some m :=
  Option.bind_eq_some_iff

/-!
## Tickers and operations

No operation but the steps of the tickers gives a ticker a message to wait with.
-/

/-- A ticker was there before the operation, in the same phase, or is the new one of a group. -/
inductive Kept (p : Polling) (g : Generation) (t' : Ticker) : Prop where
  | before (t : Ticker) (found : p.tickers[g]? = some t) (ref_eq : t'.ref = t.ref)
      (phase_eq : t'.phase = t.phase) (told : t.cancelled = true → t'.cancelled = true)
  | new (phase_eq : t'.phase = .starting) (told : p.shutDown = true → t'.cancelled = true)

theorem kept_of_lookup {g : Generation} {t' : Ticker} (h : p.tickers[g]? = some t') :
    p.Kept g t' :=
  .before t' h rfl rfl id

theorem kept_cancel {dropped : List GroupRef} {g : Generation} {t' : Ticker}
    (h : (p.cancel dropped).tickers[g]? = some t') : p.Kept g t' := by
  rw [getElem?_tickers_cancel] at h
  rcases Option.map_eq_some_iff.mp h with ⟨t, ht, rfl⟩
  refine .before t ht (ref_told dropped t) ?_ ?_
  · unfold told
    split <;> rfl
  · intro hcancelled
    unfold told
    split
    · rfl
    · exact hcancelled

theorem kept_spawn {ref : GroupRef} {period : Duration} {g : Generation} {t' : Ticker}
    (h : (p.spawn ref period).tickers[g]? = some t') :
    p.tickers[g]? = some t' ∨ (t'.phase = .starting ∧ (p.shutDown = true → t'.cancelled = true)) := by
  unfold spawn at h
  rw [lookup_insert] at h
  split at h
  · cases h
    exact Or.inr ⟨rfl, id⟩
  · exact Or.inl h

theorem kept_add {target : Target} {metric : MetricId} {valueKind : ValueKind} {budget : UInt16}
    {g : Generation} {t' : Ticker}
    (h : (p.add target metric valueKind budget).1.tickers[g]? = some t') : p.Kept g t' := by
  unfold add at h
  split at h
  next => exact kept_of_lookup h
  next r report _ =>
    dsimp only at h
    have hcancelled : ((p.setRegistry r).cancel report.dropped.toList).tickers[g]? = some t' →
        p.Kept g t' := kept_cancel (p := p)
    split at h
    next ref _ =>
      rcases kept_spawn h with hbefore | ⟨hphase, htold⟩
      · exact hcancelled hbefore
      · exact .new hphase htold
    next => exact hcancelled h

theorem kept_remove {metric : MetricId} {g : Generation} {t' : Ticker}
    (h : (p.remove metric).1.tickers[g]? = some t') : p.Kept g t' := by
  unfold remove at h
  split at h
  · exact kept_of_lookup h
  · exact kept_cancel (p := p) h

theorem kept_shutdown {g : Generation} {t' : Ticker} (h : p.shutdown.tickers[g]? = some t') :
    p.Kept g t' ∧ t'.cancelled = true := by
  have htickers : p.shutdown.tickers[g]? =
      p.stopAll.1.tickers[g]?.map fun t => { t with cancelled := true } :=
    Std.ExtTreeMap.getElem?_map
  rw [htickers] at h
  rcases Option.map_eq_some_iff.mp h with ⟨t, ht, rfl⟩
  refine ⟨?_, rfl⟩
  have hstopped : p.Kept g t := kept_cancel (p := p) ht
  cases hstopped with
  | before first hfirst href hphase _ => exact .before first hfirst href hphase fun _ => rfl
  | new hphase _ => exact .new hphase fun _ => rfl

theorem kept_perform {op : Op} (hturn : ¬∃ g preference, op = .turn g preference)
    (hfree : (Move.perform op).RoundFree) {g : Generation} {t' : Ticker}
    (h : (p.perform op).tickers[g]? = some t') : p.Kept g t' := by
  cases op with
  | add target metric valueKind budget => exact kept_add h
  | refresh metric => exact kept_of_lookup h
  | remove metric => exact kept_remove h
  | stopContainer container => exact kept_cancel (p := p) h
  | stopAll => exact kept_cancel (p := p) h
  | shutdown => exact (kept_shutdown h).1
  | tick ref => exact hfree.elim
  | turn g preference => exact absurd ⟨g, preference, rfl⟩ hturn

theorem Kept.held {g : Generation} {t' : Ticker} (h : p.Kept g t') {m : Message}
    (hpoll : t'.poll? = some m) : p.held? g = some m := by
  cases h with
  | before t found _ phase_eq _ =>
      exact held?_eq_some_iff.mpr ⟨t, found, (Ticker.poll?_congr phase_eq).symm.trans hpoll⟩
  | new phase_eq _ =>
      rw [Ticker.poll?_of_starting phase_eq] at hpoll
      cases hpoll

/-!
## Polling that was shut down
-/

/-- What holds once polling was shut down: every ticker was told to stop, and it either did not run
yet or means a group that is gone. -/
structure Ended (p : Polling) : Prop where
  tended : p.Tended fun _ => True
  shut : p.shutDown = true
  cancelled : ∀ {g : Generation} {t : Ticker}, p.tickers[g]? = some t → t.cancelled = true
  lost : ∀ {g : Generation} {t : Ticker}, p.tickers[g]? = some t →
    t.phase = .starting ∨ p.registry.Stale t.ref
  unspent : p.registry.roster.Unspent

theorem Tended.ended_shutdown {lapsed : Duration → Prop} (h : p.Tended lapsed) :
    p.shutdown.Ended where
  tended := h.shutdown.mono fun _ _ => trivial
  shut := rfl
  cancelled := fun ht => (kept_shutdown ht).2
  lost := by
    intro g t ht
    right
    intro slot hslot
    have hnone : p.shutdown.registry.groups[t.ref.key]? = none := Registry.groups_stopAll _ _
    rw [hnone] at hslot
    cases hslot
  unspent := by
    have hroster : (p.registry.roster.stopAll).1 = p.shutdown.registry.roster :=
      congrArg Prod.fst h.consistent.roster_stopAll
    rw [← hroster]
    exact Roster.unspent_empty

theorem Ended.of_kept (h : p.Ended) (htended : q.Tended fun _ => True)
    (hdescends : p.registry.Descends q.registry) (hshut : q.shutDown = true)
    (hkept : ∀ {g : Generation} {t' : Ticker}, q.tickers[g]? = some t' → p.Kept g t')
    (hunspent : q.registry.roster.Unspent) : q.Ended where
  tended := htended
  shut := hshut
  cancelled := by
    intro g t' ht'
    cases hkept ht' with
    | before t found _ _ told => exact told (h.cancelled found)
    | new _ told => exact told h.shut
  lost := by
    intro g t' ht'
    cases hkept ht' with
    | before t found ref_eq phase_eq _ =>
        rcases h.lost found with hstarting | hstale
        · exact Or.inl (phase_eq.trans hstarting)
        · have hgiven := (h.tended.numbered found)
          rw [ref_eq]
          exact Or.inr (hstale.descends hdescends (hgiven.1 ▸ hgiven.2))
    | new phase_eq _ => exact Or.inl phase_eq
  unspent := hunspent

theorem shutDown_perform {op : Op} (hturn : ¬∃ g preference, op = .turn g preference)
    (hfree : (Move.perform op).RoundFree) (hshut : p.shutDown = true) :
    (p.perform op).shutDown = true := by
  cases op with
  | add target metric valueKind budget =>
      exact (shutDown_add p target metric valueKind budget).trans hshut
  | refresh metric => exact hshut
  | remove metric =>
      show (p.remove metric).1.shutDown = true
      unfold remove
      split <;> exact hshut
  | stopContainer container => exact hshut
  | stopAll => exact hshut
  | shutdown => rfl
  | tick ref => exact hfree.elim
  | turn g preference => exact absurd ⟨g, preference, rfl⟩ hturn

theorem unspent_perform {op : Op} (hturn : ¬∃ g preference, op = .turn g preference)
    (hfree : (Move.perform op).RoundFree) (hconsistent : p.registry.Consistent)
    (h : p.registry.roster.Unspent) : (p.perform op).registry.roster.Unspent := by
  have hkeeps := keepsRoster hconsistent
  cases op with
  | add target metric valueKind budget =>
      show (p.add target metric valueKind budget).1.registry.roster.Unspent
      by_cases hinterval : target.interval.wholeMillis = 0
      · rw [add_of_error (Registry.add_of_refused hinterval metric valueKind budget)]
        exact h
      · rw [(hkeeps.add target metric valueKind budget (Nat.one_le_iff_ne_zero.mpr hinterval)).1]
        exact h.add target.groupKey metric valueKind budget
  | refresh metric => exact (hkeeps.refresh metric).1 ▸ h.refresh metric
  | remove metric => exact (hkeeps.remove metric).1 ▸ h.remove metric
  | stopContainer container => exact (hkeeps.stopContainer container).1 ▸ h.stopContainer container
  | stopAll => exact hkeeps.stopAll.1 ▸ Roster.unspent_empty
  | shutdown => exact hkeeps.stopAll.1 ▸ Roster.unspent_empty
  | tick ref => exact hfree.elim
  | turn g preference => exact absurd ⟨g, preference, rfl⟩ hturn

/-!
## Steps of tickers after the shutdown
-/

/-- What the step of a ticker can do after the shutdown. -/
inductive Stepped (p : Polling) (g : Generation) : Polling → Prop where
  | waits : p.Stepped g p
  | exits : p.Stepped g (p.exit g)
  /-- The ticker gets an answer from the outbox, which has its message or refuses it. -/
  | answered (t : Ticker) (m : Message) (found : p.tickers[g]? = some t) (poll : t.poll? = some m)
      (common : Commons) (issued : common.issued = p.common.issued) (brought : List Message)
      (outbox : common.outbox.toList = p.common.outbox.toList ++ brought)
      (once : brought = [] ∨ brought = [m]) (due : Instant) :
      p.Stepped g ({ p with common }.sleep g t due)

theorem taken_cases (m : Message) (offer : Mailbox.Offer) :
    taken m offer = [] ∨ taken m offer = [m] := by
  cases offer with
  | accepted => exact Or.inr rfl
  | parked ticket => exact Or.inl rfl
  | refused => exact Or.inl rfl

theorem Ended.stepped (h : p.Ended) (g : Generation) (preference : Preference) :
    p.Stepped g (p.stepTicker g preference) := by
  cases ht : p.tickers[g]? with
  | none =>
      unfold stepTicker
      rw [ht]
      exact .waits
  | some t =>
      have htold := h.cancelled ht
      cases hphase : t.phase with
      | starting =>
          unfold stepTicker Ticker.begins?
          rw [ht]
          dsimp only
          rw [hphase, htold, if_pos rfl]
          exact .exits
      | sleeping due =>
          have hstale : p.registry.Stale t.ref := by
            rcases h.lost ht with hstarting | hstale
            · rw [hphase] at hstarting
              cases hstarting
            · exact hstale
          rw [stepTicker_of_stale ht hstale hphase (Or.inl htold) preference]
          exact .exits
      | publishing ticket m due =>
          have hpoll : t.poll? = some m := Ticker.poll?_of_publishing hphase
          have houtbox := (outbox_resend p.common ticket m).2
          have honce := taken_cases m (p.common.resend ticket m).2
          have hissued : (p.common.resend ticket m).1.issued = p.common.issued := rfl
          unfold stepTicker
          rw [ht]
          dsimp only
          rw [hphase]
          dsimp only
          cases hoffer : p.common.resend ticket m with
          | mk common offer =>
              rw [hoffer] at houtbox honce hissued
              cases offer with
              | accepted =>
                  exact .answered t m ht hpoll (common.count Metrics.addPollPublished) hissued _
                    houtbox honce due
              | refused => exact .answered t m ht hpoll common hissued _ houtbox honce due
              | parked ticket => exact .waits

section Stepped

variable {g : Generation}

theorem Stepped.registry (h : p.Stepped g q) : q.registry = p.registry := by
  cases h <;> rfl

theorem Stepped.issued (h : p.Stepped g q) : q.common.issued = p.common.issued := by
  cases h with
  | waits => rfl
  | exits => rfl
  | answered _ _ _ _ _ issued => exact issued

theorem Stepped.shutDown (h : p.Stepped g q) : q.shutDown = p.shutDown := by
  cases h <;> rfl

/-- What the step adds to the outbox is the message that the ticker held, and the ticker holds none
after that. -/
theorem Stepped.outbox (h : p.Stepped g q) :
    q.common.outbox.toList = p.common.outbox.toList ∨
      ∃ m, q.common.outbox.toList = p.common.outbox.toList ++ [m] ∧ p.held? g = some m ∧
        q.held? g = none := by
  cases h with
  | waits => exact Or.inl rfl
  | exits => exact Or.inl rfl
  | answered t m found poll common _ brought outbox once due =>
      rcases once with rfl | rfl
      · left
        rw [List.append_nil] at outbox
        exact outbox
      · right
        refine ⟨m, outbox, held?_eq_some_iff.mpr ⟨t, found, poll⟩, ?_⟩
        unfold held? sleep setPhase
        rw [lookup_insert, if_pos rfl]
        rfl

/-- A ticker after the step was there before with the same flag, and it is in the same phase or
asleep now. -/
theorem Stepped.lookup (h : p.Stepped g q) {other : Generation} {t' : Ticker}
    (ht' : q.tickers[other]? = some t') :
    p.tickers[other]? = some t' ∨ ∃ t, p.tickers[other]? = some t ∧ t'.ref = t.ref ∧
      t'.cancelled = t.cancelled ∧ t.phase ≠ .starting ∧ t'.poll? = none := by
  cases h with
  | waits => exact Or.inl ht'
  | exits =>
      left
      unfold exit at ht'
      rw [lookup_erase] at ht'
      split at ht'
      · cases ht'
      · exact ht'
  | answered t m found poll common _ _ _ _ due =>
      unfold sleep setPhase at ht'
      rw [lookup_insert] at ht'
      split at ht'
      next heq =>
        cases ht'
        refine Or.inr ⟨t, heq ▸ found, rfl, rfl, ?_, rfl⟩
        intro hstarting
        rw [Ticker.poll?_of_starting hstarting] at poll
        cases poll
      next => exact Or.inl ht'

theorem Stepped.held (h : p.Stepped g q) {other : Generation} {m : Message}
    (hm : q.held? other = some m) : p.held? other = some m := by
  rcases held?_eq_some_iff.mp hm with ⟨t', ht', hpoll⟩
  rcases h.lookup ht' with hsame | ⟨_, _, _, _, _, hnone⟩
  · exact held?_eq_some_iff.mpr ⟨t', hsame, hpoll⟩
  · rw [hnone] at hpoll
    cases hpoll

theorem Stepped.ended (hstep : p.Stepped g q) (h : p.Ended) (htended : q.Tended fun _ => True) :
    q.Ended where
  tended := htended
  shut := hstep.shutDown.trans h.shut
  cancelled := by
    intro other t' ht'
    rcases hstep.lookup ht' with hsame | ⟨t, ht, _, hcancelled, _⟩
    · exact h.cancelled hsame
    · exact hcancelled.trans (h.cancelled ht)
  lost := by
    intro other t' ht'
    rw [hstep.registry]
    rcases hstep.lookup ht' with hsame | ⟨t, ht, href, _, hphase, _⟩
    · exact h.lost hsame
    · rw [href]
      exact Or.inr ((h.lost ht).resolve_left hphase)
  unspent := by
    rw [hstep.registry]
    exact h.unspent

end Stepped

/-!
## Runs after the shutdown
-/

theorem Ended.perform (h : p.Ended) {op : Op} (hfree : (Move.perform op).RoundFree) :
    (p.perform op).Ended := by
  have htended : (p.perform op).Tended fun _ => True := (h.tended.perform op).mono fun _ _ => trivial
  by_cases hturn : ∃ g preference, op = .turn g preference
  · rcases hturn with ⟨g, preference, rfl⟩
    exact (h.stepped g preference).ended h htended
  · exact h.of_kept htended (descends_perform h.tended.consistent op)
      (shutDown_perform hturn hfree h.shut) (kept_perform hturn hfree)
      (unspent_perform hturn hfree h.tended.consistent h.unspent)

theorem Ended.move (h : p.Ended) {m : Move} (hfree : m.RoundFree) : (p.move m).Ended := by
  cases m with
  | perform op => exact h.perform hfree
  | share f =>
      exact h.of_kept (q := p.onCommon f) (h.tended.onCommon f) (Registry.thins_refl _).descends
        h.shut (fun ht => kept_of_lookup (p := p) ht) h.unspent

theorem Ended.held_move (h : p.Ended) {m : Move} (hfree : m.RoundFree) {g : Generation}
    {poll : Message} (hheld : (p.move m).held? g = some poll) : p.held? g = some poll := by
  cases m with
  | share f => exact hheld
  | perform op =>
      by_cases hturn : ∃ g preference, op = .turn g preference
      · rcases hturn with ⟨g', preference, rfl⟩
        exact (h.stepped g' preference).held hheld
      · rcases held?_eq_some_iff.mp hheld with ⟨t', ht', hpoll⟩
        exact (kept_perform hturn hfree ht').held hpoll

theorem Ended.brings_cases (h : p.Ended) (m : Move) :
    p.brings m = [] ∨
      ∃ g poll, p.brings m = [(g, poll)] ∧ p.held? g = some poll ∧ (p.move m).held? g = none := by
  unfold brings
  split
  next g preference =>
    rcases (h.stepped g preference).outbox with hsame | ⟨poll, hbrought, hheld, hgone⟩
    · left
      rw [hsame, List.drop_length]
      rfl
    · right
      refine ⟨g, poll, ?_, hheld, hgone⟩
      rw [hbrought, List.drop_left]
      rfl
  next => exact Or.inl rfl

/-- Nothing but what the tickers bring comes to the outbox through the operations of polling. -/
theorem Ended.outbox_perform (h : p.Ended) {op : Op} (hfree : (Move.perform op).RoundFree) :
    (p.perform op).common.outbox.toList =
      p.common.outbox.toList ++ (p.brings (.perform op)).map (·.2) := by
  have hsilent : ∀ {q : Polling}, p.Silent q →
      q.common.outbox.toList = p.common.outbox.toList ++ [] := by
    intro q hq
    rw [hq.sent, List.append_nil]
  cases op with
  | add target metric valueKind budget => exact hsilent (silent_add p target metric valueKind budget)
  | refresh metric => exact hsilent (silent_refresh p metric)
  | remove metric => exact hsilent (silent_remove p metric)
  | stopContainer container => exact hsilent (silent_stopContainer p container)
  | stopAll => exact hsilent (silent_stopAll p)
  | shutdown => exact hsilent (silent_shutdown p)
  | tick ref => exact hfree.elim
  | turn g preference =>
      show (p.stepTicker g preference).common.outbox.toList = _
      unfold brings
      rw [List.map_map]
      rcases (h.stepped g preference).outbox with hsame | ⟨poll, hbrought, _⟩
      · rw [hsame, List.drop_length, List.map_nil, List.append_nil]
      · rw [hbrought, List.drop_left]
        rfl

theorem Ended.follow (h : p.Ended) {moves : List Move} (hfree : ∀ m ∈ moves, m.RoundFree) :
    (p.follow moves).Ended := by
  induction moves generalizing p with
  | nil => exact h
  | cons m moves ih =>
      rw [List.forall_mem_cons] at hfree
      exact ih (h.move hfree.1) hfree.2

theorem Ended.held_of_brought (h : p.Ended) {moves : List Move}
    (hfree : ∀ m ∈ moves, m.RoundFree) {g : Generation} {poll : Message}
    (hmem : (g, poll) ∈ p.broughtAlong moves) : p.held? g = some poll := by
  induction moves generalizing p with
  | nil => cases hmem
  | cons m moves ih =>
      rw [List.forall_mem_cons] at hfree
      rcases List.mem_append.mp hmem with hnow | hlater
      · rcases h.brings_cases m with hnone | ⟨g', poll', hone, hheld, _⟩
        · rw [hnone] at hnow
          cases hnow
        · rw [hone, List.mem_singleton] at hnow
          cases hnow
          exact hheld
      · exact h.held_move hfree.1 (ih (h.move hfree.1) hfree.2 hlater)

theorem Ended.nodup_brought (h : p.Ended) {moves : List Move}
    (hfree : ∀ m ∈ moves, m.RoundFree) : ((p.broughtAlong moves).map (·.1)).Nodup := by
  induction moves generalizing p with
  | nil => exact List.nodup_nil
  | cons m moves ih =>
      rw [List.forall_mem_cons] at hfree
      have hlater := ih (h.move hfree.1) hfree.2
      show ((p.brings m ++ (p.move m).broughtAlong moves).map (·.1)).Nodup
      rcases h.brings_cases m with hnone | ⟨g, poll, hone, _, hgone⟩
      · rw [hnone]
        exact hlater
      · rw [hone]
        refine List.nodup_cons.mpr ⟨?_, hlater⟩
        -- The ticker holds nothing any more, so none of its messages can follow.
        intro hagain
        rcases List.mem_map.mp hagain with ⟨⟨g', poll'⟩, hmem, rfl⟩
        have hheld := (h.move hfree.1).held_of_brought hfree.2 hmem
        rw [hgone] at hheld
        cases hheld

/-- After polling was shut down, whatever had happened before and whatever is called and however the
clock goes after that, no ticker calls for a round: the step of a ticker leaves the registry alone
and gives out no id for a poll, and every metric that was added since has its whole budget.  All that
polling brings to the outbox are the messages with which tickers waited for room when it was shut
down, each of them once at most. -/
theorem shutdown_ends_polling (common : Commons) (exchange replyKey : String)
    (messageTtl : Duration) (before after : List Move) (hfree : ∀ m ∈ after, m.RoundFree) :
    let start : Polling := { common, exchange, replyKey, messageTtl }
    let last := start.follow before
    let ended := last.shutdown
    let p := ended.follow after
    (∀ (g : Generation) (preference : Preference),
      (p.stepTicker g preference).registry = p.registry ∧
        (p.stepTicker g preference).common.issued = p.common.issued) ∧
      (∀ metric e, p.registry.entry? metric = some e → e.remaining = e.budget) ∧
      (∀ op, (Move.perform op).RoundFree → (p.perform op).common.outbox.toList =
        p.common.outbox.toList ++ (p.brings (.perform op)).map (·.2)) ∧
      (∀ g poll, (g, poll) ∈ ended.broughtAlong after → last.held? g = some poll) ∧
      ((ended.broughtAlong after).map (·.1)).Nodup := by
  intro start last ended p
  have hlast : last.Tended (start.Lapsed before) :=
    (tended_empty common exchange replyKey messageTtl _).follow before
  have hended : ended.Ended := hlast.ended_shutdown
  have hp : p.Ended := hended.follow hfree
  refine ⟨?_, ?_, ?_, ?_, ?_⟩
  · intro g preference
    have hstep := hp.stepped g preference
    exact ⟨hstep.registry, hstep.issued⟩
  · exact (Registry.unspent_iff p.registry).mp hp.unspent
  · intro op hop
    exact hp.outbox_perform hop
  · intro g poll hmem
    have hheld := hended.held_of_brought hfree hmem
    rcases held?_eq_some_iff.mp hheld with ⟨t', ht', hpoll⟩
    exact (kept_shutdown ht').1.held hpoll
  · exact hended.nodup_brought hfree

/-!
## A poll that waits through the shutdown

The outbox has room for one message, and the second poll of the group waits for it when polling is
shut down.  The metric is added again under the same key, and room is made only after that.
-/

/-- The outbox loses its first message, and the clock shows a number of seconds. -/
def drained (seconds : Nat) (c : Commons) : Commons :=
  { c.takeSent.1 with now := ⟨seconds * nanosPerSec⟩ }

def parksOne : List Move :=
  [.perform (.add viaSnmp 1 .int 3), .perform (.turn 1 .goOn),
    .share fun c => { c with now := ⟨nanosPerSec⟩ }, .perform (.turn 1 .goOn),
    .share fun c => { c with now := ⟨2 * nanosPerSec⟩ }, .perform (.turn 1 .goOn)]

def addsAgain : List Move :=
  [.perform (.add viaSnmp 1 .int 5), .share (drained 9), .perform (.turn 2 .goOn),
    .perform (.turn 1 .goOn), .perform (.turn 1 .goOn), .share (drained 99),
    .perform (.turn 2 .goOn)]

theorem shutdown_ends_polling_parked :
    let ended := (unused.follow parksOne).shutdown
    ∃ poll, ended.broughtAlong addsAgain = [(1, poll)] ∧
      (unused.follow parksOne).held? 1 = some poll ∧
      ∃ e, (ended.follow addsAgain).registry.entry? 1 = some e ∧ e.remaining = e.budget := by
  intro ended
  have hfree : ∀ m ∈ addsAgain, m.RoundFree := by simp [addsAgain, Move.RoundFree]
  obtain ⟨-, hfull, -, hheld, -⟩ := shutdown_ends_polling unused.common unused.exchange
    unused.replyKey unused.messageTtl parksOne addsAgain hfree
  have hbrought : (ended.broughtAlong addsAgain).map (·.1) = [1] := by decide +kernel
  obtain ⟨⟨_, poll⟩, hone, rfl⟩ := List.map_eq_singleton_iff.mp hbrought
  have hadded : ((ended.follow addsAgain).registry.entry? 1).isSome = true := by decide +kernel
  obtain ⟨e, he⟩ := Option.isSome_iff_exists.mp hadded
  exact ⟨poll, hone, hheld 1 poll (hone ▸ List.mem_singleton_self _), e, he, hfull 1 e he⟩

end Polling
end Pulling
end MetricGateway
