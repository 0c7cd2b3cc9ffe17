import MetricGateway.Proofs.Fetching.Ledger

/-!
# The accounts balance

The counters of the resolver agree with the ledger of a run at every moment.  Once no task can go
on without time passing and no fetch waits for room, its two tables have one entry for each fetch
that was neither answered nor given up.
-/

namespace MetricGateway
namespace Fetching

open Resolver (TaskId Task Report Desk Idle)

/-!
## Fetches stay apart
-/

/-- The fetches that got into the outbox ask for the metrics of requests, each under an id of its
own, which is not the id of a fetch that still waits for room. -/
structure Apart (start : Recorded Resolver) (d : Desk) (issued : Nat) (fetches : List Message) :
    Prop where
  asks : ∀ m ∈ fetches, ∃ request key n, n < issued ∧
    m = start.host.fetchMessage request key (Correlation.id n)
  parked : ∀ {id : TaskId} {t : Task} {ticket : Ticket} {m : Message} {correlation : String}
    {settings : MetricSettings}, d.tasks[id]? = some t →
    t.phase = .fetching ticket m correlation settings →
    (∃ key, m = start.host.fetchMessage t.request key correlation) ∧
      ∀ m' ∈ fetches, m'.envelope.correlation ≠ correlation
  distinct : (fetches.map (·.envelope.correlation)).Nodup

section

variable {start s : Recorded Resolver} {id : TaskId} {t : Task} {d d' : Desk} {left : Option Task}
  {new : List Report} {own fetches : List Message} {n n' : Nat}

theorem correlation_fetchMessage (r : Resolver) (request : MetricRequest)
    (key correlation : String) :
    (r.fetchMessage request key correlation).envelope.correlation = correlation := rfl

theorem Apart.fresh (h : Apart start d n fetches) {k : Nat} (hk : n ≤ k) {m : Message}
    (hm : m ∈ fetches) : m.envelope.correlation ≠ Correlation.id k := by
  rcases h.asks m hm with ⟨request, key, j, hj, rfl⟩
  intro heq
  rw [correlation_fetchMessage] at heq
  have hsame := Correlation.id_injective heq
  omega

theorem Apart.mono (h : Apart start d n fetches) (hn : n ≤ n') : Apart start d n' fetches where
  asks := by
    intro m hm
    rcases h.asks m hm with ⟨request, key, k, hk, rfl⟩
    exact ⟨request, key, k, Nat.lt_of_lt_of_le hk hn, rfl⟩
  parked := h.parked
  distinct := h.distinct

theorem Apart.of_tasks (h : Apart start d n fetches) (htasks : d'.tasks = d.tasks) :
    Apart start d' n fetches where
  asks := h.asks
  parked := by
    rw [htasks]
    exact h.parked
  distinct := h.distinct

theorem Apart.quiet (h : Apart start d n fetches) (htasks : d'.tasks = d.tasks)
    (hleft : left.any (·.phase.isFetching) = false) :
    Apart start (d'.set id left) n fetches where
  asks := h.asks
  parked := by
    intro other x ticket m correlation settings hx hphase
    rw [Desk.tasks_set, htasks] at hx
    split at hx
    · rw [hx] at hleft
      simp [hphase, Task.Phase.isFetching] at hleft
    · exact h.parked hx hphase
  distinct := h.distinct

theorem Apart.park (h : Apart start d n fetches) (htasks : d'.tasks = d.tasks) {k : Nat}
    (hk : n ≤ k) {key : String} {ticket : Ticket} {settings : MetricSettings} :
    Apart start (d'.set id (some { t with
      phase := .fetching ticket (start.host.fetchMessage t.request key (Correlation.id k))
        (Correlation.id k) settings })) n fetches where
  asks := h.asks
  parked := by
    intro other x ticket' m correlation settings' hx hphase
    rw [Desk.tasks_set, htasks] at hx
    split at hx
    · cases hx
      cases hphase
      exact ⟨⟨key, rfl⟩, fun m' hm' => h.fresh hk hm'⟩
    · exact h.parked hx hphase
  distinct := h.distinct

theorem Apart.send (h : Apart start d n fetches) (htasks : d'.tasks = d.tasks)
    (hleft : left.any (·.phase.isFetching) = false) {request : MetricRequest} {key : String}
    {k : Nat} (hk : k < n') (hn : n ≤ n')
    (hfresh : ∀ m ∈ fetches, m.envelope.correlation ≠ Correlation.id k)
    (hothers : ∀ {other : TaskId} {x : Task} {ticket : Ticket} {m : Message}
      {correlation : String} {settings : MetricSettings}, id ≠ other →
      d.tasks[other]? = some x → x.phase = .fetching ticket m correlation settings →
      Correlation.id k ≠ correlation) :
    Apart start (d'.set id left) n'
      (fetches ++ [start.host.fetchMessage request key (Correlation.id k)]) where
  asks := by
    intro m hm
    rcases List.mem_append.mp hm with hm | hm
    · exact (h.mono hn).asks m hm
    · rw [List.mem_singleton.mp hm]
      exact ⟨request, key, k, hk, rfl⟩
  parked := by
    intro other x ticket m correlation settings hx hphase
    rw [Desk.tasks_set, htasks] at hx
    split at hx
    · rw [hx] at hleft
      simp [hphase, Task.Phase.isFetching] at hleft
    next hne =>
      rcases h.parked hx hphase with ⟨hasks, happart⟩
      refine ⟨hasks, fun m' hm' => ?_⟩
      rcases List.mem_append.mp hm' with hm' | hm'
      · exact happart m' hm'
      · rw [List.mem_singleton.mp hm', correlation_fetchMessage]
        exact hothers hne hx hphase
  distinct := by
    rw [List.map_append, List.map_singleton, correlation_fetchMessage]
    refine List.nodup_append.mpr ⟨h.distinct, by simp, ?_⟩
    intro c hc c' hc' heq
    rcases List.mem_map.mp hc with ⟨m, hm, hcorrelation⟩
    rw [List.mem_singleton.mp hc'] at heq
    exact hfresh m hm (hcorrelation.trans heq)

theorem Turn.apart (h : Turn s id t d new own) (htask : s.host.tasks[id]? = some t)
    (hcorrelated : Correlated s.host) (hsetup : s.host.setup = start.host.setup)
    (hapart : Apart start s.host.desk s.host.common.issued fetches) :
    Apart start d (act s (.step id)).host.common.issued
      (fetches ++ (noteStep s t d.tasks[id]? own).fetches) := by
  have hissued := issued_act s (.step id)
  have hmessage : ∀ key correlation, s.host.fetchMessage t.request key correlation =
      start.host.fetchMessage t.request key correlation :=
    fun key correlation => Resolver.fetchMessage_of_setup hsetup _ _ _
  have hnoted : ∀ {d : Desk} (extra : List Message),
      (noteStep s t d.tasks[id]? own).fetches = extra →
      Apart start d (act s (.step id)).host.common.issued (fetches ++ extra) →
      Apart start d (act s (.step id)).host.common.issued
        (fetches ++ (noteStep s t d.tasks[id]? own).fetches) := by
    intro d extra hextra h
    rw [hextra]
    exact h
  have hquiet : ∀ {d : Desk} {left : Option Task}, d.tasks = s.host.tasks →
      left.any (·.phase.isFetching) = false →
      asks s t = false ∨ left.any (·.phase.isAwaiting) = false →
      Apart start (d.set id left) (act s (.step id)).host.common.issued
        (fetches ++ (noteStep s t (d.set id left).tasks[id]? own).fetches) := by
    intro d left htasks hleft hnothing
    refine hnoted [] ?_ ?_
    · rcases hnothing with hnothing | hnothing <;> simp [noteStep, Desk.tasks_set, hnothing]
    · rw [List.append_nil]
      exact (hapart.quiet htasks hleft).mono hissued
  have hlater : t.phase ≠ .starting → t.phase.isFetching = false → asks s t = false := by
    intro hphase hfetching
    simp [asks, Resolver.wants, hphase, hfetching]
  cases h with
  | idle hphase => simpa [noteStep] using hapart.mono hissued
  | lookupFailed hphase hlookup =>
      refine hquiet rfl rfl (Or.inl ?_)
      simp [asks, Resolver.wants, hlookup, hphase, Task.Phase.isFetching]
  | hit hphase hlookup hhanded =>
      refine hquiet rfl hhanded.not_fetching (Or.inl ?_)
      simp [asks, Resolver.wants, hlookup, hphase, Task.Phase.isFetching]
  | unrouted hphase hlookup hroute hhanded =>
      refine hquiet rfl hhanded.not_fetching (Or.inl ?_)
      simp [asks, Resolver.wants, hlookup, hroute, hphase, Task.Phase.isFetching]
  | unconfigured => exact hquiet rfl rfl (Or.inr rfl)
  | @parked key settings n ticket hwants hlow =>
      refine hnoted [] (by simp [noteStep, Desk.tasks_set, Task.Phase.isAwaiting]) ?_
      rw [hmessage, List.append_nil]
      refine Apart.mono ?_ hissued
      exact hapart.park (by rfl) hlow
  | @sent key settings n hwants hlow hhigh =>
      refine hnoted [start.host.fetchMessage t.request key (Correlation.id n)] ?_ ?_
      · simp [noteStep, asks, hwants.wants, Desk.tasks_set, Task.Phase.isAwaiting, hmessage]
      refine hapart.send ?_ ?_ hhigh hissued (fun m hm => hapart.fresh hlow hm) ?_
      · rfl
      · rfl
      · intro other x ticket m correlation settings' _ hx hphase heq
        have hcarries := carries_of_fetching (r := s.host) hx hphase
        rw [← heq] at hcarries
        exact Nat.lt_irrefl n (Nat.lt_of_lt_of_le (hcorrelated.lt_of_carries hcarries) hlow)
  | refused => exact hquiet rfl rfl (Or.inr rfl)
  | @resumed ticket fetch correlation settings hphase =>
      rcases hapart.parked htask hphase with ⟨⟨key, rfl⟩, hfresh⟩
      have hcarries := carries_of_fetching htask hphase
      rcases hcorrelated.given hcarries with ⟨n, hn, rfl⟩
      refine hnoted [start.host.fetchMessage t.request key (Correlation.id n)] ?_ ?_
      · simp [noteStep, asks, hphase, Task.Phase.isFetching, Desk.tasks_set, Task.Phase.isAwaiting]
      refine hapart.send ?_ ?_ (Nat.lt_of_lt_of_le hn hissued) hissued hfresh ?_
      · rfl
      · rfl
      · intro other x ticket m correlation settings' hne hx hphase' heq
        rw [← heq] at hphase'
        exact hne (hcorrelated.unique hcarries (carries_of_fetching hx hphase'))
  | dropped => exact hquiet rfl rfl (Or.inr rfl)
  | passedOn hphase _ hhanded =>
      exact hquiet rfl hhanded.not_fetching
        (Or.inl (hlater (by simp [hphase]) (by rw [hphase]; rfl)))
  | _ => exact hquiet rfl rfl (Or.inr rfl)

end

/-!
## The balance
-/

/-- The counters of a resolver agree with a ledger. -/
structure Balanced (start s : Recorded Resolver) (l : Ledger) : Prop where
  lookups : s.host.desk.tally.hits + s.host.desk.tally.misses = l.lookups
  issued : s.host.desk.tally.issued = l.fetches.length
  registered : s.host.desk.tally.issued =
    s.host.desk.correlator.pending + l.accepted + s.host.desk.tally.timeouts
  routed : l.routed = l.accepted + s.host.desk.tally.unmatched
  wanted : ∃ ids, Roll s.host.desk ids ∧
    l.wanted = s.host.desk.tally.issued + l.refused + ids.length
  refused : ¬Closed s → l.refused = 0
  apart : Apart start s.host.desk s.host.common.issued l.fetches

section

variable {start s : Recorded Resolver} {l : Ledger}

theorem Closed.act (h : Closed s) (hcorrelated : Correlated s.host) (a : Act) :
    Closed (act s a) := by
  rcases act_cases s a with heq | rfl | rfl
  · rcases hcorrelated.brings (effect_actOn s.host a) with ⟨own, hemits, _⟩
    rw [heq]
    exact (closed_of_emits hemits).mpr h
  · exact (closed_act_take s).mpr h
  · exact closed_act_closeOutbox s

/-- A task that brings its fetch to the outbox is given up exactly where the outbox was left. -/
theorem Turn.eq_none_iff_closed {id : TaskId} {t : Task} {d : Desk} {new : List Report}
    {own : List Message} (h : Turn s id t d new own) (htask : s.host.tasks[id]? = some t)
    (hasks : asks s t = true) : d.tasks[id]? = none ↔ Closed s := by
  cases h with
  | idle hphase hwaits =>
      have hthere : s.host.desk.tasks[id]? = some t := htask
      refine iff_of_false (by simp [hthere]) fun hclosed : s.host.common.outbox.closed = true => ?_
      simp [asks, Resolver.wants, hphase] at hasks
      unfold Resolver.taskReady at hwaits
      rw [htask] at hwaits
      cases hfetching : t.phase with
      | fetching ticket m correlation settings =>
          simp [hfetching, Mailbox.answers, hclosed] at hwaits
      | _ =>
          rw [hfetching] at hasks
          cases hasks
  | lookupFailed hphase hlookup =>
      simp [asks, Resolver.wants, hlookup, hphase, Task.Phase.isFetching] at hasks
  | hit hphase hlookup =>
      simp [asks, Resolver.wants, hlookup, hphase, Task.Phase.isFetching] at hasks
  | unrouted hphase hlookup hroute =>
      simp [asks, Resolver.wants, hlookup, hroute, hphase, Task.Phase.isFetching] at hasks
  | unconfigured hphase hlookup hroute hsettings =>
      simp [asks, Resolver.wants, hlookup, hroute, hsettings, hphase, Task.Phase.isFetching,
        Except.isOk, Except.toBool] at hasks
  | refused _ _ hclosed => exact iff_of_true (by simp [Desk.tasks_set]) hclosed
  | dropped _ hclosed => exact iff_of_true (by simp [Desk.tasks_set]) hclosed
  | parked _ _ _ _ hopen => exact iff_of_false (by simp [Desk.tasks_set]) hopen
  | sent _ _ _ hopen => exact iff_of_false (by simp [Desk.tasks_set]) hopen
  | resumed _ hopen => exact iff_of_false (by simp [Desk.tasks_set]) hopen
  | _ hphase => simp [asks, Resolver.wants, hphase, Task.Phase.isFetching] at hasks

theorem Turn.refused_eq_zero {id : TaskId} {t : Task} {d : Desk} {new : List Report}
    {own : List Message} (h : Turn s id t d new own) (htask : s.host.tasks[id]? = some t)
    (hopen : ¬Closed s) : (noteStep s t d.tasks[id]? own).refused = 0 := by
  apply if_neg
  intro hgone
  rw [Bool.and_eq_true, Option.isNone_iff_eq_none] at hgone
  exact hopen ((h.eq_none_iff_closed htask hgone.1).mp hgone.2)

theorem Turn.fetches_eq_nil {id : TaskId} {t : Task} {d : Desk} {new : List Report}
    {own : List Message} (h : Turn s id t d new own) (htask : s.host.tasks[id]? = some t)
    (hclosed : Closed s) : (noteStep s t d.tasks[id]? own).fetches = [] := by
  apply if_neg
  intro hsent
  rw [Bool.and_eq_true] at hsent
  rw [(h.eq_none_iff_closed htask hsent.1).mpr hclosed] at hsent
  exact absurd hsent.2 nofun

theorem Turn.refused_eq_one {id : TaskId} {t : Task} {d : Desk} {new : List Report}
    {own : List Message} (h : Turn s id t d new own) (htask : s.host.tasks[id]? = some t)
    (hclosed : Closed s) (hasks : asks s t = true) :
    (noteStep s t d.tasks[id]? own).refused = 1 := by
  apply if_pos
  rw [hasks, (h.eq_none_iff_closed htask hasks).mpr hclosed]
  rfl

theorem Turn.unmatched {id : TaskId} {t : Task} {d : Desk} {new : List Report}
    {own : List Message} (h : Turn s id t d new own) :
    d.tally.unmatched = s.host.desk.tally.unmatched := by
  cases h <;> simp

theorem note_step {id : TaskId} {t : Task} (htask : s.host.tasks[id]? = some t) :
    note s (.step id) = noteStep s t (act s (.step id)).host.desk.tasks[id]?
      (sentIn s (.step id)) := by
  unfold note
  dsimp only
  rw [htask]
  rfl

theorem note_of_other {a : Act} (hstep : ∀ id, a ≠ .step id) (hroute : ∀ reply, a ≠ .route reply) :
    note s a = {} := by
  cases a with
  | step id => exact absurd rfl (hstep id)
  | route reply => exact absurd rfl (hroute reply)
  | _ => rfl

theorem Ledger.add_empty (l : Ledger) : l.add {} = l := by
  simp [add]

theorem Ledger.empty_add (l : Ledger) : Ledger.add {} l = l := by
  simp [add]

theorem Ledger.add_assoc (l l' l'' : Ledger) : (l.add l').add l'' = l.add (l'.add l'') := by
  simp [add, Nat.add_assoc]

/-- An act of which the ledger has nothing to note, and which moves no counter. -/
theorem Balanced.quiet (h : Balanced start s l) {s' : Recorded Resolver}
    (hdesk : s'.host.desk = s.host.desk) (hissued : s.host.common.issued ≤ s'.host.common.issued)
    (hclosed : Closed s → Closed s') : Balanced start s' l := by
  refine ⟨?_, ?_, ?_, ?_, ?_, fun hopen => h.refused fun hc => hopen (hclosed hc), ?_⟩
  · rw [hdesk]
    exact h.lookups
  · rw [hdesk]
    exact h.issued
  · rw [hdesk]
    exact h.registered
  · rw [hdesk]
    exact h.routed
  · rw [hdesk]
    exact h.wanted
  · rw [hdesk]
    exact h.apart.mono hissued

theorem Balanced.turn (h : Balanced start s l) (hcorrelated : Correlated s.host)
    (hsetup : s.host.setup = start.host.setup) {id : TaskId} {t : Task} {new : List Report}
    (htask : s.host.tasks[id]? = some t)
    (hturn : Turn s id t (act s (.step id)).host.desk new (sentIn s (.step id))) :
    Balanced start (act s (.step id)) (l.add (note s (.step id))) := by
  have hnote := note_step htask
  have hrouted : (note s (.step id)).routed = 0 ∧ (note s (.step id)).accepted = 0 := by
    rw [hnote]
    exact ⟨rfl, rfl⟩
  rcases h.wanted with ⟨ids, hroll, hwanted⟩
  rcases hturn.wanted htask hroll with ⟨ids', hroll', hwanted'⟩
  have hlookups := hturn.lookups
  have hissued := hturn.issued
  have hregistered := hturn.registered htask hcorrelated
  have hapart := hturn.apart htask hcorrelated hsetup h.apart
  rw [← hnote] at hwanted' hlookups hissued hapart
  have hbefore : _ = s.host.correlator.pending + _ + _ := h.registered
  constructor
  · rw [hlookups, h.lookups]
    rfl
  · rw [hissued, h.issued]
    exact List.length_append.symm
  · show _ = _ + (l.accepted + _) + _
    rw [hrouted.2]
    omega
  · show l.routed + _ = l.accepted + _ + _
    rw [hrouted.1, hrouted.2, hturn.unmatched, h.routed]
    rfl
  · refine ⟨ids', hroll', ?_⟩
    show l.wanted + _ = _ + (l.refused + _) + _
    omega
  · intro hopen
    have hopen' : ¬Closed s := fun hclosed => hopen (hclosed.act hcorrelated (.step id))
    show l.refused + _ = 0
    rw [h.refused hopen', hnote, hturn.refused_eq_zero htask hopen']
  · exact hapart

theorem Balanced.begin (h : Balanced start s l) (hcorrelated : Correlated s.host)
    {s' : Recorded Resolver} {t : Task} (hphase : t.phase = .starting)
    (hdesk : s'.host.desk = s.host.desk.set s.host.started (some t))
    (hissued : s.host.common.issued ≤ s'.host.common.issued)
    (hclosed : Closed s → Closed s') : Balanced start s' l := by
  have hleft : (some t).any (·.phase.isFetching) = false := by
    simp [hphase, Task.Phase.isFetching]
  rcases h.wanted with ⟨ids, hroll, hwanted⟩
  have hnot : s.host.started ∉ ids := by
    intro hmem
    rcases (hroll.mem _).mp hmem with ⟨x, hx, _⟩
    exact Nat.lt_irrefl _ (hcorrelated.task_lt hx)
  constructor
  · rw [hdesk]
    exact h.lookups
  · rw [hdesk]
    exact h.issued
  · rw [hdesk]
    exact h.registered
  · rw [hdesk]
    exact h.routed
  · rw [hdesk]
    exact ⟨ids, hroll.same rfl hnot hleft, hwanted⟩
  · exact fun hopen => h.refused fun hc => hopen (hclosed hc)
  · rw [hdesk]
    exact (h.apart.quiet rfl hleft).mono hissued

theorem Balanced.route (h : Balanced start s l) {reply : Envelope} {d : Desk}
    (hdesk : (act s (.route reply)).host.desk = d) (htasks : d.tasks = s.host.tasks)
    (hhits : d.tally.hits + d.tally.misses = s.host.desk.tally.hits + s.host.desk.tally.misses)
    (hissued : d.tally.issued = s.host.desk.tally.issued)
    (hregistered : d.correlator.pending + (note s (.route reply)).accepted + d.tally.timeouts =
      s.host.desk.correlator.pending + s.host.desk.tally.timeouts)
    (hrouted : (note s (.route reply)).accepted + d.tally.unmatched =
      s.host.desk.tally.unmatched + 1)
    (hclosed : Closed s → Closed (act s (.route reply))) :
    Balanced start (act s (.route reply)) (l.add (note s (.route reply))) := by
  have hfetches : (l.add (note s (.route reply))).fetches = l.fetches := List.append_nil _
  have hbefore := h.registered
  have hbalance := h.routed
  rcases h.wanted with ⟨ids, hroll, hwanted⟩
  constructor
  · rw [hdesk, hhits, h.lookups]
    rfl
  · rw [hdesk, hissued, hfetches, h.issued]
  · rw [hdesk]
    show _ = _ + (l.accepted + _) + _
    omega
  · rw [hdesk]
    show l.routed + 1 = l.accepted + _ + _
    omega
  · rw [hdesk, hissued]
    exact ⟨ids, hroll.of_tasks htasks, hwanted⟩
  · exact fun hopen => h.refused fun hc => hopen (hclosed hc)
  · rw [hdesk, hfetches]
    exact (h.apart.of_tasks htasks).mono (issued_act s (.route reply))

theorem Balanced.act (h : Balanced start s l) (hcorrelated : Correlated s.host)
    (hsetup : s.host.setup = start.host.setup) (a : Act) :
    Balanced start (act s a) (l.add (note s a)) := by
  have hmove := move_act hcorrelated a
  have hissued := issued_act s a
  have hclosed : Closed s → Closed (Fetching.act s a) := fun hc => hc.act hcorrelated a
  generalize hdesk : (Fetching.act s a).host.desk = d at hmove
  cases hmove with
  | background hstep hroute =>
      rw [note_of_other hstep hroute, l.add_empty]
      exact h.quiet hdesk hissued hclosed
  | begun hstep hroute hphase =>
      rw [note_of_other hstep hroute, l.add_empty]
      exact h.begin hcorrelated hphase hdesk hissued hclosed
  | @taken reply wait hroute hopen =>
      have hnote : (note s (.route reply)).accepted = 1 := if_pos hroute
      have hpending := Correlator.pending_send hopen reply
      refine h.route hdesk rfl rfl rfl ?_ ?_ hclosed
      · rw [hnote]
        exact congrArg (· + _) hpending
      · rw [hnote, Nat.add_comm]
  | @unmatched reply hroute =>
      have hnote : (note s (.route reply)).accepted = 0 := if_neg (by simp [hroute])
      refine h.route hdesk rfl rfl rfl ?_ ?_ hclosed
      · rw [hnote]
        rfl
      · rw [hnote, Nat.zero_add]
  | @absent id htask =>
      have hnote : note s (.step id) = {} := by
        unfold note
        dsimp only
        rw [htask]
      rw [hnote, l.add_empty]
      exact h.quiet hdesk hissued hclosed
  | turned htask hturn =>
      subst hdesk
      exact h.turn hcorrelated hsetup htask hturn

theorem Balanced.run (h : Balanced start s l) (hcorrelated : Correlated s.host)
    (hsetup : s.host.setup = start.host.setup) (acts : List Act) :
    Balanced start (run s acts) (l.add (ledger s acts)) := by
  induction acts generalizing s l with
  | nil =>
      show Balanced start s (l.add {})
      rw [l.add_empty]
      exact h
  | cons a acts ih =>
      have hrest := ih (h.act hcorrelated hsetup a) (hcorrelated.act a)
        ((setup_act s a).trans hsetup)
      rw [Ledger.add_assoc] at hrest
      exact hrest

end

theorem fetches_note (hclosed : Closed s) (hcorrelated : Correlated s.host) (a : Act) :
    (note s a).fetches = [] := by
  have hmove := move_act hcorrelated a
  generalize hdesk : (Fetching.act s a).host.desk = d at hmove
  cases hmove with
  | background hstep hroute => rw [note_of_other hstep hroute]
  | begun hstep hroute => rw [note_of_other hstep hroute]
  | taken => rfl
  | unmatched => rfl
  | absent htask =>
      unfold note
      dsimp only
      rw [htask]
  | turned htask hturn =>
      subst hdesk
      rw [note_step htask]
      exact hturn.fetches_eq_nil htask hclosed

theorem fetches_ledger (hclosed : Closed s) (hcorrelated : Correlated s.host) (acts : List Act) :
    (ledger s acts).fetches = [] := by
  induction acts generalizing s with
  | nil => rfl
  | cons a acts ih =>
      show (note s a).fetches ++ (ledger (act s a) acts).fetches = []
      rw [fetches_note hclosed hcorrelated a,
        ih (hclosed.act hcorrelated a) (hcorrelated.act a), List.append_nil]

theorem refused_note (hclosed : Closed s) (hcorrelated : Correlated s.host) {id : TaskId}
    {t : Task} (htask : s.host.tasks[id]? = some t) (hasks : asks s t = true) :
    (note s (.step id)).refused = 1 := by
  have hmove := move_act hcorrelated (.step id)
  generalize hdesk : (Fetching.act s (.step id)).host.desk = d at hmove
  cases hmove with
  | background hstep => exact absurd rfl (hstep id)
  | begun hstep => exact absurd rfl (hstep id)
  | absent hnone =>
      rw [htask] at hnone
      cases hnone
  | turned htask' hturn =>
      subst hdesk
      cases htask.symm.trans htask'
      rw [note_step htask]
      exact hturn.refused_eq_one htask hclosed hasks

/-- No task can go on without time passing, and no fetch waits for room in the outbox. -/
structure AtRest (r : Resolver) : Prop where
  waits : ∀ id, r.taskReady id = false
  roomy : ∀ {id : TaskId} {t : Task}, r.tasks[id]? = some t → t.phase.isFetching = false

theorem AtRest.mem_pending_iff {r : Resolver} (h : AtRest r) (hcorrelated : Correlated r)
    (hremembers : r.desk.Remembers) (correlation : String) :
    correlation ∈ r.pending ↔ correlation ∈ r.correlator.registered := by
  constructor
  · intro hmem
    rcases (hremembers correlation).mp hmem with ⟨id, t, htask, hcarries⟩
    replace htask : r.tasks[id]? = some t := htask
    rcases phase_of_correlation? hcarries with
      ⟨ticket, m, settings, hphase⟩ | ⟨wait, settings, hphase⟩
    · have hroomy := h.roomy htask
      rw [hphase] at hroomy
      cases hroomy
    · rcases hcorrelated.open_or_handed htask hphase with hopen | ⟨reply, hhanded⟩
      · exact Correlator.mem_of_open hopen
      · have hready := taskReady_of_handed htask hphase hhanded
        rw [h.waits id] at hready
        cases hready
  · intro hmem
    rcases exists_lookup_of_mem hmem with ⟨reg, hreg⟩
    rcases hcorrelated.registered hreg with ⟨id, t, settings, htask, hphase⟩
    exact (hremembers correlation).mpr ⟨id, carries_of_awaiting htask hphase⟩

theorem balanced_of_idle {start : Recorded Resolver} (hidle : Idle start.host)
    (hzero : start.host.common.metrics.tally = {}) : Balanced start start {} := by
  have htally : start.host.desk.tally = {} := hzero
  have hnone : ∀ {id : TaskId} {t : Task}, start.host.desk.tasks[id]? ≠ some t := by
    intro id t ht
    replace ht : start.host.tasks[id]? = some t := ht
    rw [hidle.tasks] at ht
    simp at ht
  have hpending : start.host.desk.correlator.pending = 0 := by
    show start.host.correlator.registered.size = 0
    rw [hidle.registered]
    exact Std.ExtTreeMap.size_empty
  constructor
  · rw [htally]
    rfl
  · rw [htally]
    rfl
  · rw [htally, hpending]
    rfl
  · rw [htally]
    rfl
  · refine ⟨[], ⟨List.nodup_nil, ?_⟩, ?_⟩
    · intro id
      simp [hnone]
    · rw [htally]
      rfl
  · exact fun _ => rfl
  · exact ⟨by simp, fun ht => absurd ht hnone, List.nodup_nil⟩

/-- At every moment the counters of a resolver that began with nothing agree with the ledger: the
fetches that were issued are those that got into the outbox, each under an id of its own; they are
registered, were answered or timed out; each routed reply was accepted or is counted as unmatched;
and each lookup that did not fail is counted as a hit or as a miss.  At rest the remembered settings
and the registrations are equally many, and each miss for which there was a translator and settings
has its own fetch in the outbox, but for those that the outbox refused.  It refuses none while it has
a reader; after that it takes none, and each fetch that is brought to it is refused. -/
theorem fetch_accounts_balance {start : Recorded Resolver} (hidle : Idle start.host)
    (hzero : start.host.common.metrics.tally = {}) (acts : List Act) :
    let s := run start acts
    let l := ledger start acts
    let m := s.host.common.metrics
    (AtRest s.host → s.host.pending.size = s.host.correlator.pending ∧
        l.wanted = m.fetchesIssued + l.refused) ∧
      s.host.correlator.pending + l.accepted + m.fetchTimeouts = m.fetchesIssued ∧
      l.routed = l.accepted + m.unmatchedReplies ∧
      m.cacheHits + m.cacheMisses = l.lookups ∧
      m.fetchesIssued = l.fetches.length ∧
      (∀ fetch ∈ l.fetches, ∃ request key n,
        fetch = start.host.fetchMessage request key (Correlation.id n)) ∧
      (l.fetches.map (·.envelope.correlation)).Nodup ∧
      (¬Closed s → l.refused = 0) ∧
      (Closed s → (∀ later, (ledger s later).fetches = []) ∧
        ∀ id t, s.host.tasks[id]? = some t → asks s t = true → (note s (.step id)).refused = 1) := by
  intro s l m
  have hbegan := correlated_of_idle hidle
  have hbalanced : Balanced start s l := by
    have hrun := (balanced_of_idle hidle hzero).run hbegan rfl acts
    rwa [Ledger.empty_add] at hrun
  have hcorrelated : Correlated s.host := correlated_run hbegan acts
  have hremembers := remembers_run (remembers_of_idle hidle) hbegan acts
  refine ⟨?_, hbalanced.registered.symm, hbalanced.routed, hbalanced.lookups, hbalanced.issued, ?_,
    hbalanced.apart.distinct, hbalanced.refused,
    fun hclosed => ⟨fetches_ledger hclosed hcorrelated,
      fun _ _ htask hasks => refused_note hclosed hcorrelated htask hasks⟩⟩
  · intro hrest
    refine ⟨size_eq_of_mem_iff (hrest.mem_pending_iff hcorrelated hremembers), ?_⟩
    rcases hbalanced.wanted with ⟨ids, hroll, hwanted⟩
    have hnobody : ids = [] := by
      apply List.eq_nil_iff_forall_not_mem.mpr
      intro id hmem
      rcases (hroll.mem id).mp hmem with ⟨t, htask, hfetching⟩
      rw [hrest.roomy htask] at hfetching
      cases hfetching
    rw [hnobody] at hwanted
    exact hwanted
  · intro fetch hfetch
    rcases hbalanced.apart.asks fetch hfetch with ⟨request, key, n, _, hasks⟩
    exact ⟨request, key, n, hasks⟩

def oneFetch : List Act := asked .caller

theorem fetch_accounts_balance_one_fetch :
    AtRest (run unasked oneFetch).host ∧ (run unasked oneFetch).host.pending.size = 1 ∧
      (ledger unasked oneFetch).wanted = 1 := by
  have hidle : Idle unasked.host := ⟨rfl, rfl, rfl, rfl, rfl⟩
  have hkeys : (run unasked oneFetch).host.tasks.keys = [0] := by decide +kernel
  have hself : (run unasked oneFetch).host.taskReady 0 = false := by decide +kernel
  have hroomy : ((run unasked oneFetch).host.tasks[0]?).any (·.phase.isFetching) = false := by
    decide +kernel
  have hothers : ∀ {id : TaskId}, id ≠ 0 → (run unasked oneFetch).host.tasks[id]? = none := by
    intro id hid
    apply Std.ExtTreeMap.getElem?_eq_none
    rw [← Std.ExtTreeMap.mem_keys, hkeys, List.mem_singleton]
    exact hid
  have hrest : AtRest (run unasked oneFetch).host := by
    constructor
    · intro id
      by_cases hid : id = 0
      · rw [hid]
        exact hself
      · unfold Resolver.taskReady
        rw [hothers hid]
    · intro id t htask
      by_cases hid : id = 0
      · rw [← hid, htask] at hroomy
        exact hroomy
      · rw [hothers hid] at htask
        cases htask
  have hbalance := (fetch_accounts_balance hidle rfl oneFetch).1 hrest
  have hissued : (run unasked oneFetch).host.common.metrics.fetchesIssued = 1 := by decide +kernel
  have hrefused : (ledger unasked oneFetch).refused = 0 := by decide +kernel
  have hpending : (run unasked oneFetch).host.correlator.pending = 1 := by decide +kernel
  refine ⟨hrest, hbalance.1.trans hpending, ?_⟩
  rw [hbalance.2, hissued, hrefused]

/-- Where the reader of the outbox has left, a miss for which there are a translator and settings
has no fetch. -/
theorem left_outbox_takes_no_fetch :
    ¬∀ (start : Recorded Resolver) (acts : List Act), Idle start.host →
      start.host.common.metrics.tally = {} → AtRest (run start acts).host →
      (ledger start acts).wanted = (run start acts).host.common.metrics.fetchesIssued := by
  intro halways
  let acts : List Act :=
    [.closeOutbox, .start Resolver.temperature .caller (Duration.ofSecs 5), .step 0]
  have hempty : (run unasked acts).host.tasks = ∅ := by
    apply Std.ExtTreeMap.isEmpty_iff.mp
    decide +kernel
  have hrest : AtRest (run unasked acts).host := by
    constructor
    · intro id
      unfold Resolver.taskReady
      rw [hempty]
      simp
    · intro id t htask
      rw [hempty] at htask
      simp at htask
  have hequal := halways unasked acts ⟨rfl, rfl, rfl, rfl, rfl⟩ rfl hrest
  revert hequal
  decide +kernel

end Fetching
end MetricGateway
