import MetricGateway.Proofs.Fetching.Memory

/-!
# A ledger of requests and replies

A ledger is kept beside a run: the lookups that did not fail, the misses for which there was a
translator and settings, the fetches that got into the outbox and those that it refused, and the
replies that were routed.  It is kept from what can be seen of the steps, and not from the counters
of the resolver; this module shows that each step of a task moves both alike.
-/

namespace MetricGateway

namespace Resolver

def Task.Phase.isFetching : Task.Phase → Bool
  | .fetching _ _ _ _ => true
  | _ => false

def Task.Phase.isAwaiting : Task.Phase → Bool
  | .awaiting _ _ _ => true
  | _ => false

/-- Whether a task is about to ask the cache, and the cache has an answer. -/
def looksUp (r : Resolver) (t : Task) : Bool :=
  decide (t.phase = .starting) &&
    match r.lookup t with
    | .ok _ => true
    | .error _ => false

/-- Whether a task is about to ask a translator. -/
def wants (r : Resolver) (t : Task) : Bool :=
  decide (t.phase = .starting) &&
    match r.lookup t with
    | .ok none =>
        match r.routes.key? t.request.containerKind with
        | some key => ((r.missed t).subscribe t.request key).2.isOk
        | none => false
    | _ => false

theorem Wants.wants {r : Resolver} {t : Task} {key : String} {settings : MetricSettings}
    (h : Wants r t key settings) : r.wants t = true := by
  simp [Resolver.wants, h.phase, h.lookup, h.route, h.settings, Except.isOk, Except.toBool]

end Resolver

namespace Fetching

open Resolver (TaskId Task Report Desk Idle)

/-- What has happened to requests, fetches and replies. -/
structure Ledger where
  /-- The lookups in the cache that did not fail. -/
  lookups : Nat := 0
  /-- The misses for which there was a translator, and settings. -/
  wanted : Nat := 0
  /-- The fetches that the outbox refused. -/
  refused : Nat := 0
  /-- The fetches that got into the outbox, the first one first. -/
  fetches : List Message := []
  routed : Nat := 0
  /-- The replies that reached a wait. -/
  accepted : Nat := 0

def Ledger.add (l new : Ledger) : Ledger where
  lookups := l.lookups + new.lookups
  wanted := l.wanted + new.wanted
  refused := l.refused + new.refused
  fetches := l.fetches ++ new.fetches
  routed := l.routed + new.routed
  accepted := l.accepted + new.accepted

/-- Whether a task brings its fetch to the outbox in its next step. -/
def asks (s : Recorded Resolver) (t : Task) : Bool := s.host.wants t || t.phase.isFetching

/-- What a step of a task adds to the ledger, from what is left of the task and what the step brings
to the outbox. -/
def noteStep (s : Recorded Resolver) (t : Task) (left : Option Task) (own : List Message) :
    Ledger where
  lookups := if s.host.looksUp t then 1 else 0
  wanted := if s.host.wants t then 1 else 0
  refused := if asks s t && left.isNone then 1 else 0
  fetches := if asks s t && left.any (·.phase.isAwaiting) then own else []

def note (s : Recorded Resolver) : Act → Ledger
  | .step id =>
      match s.host.tasks[id]? with
      | none => {}
      | some t => noteStep s t (act s (.step id)).host.tasks[id]? (sentIn s (.step id))
  | .route reply => { routed := 1, accepted := if (s.host.route reply).2 then 1 else 0 }
  | _ => {}

def ledger (s : Recorded Resolver) : List Act → Ledger
  | [] => {}
  | a :: acts => (note s a).add (ledger (act s a) acts)

/-!
## Steps of tasks
-/

section

variable {s : Recorded Resolver} {id : TaskId} {t : Task} {d : Desk} {new : List Report}
  {own : List Message}

theorem Turn.lookups (h : Turn s id t d new own) :
    d.tally.hits + d.tally.misses =
      s.host.desk.tally.hits + s.host.desk.tally.misses +
        (noteStep s t d.tasks[id]? own).lookups := by
  have hlooks : ∀ {cached : Option Wire.Bytes}, t.phase = .starting →
      s.host.lookup t = .ok cached → s.host.looksUp t = true := by
    intro cached hphase hlookup
    simp [Resolver.looksUp, hphase, hlookup]
  have hnot : t.phase ≠ .starting → s.host.looksUp t = false := by
    intro hphase
    simp [Resolver.looksUp, hphase]
  unfold noteStep
  cases h with
  | idle hphase => simp [hnot hphase]
  | lookupFailed hphase hlookup => simp [Resolver.looksUp, hlookup]
  | hit hphase hlookup =>
      simp [hlooks hphase hlookup]
      omega
  | unrouted hphase hlookup =>
      simp [hlooks hphase hlookup]
      omega
  | unconfigured hphase hlookup =>
      simp [hlooks hphase hlookup]
      omega
  | parked _ hwants =>
      simp [hlooks hwants.phase hwants.lookup]
      omega
  | sent hwants =>
      simp [hlooks hwants.phase hwants.lookup]
      omega
  | refused hwants =>
      simp [hlooks hwants.phase hwants.lookup]
      omega
  | _ hphase => simp [hnot, hphase]

theorem Turn.issued (h : Turn s id t d new own) :
    d.tally.issued =
      s.host.desk.tally.issued + (noteStep s t d.tasks[id]? own).fetches.length := by
  unfold noteStep
  cases h with
  | idle hphase => simp
  | lookupFailed hphase hlookup =>
      simp [asks, Resolver.wants, Task.Phase.isFetching, hphase, hlookup]
  | hit hphase hlookup => simp [asks, Resolver.wants, Task.Phase.isFetching, hphase, hlookup]
  | unrouted hphase hlookup hroute =>
      simp [asks, Resolver.wants, Task.Phase.isFetching, hphase, hlookup, hroute]
  | unconfigured hphase hlookup hroute hsettings =>
      simp [asks, Resolver.wants, Task.Phase.isFetching, hphase, hlookup, hroute, hsettings,
        Except.isOk, Except.toBool]
  | parked _ hwants => simp [Desk.tasks_set, Task.Phase.isAwaiting]
  | sent hwants => simp [asks, hwants.wants, Desk.tasks_set, Task.Phase.isAwaiting]
  | refused hwants => simp [Desk.tasks_set]
  | resumed hphase =>
      simp [asks, hphase, Task.Phase.isFetching, Desk.tasks_set, Task.Phase.isAwaiting]
  | dropped hphase => simp [Desk.tasks_set]
  | _ hphase => simp [asks, Resolver.wants, Task.Phase.isFetching, hphase]

end

/-!
## Fetches that wait for room
-/

/-- The tasks whose fetches wait for room, each of them once. -/
structure Roll (d : Desk) (ids : List TaskId) : Prop where
  nodup : ids.Nodup
  mem : ∀ id, id ∈ ids ↔ ∃ t, d.tasks[id]? = some t ∧ t.phase.isFetching = true

section

variable {s : Recorded Resolver} {id : TaskId} {t : Task} {d d' : Desk} {left : Option Task}
  {new : List Report} {own : List Message} {ids : List TaskId}

theorem Roll.of_tasks (h : Roll d ids) (htasks : d'.tasks = d.tasks) : Roll d' ids := by
  refine ⟨h.nodup, ?_⟩
  rw [htasks]
  exact h.mem

theorem Roll.mem_set (h : Roll d ids) (htasks : d'.tasks = d.tasks) (other : TaskId) :
    (∃ x, (d'.set id left).tasks[other]? = some x ∧ x.phase.isFetching = true) ↔
      if id = other then left.any (·.phase.isFetching) = true else other ∈ ids := by
  rw [Desk.tasks_set, htasks]
  split
  · cases left <;> simp
  · exact (h.mem other).symm

theorem Roll.leave (h : Roll d ids) (htasks : d'.tasks = d.tasks)
    (hafter : left.any (·.phase.isFetching) = false) :
    Roll (d'.set id left) (ids.erase id) := by
  refine ⟨h.nodup.erase id, fun other => ?_⟩
  rw [h.mem_set htasks, h.nodup.mem_erase_iff]
  split
  next heq => simp [heq, hafter]
  next hne => simp [Ne.symm hne]

theorem Roll.mem_self (h : Roll d ids) (htask : d.tasks[id]? = some t) :
    id ∈ ids ↔ t.phase.isFetching = true := by
  rw [h.mem, htask]
  simp

theorem Roll.same (h : Roll d ids) (htasks : d'.tasks = d.tasks) (hnot : id ∉ ids)
    (hafter : left.any (·.phase.isFetching) = false) : Roll (d'.set id left) ids := by
  refine ⟨h.nodup, fun other => ?_⟩
  rw [h.mem_set htasks]
  split
  next heq => simp [← heq, hnot, hafter]
  next => exact Iff.rfl

theorem Roll.enter (h : Roll d ids) (htasks : d'.tasks = d.tasks) (hnot : id ∉ ids)
    (hafter : left.any (·.phase.isFetching) = true) : Roll (d'.set id left) (id :: ids) := by
  refine ⟨List.nodup_cons.mpr ⟨hnot, h.nodup⟩, fun other => ?_⟩
  rw [h.mem_set htasks, List.mem_cons]
  split
  next heq => simp [heq, hafter]
  next hne => simp [Ne.symm hne]

theorem Handing.not_fetching {reply : Envelope} {resolution : Resolver.Resolution}
    (h : Handing s t reply resolution left new own) :
    left.any (·.phase.isFetching) = false := by
  cases h <;> rfl

/-- A task that wants its fetch in the outbox has it there after the step, or has it wait for room,
or is refused. -/
theorem Turn.wanted (h : Turn s id t d new own) (htask : s.host.tasks[id]? = some t)
    (hroll : Roll s.host.desk ids) :
    ∃ ids', Roll d ids' ∧
      (noteStep s t d.tasks[id]? own).wanted + s.host.desk.tally.issued + ids.length =
        d.tally.issued + (noteStep s t d.tasks[id]? own).refused + ids'.length := by
  have hnot : t.phase.isFetching = false → id ∉ ids := by
    intro hfetching
    simp [hroll.mem_self htask, hfetching]
  have hquiet : ∀ {d : Desk} {left : Option Task}, d.tasks = s.host.tasks →
      d.tally.issued = s.host.desk.tally.issued → t.phase.isFetching = false →
      s.host.wants t = false → left.any (·.phase.isFetching) = false →
      ∃ ids', Roll (d.set id left) ids' ∧
        (noteStep s t (d.set id left).tasks[id]? own).wanted + s.host.desk.tally.issued +
            ids.length =
          (d.set id left).tally.issued + (noteStep s t (d.set id left).tasks[id]? own).refused +
            ids'.length := by
    intro d left htasks hissued hfetching hwants hleft
    refine ⟨ids, hroll.same htasks (hnot hfetching) hleft, ?_⟩
    simp [noteStep, asks, hfetching, hwants, hissued]
  have hlater : t.phase ≠ .starting → s.host.wants t = false := by
    intro hphase
    simp [Resolver.wants, hphase]
  have herased : t.phase.isFetching = true → (ids.erase id).length + 1 = ids.length := by
    intro hfetching
    have hmem : id ∈ ids := (hroll.mem_self htask).mpr hfetching
    rw [List.length_erase_of_mem hmem]
    exact Nat.sub_add_cancel (List.length_pos_of_mem hmem)
  cases h with
  | idle hphase =>
      have hthere : s.host.desk.tasks[id]? = some t := htask
      exact ⟨ids, hroll, by simp [noteStep, hlater hphase, hthere]⟩
  | lookupFailed hphase hlookup =>
      exact hquiet rfl rfl (by rw [hphase]; rfl) (by simp [Resolver.wants, hlookup]) rfl
  | hit hphase hlookup hhanded =>
      exact hquiet rfl rfl (by rw [hphase]; rfl) (by simp [Resolver.wants, hlookup])
        hhanded.not_fetching
  | unrouted hphase hlookup hroute hhanded =>
      exact hquiet rfl rfl (by rw [hphase]; rfl) (by simp [Resolver.wants, hlookup, hroute])
        hhanded.not_fetching
  | unconfigured hphase hlookup hroute hsettings =>
      refine hquiet rfl rfl (by rw [hphase]; rfl) ?_ rfl
      simp [Resolver.wants, hlookup, hroute, hsettings, Except.isOk, Except.toBool]
  | parked _ hwants =>
      refine ⟨_, hroll.enter rfl (hnot (by rw [hwants.phase]; rfl)) rfl, ?_⟩
      simp [noteStep, hwants.wants, Desk.tasks_set]
      omega
  | sent hwants =>
      refine ⟨_, hroll.same rfl (hnot (by rw [hwants.phase]; rfl)) rfl, ?_⟩
      simp [noteStep, hwants.wants, Desk.tasks_set]
      omega
  | refused hwants =>
      refine ⟨_, hroll.same rfl (hnot (by rw [hwants.phase]; rfl)) rfl, ?_⟩
      simp [noteStep, asks, hwants.wants, Desk.tasks_set]
      omega
  | resumed hphase =>
      have hlength := herased (by rw [hphase]; rfl)
      refine ⟨_, hroll.leave rfl rfl, ?_⟩
      simp [noteStep, hlater, hphase, Desk.tasks_set]
      omega
  | dropped hphase =>
      have hlength := herased (by rw [hphase]; rfl)
      refine ⟨_, hroll.leave rfl rfl, ?_⟩
      simp [noteStep, asks, hlater, hphase, Desk.tasks_set, Task.Phase.isFetching]
      omega
  | passedOn hphase _ hhanded =>
      exact hquiet rfl rfl (by rw [hphase]; rfl) (hlater (by simp [hphase])) hhanded.not_fetching
  | _ hphase => exact hquiet rfl rfl (by rw [hphase]; rfl) (hlater (by simp [hphase])) rfl

/-!
## Waits
-/

/-- A fetch that was counted is registered, has been answered or has timed out. -/
theorem Turn.registered (h : Turn s id t d new own) (htask : s.host.tasks[id]? = some t)
    (hcorrelated : Correlated s.host) :
    d.tally.issued + s.host.correlator.pending + s.host.desk.tally.timeouts =
      s.host.desk.tally.issued + d.correlator.pending + d.tally.timeouts := by
  have hsame : ∀ {d : Desk} {left : Option Task}, d.correlator = s.host.correlator →
      d.tally.issued = s.host.desk.tally.issued →
      d.tally.timeouts = s.host.desk.tally.timeouts →
      (d.set id left).tally.issued + s.host.correlator.pending + s.host.desk.tally.timeouts =
        s.host.desk.tally.issued + (d.set id left).correlator.pending +
          (d.set id left).tally.timeouts := by
    intro d left hcorrelator hissued htimeouts
    simp [hcorrelator, hissued, htimeouts]
  have hlistened : ∀ {correlation : String},
      s.host.correlator.registered[correlation]? = none →
      (s.host.correlator.listen correlation t.timeout s.host.now).1.pending =
        s.host.correlator.pending + 1 :=
    fun hfree => Correlator.pending_listen hfree t.timeout s.host.now
  cases h with
  | idle => rfl
  | sent hwants hlow hhigh =>
      have hfree := hlistened (hcorrelated.registered_eq_none htask (by simp [hwants.phase])
        (Or.inl ⟨_, hlow, hhigh, rfl⟩))
      simp [hfree]
      omega
  | @resumed ticket fetch correlation settings hphase =>
      have hown : GivenOut s.host s.host correlation ∨ s.host.Carries id correlation :=
        Or.inr (carries_of_fetching htask hphase)
      have hfree := hlistened (hcorrelated.registered_eq_none htask (by simp [hphase]) hown)
      simp [hfree]
      omega
  | @timedOut wait correlation settings e hphase hresult htimeout =>
      have hopen : s.host.correlator.Open wait correlation := by
        rcases hcorrelated.open_or_handed htask hphase with hopen | ⟨reply, hhanded⟩
        · exact hopen
        · rw [Correlator.result?_of_handed hhanded] at hresult
          cases hresult
      have hfinished := Correlator.pending_finish_of_open hopen
      simp
      omega
  | perished hphase hresult =>
      have hfinished := Correlator.pending_finish_of_handed
        (hcorrelated.handed_of_result htask hphase hresult)
      simp [hfinished]
  | passedOn hphase hresult =>
      have hfinished := Correlator.pending_finish_of_handed
        (hcorrelated.handed_of_result htask hphase hresult)
      simp [hfinished]
  | _ => exact hsame rfl rfl rfl

end

end Fetching
end MetricGateway
