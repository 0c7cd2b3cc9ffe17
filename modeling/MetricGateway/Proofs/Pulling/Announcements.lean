import MetricGateway.Proofs.Numerals
import MetricGateway.Proofs.Pulling.Tickers
import MetricGateway.Proofs.Pulling.Turnover

/-!
# The journal of started and stopped groups

The journal records when a group is started and when it is stopped.  The records are compared with
the groups that are there.  Every group that is created is recorded as started, and a group that is
dropped is recorded as stopped, whether its last metric was removed or moved away, its container
changed, or its ticker found nothing left to poll.  Only where all groups are stopped at once
nothing is recorded.
-/

namespace MetricGateway

namespace Event

def startsGroup (group : String) : Event → Bool
  | groupStarted name _ => name = group
  | _ => false

def stopsGroup (group : String) : Event → Bool
  | groupStopped name _ => name = group
  | _ => false

end Event

namespace Journal

def starts (j : Journal) (group : String) : Nat := j.entries.countP (·.2.startsGroup group)

def stops (j : Journal) (group : String) : Nat := j.entries.countP (·.2.stopsGroup group)

theorem starts_record (j : Journal) (now : Instant) (e : Event) (group : String) :
    (j.record now e).starts group = j.starts group + (e.startsGroup group).toNat := by
  unfold starts record
  rw [List.countP_cons]
  cases e.startsGroup group <;> rfl

theorem stops_record (j : Journal) (now : Instant) (e : Event) (group : String) :
    (j.record now e).stops group = j.stops group + (e.stopsGroup group).toNat := by
  unfold stops record
  rw [List.countP_cons]
  cases e.stopsGroup group <;> rfl

end Journal

namespace Pulling

theorem GroupKey.text_inj {k k' : GroupKey} : k.text = k'.text ↔ k = k' := by
  constructor
  · intro h
    have hsplit : ∀ k : GroupKey, k.text.toList =
        k.container.toInt.repr.toList ++ '_' :: k.intervalMs.toNat.repr.toList := by
      intro k
      unfold GroupKey.text
      rw [String.toList_append, String.toList_append, List.append_assoc]
      rfl
    have hchars := congrArg String.toList h
    rw [hsplit, hsplit] at hchars
    rcases append_cons_inj (notMem_repr_int rfl (by decide) k.container.toInt)
      (notMem_repr_int rfl (by decide) k'.container.toInt) hchars with ⟨hcontainer, hinterval⟩
    have hcontainers : k.container = k'.container :=
      Int32.toInt_inj.mp (Int.repr_injective (String.toList_inj.mp hcontainer))
    have hintervals : k.intervalMs = k'.intervalMs :=
      UInt64.toNat_inj.mp (Nat.repr_injective (String.toList_inj.mp hinterval))
    cases k
    cases k'
    cases hcontainers
    cases hintervals
    rfl
  · exact congrArg GroupKey.text

namespace Polling

def starts (p : Polling) (key : GroupKey) : Nat := p.common.journal.starts key.text

def stops (p : Polling) (key : GroupKey) : Nat := p.common.journal.stops key.text

/-- The starts and ends that were recorded between two states are those of the groups that came and
went; under each key there are some ends that were not recorded. -/
def Tallies (p p' : Polling) (unsaid : GroupKey → Nat) : Prop :=
  ∀ key, p'.starts key + p.stops key + p.registry.standing key =
    p.starts key + p'.stops key + p'.registry.standing key + unsaid key

variable {p p' p'' : Polling} {unsaid unsaid' : GroupKey → Nat}

theorem Tallies.trans (h : p.Tallies p' unsaid) (h' : p'.Tallies p'' unsaid') :
    p.Tallies p'' fun key => unsaid key + unsaid' key := by
  intro key
  have hfirst := h key
  have hsecond := h' key
  dsimp only
  omega

theorem tallies_of_counts (hstarts : ∀ key, p'.starts key = p.starts key)
    (hstops : ∀ key, p'.stops key = p.stops key) (hregistry : p'.registry = p.registry) :
    p.Tallies p' fun _ => 0 := by
  intro key
  rw [hstarts, hstops, hregistry]
  rfl

theorem tallies_of_same (hjournal : p'.common.journal = p.common.journal)
    (hregistry : p'.registry = p.registry) : p.Tallies p' fun _ => 0 := by
  apply tallies_of_counts _ _ hregistry
  · intro key
    exact congrArg (·.starts key.text) hjournal
  · intro key
    exact congrArg (·.stops key.text) hjournal

theorem tallies_refl (p : Polling) : p.Tallies p fun _ => 0 := tallies_of_same rfl rfl

theorem tallies_of_turnover {dropped created : List GroupRef}
    (hturnover : p.registry.Turnover p'.registry dropped created)
    (hstarts : ∀ key, p'.starts key = p.starts key + created.countP (·.key = key))
    (hstops : ∀ key, p'.stops key = p.stops key + dropped.countP (·.key = key)) :
    p.Tallies p' fun _ => 0 := by
  intro key
  have hgroups := hturnover key
  rw [hstarts, hstops]
  dsimp only
  omega

/-! ## What is recorded -/

theorem recordStopped_cons (p : Polling) (reason : String) (ref : GroupRef)
    (dropped : List GroupRef) :
    p.recordStopped reason (ref :: dropped) =
      (p.onCommon fun c => c.record (.groupStopped ref.key.text reason)).recordStopped reason
        dropped := rfl

theorem starts_recordStopped (p : Polling) (reason : String) (dropped : List GroupRef)
    (key : GroupKey) : (p.recordStopped reason dropped).starts key = p.starts key := by
  induction dropped generalizing p with
  | nil => rfl
  | cons ref dropped ih =>
      rw [recordStopped_cons, ih]
      exact Journal.starts_record _ _ _ _

theorem stops_recordStopped (p : Polling) (reason : String) (dropped : List GroupRef)
    (key : GroupKey) :
    (p.recordStopped reason dropped).stops key =
      p.stops key + dropped.countP (·.key = key) := by
  induction dropped generalizing p with
  | nil => rfl
  | cons ref dropped ih =>
      have hsame : Event.stopsGroup key.text (.groupStopped ref.key.text reason) =
          decide (ref.key = key) := decide_eq_decide.mpr GroupKey.text_inj
      have hrecorded : (p.onCommon fun c =>
          c.record (.groupStopped ref.key.text reason)).stops key =
            p.stops key + (decide (ref.key = key)).toNat := by
        rw [← hsame]
        exact Journal.stops_record _ _ _ _
      rw [recordStopped_cons, ih, hrecorded, List.countP_cons, Nat.add_assoc,
        Nat.add_comm _ (List.countP _ _)]
      cases decide (ref.key = key) <;> rfl

theorem starts_startGroup (p : Polling) (ref : GroupRef) (interval : Duration) (key : GroupKey) :
    (p.startGroup ref interval).starts key = p.starts key + [ref].countP (·.key = key) := by
  have hsame : Event.startsGroup key.text (.groupStarted ref.key.text interval) =
      decide (ref.key = key) := decide_eq_decide.mpr GroupKey.text_inj
  have hrecorded := Journal.starts_record p.common.journal p.common.now
    (.groupStarted ref.key.text interval) key.text
  rw [hsame] at hrecorded
  rw [List.countP_singleton]
  cases hkey : decide (ref.key = key) with
  | false =>
      rw [hkey] at hrecorded
      exact hrecorded
  | true =>
      rw [hkey] at hrecorded
      exact hrecorded

theorem stops_startGroup (p : Polling) (ref : GroupRef) (interval : Duration) (key : GroupKey) :
    (p.startGroup ref interval).stops key = p.stops key :=
  Journal.stops_record _ _ _ _

/-! ## Operations -/

theorem tallies_stopped {r : Registry} {dropped : List GroupRef}
    (hturnover : p.registry.Turnover r dropped []) (cancelled : List GroupRef) (reason : String) :
    p.Tallies (((p.setRegistry r).cancel cancelled).recordStopped reason dropped) fun _ => 0 := by
  apply tallies_of_turnover hturnover
  · exact starts_recordStopped _ reason dropped
  · exact stops_recordStopped _ reason dropped

theorem tallies_add (p : Polling) (target : Target) (metric : MetricId) (valueKind : ValueKind)
    (budget : UInt16) : p.Tallies (p.add target metric valueKind budget).1 fun _ => 0 := by
  cases hadd : p.registry.add target metric valueKind budget with
  | error e =>
      rw [add_of_error hadd]
      exact tallies_refl p
  | ok added =>
      rcases added with ⟨r, report⟩
      have hturnover := Registry.turnover_add hadd
      unfold add
      rw [hadd]
      dsimp only
      cases hcreated : report.created with
      | none =>
          rw [hcreated] at hturnover
          exact tallies_stopped hturnover _ _
      | some ref =>
          rw [hcreated] at hturnover
          apply tallies_of_turnover hturnover
          · intro key
            rw [starts_startGroup, starts_recordStopped]
            rfl
          · intro key
            rw [stops_startGroup, stops_recordStopped]
            rfl

theorem tallies_refresh (p : Polling) (metric : MetricId) :
    p.Tallies (p.refresh metric).1 fun _ => 0 := by
  apply tallies_of_turnover (p.registry.turnover_refresh metric)
  · intro key
    rfl
  · intro key
    rfl

theorem tallies_remove (p : Polling) (metric : MetricId) :
    p.Tallies (p.remove metric).1 fun _ => 0 := by
  unfold remove
  rcases hremove : p.registry.remove metric with ⟨r, _ | dropped⟩
  · exact tallies_refl p
  · exact tallies_stopped (Registry.turnover_remove hremove) _ _

theorem tallies_stopContainer (p : Polling) (container : ContainerId) :
    p.Tallies (p.stopContainer container).1 fun _ => 0 :=
  tallies_stopped (Registry.turnover_dropGroups _ _) _ _

theorem tallies_stopAll (p : Polling) : p.Tallies p.stopAll.1 p.registry.standing := by
  intro key
  have hnone : p.stopAll.1.registry.standing key = 0 := p.registry.standing_stopAll key
  rw [hnone]
  rfl

theorem tallies_shutdown (p : Polling) : p.Tallies p.shutdown p.registry.standing :=
  tallies_stopAll p

theorem tallies_tick (p : Polling) (ref : GroupRef) : p.Tallies (p.tick ref).1 fun _ => 0 := by
  unfold tick
  rcases htick : p.registry.tick ref with ⟨r, _ | report⟩
  · exact tallies_refl p
  · have hturnover := Registry.turnover_tick htick
    dsimp only
    cases houtcome : report.outcome with
    | stop =>
        rw [houtcome, if_pos rfl] at hturnover
        exact tallies_stopped hturnover _ _
    | poll request expired =>
        rw [houtcome, if_neg nofun] at hturnover
        apply tallies_of_turnover hturnover
        · intro key
          rfl
        · intro key
          rfl

/-! ## Tickers -/

theorem journal_send (c : Commons) (m : Message) : (c.send m).1.journal = c.journal := rfl

theorem journal_resend (c : Commons) (ticket : Ticket) (m : Message) :
    (c.resend ticket m).1.journal = c.journal := rfl

theorem Tallies.same (h : p.Tallies p' unsaid) (hjournal : p''.common.journal = p'.common.journal)
    (hregistry : p''.registry = p'.registry) : p.Tallies p'' unsaid :=
  h.trans (tallies_of_same hjournal hregistry)

theorem tallies_fire (p : Polling) (g : Generation) (t : Ticker) (due : Instant) :
    p.Tallies (p.fire g t due) fun _ => 0 := by
  have hround := p.tallies_tick t.ref
  unfold fire
  rcases htick : p.tick t.ref with ⟨after, _ | m⟩
  · rw [htick] at hround
    exact hround.same rfl rfl
  · rw [htick] at hround
    have hjournal := journal_send after.common m
    dsimp only
    rcases hsend : after.common.send m with ⟨common, offer⟩
    rw [hsend] at hjournal
    cases offer with
    | accepted => exact hround.same hjournal rfl
    | parked ticket => exact hround.same hjournal rfl
    | refused => exact hround.same hjournal rfl

theorem tallies_stepTicker (p : Polling) (g : Generation) (preference : Preference) :
    p.Tallies (p.stepTicker g preference) fun _ => 0 := by
  unfold stepTicker
  cases p.tickers[g]? with
  | none => exact tallies_refl p
  | some t =>
      dsimp only
      cases t.phase with
      | starting =>
          dsimp only
          cases t.begins? p.common.now with
          | none => exact tallies_of_same rfl rfl
          | some due => exact tallies_of_same rfl rfl
      | sleeping due =>
          dsimp only
          split
          · exact tallies_of_same rfl rfl
          · split
            · exact tallies_fire p g t due
            · exact tallies_refl p
      | publishing ticket m due =>
          have hjournal := journal_resend p.common ticket m
          dsimp only
          rcases hresend : p.common.resend ticket m with ⟨common, offer⟩
          rw [hresend] at hjournal
          cases offer with
          | accepted => exact tallies_of_same hjournal rfl
          | parked ticket => exact tallies_refl p
          | refused => exact tallies_of_same hjournal rfl

/-! ## Runs -/

/-- The number of groups under a key that a move drops without a record. -/
def hushed (p : Polling) (key : GroupKey) : Move → Nat
  | .perform .stopAll => p.registry.standing key
  | .perform .shutdown => p.registry.standing key
  | _ => 0

/-- The number of groups under a key that were dropped without a record along a run. -/
def hushedAlong (p : Polling) (key : GroupKey) : List Move → Nat
  | [] => 0
  | m :: moves => p.hushed key m + (p.move m).hushedAlong key moves

/-- Whatever else happens, nobody else records the start or the end of a group. -/
def Move.Reticent : Move → Prop
  | .perform _ => True
  | .share f => ∀ (c : Commons) (group : String),
      (f c).journal.starts group = c.journal.starts group ∧
        (f c).journal.stops group = c.journal.stops group

theorem tallies_perform (p : Polling) (op : Op) :
    p.Tallies (p.perform op) fun key => p.hushed key (.perform op) := by
  cases op with
  | add target metric valueKind budget => exact p.tallies_add target metric valueKind budget
  | refresh metric => exact p.tallies_refresh metric
  | remove metric => exact p.tallies_remove metric
  | stopContainer container => exact p.tallies_stopContainer container
  | stopAll => exact p.tallies_stopAll
  | shutdown => exact p.tallies_shutdown
  | tick ref => exact p.tallies_tick ref
  | turn generation preference => exact p.tallies_stepTicker generation preference

theorem tallies_move (p : Polling) {m : Move} (hreticent : m.Reticent) :
    p.Tallies (p.move m) fun key => p.hushed key m := by
  cases m with
  | perform op => exact p.tallies_perform op
  | share f =>
      have hstarts := fun key : GroupKey => (hreticent p.common key.text).1
      have hstops := fun key : GroupKey => (hreticent p.common key.text).2
      have hquiet : p.Tallies (p.onCommon f) fun _ => 0 := tallies_of_counts hstarts hstops rfl
      exact hquiet

theorem tallies_follow (p : Polling) {moves : List Move} (hreticent : ∀ m ∈ moves, m.Reticent) :
    p.Tallies (p.follow moves) fun key => p.hushedAlong key moves := by
  induction moves generalizing p with
  | nil => exact tallies_refl p
  | cons m moves ih =>
      have hfirst := p.tallies_move (hreticent m List.mem_cons_self)
      have hrest := ih (p.move m) fun m' hm' => hreticent m' (List.mem_cons_of_mem m hm')
      exact hfirst.trans hrest

theorem hushed_eq_zero_iff (p : Polling) (key : GroupKey) (m : Move) :
    p.hushed key m = 0 ↔
      (m = .perform .stopAll ∨ m = .perform .shutdown → key ∉ p.registry.groups) := by
  have hother : ∀ op : Op, op ≠ .stopAll → op ≠ .shutdown → p.hushed key (.perform op) = 0 := by
    intro op hstop hshut
    cases op with
    | stopAll => exact absurd rfl hstop
    | shutdown => exact absurd rfl hshut
    | _ => rfl
  by_cases hends : m = .perform .stopAll ∨ m = .perform .shutdown
  · have hhushed : p.hushed key m = p.registry.standing key := by
      rcases hends with rfl | rfl
      · rfl
      · rfl
    rw [hhushed, Registry.standing_eq_zero_iff]
    exact ⟨fun hnot _ => hnot, fun h => h hends⟩
  · cases m with
    | share f => exact iff_of_true rfl fun h => absurd h hends
    | perform op =>
        have hzero := hother op (fun h => hends (Or.inl (congrArg Move.perform h)))
          fun h => hends (Or.inr (congrArg Move.perform h))
        exact iff_of_true hzero fun h => absurd h hends

/-- No end of a group goes unrecorded exactly if all groups are stopped at once only where there is
no group under the key. -/
theorem hushedAlong_eq_zero_iff (p : Polling) (key : GroupKey) (moves : List Move) :
    p.hushedAlong key moves = 0 ↔
      ∀ before m after, moves = before ++ m :: after →
        m = .perform .stopAll ∨ m = .perform .shutdown →
          key ∉ (p.follow before).registry.groups := by
  induction moves generalizing p with
  | nil =>
      apply iff_of_true rfl
      intro before m after hmoves
      cases List.append_eq_nil_iff.mp hmoves.symm |>.2
  | cons first moves ih =>
      show p.hushed key first + (p.move first).hushedAlong key moves = 0 ↔ _
      rw [Nat.add_eq_zero_iff, hushed_eq_zero_iff, ih]
      constructor
      · rintro ⟨hfirst, hrest⟩ before m after hmoves hends
        cases before with
        | nil =>
            cases hmoves
            exact hfirst hends
        | cons head before =>
            cases hmoves
            exact hrest before m after rfl hends
      · intro hall
        constructor
        · exact hall [] first moves rfl
        · intro before m after hmoves
          exact hall (first :: before) m after (congrArg (first :: ·) hmoves)

/-- Along every run in which nobody else records the start or the end of a group: under each key
the starts on record are the ends on record, the groups that were dropped without a record, and the
group that is there.  So the starts exceed the ends by the group that is there exactly if all groups
were stopped at once, or polling was shut down, only while there was no group under the key. -/
theorem starts_exceed_stops_iff (common : Commons) (hnew : common.journal.entries = [])
    (exchange replyKey : String) (messageTtl : Duration) (moves : List Move)
    (hreticent : ∀ m ∈ moves, m.Reticent) (key : GroupKey) :
    let start : Polling := { common, exchange, replyKey, messageTtl }
    let p := start.follow moves
    p.starts key = p.stops key + start.hushedAlong key moves + p.registry.standing key ∧
      ((p.starts key : Int) - p.stops key = (if key ∈ p.registry.groups then 1 else 0) ↔
        ∀ before m after, moves = before ++ m :: after →
          m = .perform .stopAll ∨ m = .perform .shutdown →
            key ∉ (start.follow before).registry.groups) := by
  intro start p
  have htally : p.starts key + start.stops key + start.registry.standing key =
      start.starts key + p.stops key + p.registry.standing key + start.hushedAlong key moves :=
    start.tallies_follow hreticent key
  have hstarts : start.starts key = 0 := by
    unfold starts Journal.starts
    rw [hnew]
    rfl
  have hstops : start.stops key = 0 := by
    unfold stops Journal.stops
    rw [hnew]
    rfl
  have hnone : start.registry.standing key = 0 :=
    (Registry.standing_eq_zero_iff _ key).mpr Std.ExtTreeMap.not_mem_empty
  have hbalance : p.starts key =
      p.stops key + start.hushedAlong key moves + p.registry.standing key := by
    rw [hstarts, hstops, hnone] at htally
    omega
  constructor
  · exact hbalance
  · rw [← hushedAlong_eq_zero_iff]
    have hthere : (if key ∈ p.registry.groups then 1 else 0 : Int) = p.registry.standing key := by
      unfold Registry.standing
      split <;> rfl
    rw [hthere]
    omega

def everySecond : Target := ⟨7, .snmpV2c, "snmp", Duration.ofSecs 1⟩

def everyMinute : Target := ⟨7, .snmpV2c, "snmp", Duration.ofSecs 60⟩

def unrecorded : Polling where
  common := { journal := { service := "rts" }, outbox := { capacity := 1 } }
  exchange := "fetch"
  replyKey := "rts"
  messageTtl := Duration.ofSecs 60

def movesMetric : List Move :=
  [.perform (.add everySecond 42 .int 5), .perform (.add everyMinute 42 .int 5)]

theorem starts_exceed_stops_moved :
    (∀ m ∈ movesMetric, m.Reticent) ∧
      let p := unrecorded.follow movesMetric
      p.starts everySecond.groupKey = 1 ∧ p.stops everySecond.groupKey = 1 ∧
        (p.starts everyMinute.groupKey : Int) - p.stops everyMinute.groupKey = 1 := by
  have hreticent : ∀ m ∈ movesMetric, m.Reticent := by
    simp [movesMetric, Move.Reticent]
  have hkept : ∀ before m after, movesMetric = before ++ m :: after →
      m = .perform .stopAll ∨ m = .perform .shutdown →
        everyMinute.groupKey ∉ (unrecorded.follow before).registry.groups := by
    intro before m after hmoves hends
    have hmem : m ∈ movesMetric := by
      rw [hmoves]
      exact List.mem_append_right _ List.mem_cons_self
    rcases hends with rfl | rfl
    · simp [movesMetric] at hmem
    · simp [movesMetric] at hmem
  have hthere : everyMinute.groupKey ∈ (unrecorded.follow movesMetric).registry.groups := by
    decide +kernel
  have hexceed := (starts_exceed_stops_iff unrecorded.common rfl unrecorded.exchange
    unrecorded.replyKey unrecorded.messageTtl movesMetric hreticent
    everyMinute.groupKey).2.mpr hkept
  constructor
  · exact hreticent
  constructor
  · decide +kernel
  constructor
  · decide +kernel
  · exact hexceed.trans (if_pos hthere)

/-- A group that is stopped together with all others is recorded as started only. -/
theorem stopAll_leaves_end_unrecorded :
    let p := unrecorded.follow [.perform (.add everySecond 42 .int 5), .perform .stopAll]
    everySecond.groupKey ∉ p.registry.groups ∧
      (p.starts everySecond.groupKey : Int) - p.stops everySecond.groupKey = 1 := by
  decide +kernel

end Polling
end Pulling
end MetricGateway
