import Mathlib.Data.Int.CardIntervalMod
import MetricGateway.Proofs.Broker.Piles

/-!
# Round robin

A queue hands its messages to the consumers that read it in turn.  The turn is a counter that is
reduced by the number of these consumers, whatever it is at the moment: it goes on counting when
consumers come and go.  As long as the same consumers read the queue and have room, the messages are
dealt like cards, so that no consumer gets more than one message more than another one.

One publish can hand several messages to a queue.  Therefore the runs of the broker are looked at
here message by message.
-/

namespace MetricGateway
namespace Broker

variable {b : Broker} {name : String} {m : Message} {c : ConsumerId}

/-! ## Runs, message by message -/

/-- What happens to the broker at a time: a message is handed to a queue, or an operation that is
not a publish is performed. -/
inductive Event where
  | deliver (name : String) (m : Message)
  | perform (op : Op) (quiet : ∀ m, op ≠ .publish m)

def happen (b : Broker) : Event → Broker
  | .deliver name m => b.deliver name m
  | .perform op _ => b.perform op

def undergo (b : Broker) (events : List Event) : Broker := events.foldl happen b

theorem undergo_cons (b : Broker) (event : Event) (events : List Event) :
    b.undergo (event :: events) = (b.happen event).undergo events := rfl

theorem undergo_append (b : Broker) (events more : List Event) :
    b.undergo (events ++ more) = (b.undergo events).undergo more :=
  List.foldl_append

/-- The events of an operation: a publish that is accepted hands a message to each queue that it
goes to. -/
def events (b : Broker) : Op → List Event
  | .publish m =>
      if (b.publish m).2 = .ok () then (b.destinations m).map fun name => .deliver name m else []
  | .openConsumer binding => [.perform (.openConsumer binding) nofun]
  | .take id => [.perform (.take id) nofun]
  | .close id => [.perform (.close id) nofun]
  | .cancelAll => [.perform .cancelAll nofun]
  | .setRefusing refusing => [.perform (.setRefusing refusing) nofun]

def handedTo (name : String) : List Event → List Message
  | [] => []
  | .deliver other m :: events =>
      if other = name then m :: handedTo name events else handedTo name events
  | .perform _ _ :: events => handedTo name events

theorem handedTo_cons_deliver (name : String) (m : Message) (events : List Event) :
    handedTo name (.deliver name m :: events) = m :: handedTo name events := if_pos rfl

theorem handedTo_cons_of_ne {event : Event} (h : ∀ m, event ≠ .deliver name m)
    (events : List Event) : handedTo name (event :: events) = handedTo name events := by
  cases event with
  | deliver other m =>
      have hother : other ≠ name := fun heq => h m (heq ▸ rfl)
      exact if_neg hother
  | perform op quiet => rfl

theorem undergo_deliver (b : Broker) (m : Message) (names : List String) :
    b.undergo (names.map fun name => .deliver name m) = b.deliverEach m names := by
  induction names generalizing b with
  | nil => rfl
  | cons name names ih => exact ih (b.deliver name m)

theorem undergo_events {op : Op} (hfits : ∀ m, op = .publish m → m.envelope.Fits) (b : Broker) :
    b.undergo (b.events op) = b.perform op := by
  cases op with
  | publish m =>
      have hwhole := publishesWhole (hfits m rfl) b
      show b.undergo (if (b.publish m).2 = .ok () then _ else []) = (b.publish m).1
      split
      next hok => rw [undergo_deliver, (hwhole.served hok).2]
      next hrefused =>
        rw [publish_of_not_ok (hfits m rfl) hrefused]
        rfl
  | _ => rfl

theorem count_destinations (h : b.Wired) (m : Message) (name : String) :
    (b.destinations m).count name = (b.leading m name).length := by
  unfold destinations
  cases hexchange : b.exchanges[m.exchange]? with
  | none => rw [h.leading_eq_nil hexchange]; rfl
  | some kind => exact count_targets hexchange name

theorem handedTo_deliver (name : String) (m : Message) (names : List String) :
    handedTo name (names.map fun name => .deliver name m) =
      List.replicate (names.count name) m := by
  induction names with
  | nil => rfl
  | cons first names ih =>
      rw [List.map_cons]
      by_cases heq : first = name
      · rw [heq, handedTo_cons_deliver, List.count_cons_self, List.replicate_succ, ih]
      · have hother : ∀ m', Event.deliver first m ≠ .deliver name m' :=
          fun m' hsame => heq (Event.deliver.inj hsame).1
        rw [handedTo_cons_of_ne hother, List.count_cons_of_ne heq, ih]

theorem Wired.handedTo_events (h : b.Wired) (name : String) (op : Op) :
    handedTo name (b.events op) = copies name b op := by
  cases op with
  | publish m =>
      show handedTo name (if (b.publish m).2 = .ok () then _ else []) =
        if (b.publish m).2 = .ok () then _ else []
      split
      · rw [handedTo_deliver, count_destinations h]
      · rfl
  | _ => rfl

theorem handedTo_append (name : String) (es more : List Event) :
    handedTo name (es ++ more) = handedTo name es ++ handedTo name more := by
  induction es with
  | nil => rfl
  | cons event es ih =>
      rw [List.cons_append]
      by_cases hhere : ∃ m, event = .deliver name m
      · rcases hhere with ⟨m, rfl⟩
        rw [handedTo_cons_deliver, handedTo_cons_deliver, ih, List.cons_append]
      · have hother : ∀ m, event ≠ .deliver name m := fun m heq => hhere ⟨m, heq⟩
        rw [handedTo_cons_of_ne hother, handedTo_cons_of_ne hother, ih]

/-- A run of operations is a run of their events, which hands to a queue what comes there. -/
theorem Wired.undergo_gather (h : b.Wired) (name : String) {ops : List Op}
    (hfits : ∀ m, .publish m ∈ ops → m.envelope.Fits) :
    b.undergo (b.gather events ops) = b.run ops ∧
      handedTo name (b.gather events ops) = b.gather (copies name) ops := by
  induction ops generalizing b with
  | nil => exact ⟨rfl, rfl⟩
  | cons op ops ih =>
      have hfirst := undergo_events (fun m hop => hfits m (hop ▸ List.mem_cons_self)) b
      rcases ih (h.perform op) fun m hm => hfits m (List.mem_cons_of_mem op hm) with
        ⟨hundergo, hhanded⟩
      constructor
      · rw [gather_cons, undergo_append, hfirst]
        exact hundergo
      · rw [gather_cons, gather_cons, handedTo_append, h.handedTo_events, hhanded]

/-! ## Taking turns -/

def turns (cs : List ConsumerId) (r n : Nat) : List ConsumerId :=
  (List.range' r n).filterMap fun t => cs[t % cs.length]?

def dealt (c : ConsumerId) (ts : List ConsumerId) (ms : List Message) : List Message :=
  ((ts.zip ms).filter (·.1 = c)).map (·.2)

theorem turns_succ {cs : List ConsumerId} {r : Nat} {turn : ConsumerId}
    (hturn : cs[r % cs.length]? = some turn) (n : Nat) :
    turns cs r (n + 1) = turn :: turns cs (r + 1) n := by
  unfold turns
  rw [List.range'_succ, List.filterMap_cons, hturn]

theorem dealt_cons (c turn : ConsumerId) (ts : List ConsumerId) (m : Message) (ms : List Message) :
    dealt c (turn :: ts) (m :: ms) = (if turn = c then [m] else []) ++ dealt c ts ms := by
  unfold dealt
  rw [List.zip_cons_cons]
  by_cases heq : turn = c
  · rw [List.filter_cons_of_pos (by simpa using heq), if_pos heq]
    rfl
  · rw [List.filter_cons_of_neg (by simpa using heq), if_neg heq]
    rfl

theorem length_dealt (c : ConsumerId) {ts : List ConsumerId} {ms : List Message}
    (h : ts.length = ms.length) : (dealt c ts ms).length = ts.count c := by
  induction ts generalizing ms with
  | nil => rfl
  | cons turn ts ih =>
      cases ms with
      | nil => cases h
      | cons m ms =>
          rw [dealt_cons, List.length_append, ih (Nat.succ.inj h), List.count_cons, Nat.add_comm]
          by_cases heq : turn = c
          · rw [if_pos heq, if_pos (by simpa using heq)]
            rfl
          · rw [if_neg heq, if_neg (by simpa using heq)]
            rfl

theorem mem_of_mem_turns {cs : List ConsumerId} {r n : Nat} (h : c ∈ turns cs r n) : c ∈ cs := by
  rcases List.mem_filterMap.mp h with ⟨t, _, ht⟩
  exact List.mem_of_getElem? ht

theorem exists_turn {cs : List ConsumerId} (h : cs ≠ []) (r : Nat) :
    ∃ turn, cs[r % cs.length]? = some turn := by
  have hlt : r % cs.length < cs.length := Nat.mod_lt r (List.length_pos_iff.mpr h)
  exact ⟨cs[r % cs.length], List.getElem?_eq_getElem hlt⟩

theorem length_turns {cs : List ConsumerId} (h : cs ≠ []) (r n : Nat) :
    (turns cs r n).length = n := by
  induction n generalizing r with
  | zero => rfl
  | succ n ih =>
      rcases exists_turn h r with ⟨turn, hturn⟩
      rw [turns_succ hturn, List.length_cons, ih]

/-- A consumer has its turn whenever the counter leaves its place as the remainder. -/
theorem count_turns_eq {cs : List ConsumerId} (hnodup : cs.Nodup) {j : Nat} (hj : cs[j]? = some c)
    (r n : Nat) : (turns cs r n).count c + Nat.count (· ≡ j [MOD cs.length]) r =
      Nat.count (· ≡ j [MOD cs.length]) (r + n) := by
  have hlt : j < cs.length := (List.getElem?_eq_some_iff.mp hj).1
  have hne : cs ≠ [] := List.ne_nil_of_length_pos (Nat.zero_lt_of_lt hlt)
  induction n generalizing r with
  | zero => exact Nat.zero_add _
  | succ n ih =>
      rcases exists_turn hne r with ⟨turn, hturn⟩
      have hplace : turn = c ↔ r ≡ j [MOD cs.length] := by
        unfold Nat.ModEq
        rw [Nat.mod_eq_of_lt hlt]
        constructor
        · intro heq
          rw [heq, ← hj] at hturn
          exact ((List.getElem?_inj hlt hnodup).mp hturn.symm).symm
        · intro heq
          rw [heq, hj] at hturn
          exact (Option.some.inj hturn).symm
      have hnext := ih (r + 1)
      rw [Nat.count_succ, Nat.add_right_comm, Nat.add_assoc r] at hnext
      rw [turns_succ hturn, List.count_cons, ← hnext]
      simp only [beq_iff_eq, hplace]
      omega

theorem div_rounded_up {k : Nat} (hk : 0 < k) (n : Nat) :
    (n + k - 1) / k = n / k + if 1 ≤ n % k then 1 else 0 := by
  have hpred : k - 1 < k := Nat.sub_one_lt_of_lt hk
  have hrest : k ≤ n % k + (k - 1) ↔ 1 ≤ n % k := by omega
  rw [Nat.add_sub_assoc hk, Nat.add_div hk, Nat.div_eq_of_lt hpred, Nat.mod_eq_of_lt hpred,
    Nat.add_zero]
  simp only [hrest]

theorem count_turns {cs : List ConsumerId} (hnodup : cs.Nodup) (hc : c ∈ cs) (r n : Nat) :
    (turns cs r n).count c = n / cs.length ∨
      (turns cs r n).count c = (n + cs.length - 1) / cs.length := by
  rcases List.getElem?_of_mem hc with ⟨j, hj⟩
  have hlt : j < cs.length := (List.getElem?_eq_some_iff.mp hj).1
  have hpos : 0 < cs.length := Nat.zero_lt_of_lt hlt
  have hcount := count_turns_eq hnodup hj r n
  rw [Nat.count_modEq_card _ hpos, Nat.count_modEq_card _ hpos, Nat.mod_eq_of_lt hlt,
    Nat.add_div hpos, Nat.add_mod_eq_ite] at hcount
  -- What is left depends on where the turns begin and end within a round.
  have hfirst := Nat.mod_lt r hpos
  have hlast := Nat.mod_lt n hpos
  rw [div_rounded_up hpos]
  split at hcount <;> split at hcount <;> split at hcount <;> split <;> omega

/-! ## Handing a message to the consumer whose turn it is -/

def rotation (b : Broker) (name : String) : UInt64 := (b.queues.getD name {}).rotation

theorem rotation_of_getElem? {q : Queue} (h : b.queues[name]? = some q) :
    b.rotation name = q.rotation := by
  unfold rotation
  rw [Std.ExtTreeMap.getD_eq_getD_getElem?, h, Option.getD_some]

theorem rotation_congr {after : Broker} (h : after.queues[name]? = b.queues[name]?) :
    after.rotation name = b.rotation name := by
  unfold rotation
  rw [Std.ExtTreeMap.getD_eq_getD_getElem?, Std.ExtTreeMap.getD_eq_getD_getElem?, h]

theorem exists_queue_of_readers (h : b.readers name ≠ []) : ∃ q, b.queues[name]? = some q := by
  have hmem : name ∈ b.queues := by
    apply Decidable.byContradiction
    intro hnone
    apply h
    unfold readers
    rw [members_of_not_mem hnone]
    rfl
  exact exists_lookup_of_mem hmem

theorem deliver_of_turn {q : Queue} (hq : b.queues[name]? = some q)
    (hturn : (b.readers name)[(b.rotation name).toNat % (b.readers name).length]? = some c)
    (m : Message) :
    b.deliver name m = ({ b with queues := b.queues.insert name { q with
      consumers := b.readers name, rotation := q.rotation + 1 } } : Broker).offer c m := by
  rw [rotation_of_getElem? hq, readers_of_getElem? hq] at hturn
  unfold deliver
  rw [hq, readers_of_getElem? hq]
  dsimp only
  rw [hturn]

/-- The message goes to one consumer that reads the queue, behind what it holds, and to nobody
else. -/
structure Hands (b : Broker) (name : String) (m : Message) (c : ConsumerId) : Prop where
  reads : c ∈ b.readers name
  handed : (b.deliver name m).unread c = b.unread c ++ [m]
  others : ∀ d, d ≠ c → (b.deliver name m).unread d = b.unread d
  waiting : ∀ other, (b.deliver name m).waiting other = b.waiting other

theorem hands_of_turn
    (hturn : (b.readers name)[(b.rotation name).toNat % (b.readers name).length]? = some c)
    (hroom : (b.unread c).length < consumerBuffer) (m : Message) :
    b.Hands name m c ∧ (b.deliver name m).rotation name = b.rotation name + 1 := by
  have hreads : c ∈ b.readers name := List.mem_of_getElem? hturn
  rcases exists_queue_of_readers (List.ne_nil_of_mem hreads) with ⟨q, hq⟩
  have hdeliver := deliver_of_turn hq hturn m
  have hlive : b.isLive c = true := (mem_readers_iff.mp hreads).2
  have hqueue : (b.deliver name m).queues[name]? = some { q with
      consumers := b.readers name, rotation := q.rotation + 1 } := by
    rw [hdeliver, queues_offer]
    exact Std.ExtTreeMap.getElem?_insert_self
  refine ⟨⟨hreads, ?_, ?_, ?_⟩, ?_⟩
  · let turned : Broker := { b with queues := b.queues.insert name { q with
      consumers := b.readers name, rotation := q.rotation + 1 } }
    have hoffered := unread_offer_self (b := turned) hlive m
    rw [hdeliver]
    exact hoffered.trans (if_pos hroom)
  · intro d hd
    rw [hdeliver, unread_offer_of_ne _ hd]
    rfl
  · intro other
    by_cases hother : other = name
    · rw [hother, waiting_of_getElem? hqueue, waiting_of_getElem? hq]
    · exact waiting_congr (getElem?_queues_deliver_of_ne b hother m)
  · rw [rotation_of_getElem? hqueue, rotation_of_getElem? hq]

/-- A message for a queue that somebody reads goes to one of its consumers, as long as none of them
is full. -/
theorem exists_hands (hreads : b.readers name ≠ [])
    (hroom : ∀ c ∈ b.readers name, (b.unread c).length < consumerBuffer) (m : Message) :
    ∃ c, b.Hands name m c := by
  rcases exists_turn hreads (b.rotation name).toNat with ⟨c, hturn⟩
  exact ⟨c, (hands_of_turn hturn (hroom c (List.mem_of_getElem? hturn)) m).1⟩

/-! ## Rounds -/

/-- At an event that hands a message to a queue, every consumer that reads the queue has room. -/
def HasRoom (b : Broker) (name : String) : Event → Prop
  | .deliver other _ =>
      other = name → ∀ c ∈ b.readers name, (b.unread c).length < consumerBuffer
  | .perform _ _ => True

/-- Through all events the same consumers read a queue, none opened and none closed, and whenever a
message is handed to the queue they have room. -/
def Steady (b : Broker) (name : String) (cs : List ConsumerId) : List Event → Prop
  | [] => b.readers name = cs
  | event :: events =>
      b.readers name = cs ∧ b.HasRoom name event ∧ (b.happen event).Steady name cs events

instance decidableHasRoom (b : Broker) (name : String) :
    (event : Event) → Decidable (b.HasRoom name event)
  | .deliver other _ => inferInstanceAs (Decidable
      (other = name → ∀ c ∈ b.readers name, (b.unread c).length < consumerBuffer))
  | .perform _ _ => inferInstanceAs (Decidable True)

instance decidableSteady (b : Broker) (name : String) (cs : List ConsumerId) :
    (events : List Event) → Decidable (b.Steady name cs events)
  | [] => inferInstanceAs (Decidable (b.readers name = cs))
  | event :: events =>
      have := decidableSteady (b.happen event) name cs events
      inferInstanceAs (Decidable
        (b.readers name = cs ∧ b.HasRoom name event ∧ (b.happen event).Steady name cs events))

def takenFrom (c : ConsumerId) (b : Broker) : Event → List Message
  | .perform (.take id) _ => if id = c then (b.take id).2.toList else []
  | _ => []

def taken (c : ConsumerId) (b : Broker) : List Event → List Message
  | [] => []
  | event :: events => takenFrom c b event ++ (b.happen event).taken c events

theorem Steady.readers {cs : List ConsumerId} {events : List Event} (h : b.Steady name cs events) :
    b.readers name = cs := by
  cases events with
  | nil => exact h
  | cons event events => exact h.1

theorem unread_openConsumer (binding : Binding) (hc : c < b.opened) :
    (b.openConsumer binding).1.unread c = b.unread c := by
  rcases openConsumer_cases b binding with ⟨e, heq⟩ | ⟨exchanges, namedQueues, _, _, _, heq⟩
  · rw [heq]
  · rw [heq]
    exact unread_attach_of_ne (b.routed exchanges namedQueues binding) _ _ (Nat.ne_of_lt hc)

theorem Wired.happen (h : b.Wired) (event : Event) : (b.happen event).Wired := by
  cases event with
  | deliver name m => exact h.deliver name m
  | perform op quiet => exact h.perform op

/-- What happens elsewhere leaves the consumers of a queue what they hold, up to what somebody
takes, and the queue its turn. -/
theorem Wired.happen_elsewhere (h : b.Wired) {event : Event}
    (hother : ∀ m, event ≠ .deliver name m) (hreads : b.readers name ≠ [])
    (hsame : (b.happen event).readers name = b.readers name) :
    (b.happen event).rotation name = b.rotation name ∧ ∀ c ∈ b.readers name,
      b.unread c = takenFrom c b event ++ (b.happen event).unread c := by
  have hnumbered : ∀ c ∈ b.readers name, c < b.opened :=
    fun c hc => h.opened name c (mem_readers_iff.mp hc).1
  cases event with
  | deliver other m =>
      have hne : name ≠ other := fun heq => hother m (heq ▸ rfl)
      constructor
      · exact rotation_congr (getElem?_queues_deliver_of_ne b hne m)
      · intro c hc
        refine (unread_deliver_of_not_mem ?_ m).symm
        intro hmem
        exact hne (h.apart (mem_readers_iff.mp hc).1 (mem_readers_iff.mp hmem).1)
  | perform op quiet =>
      cases op with
      | publish m => exact absurd rfl (quiet m)
      | openConsumer binding =>
          have helsewhere : b.opened ∉ (b.openConsumer binding).1.readers name := by
            have hafter : (b.openConsumer binding).1.readers name = b.readers name := hsame
            rw [hafter]
            exact fun hmem => Nat.lt_irrefl _ (hnumbered _ hmem)
          constructor
          · exact rotation_congr (h.openConsumer_elsewhere helsewhere).1
          · intro c hc
            exact (unread_openConsumer binding (hnumbered c hc)).symm
      | take id =>
          constructor
          · exact rotation_congr (congrArg (·[name]?) (queues_take b id))
          · intro c _
            show b.unread c = (if id = c then _ else []) ++ (b.take id).1.unread c
            split
            next heq =>
              subst heq
              exact unread_take_self b id
            next hne => exact (unread_take_of_ne b (Ne.symm hne)).symm
      | close id =>
          refine ⟨rfl, ?_⟩
          intro c hc
          have hstays : c ∈ (b.close id).readers name := hsame ▸ hc
          rw [readers_close] at hstays
          exact (unread_close_of_ne b (of_decide_eq_true (List.mem_filter.mp hstays).2)).symm
      | cancelAll =>
          have hnobody : b.cancelAll.readers name = b.readers name := hsame
          rw [readers_cancelAll] at hnobody
          exact absurd hnobody.symm hreads
      | setRefusing refusing => exact ⟨rfl, fun _ _ => rfl⟩

/-- While the same consumers read a queue, its messages are dealt to them in turn: each one holds
what it held and what it is dealt, in order, up to what somebody takes from it. -/
theorem Wired.deals (h : b.Wired) {cs : List ConsumerId} (hcs : cs ≠ []) (hc : c ∈ cs)
    {events : List Event} (hsteady : b.Steady name cs events)
    (hwraps : (b.rotation name).toNat + (handedTo name events).length < UInt64.size) :
    b.unread c ++ dealt c (turns cs (b.rotation name).toNat (handedTo name events).length)
        (handedTo name events) =
      b.taken c events ++ (b.undergo events).unread c := by
  induction events generalizing b with
  | nil => exact List.append_nil _
  | cons event events ih =>
      rcases hsteady with ⟨hreaders, hroom, hrest⟩
      have hnext : (b.happen event).readers name = b.readers name :=
        hrest.readers.trans hreaders.symm
      have hlater := ih (h.happen event) hrest
      have htaken : b.taken c (event :: events) =
          takenFrom c b event ++ (b.happen event).taken c events := rfl
      rw [undergo_cons, htaken]
      by_cases hhere : ∃ m, event = .deliver name m
      · rcases hhere with ⟨m, rfl⟩
        rw [handedTo_cons_deliver, List.length_cons] at hwraps ⊢
        rcases exists_turn hcs (b.rotation name).toNat with ⟨turn, hturn⟩
        rw [← hreaders] at hturn
        have hread : turn ∈ b.readers name := List.mem_of_getElem? hturn
        rcases hands_of_turn hturn (hroom rfl turn hread) m with ⟨hhands, hrotation⟩
        have hcounted : ((b.happen (.deliver name m)).rotation name).toNat =
            (b.rotation name).toNat + 1 := by
          have hcount : (b.rotation name).toNat + 1 < UInt64.size := by omega
          show ((b.deliver name m).rotation name).toNat = _
          rw [hrotation, UInt64.toNat_add]
          exact Nat.mod_eq_of_lt hcount
        have hgot : (b.happen (.deliver name m)).unread c =
            b.unread c ++ if turn = c then [m] else [] := by
          split
          next heq => exact heq ▸ hhands.handed
          next hne =>
            rw [List.append_nil]
            exact hhands.others c (Ne.symm hne)
        rw [hreaders] at hturn
        have hnone : takenFrom c b (.deliver name m) = [] := rfl
        rw [turns_succ hturn, dealt_cons, ← List.append_assoc, ← hgot, ← hcounted, hnone]
        exact hlater (by omega)
      · have hother : ∀ m, event ≠ .deliver name m := fun m heq => hhere ⟨m, heq⟩
        rw [handedTo_cons_of_ne hother] at hwraps ⊢
        rcases h.happen_elsewhere hother (hreaders ▸ hcs) hnext with ⟨hrotation, hunread⟩
        rw [← hrotation] at hwraps ⊢
        rw [hunread c (hreaders ▸ hc), List.append_assoc, List.append_assoc, hlater hwraps]

/-- While the same consumers read a queue, have room and the counter of the queue does not wrap, the
messages that are handed to the queue are dealt to them: each message to one of them, to each of
them in the order in which they came, and to each of them the same number, up to one.  Whatever has
happened before, whoever has come and gone: as long as somebody reads the queue and nobody is full,
the next message goes to exactly one of the consumers that read it at that moment. -/
theorem round_robin_fair (ops : List Op) (name : String) :
    let b := ({} : Broker).run ops
    (∀ more, (∀ m, .publish m ∈ more → m.envelope.Fits) →
        b.undergo (b.gather events more) = b.run more ∧
          handedTo name (b.gather events more) = b.gather (copies name) more) ∧
      (∀ es cs, cs ≠ [] → b.Steady name cs es →
        let ms := handedTo name es
        (b.rotation name).toNat + ms.length < UInt64.size →
        ∃ ts, ts.length = ms.length ∧ (∀ t ∈ ts, t ∈ cs) ∧ ∀ c ∈ cs,
          b.unread c ++ dealt c ts ms = b.taken c es ++ (b.undergo es).unread c ∧
            ((dealt c ts ms).length = ms.length / cs.length ∨
              (dealt c ts ms).length = (ms.length + cs.length - 1) / cs.length)) ∧
      ∀ es m, let s := b.undergo es
        s.readers name ≠ [] → (∀ c ∈ s.readers name, (s.unread c).length < consumerBuffer) →
          ∃ c, s.Hands name m c := by
  intro b
  have hwired : b.Wired := wired_run ops
  refine ⟨fun more hfits => hwired.undergo_gather name hfits, ?_, ?_⟩
  · intro es cs hcs hsteady ms hwraps
    have hnodup : cs.Nodup := hsteady.readers ▸ (hwired.members_nodup name).filter _
    have hlength := length_turns hcs (b.rotation name).toNat ms.length
    refine ⟨turns cs (b.rotation name).toNat ms.length, hlength, fun t => mem_of_mem_turns, ?_⟩
    intro c hc
    refine ⟨hwired.deals hcs hc hsteady hwraps, ?_⟩
    rw [length_dealt c hlength]
    exact count_turns hnodup hc (b.rotation name).toNat ms.length
  · intro es m s hreads hroom
    exact exists_hands hreads hroom m

/-- Four jobs for three workers, of which the first has one already: the second worker, whose turn
it is, gets two of them. -/
theorem round_robin_fair_jobs :
    let worker : Op := .openConsumer (.direct "work" "jobs" "x")
    let job : String → Message := fun id => ⟨"work", "x", { correlation := id }⟩
    let b := ({} : Broker).run [worker, worker, worker, .publish (job "a")]
    let es := b.gather events
      [.publish (job "b"), .publish (job "c"), .take 0, .publish (job "d"), .publish (job "e")]
    b.Steady "jobs" [0, 1, 2] es ∧
      ∃ ts : List ConsumerId, ts.length = 4 ∧ ∀ c ∈ [0, 1, 2],
        let got := dealt c ts [job "b", job "c", job "d", job "e"]
        b.unread c ++ got = b.taken c es ++ (b.undergo es).unread c ∧
          (got.length = 1 ∨ got.length = 2) := by
  intro worker job b es
  have hsteady : b.Steady "jobs" [0, 1, 2] es := by decide +kernel
  have hhanded : handedTo "jobs" es = [job "b", job "c", job "d", job "e"] := by decide +kernel
  have hturn : (b.rotation "jobs").toNat + (handedTo "jobs" es).length < UInt64.size := by
    decide +kernel
  rcases (round_robin_fair [worker, worker, worker, .publish (job "a")] "jobs").2.1 es [0, 1, 2]
    (List.cons_ne_nil _ _) hsteady hturn with ⟨ts, hlength, _, hdealt⟩
  rw [hhanded] at hlength hdealt
  simp only [List.length_cons, List.length_nil, Nat.reduceAdd, Nat.reduceSub, Nat.reduceDiv]
    at hdealt
  exact ⟨hsteady, ts, hlength, hdealt⟩

end Broker
end MetricGateway
