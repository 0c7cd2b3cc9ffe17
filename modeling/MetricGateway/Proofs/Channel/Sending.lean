import MetricGateway.Proofs.Channel.Outages
import MetricGateway.Proofs.Channel.Stopping
import MetricGateway.Proofs.Lines

/-!
# Sending

Whoever publishes a message brings it to the outbox, and waits in line where the outbox has no room.
The senders take turns: the one that holds the outbox takes the first message, leaves the outbox to
the next one and has the broker publish the message.  Until they are told to stop no message that
the outbox has accepted is lost on this way, none overtakes another, and none is published a second
time, also where the broker refuses it.
-/

namespace MetricGateway

namespace Link

open Channel Channel.Subscription

/-! ## Steps that have nothing to do with sending -/

/-- The senders, the outbox and the count of messages that were refused are as before. -/
structure Spares (l l' : Link) : Prop where
  stopping : l'.channels.stopping = l.channels.stopping
  senders : l'.channels.senders = l.channels.senders
  outbox : l'.common.outbox = l.common.outbox
  failures : l'.common.metrics.publishFailures = l.common.metrics.publishFailures

variable {l l' : Link} {id : SubscriptionId} {s : Subscription}

theorem Spares.trans {l'' : Link} (h : l.Spares l') (h' : l'.Spares l'') : l.Spares l'' where
  stopping := h'.stopping.trans h.stopping
  senders := h'.senders.trans h.senders
  outbox := h'.outbox.trans h.outbox
  failures := h'.failures.trans h.failures

theorem spares_refl (l : Link) : l.Spares l := ⟨rfl, rfl, rfl, rfl⟩

theorem spares_network (l : Link) (n : Network) : l.Spares { l with toNetwork := n } :=
  ⟨rfl, rfl, rfl, rfl⟩

theorem spares_retreat (l : Link) (id : SubscriptionId) (s : Subscription) :
    l.Spares (l.retreat id s) := by
  unfold retreat
  dsimp only
  split <;> exact ⟨rfl, rfl, rfl, rfl⟩

theorem spares_establish (l : Link) (id : SubscriptionId) (s : Subscription)
    (c : Broker.ConsumerId) : l.Spares (l.establish id s c) := by
  have hcounted : l.Spares
      (if 0 < s.failures then l.onCommon (·.count Metrics.addChannelReconnect) else l) := by
    split <;> exact ⟨rfl, rfl, rfl, rfl⟩
  have hrestored : ∀ l : Link, l.Spares l.restored := by
    intro l
    unfold restored
    dsimp only
    split <;> exact ⟨rfl, rfl, rfl, rfl⟩
  have hset : ∀ (l : Link) (s : Subscription), l.Spares (l.setSubscription id s) :=
    fun _ _ => ⟨rfl, rfl, rfl, rfl⟩
  unfold establish
  dsimp only
  split
  · exact (hcounted.trans (hrestored _)).trans (hset _ _)
  · exact hcounted.trans (hset _ _)

theorem spares_forwarded (l : Link) (id : SubscriptionId) (s : Subscription)
    (c : Broker.ConsumerId) (m : Message) (offered : Mailbox Message × Mailbox.Offer) :
    l.Spares (l.forwarded id s c m offered) := by
  rcases offered with ⟨inbox, offer⟩
  cases offer <;> exact ⟨rfl, rfl, rfl, rfl⟩

theorem StepsTo.spares (h : l.StepsTo id s l') : l.Spares l' := by
  cases h with
  | established => exact (spares_network l _).trans (spares_establish _ id s _)
  | rejected => exact (spares_network l _).trans (spares_retreat _ id s)
  | lost => exact (spares_network l _).trans (spares_retreat _ id s)
  | took => exact (spares_network l _).trans (spares_forwarded _ id s _ _ _)
  | retried => exact spares_forwarded l id s _ _ _
  | quit => exact ⟨rfl, rfl, rfl, rfl⟩
  | stopped => exact ⟨rfl, rfl, rfl, rfl⟩
  | empty => exact spares_refl l
  | early => exact spares_refl l
  | halted => exact spares_refl l

theorem spares_stepListener (l : Link) (id : SubscriptionId) (preference : Preference) :
    l.Spares (l.stepListener id preference) := by
  cases hs : l.channels.subscriptions[id]? with
  | none =>
      rw [stepListener_of_none hs]
      exact spares_refl l
  | some s => exact (stepsTo_stepListener hs preference).spares

theorem spares_stepClient (l : Link) (id : Broker.ClientId) : l.Spares (l.stepClient id) := by
  unfold stepClient
  split <;> exact ⟨rfl, rfl, rfl, rfl⟩

theorem spares_join (l : Link) (binding : Broker.Binding) (role : Broker.ClientRole) :
    l.Spares (l.join binding role).1 := by
  unfold join
  rcases l.broker.openConsumer binding with ⟨b, e | ⟨queue, c⟩⟩ <;> exact ⟨rfl, rfl, rfl, rfl⟩

theorem spares_receive (l : Link) (id : SubscriptionId) :
    l.Spares { l with channels := (l.channels.receive id).1 } := by
  unfold Channels.receive
  split <;> exact ⟨rfl, rfl, rfl, rfl⟩

theorem spares_unsubscribe (l : Link) (id : SubscriptionId) :
    l.Spares { l with channels := l.channels.unsubscribe id } := by
  unfold Channels.unsubscribe
  split <;> exact ⟨rfl, rfl, rfl, rfl⟩

/-! ## The step of a sender -/

/-- What the sender that holds the outbox leaves when it has had the broker publish a message. -/
structure Sends (l : Link) (id : SenderId) (m : Message) (l' : Link) : Prop where
  broker : l'.broker = (l.broker.publish m).1
  stopping : l'.channels.stopping = l.channels.stopping
  senders : l'.channels.senders = l.channels.senders.tail ++ [id]
  outbox : l'.common.outbox = l.common.outbox.take.1
  failures : l'.common.metrics.publishFailures =
    l.common.metrics.publishFailures + (!(l.broker.publish m).2.isOk).toNat

theorem sends_sendNext {m : Message} (h : l.common.outbox.take.2 = some m) (id : SenderId) :
    l.Sends id m (l.sendNext id) := by
  unfold sendNext Commons.takeSent
  rcases htake : l.common.outbox.take with ⟨outbox, taken⟩
  rw [htake] at h
  cases h
  have hnext : l.common.outbox.take.1 = outbox := congrArg Prod.fst htake
  unfold publish
  dsimp only
  rcases hpublish : l.broker.publish m with ⟨b, e | _⟩
  · refine ⟨?_, rfl, rfl, hnext.symm, ?_⟩
    · rw [hpublish]
      rfl
    · rw [hpublish]
      rfl
  · refine ⟨?_, rfl, rfl, hnext.symm, ?_⟩
    · rw [hpublish]
    · rw [hpublish]
      rfl

theorem stepSender_of_running (hrunning : l.channels.stopping = false) (id : SenderId)
    (preference : Preference) : l.stepSender id preference =
      if l.channels.senders.head? = some id then l.sendNext id else l := by
  unfold stepSender
  rw [hrunning]
  simp

theorem senderReady_of_running (hrunning : l.channels.stopping = false) {id : SenderId} :
    l.senderReady id = true ↔
      l.channels.senders.head? = some id ∧ l.common.outbox.toList ≠ [] := by
  unfold senderReady
  rw [hrunning]
  have hempty : l.common.outbox.isEmpty = true ↔ l.common.outbox.toList = [] := Fifo.isEmpty_iff _
  simp [← hempty]

end Link

/-! ## Publishers and senders -/

namespace Channel

/-- What a sender had the broker publish, and what the broker answered. -/
structure Call where
  message : Message
  answer : Except Broker.Refusal Unit

def Call.refused (c : Call) : Bool := !c.answer.isOk

/-- The link of an instance, with what its publishers and its senders have done. -/
structure Traffic where
  link : Link
  /-- The publishers without room, each with its ticket and its message. -/
  parked : List (Ticket × Message) := []
  /-- The messages of the publishers that were told that the outbox has them, oldest first. -/
  accepted : List Message := []
  /-- What the senders have asked of the broker, oldest first. -/
  calls : List Call := []

namespace Traffic

def start (network : Network) (settings : ChannelSettings) (common : Commons) : Traffic where
  link := (Watch.start network settings common).link

inductive Act where
  | publish (m : Message)
  | comeBack (ticket : Ticket)
  /-- A task takes a step, or something else happens to the link. -/
  | happen (a : Watch.Act)

def callsOf (l : Link) : Watch.Act → List Call
  | .task t preference =>
      (l.asks t preference).filterMap fun
        | .publish m => some ⟨m, (l.broker.publish m).2⟩
        | _ => none
  | _ => []

def publish (t : Traffic) (m : Message) : Traffic :=
  match t.link.common.send m with
  | (common, .accepted) => { t with link := { t.link with common }, accepted := t.accepted ++ [m] }
  | (common, .parked ticket) =>
      { t with link := { t.link with common }, parked := t.parked ++ [(ticket, m)] }
  | (_, .refused) => t

def comeBack (t : Traffic) (ticket : Ticket) : Traffic :=
  match t.parked.find? (·.1 == ticket) with
  | none => t
  | some (_, m) =>
      match t.link.common.resend ticket m with
      | (common, .accepted) =>
          { t with
            link := { t.link with common }
            parked := t.parked.eraseP (·.1 == ticket)
            accepted := t.accepted ++ [m] }
      | _ => t

def perform (t : Traffic) : Act → Traffic
  | .publish m => t.publish m
  | .comeBack ticket => t.comeBack ticket
  | .happen a =>
      { t with
        link := (Watch.perform { link := t.link } a).link
        calls := t.calls ++ callsOf t.link a }

def run (t : Traffic) (acts : List Act) : Traffic := acts.foldl perform t

def waiting (t : Traffic) : List Message := t.link.common.outbox.toList

def failures (t : Traffic) : Nat := t.link.common.metrics.publishFailures

/-- The other parts of the instance use the outbox only to publish, and do not count refused
messages. -/
def Permits (t : Traffic) : Act → Prop
  | .happen (.elsewhere f) =>
      (f t.link.common).outbox = t.link.common.outbox ∧
        (f t.link.common).metrics.publishFailures = t.link.common.metrics.publishFailures
  | _ => True

/-- All along the run the other parts keep to their own. -/
def Permitted : Traffic → List Act → Prop
  | _, [] => True
  | t, a :: acts => t.Permits a ∧ (t.perform a).Permitted acts

def isTurn (t : Traffic) : Act → Bool
  | .happen (.task (.sender id) _) => t.link.senderReady id
  | _ => false

def turns : Traffic → List Act → Nat
  | _, [] => 0
  | t, a :: acts => (t.isTurn a).toNat + (t.perform a).turns acts

/-- One message is taken from the outbox, and the broker is asked once to publish it. -/
structure Passes (t t' : Traffic) (m : Message) : Prop where
  waiting : t.waiting = m :: t'.waiting
  calls : t'.calls = t.calls ++ [⟨m, (t.link.broker.publish m).2⟩]
  broker : t'.link.broker = (t.link.broker.publish m).1
  accepted : t'.accepted = t.accepted
  parked : t'.parked = t.parked

/-- What holds before the senders are told to stop. -/
structure Sound (t : Traffic) (settings : ChannelSettings) (failures : Nat) : Prop where
  running : t.link.channels.stopping = false
  manned : t.link.channels.senders ≠ []
  capacity : t.link.common.outbox.capacity = settings.publishBuffer
  line : t.link.common.outbox.Orderly (t.parked.map (·.1))
  accounts : t.accepted = t.calls.map (·.message) ++ t.waiting
  counted : t.failures = failures + t.calls.countP (·.refused)

variable {t t' : Traffic} {settings : ChannelSettings} {failures : Nat} {m : Message}

/-! ### What the tasks ask of the broker -/

theorem callsOf_sender {l : Link} (hrunning : l.channels.stopping = false) (id : SenderId)
    (preference : Preference) : callsOf l (.task (.sender id) preference) =
      if l.channels.senders.head? = some id then
        l.common.outbox.take.2.toList.map fun m => ⟨m, (l.broker.publish m).2⟩
      else [] := by
  show (l.senderAsks id preference).filterMap _ = _
  unfold Link.senderAsks
  rw [hrunning]
  simp only [Bool.false_eq_true, false_and, if_false]
  split
  · rw [List.filterMap_map]
    exact congrFun List.filterMap_eq_map _
  · rfl

theorem callsOf_listener (l : Link) (id : SubscriptionId) (preference : Preference) :
    callsOf l (.task (.listener id) preference) = [] := by
  show ((l.channels.subscriptions[id]?).elim [] (l.listenerAsks · preference)).filterMap _ = _
  rw [List.filterMap_eq_nil_iff]
  intro op hop
  cases hs : l.channels.subscriptions[id]? with
  | none =>
      rw [hs] at hop
      cases hop
  | some s =>
      rw [hs] at hop
      cases op with
      | publish m => cases (Link.opens_of_mem_listenerAsks hop).1
      | _ => rfl

/-! ### Steps -/

theorem sound_start (network : Network) (settings : ChannelSettings) {common : Commons}
    (hempty : common.outbox = { capacity := settings.publishBuffer }) :
    (start network settings common).Sound settings common.metrics.publishFailures where
  running := rfl
  manned := by
    have hsome : settings.senders ≠ 0 := Nat.ne_of_gt (Nat.le_max_right _ 1)
    show List.range settings.senders ≠ []
    exact fun hnone => hsome (List.range_eq_nil.mp hnone)
  capacity := by
    show common.outbox.capacity = _
    rw [hempty]
  line := by
    show common.outbox.Orderly []
    rw [hempty]
    exact Mailbox.orderly_new settings.publishBuffer
  accounts := by
    show [] = [] ++ common.outbox.toList
    rw [hempty]
    rfl
  counted := rfl

theorem Sound.publish (h : t.Sound settings failures) (m : Message) :
    (t.publish m).Sound settings failures := by
  unfold Traffic.publish Commons.send
  rcases h.line.offer m with
    ⟨outbox, heq, hline, hlist, _, _, hcapacity⟩ | ⟨outbox, heq, hline, hlist, _, _, hcapacity⟩
  · rw [heq]
    refine ⟨h.running, h.manned, hcapacity.trans h.capacity, hline, ?_, h.counted⟩
    show t.accepted ++ [m] = _ ++ outbox.toList
    rw [hlist, ← List.append_assoc]
    exact congrArg (· ++ [m]) h.accounts
  · rw [heq]
    refine ⟨h.running, h.manned, hcapacity.trans h.capacity, ?_, ?_, h.counted⟩
    · apply hline.perm
      rw [List.map_append]
      exact (List.perm_append_singleton _ _).symm
    · show t.accepted = _ ++ outbox.toList
      rw [hlist]
      exact h.accounts

/-- A publisher that comes back leaves its message in the room that is kept for it, or waits on. -/
theorem Sound.comeBack (h : t.Sound settings failures) (ticket : Ticket) :
    (t.comeBack ticket).Sound settings failures := by
  unfold Traffic.comeBack
  cases hfound : t.parked.find? (·.1 == ticket) with
  | none => exact h
  | some parked =>
      rcases parked with ⟨own, m⟩
      dsimp only
      unfold Commons.resend
      rcases h.line.retry ticket m with
        ⟨_, outbox, heq, hline, hlist, _, _, hcapacity⟩ | ⟨_, heq⟩
      · rw [heq]
        refine ⟨h.running, h.manned, hcapacity.trans h.capacity, ?_, ?_, h.counted⟩
        · rw [List.erase_eq_eraseP', List.eraseP_map] at hline
          exact hline
        · show t.accepted ++ [m] = _ ++ outbox.toList
          rw [hlist, ← List.append_assoc]
          exact congrArg (· ++ [m]) h.accounts
      · rw [heq]
        exact h

/-- A sender passes the first message of the outbox if it can take a step, and does nothing
otherwise. -/
theorem Sound.sender (h : t.Sound settings failures) (id : SenderId) (preference : Preference) :
    let t' := t.perform (.happen (.task (.sender id) preference))
    t.link.senderReady id = false ∧ t' = t ∨
      t.link.senderReady id = true ∧ ∃ m, t.Passes t' m ∧ t.link.Sends id m t'.link := by
  intro t'
  have hlink : t'.link = if t.link.channels.senders.head? = some id then t.link.sendNext id
      else t.link := Link.stepSender_of_running h.running id preference
  have hcalls : t'.calls = t.calls ++ callsOf t.link (.task (.sender id) preference) := rfl
  have hidle : t'.link = t.link → callsOf t.link (.task (.sender id) preference) = [] → t' = t := by
    intro hsame hnothing
    show Traffic.mk t'.link t.parked t.accepted t'.calls = t
    rw [hcalls, hnothing, List.append_nil, hsame]
  rw [callsOf_sender h.running] at hcalls hidle
  have hready : t.link.senderReady id = true ↔
      t.link.channels.senders.head? = some id ∧ t.link.common.outbox.toList ≠ [] :=
    Link.senderReady_of_running h.running
  by_cases hhead : t.link.channels.senders.head? = some id
  · rw [if_pos hhead] at hlink hcalls hidle
    rcases h.line.take with ⟨htake, hnone⟩ | ⟨m, outbox, htake, _, hlist, _⟩
    · left
      constructor
      · exact Bool.eq_false_iff.mpr fun htrue => (hready.mp htrue).2 hnone
      · apply hidle
        · rw [hlink]
          unfold Link.sendNext Commons.takeSent
          rw [htake]
        · rw [htake]
          rfl
    · right
      have hsends : t.link.Sends id m t'.link := by
        rw [hlink]
        exact Link.sends_sendNext (by rw [htake]) id
      refine ⟨hready.mpr ⟨hhead, by rw [hlist]; exact List.cons_ne_nil m _⟩, m, ?_, hsends⟩
      refine ⟨?_, ?_, hsends.broker, rfl, rfl⟩
      · unfold waiting
        rw [hsends.outbox, htake, hlist]
      · rw [hcalls, htake]
        rfl
  · rw [if_neg hhead] at hlink hidle
    exact Or.inl ⟨Bool.eq_false_iff.mpr fun htrue => hhead (hready.mp htrue).1, hidle hlink rfl⟩

theorem spares_happen {a : Watch.Act} (hpermits : t.Permits (.happen a))
    (hother : ∀ id preference, a ≠ .task (.sender id) preference) :
    t.link.Spares (t.perform (.happen a)).link ∧ callsOf t.link a = [] := by
  cases a with
  | listen binding => exact ⟨⟨rfl, rfl, rfl, rfl⟩, rfl⟩
  | task task preference =>
      cases task with
      | sender id => exact absurd rfl (hother id preference)
      | listener id =>
          constructor
          · exact Link.spares_stepListener t.link id preference
          · exact callsOf_listener t.link id preference
      | client id => exact ⟨Link.spares_stepClient t.link id, rfl⟩
  | receive id => exact ⟨Link.spares_receive t.link id, rfl⟩
  | unsubscribe id => exact ⟨Link.spares_unsubscribe t.link id, rfl⟩
  | other op => exact ⟨Link.spares_network t.link _, rfl⟩
  | join binding role => exact ⟨Link.spares_join t.link binding role, rfl⟩
  | pass d => exact ⟨⟨rfl, rfl, rfl, rfl⟩, rfl⟩
  | elsewhere f => exact ⟨⟨rfl, rfl, hpermits.1, hpermits.2⟩, rfl⟩

/-- A sender passes a message, or nothing that has to do with sending happens. -/
theorem Sound.happen_cases (h : t.Sound settings failures) {a : Watch.Act}
    (hpermits : t.Permits (.happen a)) :
    let t' := t.perform (.happen a)
    t.isTurn (.happen a) = false ∧ t.link.Spares t'.link ∧ t'.calls = t.calls ∨
      t.isTurn (.happen a) = true ∧ ∃ id m, t.Passes t' m ∧ t.link.Sends id m t'.link := by
  intro t'
  by_cases hsender : ∃ id preference, a = .task (.sender id) preference
  · rcases hsender with ⟨id, preference, rfl⟩
    rcases h.sender id preference with ⟨hready, hidle⟩ | ⟨hready, m, hpasses, hsends⟩
    · have hsame : t' = t := hidle
      rw [hsame]
      exact Or.inl ⟨hready, Link.spares_refl t.link, rfl⟩
    · exact Or.inr ⟨hready, id, m, hpasses, hsends⟩
  · have hother : ∀ id preference, a ≠ .task (.sender id) preference :=
      fun id preference heq => hsender ⟨id, preference, heq⟩
    rcases spares_happen hpermits hother with ⟨hspares, hnone⟩
    have hturn : t.isTurn (.happen a) = false := by
      unfold isTurn
      split
      next heq =>
        cases heq
        exact absurd rfl (hother _ _)
      next => rfl
    have hcalls : t'.calls = t.calls := by
      show t.calls ++ callsOf t.link a = t.calls
      rw [hnone, List.append_nil]
    exact Or.inl ⟨hturn, hspares, hcalls⟩

theorem Sound.of_spares (h : t.Sound settings failures) (hspares : t.link.Spares t'.link)
    (hcalls : t'.calls = t.calls) (haccepted : t'.accepted = t.accepted)
    (hparked : t'.parked = t.parked) : t'.Sound settings failures where
  running := hspares.stopping.trans h.running
  manned := by
    rw [hspares.senders]
    exact h.manned
  capacity := by
    rw [hspares.outbox]
    exact h.capacity
  line := by
    rw [hspares.outbox, hparked]
    exact h.line
  accounts := by
    unfold waiting
    rw [haccepted, hcalls, hspares.outbox]
    exact h.accounts
  counted := by
    rw [hcalls]
    exact hspares.failures.trans h.counted

theorem Sound.passes (h : t.Sound settings failures) {id : SenderId} (hpasses : t.Passes t' m)
    (hsends : t.link.Sends id m t'.link) : t'.Sound settings failures where
  running := hsends.stopping.trans h.running
  manned := by
    rw [hsends.senders]
    exact List.append_ne_nil_of_right_ne_nil _ (List.cons_ne_nil id [])
  capacity := by
    rcases h.line.take with ⟨htake, _⟩ | ⟨_, _, htake, _, _, _, _, hcapacity⟩
    · rw [hsends.outbox, htake]
      exact h.capacity
    · rw [hsends.outbox, htake]
      exact hcapacity.trans h.capacity
  line := by
    rw [hpasses.parked, hsends.outbox]
    rcases h.line.take with ⟨htake, _⟩ | ⟨_, _, htake, hline, _⟩
    · rw [htake]
      exact h.line
    · rw [htake]
      exact hline
  accounts := by
    rw [hpasses.accepted, h.accounts, hpasses.waiting, hpasses.calls, List.map_append,
      List.append_assoc]
    rfl
  counted := by
    have hcount : t'.failures = t.failures + (!(t.link.broker.publish m).2.isOk).toNat :=
      hsends.failures
    rw [hcount, h.counted, hpasses.calls, List.countP_append, List.countP_singleton, Nat.add_assoc]
    unfold Call.refused
    cases (t.link.broker.publish m).2.isOk <;> rfl

theorem Sound.perform (h : t.Sound settings failures) {a : Act} (hpermits : t.Permits a) :
    (t.perform a).Sound settings failures := by
  cases a with
  | publish m => exact h.publish m
  | comeBack ticket => exact h.comeBack ticket
  | happen a =>
      rcases h.happen_cases hpermits with ⟨_, hspares, hcalls⟩ | ⟨_, id, m, hpasses, hsends⟩
      · exact h.of_spares hspares hcalls rfl rfl
      · exact h.passes hpasses hsends

/-! ### Runs -/

theorem Sound.run (h : t.Sound settings failures) {acts : List Act}
    (hpermitted : t.Permitted acts) : (t.run acts).Sound settings failures := by
  induction acts generalizing t with
  | nil => exact h
  | cons a acts ih => exact ih (h.perform hpermitted.1) hpermitted.2

/-- Each step that a sender can take is one call of the broker, and there are no others. -/
theorem Sound.length_calls_perform (h : t.Sound settings failures) {a : Act}
    (hpermits : t.Permits a) :
    (t.perform a).calls.length = t.calls.length + (t.isTurn a).toNat := by
  cases a with
  | publish m =>
      show (t.publish m).calls.length = t.calls.length
      unfold Traffic.publish
      split <;> rfl
  | comeBack ticket =>
      show (t.comeBack ticket).calls.length = t.calls.length
      unfold Traffic.comeBack
      split
      · rfl
      · split <;> rfl
  | happen a =>
      rcases h.happen_cases hpermits with ⟨hturn, _, hcalls⟩ | ⟨hturn, id, m, hpasses, _⟩
      · rw [hturn, hcalls]
        rfl
      · rw [hturn, hpasses.calls, List.length_append]
        rfl

theorem Sound.length_calls_run (h : t.Sound settings failures) {acts : List Act}
    (hpermitted : t.Permitted acts) :
    (t.run acts).calls.length = t.calls.length + t.turns acts := by
  induction acts generalizing t with
  | nil => rfl
  | cons a acts ih =>
      show ((t.perform a).run acts).calls.length = _
      rw [ih (h.perform hpermitted.1) hpermitted.2, h.length_calls_perform hpermitted.1]
      exact Nat.add_assoc _ _ _

theorem accepted_prefix_perform (t : Traffic) (a : Act) :
    t.accepted <+: (t.perform a).accepted := by
  cases a with
  | publish m =>
      show t.accepted <+: (t.publish m).accepted
      unfold Traffic.publish
      split
      · exact List.prefix_append _ _
      · exact List.prefix_refl _
      · exact List.prefix_refl _
  | comeBack ticket =>
      show t.accepted <+: (t.comeBack ticket).accepted
      unfold Traffic.comeBack
      split
      · exact List.prefix_refl _
      · split
        · exact List.prefix_append _ _
        · exact List.prefix_refl _
  | happen a => exact List.prefix_refl _

theorem accepted_prefix_run (t : Traffic) (acts : List Act) :
    t.accepted <+: (t.run acts).accepted := by
  induction acts generalizing t with
  | nil => exact List.prefix_refl _
  | cons a acts ih => exact (accepted_prefix_perform t a).trans (ih (t.perform a))

/-- When the senders have taken as many turns as messages wait, all of these are published. -/
theorem Sound.accepted_prefix_calls (h : t.Sound settings failures) {acts : List Act}
    (hpermitted : t.Permitted acts) (hturns : t.waiting.length ≤ t.turns acts) :
    t.accepted <+: (t.run acts).calls.map (·.message) := by
  have hlater := accepted_prefix_run t acts
  rw [(h.run hpermitted).accounts] at hlater
  apply List.prefix_of_prefix_length_le hlater (List.prefix_append _ _)
  rw [h.accounts, List.length_append, List.length_map, List.length_map,
    h.length_calls_run hpermitted]
  omega

/-! ### Rest -/

theorem Sound.exists_ready (h : t.Sound settings failures) (hsome : t.waiting ≠ []) :
    ∃ id, t.link.senderReady id = true := by
  rcases List.exists_cons_of_ne_nil h.manned with ⟨id, senders, hsenders⟩
  exists id
  rw [Link.senderReady_of_running h.running]
  refine ⟨?_, hsome⟩
  rw [hsenders]
  rfl

theorem Sound.exists_answered (h : t.Sound settings failures) (hroom : 0 < settings.publishBuffer)
    (hparked : t.parked ≠ []) (hnone : t.waiting = []) :
    ∃ p ∈ t.parked, (t.comeBack p.1).accepted = t.accepted ++ [p.2] := by
  -- Whoever is in line found the outbox full.  Nothing is in it now, so its room is kept for
  -- publishers that have yet to come back.
  have hkept : t.link.common.outbox.granted ≠ [] := by
    intro hempty
    have hline := h.line.line
    rw [hempty, List.append_nil] at hline
    have hwaits : t.link.common.outbox.waiting ≠ [] := by
      intro hnobody
      rw [hnobody] at hline
      exact hparked (List.map_eq_nil_iff.mp hline.nil_eq.symm)
    have hfull := h.line.full hwaits
    have hlist : t.link.common.outbox.toList = [] := hnone
    rw [hlist, hempty, h.capacity] at hfull
    exact Nat.not_le.mpr hroom hfull
  rcases List.exists_mem_of_ne_nil _ hkept with ⟨ticket, hgranted⟩
  have hticket : ticket ∈ t.parked.map (·.1) :=
    h.line.line.mem_iff.mp (List.mem_append_right _ hgranted)
  cases hfound : t.parked.find? (·.1 == ticket) with
  | none =>
      rcases List.mem_map.mp hticket with ⟨p, hp, rfl⟩
      exact absurd (beq_self_eq_true p.1) (List.find?_eq_none.mp hfound p hp)
  | some p =>
      have hsame := List.find?_some hfound
      have hown : p.1 = ticket := eq_of_beq hsame
      refine ⟨p, List.mem_of_find?_eq_some hfound, ?_⟩
      unfold Traffic.comeBack
      rw [hown, hfound]
      dsimp only
      unfold Commons.resend
      rcases h.line.retry ticket p.2 with ⟨_, outbox, heq, _⟩ | ⟨hnot, _⟩
      · rw [heq]
      · exact absurd hgranted hnot

/-- Until the senders are told to stop, whatever the order of steps: the messages that the outbox
has accepted are those that the senders had the broker publish, each of them once and in the order
in which they were accepted, and those that wait in the outbox; and the counter has grown by the
number of calls that the broker refused.  A sender that can take a step makes one call, for the
first message that waits, and one can as long as a message waits; so the calls have all of them when
the senders have had as many turns.  While none waits, a publisher without room gets it. -/
theorem accepted_published_once (network : Network) (settings : ChannelSettings) (common : Commons)
    (hempty : common.outbox = { capacity := settings.publishBuffer }) {acts : List Act}
    (hpermitted : (start network settings common).Permitted acts) :
    let t := (start network settings common).run acts
    t.accepted = t.calls.map (·.message) ++ t.waiting ∧
      t.failures = common.metrics.publishFailures + t.calls.countP (·.refused) ∧
      (∀ id preference, let t' := t.perform (.happen (.task (.sender id) preference))
        t.link.senderReady id = false ∧ t' = t ∨
          t.link.senderReady id = true ∧ ∃ m, t.Passes t' m) ∧
      (t.waiting ≠ [] → ∃ id, t.link.senderReady id = true) ∧
      (∀ more, t.Permitted more →
        (t.run more).calls.length = t.calls.length + t.turns more ∧
          (t.waiting.length ≤ t.turns more → t.accepted <+: (t.run more).calls.map (·.message))) ∧
      (0 < settings.publishBuffer → t.parked ≠ [] → t.waiting = [] →
        ∃ p ∈ t.parked, (t.comeBack p.1).accepted = t.accepted ++ [p.2]) := by
  intro t
  have hsound : t.Sound settings common.metrics.publishFailures :=
    (sound_start network settings hempty).run hpermitted
  refine ⟨hsound.accounts, hsound.counted, ?_, hsound.exists_ready, ?_, hsound.exists_answered⟩
  · intro id preference
    rcases hsound.sender id preference with hidle | ⟨hready, m, hpasses, _⟩
    · exact Or.inl hidle
    · exact Or.inr ⟨hready, m, hpasses⟩
  · exact fun more hmore =>
      ⟨hsound.length_calls_run hmore, hsound.accepted_prefix_calls hmore⟩

def crowded : Traffic :=
  start {} { senderCount := 2, publishBuffer := 1 }
    { journal := { service := "rts" }, outbox := { capacity := 1 } }

def notice (correlation : String) : Message := ⟨"events", "", { msgType := "1", correlation }⟩

/-- Two publishers come one after the other; the broker refuses the first message, and accepts
connections again before the second one. -/
def refusedOnce : List Act :=
  [.publish (notice "a"), .publish (notice "b"), .happen (.other (.setRefusing true)),
    .happen (.task (.sender 0) .goOn), .comeBack 0, .happen (.other (.setRefusing false)),
    .happen (.task (.sender 1) .goOn)]

theorem accepted_published_once_refused :
    let t := crowded.run refusedOnce
    t.accepted = [notice "a", notice "b"] ∧
      t.calls.map (·.message) ++ t.waiting = [notice "a", notice "b"] ∧
      t.calls.countP (·.refused) = 1 ∧ t.failures = 1 := by
  intro t
  have hpermitted : crowded.Permitted refusedOnce := by
    unfold refusedOnce
    exact ⟨trivial, trivial, trivial, trivial, trivial, trivial, trivial, trivial⟩
  have hpublished := accepted_published_once {} { senderCount := 2, publishBuffer := 1 }
    { journal := { service := "rts" }, outbox := { capacity := 1 } } rfl hpermitted
  have haccepted : t.accepted = [notice "a", notice "b"] := by decide +kernel
  have hrefused : t.calls.countP (·.refused) = 1 := by decide +kernel
  refine ⟨haccepted, hpublished.1.symm.trans haccepted, hrefused, ?_⟩
  exact hpublished.2.1.trans (congrArg (0 + ·) hrefused)

end Traffic
end Channel
end MetricGateway
