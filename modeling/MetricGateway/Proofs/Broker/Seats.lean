import MetricGateway.Proofs.Broker.Copies

/-!
# Where consumers stand

A consumer that somebody reads knows its queue and whether the broker still hands messages to it.
In every state that the broker can reach, a consumer that is read and stands in a queue knows that
it is attached to this queue and to no other one.
-/

namespace MetricGateway
namespace Broker

/-- The queue of a consumer that somebody reads, and whether the consumer is attached. -/
def standing (b : Broker) (id : ConsumerId) : Option (String × Bool) :=
  (b.consumers[id]?).map fun c => (c.queue, c.attached)

theorem isLive_eq (b : Broker) (id : ConsumerId) : b.isLive id = (b.standing id).isSome := by
  unfold isLive standing
  rw [Option.isSome_map, Bool.eq_iff_iff, decide_eq_true_iff]
  exact Std.ExtTreeMap.mem_iff_isSome_getElem?

theorem exists_consumer_of_standing {b : Broker} {id : ConsumerId} {name : String}
    {attached : Bool} (h : b.standing id = some (name, attached)) :
    ∃ c, b.consumers[id]? = some c ∧ c.queue = name ∧ c.attached = attached ∧
      c.buffer.toList = b.unread id := by
  rcases Option.map_eq_some_iff.mp h with ⟨c, hc, hseat⟩
  cases hseat
  refine ⟨c, hc, rfl, rfl, ?_⟩
  unfold unread
  rw [hc]

theorem mem_readers_iff {b : Broker} {name : String} {id : ConsumerId} :
    id ∈ b.readers name ↔ id ∈ b.members name ∧ b.isLive id = true := List.mem_filter

/-- The consumers that are read have a number, and those among them that stand in a queue are
attached to it. -/
structure Seated (b : Broker) : Prop where
  numbered : ∀ id, b.isLive id = true → id < b.opened
  attached : ∀ name, ∀ id ∈ b.readers name, b.standing id = some (name, true)

theorem seated_empty : ({} : Broker).Seated where
  numbered := by
    intro id hlive
    simp [isLive] at hlive
  attached := by
    intro name id hid
    simp [readers, members] at hid

theorem Seated.shrink {b after : Broker} (h : b.Seated) (hopened : after.opened = b.opened)
    (hstanding : ∀ id, after.isLive id = true → after.standing id = b.standing id)
    (hreaders : ∀ name, ∀ id ∈ after.readers name, id ∈ b.readers name) : after.Seated where
  numbered := by
    intro id hlive
    have hbefore : b.isLive id = true := by
      rw [isLive_eq, ← hstanding id hlive, ← isLive_eq]
      exact hlive
    rw [hopened]
    exact h.numbered id hbefore
  attached := by
    intro name id hid
    rw [hstanding id (mem_readers_iff.mp hid).2]
    exact h.attached name id (hreaders name id hid)

/-! ## Publishing -/

theorem standing_insert (b : Broker) (id other : ConsumerId) (c : Consumer) :
    ({ b with consumers := b.consumers.insert id c } : Broker).standing other =
      if id = other then some (c.queue, c.attached) else b.standing other := by
  unfold standing
  dsimp only
  rw [lookup_insert]
  split <;> rfl

theorem standing_insert_buffer {b : Broker} {id : ConsumerId} {c : Consumer}
    (hc : b.consumers[id]? = some c) (buffer : Fifo Message) :
    ({ b with consumers := b.consumers.insert id { c with buffer } } : Broker).standing =
      b.standing := by
  funext other
  rw [standing_insert]
  split
  next heq =>
    subst heq
    unfold standing
    rw [hc]
    rfl
  next => rfl

theorem standing_offer (b : Broker) (id : ConsumerId) (m : Message) :
    (b.offer id m).standing = b.standing := by
  unfold offer
  split
  next c hc =>
    split
    · exact standing_insert_buffer hc _
    · rfl
  next => rfl

theorem standing_deliver (b : Broker) (name : String) (m : Message) :
    (b.deliver name m).standing = b.standing := by
  cases hq : b.queues[name]? with
  | none => rw [deliver_of_none hq]
  | some q =>
      rcases deliver_cases hq m with ⟨before, turn, after, _, hdeliver⟩ | ⟨_, hdeliver⟩
      · rw [hdeliver, standing_offer]
        rfl
      · rw [hdeliver]
        rfl

/-- Handing a message out touches neither the routes nor the exchanges, and every consumer stays
where it stands. -/
structure HandsOut (b after : Broker) : Prop where
  frame : ∃ queues consumers, after = { b with queues, consumers }
  standing : after.standing = b.standing
  readers : ∀ name, after.readers name = b.readers name
  queue_mem : ∀ name, name ∈ after.queues ↔ name ∈ b.queues

theorem HandsOut.refl (b : Broker) : b.HandsOut b where
  frame := ⟨b.queues, b.consumers, rfl⟩
  standing := rfl
  readers := fun _ => rfl
  queue_mem := fun _ => Iff.rfl

theorem HandsOut.trans {b c d : Broker} (h : b.HandsOut c) (h' : c.HandsOut d) : b.HandsOut d where
  frame := by
    rcases h.frame with ⟨_, _, heq⟩
    rcases h'.frame with ⟨queues, consumers, heq'⟩
    refine ⟨queues, consumers, ?_⟩
    rw [heq', heq]
  standing := h'.standing.trans h.standing
  readers := fun name => (h'.readers name).trans (h.readers name)
  queue_mem := fun name => (h'.queue_mem name).trans (h.queue_mem name)

theorem handsOut_deliver (b : Broker) (name : String) (m : Message) :
    b.HandsOut (b.deliver name m) := by
  constructor
  · cases hq : b.queues[name]? with
    | none =>
        rw [deliver_of_none hq]
        exact ⟨b.queues, b.consumers, rfl⟩
    | some q =>
        rcases deliver_eq hq m with ⟨after, consumers, _, heq⟩
        exact ⟨_, consumers, heq⟩
  · exact standing_deliver b name m
  · intro other
    exact readers_deliver b name other m
  · intro other
    constructor
    · intro hother
      cases hq : b.queues[name]? with
      | none =>
          rw [deliver_of_none hq] at hother
          exact hother
      | some q =>
          rcases deliver_eq hq m with ⟨after, consumers, _, heq⟩
          rw [heq] at hother
          rcases Std.ExtTreeMap.mem_insert.mp hother with hsame | hold
          · rw [← Std.LawfulEqOrd.compare_eq_iff_eq.mp hsame]
            exact mem_of_lookup hq
          · exact hold
    · exact fun hother => mem_queues_deliver hother m

theorem handsOut_deliverAll (b : Broker) (exchange key : String) (frame : Wire.Bytes)
    (names : List String) : b.HandsOut (b.deliverAll exchange key frame names).1 := by
  induction names generalizing b with
  | nil => exact HandsOut.refl b
  | cons name names ih =>
      unfold deliverAll
      split
      · exact HandsOut.refl b
      · exact (handsOut_deliver b name _).trans (ih _)

theorem handsOut_publish (b : Broker) (m : Message) : b.HandsOut (b.publish m).1 := by
  unfold publish
  split
  · exact HandsOut.refl b
  · split
    · exact HandsOut.refl b
    · exact handsOut_deliverAll b _ _ _ _

theorem Seated.of_handsOut {b after : Broker} (h : b.Seated) (hout : b.HandsOut after) :
    after.Seated := by
  apply h.shrink
  · rcases hout.frame with ⟨_, _, heq⟩
    rw [heq]
  · intro id _
    rw [hout.standing]
  · intro name id hid
    rw [hout.readers] at hid
    exact hid

theorem Seated.publish {b : Broker} (h : b.Seated) (m : Message) : (b.publish m).1.Seated :=
  h.of_handsOut (handsOut_publish b m)

/-! ## Reading and cancelling -/

theorem take_of_unread_cons {b : Broker} {id : ConsumerId} {m : Message} {rest : List Message}
    (h : b.unread id = m :: rest) :
    ∃ c buffer, b.consumers[id]? = some c ∧ buffer.toList = rest ∧
      b.take id = ({ b with consumers := b.consumers.insert id { c with buffer } }, some m) := by
  unfold unread at h
  unfold take
  cases hc : b.consumers[id]? with
  | none =>
      rw [hc] at h
      cases h
  | some c =>
      rw [hc] at h
      dsimp only at h ⊢
      cases hpop : c.buffer.pop? with
      | none =>
          rw [Fifo.toList_of_pop?_none hpop] at h
          cases h
      | some popped =>
          rw [Fifo.toList_of_pop?_some hpop] at h
          cases h
          exact ⟨c, popped.2, rfl, rfl, rfl⟩

theorem take_of_unread_nil {b : Broker} {id : ConsumerId} (h : b.unread id = []) :
    b.take id = (b, none) := by
  unfold unread at h
  unfold take
  cases hc : b.consumers[id]? with
  | none => rfl
  | some c =>
      rw [hc] at h
      dsimp only at h ⊢
      cases hpop : c.buffer.pop? with
      | none => rfl
      | some popped =>
          rw [Fifo.toList_of_pop?_some hpop] at h
          cases h

theorem take_cases (b : Broker) (id : ConsumerId) :
    (b.take id).1 = b ∨ ∃ c buffer, b.consumers[id]? = some c ∧
      (b.take id).1 = { b with consumers := b.consumers.insert id { c with buffer } } := by
  cases hunread : b.unread id with
  | nil =>
      rw [take_of_unread_nil hunread]
      exact Or.inl rfl
  | cons m rest =>
      rcases take_of_unread_cons hunread with ⟨c, buffer, hc, _, htake⟩
      rw [htake]
      exact Or.inr ⟨c, buffer, hc, rfl⟩

theorem take_frame (b : Broker) (id : ConsumerId) :
    ∃ consumers, (b.take id).1 = { b with consumers } := by
  rcases take_cases b id with heq | ⟨c, buffer, _, heq⟩
  · exact ⟨b.consumers, heq⟩
  · exact ⟨_, heq⟩

theorem queues_take (b : Broker) (id : ConsumerId) : (b.take id).1.queues = b.queues := by
  rcases take_frame b id with ⟨consumers, heq⟩
  rw [heq]

theorem standing_take (b : Broker) (id : ConsumerId) : (b.take id).1.standing = b.standing := by
  rcases take_cases b id with heq | ⟨c, buffer, hc, heq⟩
  · rw [heq]
  · rw [heq]
    exact standing_insert_buffer hc buffer

theorem readers_congr {b after : Broker} {name : String}
    (hqueue : after.queues[name]? = b.queues[name]?)
    (hstanding : ∀ id ∈ b.members name, after.standing id = b.standing id) :
    after.readers name = b.readers name := by
  unfold readers
  rw [members_congr hqueue]
  apply List.filter_congr
  intro id hid
  rw [isLive_eq, isLive_eq, hstanding id hid]

theorem readers_take (b : Broker) (id : ConsumerId) (name : String) :
    (b.take id).1.readers name = b.readers name := by
  apply readers_congr
  · rcases take_frame b id with ⟨consumers, heq⟩
    rw [heq]
  · intro other _
    rw [standing_take]

theorem unread_take_of_ne (b : Broker) {id other : ConsumerId} (h : other ≠ id) :
    (b.take id).1.unread other = b.unread other := by
  rcases take_cases b id with heq | ⟨c, buffer, _, heq⟩
  · rw [heq]
  · rw [heq]
    unfold unread
    dsimp only
    rw [lookup_insert_of_ne _ h]

/-- A consumer holds what somebody takes from it and what it holds afterwards. -/
theorem unread_take_self (b : Broker) (id : ConsumerId) :
    b.unread id = (b.take id).2.toList ++ (b.take id).1.unread id := by
  cases hunread : b.unread id with
  | nil =>
      rw [take_of_unread_nil hunread]
      exact hunread.symm
  | cons first rest =>
      rcases take_of_unread_cons hunread with ⟨consumer, buffer, _, hrest, htake⟩
      rw [htake]
      unfold unread
      dsimp only
      rw [Std.ExtTreeMap.getElem?_insert_self]
      dsimp only
      rw [hrest]
      rfl

theorem Seated.take {b : Broker} (h : b.Seated) (id : ConsumerId) : (b.take id).1.Seated := by
  apply h.shrink
  · rcases take_frame b id with ⟨consumers, heq⟩
    rw [heq]
  · intro other _
    rw [standing_take]
  · intro name other hother
    rw [readers_take] at hother
    exact hother

theorem standing_close (b : Broker) (id other : ConsumerId) :
    (b.close id).standing other = if id = other then none else b.standing other := by
  unfold standing close
  dsimp only
  rw [lookup_erase]
  split <;> rfl

theorem unread_close_of_ne (b : Broker) {id other : ConsumerId} (h : other ≠ id) :
    (b.close id).unread other = b.unread other := by
  unfold unread close
  dsimp only
  rw [lookup_erase, if_neg h.symm]

theorem readers_close (b : Broker) (id : ConsumerId) (name : String) :
    (b.close id).readers name = (b.readers name).filter (· ≠ id) := by
  unfold readers
  rw [List.filter_filter]
  apply List.filter_congr
  intro other _
  rw [isLive_eq, isLive_eq, standing_close]
  by_cases heq : id = other
  · simp [heq]
  · simp [heq, Ne.symm heq]

theorem Seated.close {b : Broker} (h : b.Seated) (id : ConsumerId) : (b.close id).Seated := by
  have hopened : (b.close id).opened = b.opened := rfl
  apply h.shrink hopened
  · intro other hlive
    rw [isLive_eq, standing_close] at hlive
    rw [standing_close]
    split
    next heq =>
      rw [if_pos heq] at hlive
      cases hlive
    next => rfl
  · intro name other hother
    rw [readers_close] at hother
    exact List.mem_of_mem_filter hother

theorem standing_cancelAll (b : Broker) (id : ConsumerId) :
    b.cancelAll.standing id = (b.standing id).map fun seat => (seat.1, false) := by
  unfold standing cancelAll
  dsimp only
  rw [Std.ExtTreeMap.getElem?_map, Option.map_map, Option.map_map]
  rfl

theorem unread_cancelAll (b : Broker) (id : ConsumerId) :
    b.cancelAll.unread id = b.unread id := by
  unfold unread cancelAll
  dsimp only
  rw [Std.ExtTreeMap.getElem?_map]
  cases b.consumers[id]? <;> rfl

theorem readers_cancelAll (b : Broker) (name : String) : b.cancelAll.readers name = [] := by
  unfold readers
  rw [members_cancelAll]
  rfl

theorem Seated.cancelAll {b : Broker} (h : b.Seated) : b.cancelAll.Seated where
  numbered := by
    intro id hlive
    rw [isLive_eq, standing_cancelAll, Option.isSome_map, ← isLive_eq] at hlive
    exact h.numbered id hlive
  attached := by
    intro name id hid
    rw [readers_cancelAll] at hid
    exact absurd hid List.not_mem_nil

/-! ## Opening a consumer -/

def queueName (b : Broker) (binding : Binding) : String := (b.chooseQueue binding.queue).2.1

/-- The broker with the routes of a binding, before a consumer is attached. -/
def routed (b : Broker) (exchanges : Std.ExtTreeMap String ExchangeKind) (namedQueues : Nat)
    (binding : Binding) : Broker :=
  { b with
    exchanges, namedQueues
    routes := addRoutes b.routes binding.exchange (b.queueName binding) binding.keys }

theorem declare_eq (b : Broker) (exchanges : Std.ExtTreeMap String ExchangeKind)
    (binding : Binding) :
    ∃ namedQueues, ({ b with exchanges } : Broker).declare binding =
      (((b.routed exchanges namedQueues binding).attach (b.queueName binding)
        (b.chooseQueue binding.queue).2.2).1, b.queueName binding, b.opened) := by
  unfold declare routed queueName
  cases hqueue : binding.queue with
  | named name durable => exact ⟨b.namedQueues, rfl⟩
  | exclusive => exact ⟨b.namedQueues + 1, rfl⟩

/-- A consumer is refused and nothing happens, or its exchange is there under the right kind and the
consumer is attached to its queue behind the routes of the binding. -/
theorem openConsumer_cases (b : Broker) (binding : Binding) :
    (∃ e, b.openConsumer binding = (b, .error e)) ∨
      ∃ (exchanges : Std.ExtTreeMap String ExchangeKind) (namedQueues : Nat),
        b.refusing = false ∧ exchanges[binding.exchange]? = some binding.kind ∧
        (∀ (exchange : String) (kind : ExchangeKind), b.exchanges[exchange]? = some kind →
          exchanges[exchange]? = some kind) ∧
        b.openConsumer binding =
          (((b.routed exchanges namedQueues binding).attach (b.queueName binding)
            (b.chooseQueue binding.queue).2.2).1, .ok (b.queueName binding, b.opened)) := by
  unfold openConsumer
  split
  next => exact Or.inl ⟨_, rfl⟩
  next haccepting =>
    have haccepting' : b.refusing = false := Bool.eq_false_iff.mpr haccepting
    cases hkind : b.exchanges[binding.exchange]? with
    | some kind =>
        dsimp only
        split
        next heq =>
          rcases declare_eq b b.exchanges binding with ⟨namedQueues, hdeclare⟩
          refine Or.inr ⟨b.exchanges, namedQueues, haccepting', heq ▸ hkind, fun _ _ h => h, ?_⟩
          exact congrArg (fun p => (p.1, Except.ok p.2)) hdeclare
        next => exact Or.inl ⟨_, rfl⟩
    | none =>
        rcases declare_eq b (b.exchanges.insert binding.exchange binding.kind) binding with
          ⟨namedQueues, hdeclare⟩
        refine Or.inr ⟨b.exchanges.insert binding.exchange binding.kind, namedQueues, haccepting',
          Std.ExtTreeMap.getElem?_insert_self, ?_, ?_⟩
        · intro exchange kind hdeclared
          have hne : exchange ≠ binding.exchange := by
            intro heq
            rw [heq, hkind] at hdeclared
            cases hdeclared
          rw [lookup_insert_of_ne _ hne]
          exact hdeclared
        · exact congrArg (fun p => (p.1, Except.ok p.2)) hdeclare

theorem standing_attach (b : Broker) (name : String) (exclusive : Bool) (id : ConsumerId) :
    (b.attach name exclusive).1.standing id =
      if b.opened = id then some (name, true) else b.standing id :=
  standing_insert b b.opened id _

theorem unread_attach_of_ne (b : Broker) (name : String) (exclusive : Bool) {id : ConsumerId}
    (h : id ≠ b.opened) : (b.attach name exclusive).1.unread id = b.unread id := by
  unfold unread attach
  dsimp only
  rw [lookup_insert_of_ne _ h]

theorem readers_attach {b : Broker} (hopened : ∀ name, ∀ id ∈ b.members name, id < b.opened)
    (name other : String) (exclusive : Bool) :
    (b.attach name exclusive).1.readers other =
      if name = other then b.readers name ++ [b.opened] else b.readers other := by
  have hold : ∀ queue, (b.members queue).filter (b.attach name exclusive).1.isLive =
      b.readers queue := by
    intro queue
    apply List.filter_congr
    intro id hid
    have hne : b.opened ≠ id := Ne.symm (Nat.ne_of_lt (hopened queue id hid))
    rw [isLive_eq, isLive_eq, standing_attach, if_neg hne]
  have hnew : (b.attach name exclusive).1.isLive b.opened = true := by
    rw [isLive_eq, standing_attach, if_pos rfl]
    rfl
  have hmembers := members_attach b name other exclusive
  unfold readers at hold ⊢
  rw [hmembers]
  split
  · rw [List.filter_append, hold name, List.filter_cons_of_pos hnew, List.filter_nil]
  · exact hold other

theorem Seated.attach {b : Broker} (h : b.Seated)
    (hopened : ∀ name, ∀ id ∈ b.members name, id < b.opened) (name : String) (exclusive : Bool) :
    (b.attach name exclusive).1.Seated where
  numbered := by
    intro id hlive
    rw [isLive_eq, standing_attach] at hlive
    split at hlive
    next heq =>
      rw [← heq]
      exact Nat.lt_succ_self _
    next =>
      rw [← isLive_eq] at hlive
      exact Nat.lt_succ_of_lt (h.numbered id hlive)
  attached := by
    intro other id hid
    have hold : ∀ queue, id ∈ b.readers queue →
        (b.attach name exclusive).1.standing id = some (queue, true) := by
      intro queue hqueue
      have hlt := h.numbered id (mem_readers_iff.mp hqueue).2
      rw [standing_attach, if_neg (Ne.symm (Nat.ne_of_lt hlt))]
      exact h.attached queue id hqueue
    rw [readers_attach hopened] at hid
    split at hid
    next heq =>
      subst heq
      rcases List.mem_append.mp hid with hid | hid
      · exact hold name hid
      · rw [List.mem_singleton.mp hid, standing_attach, if_pos rfl]
    next => exact hold other hid

theorem Seated.openConsumer {b : Broker} (h : b.Seated) (hwired : b.Wired) (binding : Binding) :
    (b.openConsumer binding).1.Seated := by
  rcases openConsumer_cases b binding with
    ⟨e, heq⟩ | ⟨exchanges, namedQueues, _, _, _, heq⟩
  · rw [heq]
    exact h
  · have hrouted : (b.routed exchanges namedQueues binding).Seated := ⟨h.numbered, h.attached⟩
    rw [heq]
    exact hrouted.attach hwired.opened _ _

/-! ## Runs -/

theorem Seated.perform {b : Broker} (h : b.Seated) (hwired : b.Wired) (op : Op) :
    (b.perform op).Seated := by
  cases op with
  | openConsumer binding => exact h.openConsumer hwired binding
  | publish m => exact h.publish m
  | take id => exact h.take id
  | close id => exact h.close id
  | cancelAll => exact h.cancelAll
  | setRefusing refusing => exact ⟨h.numbered, h.attached⟩

theorem Seated.run {b : Broker} (h : b.Seated) (hwired : b.Wired) (ops : List Op) :
    (b.run ops).Seated := by
  induction ops generalizing b with
  | nil => exact h
  | cons op ops ih => exact ih (h.perform hwired op) (hwired.perform op)

theorem seated_run (ops : List Op) : (({} : Broker).run ops).Seated :=
  seated_empty.run wired_empty ops

end Broker
end MetricGateway
