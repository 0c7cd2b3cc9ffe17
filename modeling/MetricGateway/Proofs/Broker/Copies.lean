import MetricGateway.Proofs.Broker.Wiring
import MetricGateway.Proofs.Wire.RoundTrip

/-!
# How many copies a queue receives

The broker hands one copy of a message to a queue for each route that leads the message there.  A
route is declared once, so a direct exchange has at most one such route to a queue, the one under
the key of the message.  A fanout exchange does not look at keys: a queue that is bound to it under
two keys receives every message twice.

A copy that a queue receives is handed to one of the consumers that are read; if its buffer is full
the copy is lost.  Where nobody reads the queue the copy waits, unless the queue is exclusive.
-/

namespace MetricGateway
namespace Broker

structure View where
  exclusive : Bool
  /-- The consumers that are read, in their order, with the messages that they hold. -/
  readers : List (ConsumerId × List Message)
  backlog : List Message
deriving DecidableEq

/-- A backlog with one more message; a full one loses its oldest message. -/
def pile (backlog : List Message) (m : Message) : List Message :=
  (if maxBacklog ≤ backlog.length then backlog.tail else backlog) ++ [m]

/-- The newest messages of a list, as many as a backlog holds. -/
def newest (ms : List Message) : List Message := ms.drop (ms.length - maxBacklog)

theorem newest_of_le {ms : List Message} (h : ms.length ≤ maxBacklog) : newest ms = ms := by
  unfold newest
  rw [Nat.sub_eq_zero_of_le h, List.drop_zero]

theorem length_newest_le (ms : List Message) : (newest ms).length ≤ maxBacklog := by
  unfold newest
  rw [List.length_drop]
  omega

theorem newest_newest_append (ms more : List Message) :
    newest (newest ms ++ more) = newest (ms ++ more) := by
  have hsplit : newest ms ++ more = (ms ++ more).drop (ms.length - maxBacklog) :=
    (List.drop_append_of_le_length (Nat.sub_le _ _)).symm
  have hdropped : ms.length - maxBacklog + ((ms ++ more).length - (ms.length - maxBacklog) -
      maxBacklog) = (ms ++ more).length - maxBacklog := by
    rw [List.length_append]
    omega
  rw [hsplit]
  unfold newest
  rw [List.drop_drop, List.length_drop, hdropped]

theorem pile_eq_newest {backlog : List Message} (h : backlog.length ≤ maxBacklog) (m : Message) :
    pile backlog m = newest (backlog ++ [m]) := by
  have hold : (if maxBacklog ≤ backlog.length then backlog.tail else backlog) =
      backlog.drop ((backlog ++ [m]).length - maxBacklog) := by
    rw [List.length_append, List.length_singleton]
    split
    next hfull => rw [← List.drop_one, Nat.le_antisymm h hfull, Nat.add_sub_cancel_left]
    next hroom => rw [Nat.sub_eq_zero_of_le (Nat.lt_of_not_le hroom), List.drop_zero]
  have hle : (backlog ++ [m]).length - maxBacklog ≤ backlog.length := by
    rw [List.length_append, List.length_singleton]
    have hpos : 0 < maxBacklog := by decide
    omega
  unfold pile newest
  rw [hold, List.drop_append_of_le_length hle]

namespace View

/-- What becomes of a queue that receives one copy of a message. -/
inductive Receives (m : Message) : View → View → Prop where
  | handed {exclusive before id held after backlog} (room : held.length < consumerBuffer) :
      Receives m ⟨exclusive, before ++ (id, held) :: after, backlog⟩
        ⟨exclusive, before ++ (id, held ++ [m]) :: after, backlog⟩
  | overflowed {exclusive before id held after backlog} (full : consumerBuffer ≤ held.length) :
      Receives m ⟨exclusive, before ++ (id, held) :: after, backlog⟩
        ⟨exclusive, before ++ (id, held) :: after, backlog⟩
  | kept {backlog} : Receives m ⟨false, [], backlog⟩ ⟨false, [], pile backlog m⟩
  | dropped {backlog} : Receives m ⟨true, [], backlog⟩ ⟨true, [], backlog⟩

theorem Receives.held_le {m : Message} {v w : View} (h : v.Receives m w) :
    (w.readers.flatMap (·.2)).length ≤ (v.readers.flatMap (·.2)).length + 1 := by
  cases h with
  | handed room =>
      simp only [List.flatMap_append, List.flatMap_cons, List.length_append, List.length_singleton]
      omega
  | overflowed full => exact Nat.le_succ _
  | kept => exact Nat.zero_le _
  | dropped => exact Nat.zero_le _

/-- What becomes of a queue that receives a number of copies, one after the other. -/
inductive Copies (m : Message) : Nat → View → View → Prop where
  | none {v} : Copies m 0 v v
  | more {n v w u} : Receives m v w → Copies m n w u → Copies m (n + 1) v u

end View

def readers (b : Broker) (name : String) : List ConsumerId := (b.members name).filter b.isLive

def view (b : Broker) (name : String) : View where
  exclusive := (b.queues.getD name {}).exclusive
  readers := (b.readers name).map fun id => (id, b.unread id)
  backlog := b.waiting name

theorem view_of_getElem? {b : Broker} {name : String} {q : Queue} (h : b.queues[name]? = some q) :
    b.view name =
      ⟨q.exclusive, (b.readers name).map fun id => (id, b.unread id), q.backlog.toList⟩ := by
  unfold view waiting
  rw [Std.ExtTreeMap.getD_eq_getD_getElem?, h]
  rfl

theorem readers_of_getElem? {b : Broker} {name : String} {q : Queue}
    (h : b.queues[name]? = some q) : b.readers name = q.consumers.filter b.isLive := by
  unfold readers
  rw [members_of_getElem? h]

theorem toList_keep_eq_pile (backlog : Fifo Message) (m : Message) :
    (keep backlog m).toList = pile backlog.toList m := by
  unfold keep pile
  rw [Fifo.size_eq_length]
  split
  next hfull =>
    cases hpop : backlog.pop? with
    | none =>
        rw [Fifo.toList_of_pop?_none hpop] at hfull
        exact absurd hfull (by decide)
    | some popped =>
        rw [Fifo.toList_of_pop?_some hpop, List.tail_cons]
        exact Fifo.toList_push popped.2 m
  next => exact Fifo.toList_push backlog m

/-! ## Offering a message to a consumer -/

theorem queues_offer (b : Broker) (id : ConsumerId) (m : Message) :
    (b.offer id m).queues = b.queues := by
  rcases offer_eq b id m with ⟨consumers, heq⟩
  rw [heq]

theorem isLive_offer (b : Broker) (id other : ConsumerId) (m : Message) :
    (b.offer id m).isLive other = b.isLive other := by
  unfold offer
  split
  next c hc =>
    split
    · have hid : id ∈ b.consumers := mem_of_lookup hc
      unfold isLive
      rw [decide_eq_decide, Std.ExtTreeMap.mem_insert, Std.LawfulEqOrd.compare_eq_iff_eq]
      constructor
      · rintro (heq | hother)
        · exact heq ▸ hid
        · exact hother
      · exact Or.inr
    · rfl
  next => rfl

theorem unread_offer_of_ne (b : Broker) {id other : ConsumerId} (h : other ≠ id) (m : Message) :
    (b.offer id m).unread other = b.unread other := by
  unfold offer
  split
  · split
    · unfold unread
      dsimp only
      rw [lookup_insert_of_ne _ h]
    · rfl
  · rfl

theorem unread_offer_self {b : Broker} {id : ConsumerId} (h : b.isLive id = true) (m : Message) :
    (b.offer id m).unread id =
      if (b.unread id).length < consumerBuffer then b.unread id ++ [m] else b.unread id := by
  have hid : id ∈ b.consumers := of_decide_eq_true h
  rcases exists_lookup_of_mem hid with ⟨c, hc⟩
  have hunread : b.unread id = c.buffer.toList := by
    unfold unread
    rw [hc]
  unfold offer
  rw [hc, hunread, ← Fifo.size_eq_length]
  dsimp only
  split
  next =>
    unfold unread
    dsimp only
    rw [Std.ExtTreeMap.getElem?_insert_self]
    exact Fifo.toList_push c.buffer m
  next => exact hunread

/-! ## Handing a message to a queue -/

theorem unread_deliver_of_not_mem {b : Broker} {name : String} {id : ConsumerId}
    (h : id ∉ b.readers name) (m : Message) : (b.deliver name m).unread id = b.unread id := by
  cases hq : b.queues[name]? with
  | none => rw [deliver_of_none hq]
  | some q =>
      rcases deliver_cases hq m with ⟨before, turn, after, hlive, hdeliver⟩ | ⟨_, hdeliver⟩
      · have hne : id ≠ turn := by
          intro heq
          apply h
          rw [readers_of_getElem? hq, hlive, heq]
          exact List.mem_append_right before List.mem_cons_self
        rw [hdeliver, unread_offer_of_ne _ hne]
        rfl
      · rw [hdeliver]
        rfl

theorem isLive_deliver (b : Broker) (name : String) (m : Message) :
    (b.deliver name m).isLive = b.isLive := by
  funext id
  cases hq : b.queues[name]? with
  | none => rw [deliver_of_none hq]
  | some q =>
      rcases deliver_cases hq m with ⟨before, turn, after, _, hdeliver⟩ | ⟨_, hdeliver⟩
      · rw [hdeliver, isLive_offer]
        rfl
      · rw [hdeliver]
        rfl

theorem readers_deliver (b : Broker) (name other : String) (m : Message) :
    (b.deliver name m).readers other = b.readers other := by
  unfold readers
  rw [isLive_deliver]
  cases hq : b.queues[name]? with
  | none => rw [deliver_of_none hq]
  | some q =>
      rcases deliver_eq hq m with ⟨after, consumers, hconsumers, heq⟩
      have hmembers : (b.deliver name m).members other =
          if name = other then after.consumers else b.members other := by
        rw [heq]
        exact members_insert b name other after
      rw [hmembers]
      split
      next hother =>
        rw [← hother, members_of_getElem? hq, hconsumers, List.filter_filter]
        simp only [Bool.and_self]
      next => rfl

theorem getElem?_queues_deliver_of_ne (b : Broker) {name other : String} (h : other ≠ name)
    (m : Message) : (b.deliver name m).queues[other]? = b.queues[other]? := by
  cases hq : b.queues[name]? with
  | none => rw [deliver_of_none hq]
  | some q =>
      rcases deliver_eq hq m with ⟨after, consumers, _, heq⟩
      rw [heq, lookup_insert_of_ne _ h]

theorem mem_queues_deliver {b : Broker} {name other : String} (h : other ∈ b.queues)
    (m : Message) : other ∈ (b.deliver name m).queues := by
  cases hq : b.queues[name]? with
  | none =>
      rw [deliver_of_none hq]
      exact h
  | some q =>
      rcases deliver_eq hq m with ⟨after, consumers, _, heq⟩
      rw [heq]
      exact Std.ExtTreeMap.mem_insert.mpr (Or.inr h)

theorem Wired.view_deliver_of_ne {b : Broker} (h : b.Wired) {name other : String}
    (hne : other ≠ name) (m : Message) : (b.deliver name m).view other = b.view other := by
  have hunread : ∀ id ∈ b.readers other, (b.deliver name m).unread id = b.unread id := by
    intro id hid
    apply unread_deliver_of_not_mem
    intro hname
    exact hne (h.apart (List.mem_of_mem_filter hid) (List.mem_of_mem_filter hname))
  unfold view waiting
  rw [readers_deliver, Std.ExtTreeMap.getD_eq_getD_getElem?, Std.ExtTreeMap.getD_eq_getD_getElem?,
    getElem?_queues_deliver_of_ne b hne]
  congr 1
  apply List.map_congr_left
  intro id hid
  rw [hunread id hid]

/-- The consumer that is offered a message, and no other consumer of the queue, holds it. -/
theorem map_unread_deliver {b : Broker} {before after : List ConsumerId} {turn : ConsumerId}
    (hnodup : (before ++ turn :: after).Nodup) (hlive : b.isLive turn = true) (m : Message) :
    (before ++ turn :: after).map (fun id => (id, (b.offer turn m).unread id)) =
      before.map (fun id => (id, b.unread id)) ++
        (turn, if (b.unread turn).length < consumerBuffer then b.unread turn ++ [m]
          else b.unread turn) :: after.map (fun id => (id, b.unread id)) := by
  have hothers : ∀ ids : List ConsumerId, turn ∉ ids →
      ids.map (fun id => (id, (b.offer turn m).unread id)) =
        ids.map fun id => (id, b.unread id) := by
    intro ids hturn
    apply List.map_congr_left
    intro id hid
    have hne : id ≠ turn := fun heq => hturn (heq ▸ hid)
    rw [unread_offer_of_ne b hne]
  rcases List.nodup_middle.mp hnodup with _ | ⟨hturn, _⟩
  have hnot : turn ∉ before ∧ turn ∉ after := by
    constructor
    · exact fun hmem => hturn turn (List.mem_append_left after hmem) rfl
    · exact fun hmem => hturn turn (List.mem_append_right before hmem) rfl
  rw [List.map_append, List.map_cons, hothers before hnot.1, hothers after hnot.2,
    unread_offer_self hlive]

theorem Wired.view_deliver_self {b : Broker} (h : b.Wired) {name : String} (hname : name ∈ b.queues)
    (m : Message) : (b.view name).Receives m ((b.deliver name m).view name) := by
  rcases exists_lookup_of_mem hname with ⟨q, hq⟩
  have hafter : ∀ {q'}, (b.deliver name m).queues[name]? = some q' → (b.deliver name m).view name =
      ⟨q'.exclusive, (b.readers name).map fun id => (id, (b.deliver name m).unread id),
        q'.backlog.toList⟩ := by
    intro q' hq'
    rw [view_of_getElem? hq', readers_deliver]
  rcases deliver_cases hq m with ⟨before, turn, after, hlive, hdeliver⟩ | ⟨hlive, hdeliver⟩
  · have hreaders : b.readers name = before ++ turn :: after := (readers_of_getElem? hq).trans hlive
    have hturn : b.isLive turn = true := by
      have hmem : turn ∈ b.readers name := by
        rw [hreaders]
        exact List.mem_append_right before List.mem_cons_self
      exact (List.mem_filter.mp hmem).2
    have hnodup : (before ++ turn :: after).Nodup := hreaders ▸ (h.members_nodup name).filter _
    rw [view_of_getElem? hq, hafter (by
      rw [hdeliver, queues_offer]
      exact Std.ExtTreeMap.getElem?_insert_self), hreaders, hdeliver]
    have hoffered := map_unread_deliver (b := { b with queues := b.queues.insert name { q with
      consumers := before ++ turn :: after, rotation := q.rotation + 1 } }) hnodup hturn m
    rw [hoffered, List.map_append, List.map_cons]
    split
    next hroom => exact View.Receives.handed hroom
    next hfull => exact View.Receives.overflowed (Nat.not_lt.mp hfull)
  · have hreaders : b.readers name = [] := (readers_of_getElem? hq).trans hlive
    rw [view_of_getElem? hq, hafter (by
      rw [hdeliver]
      exact Std.ExtTreeMap.getElem?_insert_self), hreaders]
    cases hexclusive : q.exclusive with
    | true => exact View.Receives.dropped
    | false =>
        rw [if_neg Bool.false_ne_true, toList_keep_eq_pile]
        exact View.Receives.kept

/-! ## Handing a message to several queues -/

theorem Wired.deliverAll_copies {b : Broker} (h : b.Wired) {exchange key : String}
    {frame : Wire.Bytes} {envelope : Envelope} (hframe : Envelope.ofFrame frame = .ok envelope)
    {names : List String} (hnames : ∀ name ∈ names, name ∈ b.queues) (name : String) :
    (b.view name).Copies ⟨exchange, key, envelope⟩ (names.count name)
      ((b.deliverAll exchange key frame names).1.view name) := by
  induction names generalizing b with
  | nil => exact View.Copies.none
  | cons first names ih =>
      have hrest := ih (h.deliver first ⟨exchange, key, envelope⟩)
        fun other hother => mem_queues_deliver (hnames other (List.mem_cons_of_mem first hother)) _
      unfold Broker.deliverAll
      rw [hframe]
      dsimp only
      by_cases heq : name = first
      · subst heq
        rw [List.count_cons_self]
        exact View.Copies.more (h.view_deliver_self (hnames name List.mem_cons_self) _) hrest
      · rw [List.count_cons_of_ne (Ne.symm heq)]
        rw [h.view_deliver_of_ne heq] at hrest
        exact hrest

theorem unread_deliverAll_of_not_mem {b : Broker} {exchange key : String} {frame : Wire.Bytes}
    {names : List String} {id : ConsumerId} (h : ∀ name ∈ names, id ∉ b.readers name) :
    (b.deliverAll exchange key frame names).1.unread id = b.unread id := by
  induction names generalizing b with
  | nil => rfl
  | cons first names ih =>
      unfold deliverAll
      split
      · rfl
      next envelope _ =>
        rw [ih, unread_deliver_of_not_mem (h first List.mem_cons_self)]
        intro name hname
        rw [readers_deliver]
        exact h name (List.mem_cons_of_mem first hname)

/-! ## Publishing -/

/-- Whether a route leads a message to its queue. -/
def Leads (b : Broker) (m : Message) (r : Route) : Prop :=
  r.exchange = m.exchange ∧ (b.exchanges[m.exchange]? = some .fanout ∨ r.key = m.key)

instance (b : Broker) (m : Message) (r : Route) : Decidable (b.Leads m r) := by
  unfold Leads
  infer_instance

def leading (b : Broker) (m : Message) (name : String) : List Route :=
  b.routes.filter fun r => r.queue = name ∧ b.Leads m r

theorem count_targets {b : Broker} {m : Message} {kind : ExchangeKind}
    (h : b.exchanges[m.exchange]? = some kind) (name : String) :
    (b.targets kind m).count name = (b.leading m name).length := by
  unfold targets leading
  rw [List.count_eq_countP, List.countP_map, List.countP_filter, List.countP_eq_length_filter]
  congr 1
  apply List.filter_congr
  intro r _
  rw [Bool.eq_iff_iff]
  simp [Leads, h]

theorem queue_of_mem_targets {b : Broker} {m : Message} {kind : ExchangeKind} {name : String}
    (h : name ∈ b.targets kind m) : ∃ r ∈ b.routes, r.queue = name := by
  rcases List.mem_map.mp h with ⟨r, hr, hqueue⟩
  exact ⟨r, List.mem_of_mem_filter hr, hqueue⟩

theorem Wired.leading_eq_nil {b : Broker} (h : b.Wired) {m : Message}
    (hexchange : b.exchanges[m.exchange]? = none) (name : String) : b.leading m name = [] := by
  apply List.filter_eq_nil_iff.mpr
  intro r hr hleads
  rcases of_decide_eq_true hleads with ⟨_, hsame, _⟩
  rcases exists_lookup_of_mem (h.exchange_mem r hr) with ⟨kind, hkind⟩
  rw [hsame, hexchange] at hkind
  cases hkind

/-- A fanout exchange is bound to a queue under at most one key. -/
def BoundOnce (b : Broker) (exchange name : String) : Prop :=
  b.exchanges[exchange]? = some .fanout → ∀ r ∈ b.routes, ∀ s ∈ b.routes,
    r.exchange = exchange → s.exchange = exchange → r.queue = name → s.queue = name → r.key = s.key

/-- At most one copy of a message goes to a queue, if its exchange is bound there only once. -/
theorem Wired.length_leading_le_one_of_boundOnce {b : Broker} (h : b.Wired) {m : Message}
    {name : String} (hkeys : b.BoundOnce m.exchange name) : (b.leading m name).length ≤ 1 := by
  have hsame : ∀ r ∈ b.leading m name, ∀ s ∈ b.leading m name, r = s := by
    intro r hr s hs
    rcases List.mem_filter.mp hr with ⟨hrRoute, hrLeads⟩
    rcases List.mem_filter.mp hs with ⟨hsRoute, hsLeads⟩
    rcases of_decide_eq_true hrLeads with ⟨hrQueue, hrExchange, hrKey⟩
    rcases of_decide_eq_true hsLeads with ⟨hsQueue, hsExchange, hsKey⟩
    have hkey : r.key = s.key := by
      by_cases hfanout : b.exchanges[m.exchange]? = some .fanout
      · exact hkeys hfanout r hrRoute s hsRoute hrExchange hsExchange hrQueue hsQueue
      · exact (hrKey.resolve_left hfanout).trans (hsKey.resolve_left hfanout).symm
    cases r
    cases s
    simp_all
  have hnodup : (b.leading m name).Nodup := h.routes_nodup.filter _
  cases hleading : b.leading m name with
  | nil => exact Nat.zero_le 1
  | cons r others =>
      cases others with
      | nil => exact Nat.le_refl 1
      | cons s others =>
          rw [hleading] at hnodup hsame
          have hs : s ∈ r :: s :: others := List.mem_cons_of_mem r List.mem_cons_self
          have heq : r = s := hsame r List.mem_cons_self s hs
          exact absurd (heq ▸ List.mem_cons_self) (List.nodup_cons.mp hnodup).1

theorem boundOnce_of_length_leading_le_one {b : Broker} {m : Message} {name : String}
    (hle : (b.leading m name).length ≤ 1) : b.BoundOnce m.exchange name := by
  intro hfanout r hr s hs hrExchange hsExchange hrQueue hsQueue
  have hmem : ∀ t ∈ b.routes, t.exchange = m.exchange → t.queue = name →
      t ∈ b.leading m name := by
    intro t ht hexchange hname
    exact List.mem_filter.mpr ⟨ht, decide_eq_true ⟨hname, hexchange, Or.inl hfanout⟩⟩
  have hrMem := hmem r hr hrExchange hrQueue
  have hsMem := hmem s hs hsExchange hsQueue
  cases hleading : b.leading m name with
  | nil =>
      rw [hleading] at hrMem
      cases hrMem
  | cons t others =>
      rw [hleading] at hrMem hsMem hle
      have hothers : others = [] :=
        List.eq_nil_of_length_eq_zero (Nat.le_zero.mp (Nat.le_of_succ_le_succ hle))
      rw [hothers] at hrMem hsMem
      rw [List.mem_singleton.mp hrMem, List.mem_singleton.mp hsMem]

/-- At most one copy goes to a queue, if a fanout exchange is bound to it under one key only. -/
theorem Wired.length_leading_le_one {b : Broker} (h : b.Wired) {m : Message}
    (hkeys : b.exchanges[m.exchange]? = some .fanout → ∀ r ∈ b.routes, ∀ s ∈ b.routes,
      r.exchange = m.exchange → s.exchange = m.exchange → r.queue = s.queue → r.key = s.key)
    (name : String) : (b.leading m name).length ≤ 1 := by
  apply h.length_leading_le_one_of_boundOnce
  intro hfanout r hr s hs hrExchange hsExchange hrQueue hsQueue
  exact hkeys hfanout r hr s hs hrExchange hsExchange (hrQueue.trans hsQueue.symm)

theorem key_eq_of_length_leading_le_one {b : Broker} {m : Message}
    (h : ∀ name, (b.leading m name).length ≤ 1) (hfanout : b.exchanges[m.exchange]? = some .fanout)
    {r s : Route} (hr : r ∈ b.routes) (hs : s ∈ b.routes) (hrExchange : r.exchange = m.exchange)
    (hsExchange : s.exchange = m.exchange) (hqueue : r.queue = s.queue) : r.key = s.key :=
  boundOnce_of_length_leading_le_one (h s.queue) hfanout r hr s hs hrExchange hsExchange hqueue rfl

/-- What becomes of the queues when a message is published that the broker accepts. -/
theorem Wired.publish_copies {b : Broker} (h : b.Wired) {m : Message} (hfits : m.envelope.Fits)
    (haccepted : (b.publish m).2 = .ok ()) :
    (∀ name, (b.view name).Copies m (b.leading m name).length ((b.publish m).1.view name)) ∧
      ∀ id, (∀ name, b.leading m name ≠ [] → id ∉ b.readers name) →
        (b.publish m).1.unread id = b.unread id := by
  unfold Broker.publish at haccepted ⊢
  split at haccepted
  next => cases haccepted
  next haccepting =>
    rw [if_neg haccepting]
    cases hexchange : b.exchanges[m.exchange]? with
    | none =>
        constructor
        · intro name
          rw [h.leading_eq_nil hexchange]
          exact View.Copies.none
        · exact fun _ _ => rfl
    | some kind =>
        have hqueues : ∀ name ∈ b.targets kind m, name ∈ b.queues := by
          intro name hname
          rcases queue_of_mem_targets hname with ⟨r, hr, hqueue⟩
          exact hqueue ▸ h.queue_mem r hr
        constructor
        · intro name
          rw [← count_targets hexchange]
          exact h.deliverAll_copies hfits.ofFrame_toFrame hqueues name
        · intro id hid
          apply unread_deliverAll_of_not_mem
          intro name hname
          apply hid name
          intro hnil
          have hcount := List.count_pos_iff.mpr hname
          rw [count_targets hexchange, hnil] at hcount
          cases hcount

/-- A queue receives exactly one copy of a message for each route that leads the message there, and
nothing else is handed out.  These are one copy for every queue that is bound, and none for the
others, if and only if the exchange is not a fanout exchange that is bound to a queue under two
keys. -/
theorem publish_copies_run (ops : List Op) (m : Message) (hfits : m.envelope.Fits)
    (haccepted : ((({} : Broker).run ops).publish m).2 = .ok ()) :
    let b := ({} : Broker).run ops
    let after := (b.publish m).1
    (∀ name, (b.view name).Copies m (b.leading m name).length (after.view name)) ∧
      (∀ id, (∀ name, b.leading m name ≠ [] → id ∉ b.readers name) →
        after.unread id = b.unread id) ∧
      ((∀ name, (b.leading m name).length =
          if ∃ r ∈ b.routes, r.queue = name ∧ b.Leads m r then 1 else 0) ↔
        (b.exchanges[m.exchange]? = some .fanout → ∀ r ∈ b.routes, ∀ s ∈ b.routes,
          r.exchange = m.exchange → s.exchange = m.exchange → r.queue = s.queue →
            r.key = s.key)) := by
  intro b after
  have hwired : b.Wired := wired_run ops
  rcases hwired.publish_copies hfits haccepted with ⟨hcopies, hothers⟩
  refine ⟨hcopies, hothers, ?_⟩
  constructor
  · intro hone hfanout r hr s hs
    apply key_eq_of_length_leading_le_one _ hfanout hr hs
    intro name
    rw [hone name]
    split
    · exact Nat.le_refl 1
    · exact Nat.zero_le 1
  · intro hkeys name
    have hle := hwired.length_leading_le_one hkeys name
    split
    next hbound =>
      rcases hbound with ⟨r, hr, hleads⟩
      have hmem : r ∈ b.leading m name := List.mem_filter.mpr ⟨hr, decide_eq_true hleads⟩
      exact Nat.le_antisymm hle (List.length_pos_of_mem hmem)
    next hunbound =>
      rw [List.length_eq_zero_iff]
      apply List.filter_eq_nil_iff.mpr
      intro r hr hleads
      exact hunbound ⟨r, hr, of_decide_eq_true hleads⟩

theorem publish_copies_run_replies :
    let ops : List Op := [.openConsumer (.direct "reply" "replies" "rts"), .cancelAll,
      .openConsumer ⟨"reply", .direct, .named "replies" true, ["rts", "spare"]⟩]
    let m : Message := ⟨"reply", "rts", { msgType := "1", correlation := "c", body := [1, 2] }⟩
    let b := ({} : Broker).run ops
    m.envelope.Fits ∧ (b.publish m).2 = .ok () ∧
      (b.view "replies").Copies m (b.leading m "replies").length
        ((b.publish m).1.view "replies") := by
  intro ops m b
  have hfits : m.envelope.Fits := by
    constructor <;> decide
  have haccepted : (b.publish m).2 = .ok () := by decide +kernel
  exact ⟨hfits, haccepted, (publish_copies_run ops m hfits haccepted).1 "replies"⟩

/-- A queue that is bound to a fanout exchange under two keys receives every message twice. -/
theorem fanout_two_keys_two_copies :
    let b := ({} : Broker).run
      [.openConsumer ⟨"events", .fanout, .named "audit" true, ["x", "y"]⟩]
    let m : Message := ⟨"events", "x", { msgType := "1", correlation := "c" }⟩
    (b.publish m).2 = .ok () ∧ (b.publish m).1.unread 0 = [m, m] ∧
      ¬(b.view "audit").Receives m ((b.publish m).1.view "audit") := by
  intro b m
  refine ⟨by decide +kernel, by decide +kernel, ?_⟩
  have hbefore : b.view "audit" = ⟨false, [(0, [])], []⟩ := by decide +kernel
  have hafter : (b.publish m).1.view "audit" = ⟨false, [(0, [m, m])], []⟩ := by decide +kernel
  rw [hbefore, hafter]
  intro hreceives
  exact absurd hreceives.held_le (by decide)

end Broker
end MetricGateway
