import MetricGateway.Proofs.Broker.Arrivals
import MetricGateway.Proofs.Broker.Transparency

/-!
# What piles up in a queue that was left

A shared queue that nobody reads keeps what is published to it.  Its backlog is bounded: when it is
full, the oldest message makes room for a new one.  So after any number of messages the queue holds
the newest of what it held before and of the copies that came since, in their order.

One copy comes for each route that leads a message to the queue.  The queue therefore keeps each
message once exactly if no fanout exchange is bound to it under two keys.
-/

namespace MetricGateway
namespace Broker

variable {b : Broker} {name : String} {m : Message}

/-! ## The bound of a backlog -/

def Bounded (b : Broker) : Prop := ∀ name, (b.waiting name).length ≤ maxBacklog

theorem bounded_empty : ({} : Broker).Bounded := by
  intro name
  rw [waiting_of_not_mem Std.ExtTreeMap.not_mem_empty]
  exact Nat.zero_le _

theorem Bounded.congr {after : Broker} (h : b.Bounded) (hqueues : after.queues = b.queues) :
    after.Bounded := by
  intro name
  rw [waiting_congr (congrArg (·[name]?) hqueues)]
  exact h name

theorem Bounded.deliver (h : b.Bounded) (name : String) (m : Message) :
    (b.deliver name m).Bounded := by
  intro other
  rcases waiting_deliver_cases b name other m with heq | ⟨_, heq⟩
  · rw [heq]
    exact h other
  · rw [heq, pile_eq_newest (h other)]
    exact length_newest_le _

theorem Bounded.deliverAll (h : b.Bounded) (exchange key : String) (frame : Wire.Bytes)
    (names : List String) : (b.deliverAll exchange key frame names).1.Bounded := by
  induction names generalizing b with
  | nil => exact h
  | cons name names ih =>
      unfold Broker.deliverAll
      split
      · exact h
      · exact ih (h.deliver name _)

theorem Bounded.publish (h : b.Bounded) (m : Message) : (b.publish m).1.Bounded := by
  unfold Broker.publish
  split
  · exact h
  · split
    · exact h
    · exact h.deliverAll _ _ _ _

theorem Bounded.openConsumer (h : b.Bounded) (binding : Binding) :
    (b.openConsumer binding).1.Bounded := by
  rcases openConsumer_cases b binding with ⟨e, heq⟩ | ⟨exchanges, namedQueues, _, _, _, heq⟩
  · rw [heq]
    exact h
  · rw [heq]
    intro other
    by_cases hother : other = b.queueName binding
    · rw [hother, waiting_attach]
      exact Nat.le_trans (List.drop_sublist _ _).length_le (h _)
    · rw [waiting_congr (lookup_insert_of_ne _ hother _)]
      exact h other

theorem Bounded.cancelAll (h : b.Bounded) : b.cancelAll.Bounded := by
  intro name
  rcases waiting_cancelAll_cases b name with heq | heq
  · rw [heq]
    exact h name
  · rw [heq]
    exact Nat.zero_le _

theorem Bounded.perform (h : b.Bounded) (op : Op) : (b.perform op).Bounded := by
  cases op with
  | openConsumer binding => exact h.openConsumer binding
  | publish m => exact h.publish m
  | take id => exact h.congr (queues_take b id)
  | close id => exact h.congr rfl
  | cancelAll => exact h.cancelAll
  | setRefusing refusing => exact h.congr rfl

theorem bounded_run (ops : List Op) : (({} : Broker).run ops).Bounded := by
  induction ops using List.reverseRecOn with
  | nil => exact bounded_empty
  | append_singleton ops op ih =>
      rw [run_append]
      exact ih.perform op

/-! ## Messages that come while nobody reads -/

/-- Nobody reads a queue, at any moment of a run. -/
def Unattended (b : Broker) (name : String) (ops : List Op) : Prop :=
  ∀ done rest, ops = done ++ rest → (b.run done).readers name = []

theorem unattended_nil : b.Unattended name [] ↔ b.readers name = [] := by
  constructor
  · intro h
    exact h [] [] rfl
  · intro h done rest heq
    rw [(List.append_eq_nil_iff.mp heq.symm).1]
    exact h

theorem unattended_cons {op : Op} {ops : List Op} :
    b.Unattended name (op :: ops) ↔ b.readers name = [] ∧ (b.perform op).Unattended name ops := by
  constructor
  · intro h
    refine ⟨h [] (op :: ops) rfl, ?_⟩
    intro done rest heq
    exact h (op :: done) rest (congrArg (op :: ·) heq)
  · rintro ⟨hfirst, hrest⟩ done rest heq
    cases done with
    | nil => exact hfirst
    | cons op' done =>
        cases heq
        exact hrest done rest rfl

instance decidableUnattended (b : Broker) (name : String) :
    (ops : List Op) → Decidable (b.Unattended name ops)
  | [] => decidable_of_iff' _ unattended_nil
  | op :: ops =>
      have := decidableUnattended (b.perform op) name ops
      decidable_of_iff' _ unattended_cons

/-- What comes to a queue when a message is published: a copy for each route that leads it there. -/
def copies (name : String) (b : Broker) : Op → List Message
  | .publish m =>
      if (b.publish m).2 = .ok () then List.replicate (b.leading m name).length m else []
  | _ => []

/-- A message that is published and accepted, if a route leads it to a queue. -/
def matching (name : String) (b : Broker) : Op → List Message
  | .publish m => if (b.publish m).2 = .ok () ∧ b.leading m name ≠ [] then [m] else []
  | _ => []

/-- A shared queue that nobody reads. -/
structure Left (b : Broker) (name : String) : Prop where
  wired : b.Wired
  bounded : b.Bounded
  shared : ∀ queue, b.queues[name]? = some queue → queue.exclusive = false
  readers : b.readers name = []

theorem Left.view (h : b.Left name) : b.view name = ⟨false, [], b.waiting name⟩ := by
  rw [view_of_shared h.shared, h.readers]
  rfl

theorem Left.publish (h : b.Left name) (hfits : m.envelope.Fits) :
    (b.publish m).1.Left name ∧
      (b.publish m).1.waiting name = newest (b.waiting name ++ copies name b (.publish m)) := by
  by_cases hok : (b.publish m).2 = .ok ()
  · have hcopies := (h.wired.publish_copies hfits hok).1 name
    rw [h.view] at hcopies
    have hview := hcopies.of_unread (h.bounded name)
    constructor
    · refine ⟨h.wired.publish m, h.bounded.publish m, ?_, ?_⟩
      · intro queue hqueue
        rw [view_of_getElem? hqueue] at hview
        exact congrArg View.exclusive hview
      · rw [(handsOut_publish b m).readers]
        exact h.readers
    · have hcame : copies name b (.publish m) = List.replicate (b.leading m name).length m :=
        if_pos hok
      have hbacklog : ((b.publish m).1.view name).backlog =
          newest (b.waiting name ++ List.replicate (b.leading m name).length m) := by
        rw [hview]
      rw [hcame]
      exact hbacklog
  · have hnone : copies name b (.publish m) = [] := if_neg hok
    rw [publish_of_not_ok hfits hok, hnone, List.append_nil, newest_of_le (h.bounded name)]
    exact ⟨h, rfl⟩

theorem Wired.openConsumer_elsewhere (h : b.Wired) {binding : Binding}
    (helsewhere : b.opened ∉ (b.openConsumer binding).1.readers name) :
    (b.openConsumer binding).1.queues[name]? = b.queues[name]? ∧
      ∀ r ∈ (b.openConsumer binding).1.routes, r.queue = name → r ∈ b.routes := by
  rcases openConsumer_cases b binding with ⟨e, heq⟩ | ⟨exchanges, namedQueues, _, _, _, heq⟩
  · rw [heq]
    exact ⟨rfl, fun r hr _ => hr⟩
  · rw [heq] at helsewhere ⊢
    have hother : name ≠ b.queueName binding := by
      intro hname
      rw [hname, readers_attach (b := b.routed exchanges namedQueues binding) h.opened,
        if_pos rfl] at helsewhere
      exact helsewhere (List.mem_append_right _ List.mem_cons_self)
    constructor
    · exact lookup_insert_of_ne _ hother _
    · intro r hr hqueue
      rcases mem_addRoutes_iff.mp hr with hold | ⟨_, hnew, _⟩
      · exact hold
      · exact absurd (hqueue.symm.trans hnew) hother

/-- Whatever happens while nobody reads the queue, the newest messages stay in it. -/
theorem Left.perform (h : b.Left name) {op : Op} (hfits : ∀ m, op = .publish m → m.envelope.Fits)
    (hunread : (b.perform op).readers name = []) :
    (b.perform op).Left name ∧
      (b.perform op).waiting name = newest (b.waiting name ++ copies name b op) := by
  have hsame : ∀ {after : Broker}, after.Wired → after.Bounded → after.readers name = [] →
      after.queues[name]? = b.queues[name]? →
      after.Left name ∧ after.waiting name = newest (b.waiting name ++ []) := by
    intro after hwired hbounded hreaders hqueue
    rw [List.append_nil, newest_of_le (h.bounded name)]
    exact ⟨⟨hwired, hbounded, hqueue ▸ h.shared, hreaders⟩, waiting_congr hqueue⟩
  have hwired := h.wired.perform op
  have hbounded := h.bounded.perform op
  cases op with
  | publish m => exact h.publish (hfits m rfl)
  | openConsumer binding =>
      have hnobody : b.opened ∉ (b.openConsumer binding).1.readers name :=
        fun hmem => List.ne_nil_of_mem hmem hunread
      exact hsame hwired hbounded hunread (h.wired.openConsumer_elsewhere hnobody).1
  | take id => exact hsame hwired hbounded hunread (congrArg (·[name]?) (queues_take b id))
  | close id => exact hsame hwired hbounded hunread rfl
  | cancelAll =>
      show b.cancelAll.Left name ∧ b.cancelAll.waiting name = newest (b.waiting name ++ [])
      rw [List.append_nil, newest_of_le (h.bounded name), waiting_cancelAll h.shared]
      refine ⟨⟨hwired, hbounded, ?_, hunread⟩, rfl⟩
      intro queue hqueue
      have hafter : b.cancelAll.queues[name]? = some queue := hqueue
      rw [getElem?_queues_cancelAll h.shared] at hafter
      rcases Option.map_eq_some_iff.mp hafter with ⟨before, hbefore, heq⟩
      rw [← heq]
      exact h.shared before hbefore
  | setRefusing refusing => exact hsame hwired hbounded hunread rfl

theorem Left.run (h : b.Left name) {ops : List Op}
    (hfits : ∀ m, .publish m ∈ ops → m.envelope.Fits) (hunattended : b.Unattended name ops) :
    (b.run ops).waiting name = newest (b.waiting name ++ b.gather (copies name) ops) := by
  induction ops generalizing b with
  | nil => rw [gather_nil, List.append_nil, newest_of_le (h.bounded name)]; rfl
  | cons op ops ih =>
      rw [unattended_cons] at hunattended
      have hnext : (b.perform op).readers name = [] := hunattended.2 [] ops rfl
      rcases h.perform (fun m hop => hfits m (hop ▸ List.mem_cons_self)) hnext with
        ⟨hleft, hwaiting⟩
      have hrest := ih hleft (fun m hm => hfits m (List.mem_cons_of_mem op hm)) hunattended.2
      rw [gather_cons, ← List.append_assoc, ← newest_newest_append, ← hwaiting]
      exact hrest

/-! ## Queues that are bound once -/

theorem Wired.mem_routes_of_unread (h : b.Wired) {op : Op}
    (hunread : (b.perform op).readers name = []) {r : Route} (hr : r ∈ (b.perform op).routes)
    (hqueue : r.queue = name) : r ∈ b.routes := by
  rcases perform_cases b op with ⟨binding, rfl⟩ | ⟨_, _, hroutes⟩
  · have hnobody : b.opened ∉ (b.openConsumer binding).1.readers name :=
      fun hmem => List.ne_nil_of_mem hmem hunread
    exact (h.openConsumer_elsewhere hnobody).2 r hr hqueue
  · exact hroutes hr

theorem Wired.boundOnce_perform (h : b.Wired) {op : Op} (hunread : (b.perform op).readers name = [])
    {exchange : String} (hbound : b.BoundOnce exchange name) :
    (b.perform op).BoundOnce exchange name := by
  intro hfanout r hr s hs hrExchange hsExchange hrQueue hsQueue
  have hrOld := h.mem_routes_of_unread hunread hr hrQueue
  have hsOld := h.mem_routes_of_unread hunread hs hsQueue
  rcases exists_lookup_of_mem (h.exchange_mem r hrOld) with ⟨kind, hkind⟩
  rw [hrExchange] at hkind
  have hsame : kind = .fanout := Option.some.inj ((exchanges_perform hkind op).symm.trans hfanout)
  rw [hsame] at hkind
  exact hbound hkind r hrOld s hsOld hrExchange hsExchange hrQueue hsQueue

theorem Wired.copies_eq_matching (h : b.Wired) (hbound : ∀ exchange, b.BoundOnce exchange name)
    (op : Op) : copies name b op = matching name b op := by
  cases op with
  | publish m =>
      have hle := h.length_leading_le_one_of_boundOnce (hbound m.exchange)
      unfold copies matching
      dsimp only
      cases hleading : b.leading m name with
      | nil => simp
      | cons r others =>
          rw [hleading] at hle
          have hothers : others = [] :=
            List.eq_nil_of_length_eq_zero (Nat.le_zero.mp (Nat.le_of_succ_le_succ hle))
          simp [hothers]
  | _ => rfl

theorem Left.gather_copies_eq (h : b.Left name) (hbound : ∀ exchange, b.BoundOnce exchange name)
    {ops : List Op} (hfits : ∀ m, .publish m ∈ ops → m.envelope.Fits)
    (hunattended : b.Unattended name ops) :
    b.gather (copies name) ops = b.gather (matching name) ops := by
  induction ops generalizing b with
  | nil => rfl
  | cons op ops ih =>
      rw [unattended_cons] at hunattended
      have hnext : (b.perform op).readers name = [] := hunattended.2 [] ops rfl
      have hleft := (h.perform (fun m hop => hfits m (hop ▸ List.mem_cons_self)) hnext).1
      have hstill : ∀ exchange, (b.perform op).BoundOnce exchange name :=
        fun exchange => h.wired.boundOnce_perform hnext (hbound exchange)
      rw [gather_cons, gather_cons, h.wired.copies_eq_matching hbound,
        ih hleft hstill (fun m hm => hfits m (List.mem_cons_of_mem op hm)) hunattended.2]

/-! ## Queues that are bound twice -/

theorem reverse_newest (ms : List Message) :
    (newest ms).reverse = ms.reverse.take maxBacklog := by
  unfold newest
  rw [List.reverse_drop, List.take_eq_take_iff, List.length_reverse]
  omega

/-- A message that was not the last one already comes at most once, if the same stays as of one. -/
theorem le_one_of_newest_eq {waiting : List Message} {n : Nat} (hlast : waiting.getLast? ≠ some m)
    (h : newest (waiting ++ List.replicate n m) = newest (waiting ++ [m])) : n ≤ 1 := by
  rcases n with _ | _ | n
  · exact Nat.zero_le 1
  · exact Nat.le_refl 1
  · have hback := congrArg List.reverse h
    rw [reverse_newest, reverse_newest, List.reverse_append, List.reverse_append,
      List.reverse_replicate, List.reverse_singleton] at hback
    have hsecond := congrArg (·[1]?) hback
    have hroom : 1 < maxBacklog := by decide
    simp only [List.getElem?_take_of_lt hroom, List.replicate_succ, List.cons_append,
      List.nil_append, List.getElem?_cons_succ, ← List.head?_eq_getElem?,
      List.head?_reverse] at hsecond
    exact absurd hsecond.symm hlast

theorem exists_message_ne (exchange : String) (last : Option Message) :
    ∃ m : Message, m.exchange = exchange ∧ m.envelope.Fits ∧ last ≠ some m := by
  have hfits : ({} : Envelope).Fits ∧ ({ correlation := "c" } : Envelope).Fits := by
    constructor <;> constructor <;> decide
  by_cases hlast : last = some ⟨exchange, "", { correlation := "c" }⟩
  · refine ⟨⟨exchange, "", {}⟩, rfl, hfits.1, ?_⟩
    rw [hlast]
    simp
  · exact ⟨⟨exchange, "", { correlation := "c" }⟩, rfl, hfits.2, hlast⟩

theorem Left.boundOnce (h : b.Left name)
    (hkeeps : ∀ more, (∀ m, .publish m ∈ more → m.envelope.Fits) → b.Unattended name more →
      (b.run more).waiting name = newest (b.waiting name ++ b.gather (matching name) more))
    (exchange : String) : b.BoundOnce exchange name := by
  rcases exists_message_ne exchange (b.waiting name).getLast? with ⟨m, rfl, hfits, hlast⟩
  apply boundOnce_of_length_leading_le_one
  let more : List Op := [.setRefusing false, .publish m]
  have hmore : ∀ m, .publish m ∈ more → m.envelope.Fits := by
    intro m' hm'
    simp only [more, List.mem_cons, reduceCtorEq, Op.publish.injEq, false_or, List.not_mem_nil,
      or_false] at hm'
    exact hm' ▸ hfits
  have haccepted : ((b.setRefusing false).publish m).2 = .ok () := by
    have haccepting : ¬(b.setRefusing false).refusing = true := Bool.false_ne_true
    rw [publish_eq hfits, if_neg haccepting]
  have hunattended : b.Unattended name more := by
    rw [unattended_cons, unattended_cons, unattended_nil]
    refine ⟨h.readers, h.readers, ?_⟩
    show ((b.setRefusing false).publish m).1.readers name = []
    rw [(handsOut_publish _ m).readers]
    exact h.readers
  have hgather : ∀ f : Broker → Op → List Message, f b (.setRefusing false) = [] →
      b.gather f more = f (b.setRefusing false) (.publish m) := by
    intro f hnone
    show f b (.setRefusing false) ++ (f (b.setRefusing false) (.publish m) ++ []) = _
    rw [hnone, List.nil_append, List.append_nil]
  have hcopies : b.gather (copies name) more = List.replicate (b.leading m name).length m :=
    (hgather (copies name) rfl).trans (if_pos haccepted)
  by_cases hnil : b.leading m name = []
  · rw [hnil]
    exact Nat.zero_le 1
  · have hmatching : b.gather (matching name) more = [m] :=
      (hgather (matching name) rfl).trans (if_pos ⟨haccepted, hnil⟩)
    have htwice := h.run hmore hunattended
    rw [hkeeps more hmore hunattended, hmatching, hcopies] at htwice
    exact le_one_of_newest_eq hlast htwice.symm

/-- A shared queue that nobody reads keeps the newest messages of those that waited and of the
copies that come while nobody reads it.  It keeps each matching message exactly once, if and only
if no fanout exchange is bound to it under two keys.  No backlog ever exceeds the limit.

That the queue is still shared belongs to the condition: when the broker makes up the name of a named
queue for an exclusive one, the queue is exclusive from then on, and is lost with its last reader. -/
theorem left_queue_keeps_newest (ops : List Op) (name : String)
    (hshared : ∀ queue, (({} : Broker).run ops).queues[name]? = some queue →
      queue.exclusive = false)
    (hreaders : (({} : Broker).run ops).readers name = []) :
    let b := ({} : Broker).run ops
    (∀ more, (∀ m, .publish m ∈ more → m.envelope.Fits) → b.Unattended name more →
        (b.run more).waiting name = newest (b.waiting name ++ b.gather (copies name) more)) ∧
      ((∀ more, (∀ m, .publish m ∈ more → m.envelope.Fits) → b.Unattended name more →
          (b.run more).waiting name = newest (b.waiting name ++ b.gather (matching name) more)) ↔
        ∀ exchange, b.BoundOnce exchange name) ∧
      ∀ other, (b.waiting other).length ≤ maxBacklog := by
  intro b
  have hleft : b.Left name := ⟨wired_run ops, bounded_run ops, hshared, hreaders⟩
  refine ⟨fun more hfits hunattended => hleft.run hfits hunattended, ?_, bounded_run ops⟩
  constructor
  · exact hleft.boundOnce
  · intro hbound more hfits hunattended
    rw [hleft.run hfits hunattended, hleft.gather_copies_eq hbound hfits hunattended]

/-- The queue of a subscriber that was cancelled keeps two of three answers; the other one falls
into an outage. -/
theorem left_queue_keeps_answers :
    let answer : String → Op := fun id => .publish ⟨"reply", "rts", { correlation := id }⟩
    let more : List Op :=
      [answer "a", .setRefusing true, answer "b", .setRefusing false, answer "c"]
    abandoned.Unattended "replies" more ∧
      (abandoned.run more).waiting "replies" =
        [⟨"reply", "rts", { correlation := "a" }⟩, ⟨"reply", "rts", { correlation := "c" }⟩] := by
  intro answer more
  have hshared : ∀ queue, abandoned.queues["replies"]? = some queue → queue.exclusive = false := by
    rcases idle_abandoned.queue with ⟨q, hq, hshared, _⟩
    intro queue hqueue
    cases hq.symm.trans hqueue
    exact hshared
  have hreaders : abandoned.readers "replies" = [] := by decide +kernel
  have hfits : ∀ m, .publish m ∈ more → m.envelope.Fits := by
    intro m hm
    simp only [more, answer, List.mem_cons, Op.publish.injEq, reduceCtorEq, false_or,
      List.not_mem_nil, or_false] at hm
    rcases hm with rfl | rfl | rfl <;> constructor <;> decide
  have hunattended : abandoned.Unattended "replies" more := by decide +kernel
  have hkept := (left_queue_keeps_newest [.openConsumer (.direct "reply" "replies" "rts"),
    .cancelAll] "replies" hshared hreaders).1 more hfits hunattended
  have hcame : abandoned.waiting "replies" ++ abandoned.gather (copies "replies") more =
      [⟨"reply", "rts", { correlation := "a" }⟩, ⟨"reply", "rts", { correlation := "c" }⟩] := by
    decide +kernel
  refine ⟨hunattended, hkept.trans ?_⟩
  show newest (abandoned.waiting "replies" ++ abandoned.gather (copies "replies") more) = _
  rw [hcame]
  exact newest_of_le (by decide)

/-- A named queue that was made exclusive, and that was left, loses the next message. -/
theorem claimed_queue_loses_message :
    let b := ({} : Broker).run
      [.openConsumer (.direct "jobs" "amq.gen-1" "k"), .openConsumer (.fanout "events"), .close 0,
        .close 1]
    let m : Message := ⟨"jobs", "k", { correlation := "c" }⟩
    b.Unattended "amq.gen-1" [.publish m] ∧ (∀ exchange, b.BoundOnce exchange "amq.gen-1") ∧
      b.gather (matching "amq.gen-1") [.publish m] = [m] ∧
      (b.run [.publish m]).waiting "amq.gen-1" = [] := by
  intro b m
  have honce : ∀ r ∈ b.routes, ∀ s ∈ b.routes, r.exchange = s.exchange → r.key = s.key := by
    decide +kernel
  refine ⟨by decide +kernel, ?_, by decide +kernel, by decide +kernel⟩
  intro exchange _ r hr s hs hrExchange hsExchange _ _
  exact honce r hr s hs (hrExchange.trans hsExchange.symm)

/-- A queue that is bound to a fanout exchange under two keys, and that was left, keeps a message
twice. -/
theorem fanout_two_keys_pile_up_twice :
    let b := ({} : Broker).run
      [.openConsumer ⟨"events", .fanout, .named "audit" true, ["x", "y"]⟩, .cancelAll]
    let m : Message := ⟨"events", "x", { correlation := "c" }⟩
    b.waiting "audit" = [] ∧ b.Unattended "audit" [.publish m] ∧
      b.gather (matching "audit") [.publish m] = [m] ∧
      (b.run [.publish m]).waiting "audit" = [m, m] ∧
      (b.run [.publish m]).waiting "audit" ≠
        newest (b.waiting "audit" ++ b.gather (matching "audit") [.publish m]) := by
  intro b m
  refine ⟨by decide +kernel, by decide +kernel, by decide +kernel, by decide +kernel, ?_⟩
  decide +kernel

end Broker
end MetricGateway
