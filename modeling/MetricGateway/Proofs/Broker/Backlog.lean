import MetricGateway.Proofs.Broker.Runs

/-!
# What a new consumer finds

A consumer that is opened on a named queue takes over what has piled up there.  It takes as much as
its buffer holds; the message after that is refused by the buffer and lost, and the others go on
waiting in the queue.  Nothing is lost exactly if the backlog fits into the buffer.
-/

namespace MetricGateway
namespace Broker

theorem flush_append_eq_iff (backlog : List Message) :
    (flush backlog).1 ++ (flush backlog).2 = backlog ↔ backlog.length ≤ consumerBuffer := by
  unfold flush
  constructor
  · intro h
    have hlength := congrArg List.length h
    simp only [List.length_append, List.length_take, List.length_drop] at hlength
    omega
  · intro h
    rw [List.take_of_length_le h, List.drop_of_length_le (Nat.le_succ_of_le h), List.append_nil]

theorem unread_attach (b : Broker) (name : String) (exclusive : Bool) :
    (b.attach name exclusive).1.unread b.opened = (flush (b.waiting name)).1 := by
  simp [attach, unread, waiting]

theorem waiting_attach (b : Broker) (name : String) (exclusive : Bool) :
    (b.attach name exclusive).1.waiting name = (flush (b.waiting name)).2 := by
  simp [attach, waiting]

/-- Declaring a subscription to a named queue takes over the backlog as `flush` says. -/
theorem declare_named (b : Broker) (exchange : String) (kind : ExchangeKind) (name : String)
    (durable : Bool) (keys : List String) :
    let opened := b.declare ⟨exchange, kind, .named name durable, keys⟩
    opened.2 = (name, b.opened) ∧
      opened.1.unread b.opened = (flush (b.waiting name)).1 ∧
      opened.1.waiting name = (flush (b.waiting name)).2 := by
  refine ⟨rfl, ?_, ?_⟩
  · exact unread_attach { b with routes := addRoutes b.routes exchange name keys } name false
  · exact waiting_attach { b with routes := addRoutes b.routes exchange name keys } name false

theorem openConsumer_named {b : Broker} {exchange : String} {kind : ExchangeKind} {name : String}
    {durable : Bool} {keys : List String} {queue : String} {id : ConsumerId}
    (h : (b.openConsumer ⟨exchange, kind, .named name durable, keys⟩).2 = .ok (queue, id)) :
    let after := (b.openConsumer ⟨exchange, kind, .named name durable, keys⟩).1
    after.unread id = (flush (b.waiting name)).1 ∧
      after.waiting name = (flush (b.waiting name)).2 := by
  unfold openConsumer at h ⊢
  split at h
  · cases h
  · rename_i haccepting
    rw [if_neg haccepting]
    dsimp only at h ⊢
    cases hkind : b.exchanges[exchange]? with
    | none =>
        rw [hkind] at h
        cases h
        exact (declare_named { b with exchanges := b.exchanges.insert exchange kind }
          exchange kind name durable keys).2
    | some declared =>
        rw [hkind] at h
        dsimp only at h ⊢
        split at h
        next heq =>
          cases h
          rw [if_pos heq]
          exact (declare_named b exchange kind name durable keys).2
        next => cases h

/-!
## Queues that nobody reads

While nobody reads a named queue, what is published to it piles up.
-/

/-- A named queue that nobody reads, to which a message is routed, with its backlog. -/
structure Idle (b : Broker) (m : Message) (name : String) (backlog : List Message) : Prop where
  accepting : b.refusing = false
  exchange : b.exchanges[m.exchange]? = some .direct
  targets : b.targets .direct m = [name]
  queue : ∃ q, b.queues[name]? = some q ∧ q.exclusive = false ∧ q.consumers.filter b.isLive = [] ∧
    q.backlog.toList = backlog

theorem Idle.waiting_eq {b : Broker} {m : Message} {name : String} {backlog : List Message}
    (h : b.Idle m name backlog) : b.waiting name = backlog := by
  rcases h.queue with ⟨q, hq, _, _, hbacklog⟩
  unfold waiting
  rw [Std.ExtTreeMap.getD_eq_getD_getElem?, hq]
  exact hbacklog

theorem toList_keep {backlog : Fifo Message} (h : backlog.toList.length < maxBacklog)
    (m : Message) : (keep backlog m).toList = backlog.toList ++ [m] := by
  have hroom : ¬maxBacklog ≤ backlog.size := by
    rw [Fifo.size_eq_length]
    exact Nat.not_le.mpr h
  unfold keep
  rw [if_neg hroom, Fifo.toList_push]

theorem Idle.publish {b : Broker} {m : Message} {name : String} {backlog : List Message}
    (h : b.Idle m name backlog) (hroom : backlog.length < maxBacklog)
    (hframe : Envelope.ofFrame m.envelope.toFrame = .ok m.envelope) :
    (b.publish m).1.Idle m name (backlog ++ [m]) := by
  rcases h.queue with ⟨q, hq, hshared, hunread, hbacklog⟩
  have hdeliver : b.deliver name m =
      { b with queues := b.queues.insert name { q with
          consumers := [], backlog := keep q.backlog m } } := by
    simp [deliver, hq, hunread, hshared]
  have hpublish : (b.publish m).1 = b.deliver name m := by
    unfold Broker.publish
    rw [if_neg (by simp [h.accepting]), h.exchange]
    dsimp only
    rw [h.targets]
    simp only [deliverAll, hframe]
  rw [hpublish, hdeliver]
  refine ⟨h.accepting, h.exchange, h.targets, _, Std.ExtTreeMap.getElem?_insert_self, hshared,
    rfl, ?_⟩
  rw [← hbacklog] at hroom ⊢
  exact toList_keep hroom m

/-- Messages that are published to a queue that nobody reads pile up, up to the limit. -/
theorem Idle.publish_replicate {b : Broker} {m : Message} {name : String}
    {backlog : List Message} (h : b.Idle m name backlog)
    (hframe : Envelope.ofFrame m.envelope.toFrame = .ok m.envelope) (n : Nat)
    (hroom : backlog.length + n ≤ maxBacklog) :
    (b.run (List.replicate n (.publish m))).Idle m name (backlog ++ List.replicate n m) := by
  induction n generalizing b backlog with
  | zero => simpa [run] using h
  | succ n ih =>
      have hnext := h.publish (by omega) hframe
      have hrest := ih hnext (by simp only [List.length_append, List.length_singleton]; omega)
      rw [List.replicate_succ, List.replicate_succ, List.append_cons]
      exact hrest

theorem Idle.openConsumer_ok {b : Broker} {m : Message} {name : String} {backlog : List Message}
    (h : b.Idle m name backlog) (durable : Bool) (keys : List String) :
    (b.openConsumer ⟨m.exchange, .direct, .named name durable, keys⟩).2 = .ok (name, b.opened) := by
  unfold openConsumer
  rw [h.accepting, if_neg Bool.false_ne_true]
  dsimp only
  rw [h.exchange]
  rfl

/-!
## A queue that was left

The queue of a consumer that was cancelled keeps what is published to it.
-/

theorem queues_cancelAll {b : Broker} {name : String} {q : Queue}
    (hq : b.queues[name]? = some q) (hshared : q.exclusive = false) :
    b.cancelAll.queues[name]? = some { q with consumers := [] } := by
  unfold cancelAll
  rw [Std.ExtTreeMap.getElem?_map, Std.ExtTreeMap.getElem?_filter', hq]
  simp only [Option.filter_some, hshared, Bool.not_false, if_true, Option.map_some]

def abandoned : Broker :=
  ({} : Broker).run [.openConsumer (.direct "reply" "replies" "rts"), .cancelAll]

def answer : Message := ⟨"reply", "rts", { msgType := "1", correlation := "c" }⟩

theorem idle_abandoned : abandoned.Idle answer "replies" [] where
  accepting := rfl
  exchange := rfl
  targets := rfl
  queue := by
    refine ⟨{ backlog := .ofList [] }, ?_, rfl, rfl, rfl⟩
    exact queues_cancelAll (q := { consumers := [0], backlog := .ofList [] }) rfl rfl

theorem idle_abandoned_run (n : Nat) (h : n ≤ maxBacklog) :
    (abandoned.run (List.replicate n (.publish answer))).Idle answer "replies"
      (List.replicate n answer) := by
  have hroom : ([] : List Message).length + n ≤ maxBacklog := by
    rw [List.length_nil, Nat.zero_add]
    exact h
  have hrun := idle_abandoned.publish_replicate rfl n hroom
  rw [List.nil_append] at hrun
  exact hrun

/-!
## When the backlog is kept
-/

/-- Opening a consumer on a named queue keeps the backlog, in its order, if and only if it fits into
the buffer of the consumer.  Of a longer one exactly the first message beyond the buffer is lost. -/
theorem openConsumer_keeps_backlog_iff {b : Broker} {exchange : String} {kind : ExchangeKind}
    {name : String} {durable : Bool} {keys : List String} {queue : String} {id : ConsumerId}
    (h : (b.openConsumer ⟨exchange, kind, .named name durable, keys⟩).2 = .ok (queue, id)) :
    let after := (b.openConsumer ⟨exchange, kind, .named name durable, keys⟩).1
    (after.unread id ++ after.waiting name = b.waiting name ↔
        (b.waiting name).length ≤ consumerBuffer) ∧
      after.unread id = (b.waiting name).take consumerBuffer ∧
      after.waiting name = (b.waiting name).drop (consumerBuffer + 1) := by
  rcases openConsumer_named h with ⟨hunread, hwaiting⟩
  refine ⟨?_, hunread, hwaiting⟩
  rw [hunread, hwaiting]
  exact flush_append_eq_iff (b.waiting name)

theorem openConsumer_keeps_full_buffer :
    let b := abandoned.run (List.replicate 1024 (.publish answer))
    let opened := b.openConsumer (.direct "reply" "replies" "rts")
    opened.2 = .ok ("replies", b.opened) ∧
      opened.1.unread b.opened ++ opened.1.waiting "replies" = b.waiting "replies" := by
  have hidle := idle_abandoned_run 1024 (by decide)
  have hopened := hidle.openConsumer_ok true ["rts"]
  have hlength := congrArg List.length hidle.waiting_eq
  rw [List.length_replicate] at hlength
  exact ⟨hopened, (openConsumer_keeps_backlog_iff hopened).1.mpr (Nat.le_of_eq hlength)⟩

/-- With one message more than the buffer holds, a queue that is opened again loses a message. -/
theorem openConsumer_loses_message :
    let b := abandoned.run (List.replicate 1025 (.publish answer))
    let opened := b.openConsumer (.direct "reply" "replies" "rts")
    opened.2 = .ok ("replies", b.opened) ∧ (b.waiting "replies").length = 1025 ∧
      opened.1.unread b.opened ++ opened.1.waiting "replies" ≠ b.waiting "replies" := by
  have hidle := idle_abandoned_run 1025 (by decide)
  have hopened := hidle.openConsumer_ok true ["rts"]
  have hlength := congrArg List.length hidle.waiting_eq
  rw [List.length_replicate] at hlength
  refine ⟨hopened, hlength, ?_⟩
  intro hkept
  rcases openConsumer_named hopened with ⟨hunread, hwaiting⟩
  have hfits := (flush_append_eq_iff _).mp
    ((congr (congrArg HAppend.hAppend hunread) hwaiting).symm.trans hkept)
  rw [hlength] at hfits
  exact absurd hfits (by decide)

end Broker
end MetricGateway
