import MetricGateway.Proofs.Broker.Holding
import MetricGateway.Proofs.Numerals

/-!
# Openings

An operation opens a consumer, cancels all of them, or lets every queue be: what is there stays,
under the same flag and with none but its consumers, and an exclusive queue keeps what it holds.
Opening a consumer puts it at the end of one queue, which has the name that the caller has chosen or
the next one that the broker makes, and sets the flag of this queue.
-/

namespace MetricGateway
namespace Broker

/-- The name that the broker makes for an exclusive queue. -/
def madeName (n : Nat) : String := "amq.gen-" ++ toString n

theorem madeName_inj {n k : Nat} : madeName n = madeName k ↔ n = k := by
  unfold madeName
  rw [String.append_right_inj, Nat.toString_eq_repr, Nat.toString_eq_repr, Nat.repr_inj]

/-- A consumer that was opened, with its queue and the way in which the queue was asked for. -/
structure Opening where
  queue : String
  consumer : ConsumerId
  spec : QueueSpec
deriving DecidableEq

def opening? (b : Broker) : Op → Option Opening
  | .openConsumer binding =>
      match (b.openConsumer binding).2 with
      | .ok (queue, consumer) => some { queue, consumer, spec := binding.queue }
      | .error _ => none
  | _ => none

theorem opening?_openConsumer (b : Broker) (binding : Binding) :
    b.opening? (.openConsumer binding) =
      match (b.openConsumer binding).2 with
      | .ok (queue, consumer) => some { queue, consumer, spec := binding.queue }
      | .error _ => none :=
  rfl

/-- A consumer was opened: it stands at the end of its queue, whose flag is set as it was asked
for. -/
structure Opens (b : Broker) (o : Opening) (after : Broker) : Prop where
  queue : o.queue = (b.chooseQueue o.spec).2.1
  consumer : o.consumer = b.opened
  opened : after.opened = b.opened + 1
  made : after.namedQueues = (b.chooseQueue o.spec).1.namedQueues
  own : ∃ q, after.queues[o.queue]? = some q ∧ q.exclusive = (b.chooseQueue o.spec).2.2
  own_members : after.members o.queue = b.members o.queue ++ [b.opened]
  own_waiting : after.waiting o.queue = (flush (b.waiting o.queue)).2
  queue_of_ne : ∀ {other : String}, other ≠ o.queue → after.queues[other]? = b.queues[other]?

/-- Queues have at most lost consumers, and those that are exclusive hold what they held. -/
structure Serves (b after : Broker) : Prop where
  opened : after.opened = b.opened
  made : after.namedQueues = b.namedQueues
  mem : ∀ name, name ∈ after.queues ↔ name ∈ b.queues
  queue : ∀ {name : String} {q' : Queue}, after.queues[name]? = some q' →
    ∃ q, b.queues[name]? = some q ∧ q'.exclusive = q.exclusive ∧ q'.consumers ⊆ q.consumers ∧
      (q.exclusive = true → q'.backlog = q.backlog)

/-!
## Handing out and taking away
-/

theorem serves_of_queues {b after : Broker} (hqueues : after.queues = b.queues)
    (hopened : after.opened = b.opened) (hmade : after.namedQueues = b.namedQueues) :
    b.Serves after where
  opened := hopened
  made := hmade
  mem name := by rw [hqueues]
  queue {name q'} h := by
    rw [hqueues] at h
    exact ⟨q', h, rfl, List.Subset.refl _, fun _ => rfl⟩

theorem Serves.trans {b c d : Broker} (h : b.Serves c) (h' : c.Serves d) : b.Serves d where
  opened := h'.opened.trans h.opened
  made := h'.made.trans h.made
  mem name := (h'.mem name).trans (h.mem name)
  queue {name q''} hq'' := by
    rcases h'.queue hq'' with ⟨q', hq', hflag', hsub', hbacklog'⟩
    rcases h.queue hq' with ⟨q, hq, hflag, hsub, hbacklog⟩
    refine ⟨q, hq, hflag'.trans hflag, List.Subset.trans hsub' hsub, ?_⟩
    intro hexclusive
    rw [hbacklog' (hflag.trans hexclusive), hbacklog hexclusive]

/-- The queue that a message is handed to keeps its flag, and what it holds if it is exclusive. -/
theorem queue_deliver_self {b : Broker} {name : String} {q q' : Queue}
    (hq : b.queues[name]? = some q) {m : Message}
    (hq' : (b.deliver name m).queues[name]? = some q') :
    q'.exclusive = q.exclusive ∧ q'.consumers ⊆ q.consumers ∧
      (q.exclusive = true → q'.backlog = q.backlog) := by
  have hkept : q.consumers.filter b.isLive ⊆ q.consumers := List.filter_subset_self _
  rcases deliver_cases hq m with ⟨before, id, after, hlive, hdeliver⟩ | ⟨_, hdeliver⟩
  · rw [hdeliver, queues_offer] at hq'
    cases Std.ExtTreeMap.getElem?_insert_self.symm.trans hq'
    exact ⟨rfl, hlive ▸ hkept, fun _ => rfl⟩
  · rw [hdeliver] at hq'
    cases Std.ExtTreeMap.getElem?_insert_self.symm.trans hq'
    exact ⟨rfl, List.nil_subset _, fun hexclusive => if_pos hexclusive⟩

theorem serves_deliver (b : Broker) (name : String) (m : Message) :
    b.Serves (b.deliver name m) := by
  have hout := handsOut_deliver b name m
  rcases hout.frame with ⟨queues, consumers, hframe⟩
  refine { opened := ?_, made := ?_, mem := hout.queue_mem, queue := ?_ }
  · rw [hframe]
  · rw [hframe]
  · intro other q' hq'
    by_cases hother : other = name
    · subst hother
      rcases exists_lookup_of_mem ((hout.queue_mem other).mp (mem_of_lookup hq')) with ⟨q, hq⟩
      exact ⟨q, hq, queue_deliver_self hq hq'⟩
    · rw [getElem?_queues_deliver_of_ne b hother] at hq'
      exact ⟨q', hq', rfl, List.Subset.refl _, fun _ => rfl⟩

theorem serves_deliverAll (b : Broker) (exchange key : String) (frame : Wire.Bytes)
    (names : List String) : b.Serves (b.deliverAll exchange key frame names).1 := by
  induction names generalizing b with
  | nil => exact serves_of_queues rfl rfl rfl
  | cons name names ih =>
      unfold deliverAll
      split
      · exact serves_of_queues rfl rfl rfl
      · exact (serves_deliver b name _).trans (ih _)

theorem serves_publish (b : Broker) (m : Message) : b.Serves (b.publish m).1 := by
  unfold publish
  split
  · exact serves_of_queues rfl rfl rfl
  · split
    · exact serves_of_queues rfl rfl rfl
    · exact serves_deliverAll b _ _ _ _

theorem serves_take (b : Broker) (id : ConsumerId) : b.Serves (b.take id).1 := by
  rcases take_frame b id with ⟨consumers, heq⟩
  rw [heq]
  exact serves_of_queues rfl rfl rfl

/-!
## Opening
-/

theorem opens_attach (b : Broker) (exchanges : Std.ExtTreeMap String ExchangeKind)
    (routes : List Route) (spec : QueueSpec) :
    b.Opens { queue := (b.chooseQueue spec).2.1, consumer := b.opened, spec }
      (({ (b.chooseQueue spec).1 with exchanges, routes } : Broker).attach (b.chooseQueue spec).2.1
        (b.chooseQueue spec).2.2).1 := by
  rcases chooseQueue_eq b spec with ⟨namedQueues, hchoose⟩
  rw [hchoose]
  exact {
    queue := rfl
    consumer := rfl
    opened := rfl
    made := by
      have hmade := congrArg Broker.namedQueues hchoose
      exact hmade.symm
    own := ⟨_, Std.ExtTreeMap.getElem?_insert_self, rfl⟩
    own_members := (members_attach _ _ _ _).trans (if_pos rfl)
    own_waiting := waiting_attach _ _ _
    queue_of_ne := fun hne => lookup_insert_of_ne b.queues hne _ }

/-- A broker that declares the queue and the routes of a binding opens a consumer. -/
theorem opens_declare (b : Broker) (exchanges : Std.ExtTreeMap String ExchangeKind)
    (binding : Binding) :
    ∃ o, (({ b with exchanges } : Broker).declare binding).2 = (o.queue, o.consumer) ∧
      o.spec = binding.queue ∧ b.Opens o (({ b with exchanges } : Broker).declare binding).1 := by
  have hopens := fun routes => opens_attach b exchanges routes binding.queue
  refine ⟨{
    queue := (b.chooseQueue binding.queue).2.1
    consumer := b.opened
    spec := binding.queue }, ?_, rfl, ?_⟩
  · unfold declare
    cases binding.queue <;> rfl
  · unfold declare
    cases hqueue : binding.queue with
    | named name durable =>
        rw [hqueue] at hopens
        exact hopens _
    | exclusive =>
        rw [hqueue] at hopens
        exact hopens _

/-- A broker that is asked for a consumer opens it, or refuses and stays as it is. -/
theorem openConsumer_opens (b : Broker) (binding : Binding) :
    (∃ o, b.opening? (.openConsumer binding) = some o ∧ b.Opens o (b.openConsumer binding).1) ∨
      b.opening? (.openConsumer binding) = none ∧ (b.openConsumer binding).1 = b := by
  have hopened : ∀ exchanges : Std.ExtTreeMap String ExchangeKind,
      b.openConsumer binding = ((({ b with exchanges } : Broker).declare binding).1,
        .ok (({ b with exchanges } : Broker).declare binding).2) →
      ∃ o, b.opening? (.openConsumer binding) = some o ∧
        b.Opens o (b.openConsumer binding).1 := by
    intro exchanges heq
    rcases opens_declare b exchanges binding with ⟨o, hpair, hspec, hopens⟩
    rw [hpair] at heq
    refine ⟨o, ?_, heq ▸ hopens⟩
    rw [opening?_openConsumer, heq]
    dsimp only
    rw [← hspec]
  have hrefused : ∀ {e : Refusal}, b.openConsumer binding = (b, .error e) →
      b.opening? (.openConsumer binding) = none ∧ (b.openConsumer binding).1 = b := by
    intro e heq
    rw [opening?_openConsumer, heq]
    exact ⟨rfl, rfl⟩
  cases hrefusing : b.refusing with
  | true => exact Or.inr (hrefused (e := .notAccepting) (by rw [openConsumer, if_pos hrefusing]))
  | false =>
      have hunfolded := openConsumer.eq_def b binding
      rw [if_neg (Bool.eq_false_iff.mp hrefusing)] at hunfolded
      cases hkind : b.exchanges[binding.exchange]? with
      | none =>
          rw [hkind] at hunfolded
          exact Or.inl (hopened (b.exchanges.insert binding.exchange binding.kind) hunfolded)
      | some kind =>
          rw [hkind] at hunfolded
          dsimp only at hunfolded
          split at hunfolded
          · exact Or.inl (hopened b.exchanges hunfolded)
          · exact Or.inr (hrefused hunfolded)

theorem perform_queues (b : Broker) (op : Op) :
    (∃ o, b.opening? op = some o ∧ b.Opens o (b.perform op)) ∨
      b.opening? op = none ∧ (op = .cancelAll ∨ b.Serves (b.perform op)) := by
  cases op with
  | openConsumer binding =>
      rcases b.openConsumer_opens binding with hopens | ⟨hnone, hsame⟩
      · exact Or.inl hopens
      · refine Or.inr ⟨hnone, Or.inr ?_⟩
        show b.Serves (b.openConsumer binding).1
        rw [hsame]
        exact serves_of_queues rfl rfl rfl
  | publish m => exact Or.inr ⟨rfl, Or.inr (serves_publish b m)⟩
  | take id => exact Or.inr ⟨rfl, Or.inr (serves_take b id)⟩
  | close id => exact Or.inr ⟨rfl, Or.inr (serves_of_queues rfl rfl rfl)⟩
  | cancelAll => exact Or.inr ⟨rfl, Or.inl rfl⟩
  | setRefusing refusing => exact Or.inr ⟨rfl, Or.inr (serves_of_queues rfl rfl rfl)⟩

end Broker
end MetricGateway
