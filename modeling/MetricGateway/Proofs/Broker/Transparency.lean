import Mathlib.Data.List.Induction
import MetricGateway.Proofs.Broker.Contents

/-!
# Whole operations and unaltered messages

A publish writes its envelope into a frame once and reads it back for each queue that it goes to,
so it could stop half way, or hand out something else than what was published.  It does neither:
an envelope that can be written is read back as it was, and so the broker refuses a message before
it has touched anything, or hands it to every queue that it goes to.  The same is so for a consumer:
it is refused and nothing happens, or its exchange, its routes and its place in the queue are all
there.

Whatever a consumer receives, then, is a message that was published and that the broker accepted.
-/

namespace MetricGateway
namespace Broker

variable {b after : Broker} {name : String} {m x : Message} {c : ConsumerId}

/-! ## Publishing as a whole -/

/-- The queues that a message goes to, once for each route that leads it there; none where its
exchange is not there. -/
def destinations (b : Broker) (m : Message) : List String :=
  match b.exchanges[m.exchange]? with
  | none => []
  | some kind => b.targets kind m

def deliverEach (b : Broker) (m : Message) (names : List String) : Broker :=
  names.foldl (fun b name => b.deliver name m) b

theorem deliverEach_cons (b : Broker) (m : Message) (name : String) (names : List String) :
    b.deliverEach m (name :: names) = (b.deliver name m).deliverEach m names := rfl

theorem deliverAll_eq (hfits : m.envelope.Fits) (b : Broker) (names : List String) :
    b.deliverAll m.exchange m.key m.envelope.toFrame names = (b.deliverEach m names, .ok ()) := by
  induction names generalizing b with
  | nil => rfl
  | cons name names ih =>
      unfold deliverAll
      rw [hfits.ofFrame_toFrame]
      exact ih (b.deliver name m)

theorem publish_eq (hfits : m.envelope.Fits) (b : Broker) :
    b.publish m =
      if b.refusing then (b, .error .notAccepting)
      else (b.deliverEach m (b.destinations m), .ok ()) := by
  unfold publish destinations
  split
  · rfl
  · cases b.exchanges[m.exchange]? with
    | none => rfl
    | some kind => exact deliverAll_eq hfits b (b.targets kind m)

/-- A publish is refused and changes nothing, or serves every queue that the message goes to. -/
structure PublishesWhole (b : Broker) (m : Message) : Prop where
  refused : ∀ e, (b.publish m).2 = .error e →
    b.refusing = true ∧ e = .notAccepting ∧ (b.publish m).1 = b
  served : (b.publish m).2 = .ok () →
    b.refusing = false ∧ (b.publish m).1 = b.deliverEach m (b.destinations m)

theorem publishesWhole (hfits : m.envelope.Fits) (b : Broker) : b.PublishesWhole m := by
  have hpublish := publish_eq hfits b
  cases hrefusing : b.refusing with
  | true =>
      rw [hrefusing, if_pos rfl] at hpublish
      constructor
      · intro e he
        rw [hpublish] at he ⊢
        cases he
        exact ⟨hrefusing, rfl, rfl⟩
      · intro hok
        rw [hpublish] at hok
        cases hok
  | false =>
      rw [hrefusing, if_neg Bool.false_ne_true] at hpublish
      constructor
      · intro e he
        rw [hpublish] at he
        cases he
      · intro _
        rw [hpublish]
        exact ⟨hrefusing, rfl⟩

/-! ## Opening a consumer as a whole -/

/-- A consumer is refused and nothing changes, or everything that its binding asks for is there. -/
structure OpensWhole (b : Broker) (binding : Binding) : Prop where
  refused : ∀ e, (b.openConsumer binding).2 = .error e →
    (b.openConsumer binding).1 = b ∧
      (b.refusing = true ∧ e = .notAccepting ∨
        b.refusing = false ∧ ∃ kind, b.exchanges[binding.exchange]? = some kind ∧
          kind ≠ binding.kind ∧ e = .kindMismatch binding.exchange kind)
  opened : ∀ name c, (b.openConsumer binding).2 = .ok (name, c) →
    let after := (b.openConsumer binding).1
    b.refusing = false ∧ after.exchanges[binding.exchange]? = some binding.kind ∧
      (∀ r : Route, r ∈ after.routes ↔
        r ∈ b.routes ∨ r.exchange = binding.exchange ∧ r.queue = name ∧ r.key ∈ binding.keys) ∧
      after.readers name = b.readers name ++ [c] ∧ after.standing c = some (name, true)

theorem refusal_of_openConsumer {binding : Binding} {e : Refusal}
    (h : (b.openConsumer binding).2 = .error e) :
    b.refusing = true ∧ e = .notAccepting ∨
      b.refusing = false ∧ ∃ kind, b.exchanges[binding.exchange]? = some kind ∧
        kind ≠ binding.kind ∧ e = .kindMismatch binding.exchange kind := by
  unfold openConsumer at h
  cases hrefusing : b.refusing with
  | true =>
      rw [hrefusing, if_pos rfl] at h
      cases h
      exact Or.inl ⟨rfl, rfl⟩
  | false =>
      rw [hrefusing, if_neg Bool.false_ne_true] at h
      cases hkind : b.exchanges[binding.exchange]? with
      | none =>
          rw [hkind] at h
          cases h
      | some kind =>
          rw [hkind] at h
          dsimp only at h
          split at h
          next => cases h
          next hne =>
            cases h
            exact Or.inr ⟨rfl, kind, rfl, hne, rfl⟩

theorem Wired.opensWhole (h : b.Wired) (binding : Binding) : b.OpensWhole binding where
  refused := by
    intro e he
    refine ⟨?_, refusal_of_openConsumer he⟩
    rcases openConsumer_cases b binding with ⟨_, heq⟩ | ⟨_, _, _, _, _, heq⟩
    · rw [heq]
    · rw [heq] at he
      cases he
  opened := by
    intro name c hok
    rcases openConsumer_cases b binding with
      ⟨e, heq⟩ | ⟨exchanges, namedQueues, haccepting, hkind, _, heq⟩
    · rw [heq] at hok
      cases hok
    · rw [heq] at hok ⊢
      cases hok
      have hrouted : ∀ queue, ∀ id ∈ (b.routed exchanges namedQueues binding).members queue,
          id < (b.routed exchanges namedQueues binding).opened := h.opened
      refine ⟨haccepting, hkind, fun r => mem_addRoutes_iff, ?_, ?_⟩
      · rw [readers_attach hrouted, if_pos rfl]
        rfl
      · rw [standing_attach]
        exact if_pos rfl

/-! ## What consumers receive -/

/-- A message was published in a run, at a moment at which the broker accepted it. -/
def Accepted (b : Broker) (ops : List Op) (m : Message) : Prop :=
  ∃ earlier later, ops = earlier ++ .publish m :: later ∧ ((b.run earlier).publish m).2 = .ok ()

theorem Accepted.append {ops : List Op} (h : b.Accepted ops m) (more : List Op) :
    b.Accepted (ops ++ more) m := by
  rcases h with ⟨earlier, later, heq, haccepted⟩
  refine ⟨earlier, later ++ more, ?_, haccepted⟩
  rw [heq, List.append_assoc, List.cons_append]

theorem Seated.holds_deliverEach (h : b.Seated) {names : List String}
    (hx : (b.deliverEach m names).Holds name x) : b.Holds name x ∨ x = m := by
  induction names generalizing b with
  | nil => exact Or.inl hx
  | cons first names ih =>
      rw [deliverEach_cons] at hx
      rcases ih (h.of_handsOut (handsOut_deliver b first m)) hx with hheld | heq
      · exact (h.holds_deliver hheld).imp_right And.left
      · exact Or.inr heq

/-- What a queue holds after an operation it held before, or it is the very message that was just
published. -/
theorem Seated.holds_perform_of_fits (h : b.Seated) {op : Op}
    (hfits : ∀ m, op = .publish m → m.envelope.Fits) (hx : (b.perform op).Holds name x) :
    b.Holds name x ∨ op = .publish x ∧ (b.publish x).2 = .ok () := by
  rcases h.holds_perform hx with hold | ⟨m, rfl, _⟩
  · exact Or.inl hold
  · have hafter : (b.publish m).1.Holds name x := hx
    rw [publish_eq (hfits m rfl)] at hafter
    split at hafter
    next => exact Or.inl hafter
    next haccepting =>
      rcases h.holds_deliverEach hafter with hold | heq
      · exact Or.inl hold
      · subst heq
        refine Or.inr ⟨rfl, ?_⟩
        rw [publish_eq (hfits x rfl), if_neg haccepting]

/-- Every message that a queue holds was published, and the broker accepted it. -/
theorem accepted_of_holds {ops : List Op} (hfits : ∀ m, .publish m ∈ ops → m.envelope.Fits)
    (hx : (({} : Broker).run ops).Holds name x) : ({} : Broker).Accepted ops x := by
  induction ops using List.reverseRecOn generalizing x with
  | nil => exact absurd hx (not_holds_empty name x)
  | append_singleton ops op ih =>
      rw [run_append] at hx
      have hlast : ∀ m, op = .publish m → m.envelope.Fits := by
        intro m hop
        exact hfits m (List.mem_append_right ops (List.mem_singleton.mpr hop.symm))
      rcases (seated_run ops).holds_perform_of_fits hlast hx with hold | ⟨rfl, hok⟩
      · exact (ih (fun m hm => hfits m (List.mem_append_left [op] hm)) hold).append [op]
      · exact ⟨ops, [], rfl, hok⟩

/-- In every state that the broker can reach, it refuses an operation only while it accepts no
connections, or because an exchange is there with another kind, and then nothing at all has
changed; otherwise the operation is done completely.  Every message that somebody takes from a
consumer is one that was published and accepted, with its exchange, its key and its envelope. -/
theorem operations_whole_and_transparent (ops : List Op)
    (hfits : ∀ m, .publish m ∈ ops → m.envelope.Fits) :
    let b := ({} : Broker).run ops
    (∀ m, m.envelope.Fits → b.PublishesWhole m) ∧ (∀ binding, b.OpensWhole binding) ∧
      ∀ c m after, b.take c = (after, some m) → ({} : Broker).Accepted ops m := by
  intro b
  refine ⟨fun m hm => publishesWhole hm b, (wired_run ops).opensWhole, ?_⟩
  intro c m after htake
  rcases exists_holds_of_take htake with ⟨name, _, _, hheld⟩
  exact accepted_of_holds hfits hheld

/-- A broadcast that two subscribers get, with a subscriber before it that asks for another kind of
exchange, and an outage after it. -/
theorem operations_whole_and_transparent_broadcast :
    let broadcast : Message := ⟨"events", "", { msgType := "1", body := [1, 2] }⟩
    let ops : List Op := [.openConsumer (.fanout "events"), .openConsumer (.fanout "events"),
      .openConsumer (.direct "events" "audit" "x"), .publish broadcast, .take 0,
      .setRefusing true, .publish broadcast]
    let b := ({} : Broker).run ops
    (∀ m, .publish m ∈ ops → m.envelope.Fits) ∧ (b.take 1).2 = some broadcast ∧
      ({} : Broker).Accepted ops broadcast ∧ b.PublishesWhole broadcast := by
  intro broadcast ops b
  have hbroadcast : broadcast.envelope.Fits := by
    constructor <;> decide
  have hfits : ∀ m, .publish m ∈ ops → m.envelope.Fits := by
    intro m hm
    have heq : m = broadcast := by
      simpa [ops] using hm
    rw [heq]
    exact hbroadcast
  have htake : (b.take 1).2 = some broadcast := by decide +kernel
  have hall := operations_whole_and_transparent ops hfits
  exact ⟨hfits, htake, hall.2.2 1 broadcast _ (Prod.ext rfl htake), hall.1 broadcast hbroadcast⟩

end Broker
end MetricGateway
