import MetricGateway.Proofs.Broker.Owners

/-!
# Exclusive queues are private

An exclusive queue belongs to the consumer that it was created for.  The broker makes up its name,
and the names that callers choose lie in the same map, so that the queue stays private exactly as
long as nobody chooses a name that the broker has made for a queue that is there, or is going to
make.
-/

namespace MetricGateway
namespace Broker
namespace Watched

/-- Exclusive queues are private to the consumers that they were created for, and the other queues
are shared by nobody but those who asked for them by name. -/
structure Private (w : Watched) : Prop where
  alone : ∀ {name : String} {c : ConsumerId}, w.owner name = some c →
    ∀ d ∈ w.broker.members name, d = c
  /-- A message for an exclusive queue reaches only the consumer of the queue, and never waits. -/
  reaches : ∀ {name : String} {c : ConsumerId}, w.owner name = some c → ∀ (m : Message) {d},
    d ≠ c → (w.broker.deliver name m).unread d = w.broker.unread d
  quiet : ∀ {name : String} {c : ConsumerId}, w.owner name = some c → w.broker.waiting name = []
  /-- No other queue becomes exclusive, or is deleted when all consumers are cancelled. -/
  shared : ∀ {name : String} {q : Queue}, w.broker.queues[name]? = some q → w.owner name = none →
    q.exclusive = false
  kept : ∀ {name : String}, name ∈ w.broker.queues → w.owner name = none →
    name ∈ w.broker.cancelAll.queues ∧ w.broker.cancelAll.waiting name = w.broker.waiting name
  together : ∀ {name : String} {c d : ConsumerId}, c ∈ w.broker.members name →
    d ∈ w.broker.members name → c ≠ d →
    (∃ durable, w.asked c = some (.named name durable)) ∧
      ∃ durable, w.asked d = some (.named name durable)

/-- An operation leaves every exclusive queue private, and the one that it creates is a new one. -/
def Keeps (w : Watched) (op : Op) : Prop :=
  (w.perform op).Private ∧ ∀ o, w.broker.opening? op = some o → o.spec = .exclusive →
    o.queue ∉ w.broker.queues

/-- The names that callers choose and those that the broker makes do not clash: nobody asks by name
for the exclusive queue of somebody else, and nobody has asked by name for the queue that the broker
creates. -/
def Apart (w : Watched) (op : Op) : Prop :=
  ∀ o, w.broker.opening? op = some o →
    match o.spec with
    | .named name _ => w.owner name = none
    | .exclusive => ∀ c durable, w.asked c ≠ some (.named o.queue durable)

variable {w : Watched} {op : Op}

/-!
## Privacy
-/

theorem Orderly.private (h : w.Orderly) : w.Private where
  alone := h.alone
  reaches := by
    intro name c howner m d hd
    apply unread_deliver_of_not_mem
    intro hmem
    exact hd (h.alone howner d (List.mem_of_mem_filter hmem))
  quiet := h.quiet
  shared := fun hq hnobody => h.shared hnobody _ hq
  kept := fun hname hnobody =>
    ⟨(h.mem_queues_cancelAll _).mpr ⟨hname, hnobody⟩, waiting_cancelAll (h.shared hnobody)⟩
  together := by
    intro name c d hc hd hne
    cases howner : w.owner name with
    | none => exact ⟨h.guests howner c hc, h.guests howner d hd⟩
    | some e => exact absurd ((h.alone howner c hc).trans (h.alone howner d hd).symm) hne

/-- Where names do not clash, the name that the broker makes is that of no queue. -/
theorem Orderly.fresh (h : w.Orderly) (hapart : w.Apart op) {o : Opening}
    (ho : w.broker.opening? op = some o) (hopens : w.broker.Opens o (w.broker.perform op))
    (hspec : o.spec = .exclusive) : o.queue ∉ w.broker.queues := by
  intro hmem
  have hqueue := hopens.queue
  have hunasked := hapart o ho
  rw [hspec] at hqueue hunasked
  cases howner : w.owner o.queue with
  | none =>
      rcases (h.asked_for o.queue).mp ⟨hmem, howner⟩ with ⟨c, durable, hasked⟩
      exact hunasked c durable hasked
  | some c =>
      rcases h.made howner with ⟨n, hn, hname⟩
      have heq : w.broker.namedQueues + 1 = n := madeName_inj.mp (hqueue.symm.trans hname)
      omega

/-!
## Runs
-/

theorem Orderly.perform (h : w.Orderly) (hapart : w.Apart op) : (w.perform op).Orderly := by
  rcases w.broker.perform_queues op with ⟨o, ho, hopens⟩ | ⟨hnone, rfl | hserves⟩
  · cases hspec : o.spec with
    | named name durable =>
        have hnobody := hapart o ho
        rw [hspec] at hnobody
        exact h.opens_named ho hopens hspec hnobody
    | exclusive => exact h.opens_exclusive ho hopens hspec (h.fresh hapart ho hopens hspec)
  · exact h.cancelAll
  · exact h.serves hnone hserves

theorem Orderly.keeps_iff_apart (h : w.Orderly) : w.Keeps op ↔ w.Apart op := by
  constructor
  · rintro ⟨hprivate, hfresh⟩ o ho
    rcases w.broker.perform_queues op with ⟨o', ho', hopens⟩ | ⟨hnone, _⟩
    · cases ho.symm.trans ho'
      cases hspec : o.spec with
      | named name durable =>
          dsimp only
          cases howner : w.owner name with
          | none => rfl
          | some c =>
              have hqueue : o.queue = name := by
                rw [hopens.queue, hspec]
                rfl
              have hstill : (w.perform op).owner name = some c := by
                rw [h.owner_of_opens ho hopens, hspec, if_neg (by simp), howner]
              have hnew : w.broker.opened ∈ (w.perform op).broker.members name := by
                show _ ∈ (w.broker.perform op).members name
                rw [← hqueue, hopens.own_members]
                exact List.mem_append_right _ List.mem_cons_self
              have heq := hprivate.alone hstill _ hnew
              exact absurd (h.opened howner) (Nat.not_lt.mpr (Nat.le_of_eq heq))
      | exclusive =>
          intro c durable hasked
          exact hfresh o ho hspec ((h.asked_for o.queue).mpr ⟨c, durable, hasked⟩).1
    · cases hnone.symm.trans ho
  · intro hapart
    refine ⟨(h.perform hapart).private, ?_⟩
    intro o ho hspec
    rcases w.broker.perform_queues op with ⟨o', ho', hopens⟩ | ⟨hnone, _⟩
    · cases ho.symm.trans ho'
      exact h.fresh hapart ho hopens hspec
    · cases hnone.symm.trans ho

/-- Something is so of each operation of a run, where it is performed. -/
def Throughout (P : Watched → Op → Prop) (w : Watched) (ops : List Op) : Prop :=
  ∀ before op after, ops = before ++ op :: after → P (w.run before) op

theorem throughout_nil (P : Watched → Op → Prop) (w : Watched) : w.Throughout P [] := by
  intro before op after heq
  cases before <;> cases heq

theorem throughout_cons {P : Watched → Op → Prop} {ops : List Op} :
    w.Throughout P (op :: ops) ↔ P w op ∧ (w.perform op).Throughout P ops := by
  constructor
  · intro h
    refine ⟨h [] op ops rfl, ?_⟩
    intro before op' after heq
    exact h (op :: before) op' after (by rw [heq, List.cons_append])
  · rintro ⟨hfirst, hrest⟩ before op' after heq
    cases before with
    | nil =>
        cases heq
        exact hfirst
    | cons op'' before =>
        cases heq
        exact hrest before op' after rfl

theorem Orderly.throughout_keeps_iff (h : w.Orderly) (ops : List Op) :
    w.Throughout Keeps ops ↔ w.Throughout Apart ops := by
  induction ops generalizing w with
  | nil => exact ⟨fun _ => throughout_nil _ w, fun _ => throughout_nil _ w⟩
  | cons op ops ih =>
      rw [throughout_cons, throughout_cons, h.keeps_iff_apart]
      exact and_congr_right fun hapart => ih (h.perform hapart)

/-!
## Names that the broker does not make
-/

/-- An operation that does not ask by name for a queue with a name that the broker could make. -/
def Plain : Op → Prop
  | .openConsumer binding => ∀ n durable, binding.queue ≠ .named (madeName n) durable
  | _ => True

theorem spec_ne_of_plain {b : Broker} {o : Opening} (hplain : Plain op)
    (ho : b.opening? op = some o) (n : Nat) (durable : Bool) :
    o.spec ≠ .named (madeName n) durable := by
  cases op with
  | openConsumer binding =>
      rw [opening?_openConsumer] at ho
      split at ho
      · cases ho
        exact hplain n durable
      · cases ho
  | _ => cases ho

/-- No consumer has asked for its queue by a name that the broker could make. -/
def Unclaimed (w : Watched) : Prop :=
  ∀ c n durable, w.asked c ≠ some (.named (madeName n) durable)

theorem Unclaimed.perform (h : w.Unclaimed) (hplain : Plain op) : (w.perform op).Unclaimed := by
  intro c n durable hasked
  rcases w.broker.perform_queues op with ⟨o, ho, hopens⟩ | ⟨hnone, _⟩
  · rw [asked_of_opens ho hopens] at hasked
    split at hasked
    · exact spec_ne_of_plain hplain ho n durable (Option.some.inj hasked)
    · exact h c n durable hasked
  · rw [asked_of_none hnone] at hasked
    exact h c n durable hasked

theorem Orderly.apart_of_plain (h : w.Orderly) (hunclaimed : w.Unclaimed) (hplain : Plain op) :
    w.Apart op := by
  intro o ho
  rcases w.broker.perform_queues op with ⟨o', ho', hopens⟩ | ⟨hnone, _⟩
  · cases ho.symm.trans ho'
    have hqueue := hopens.queue
    cases hspec : o.spec with
    | named name durable =>
        cases howner : w.owner name with
        | none => exact howner
        | some c =>
            rcases h.made howner with ⟨n, _, rfl⟩
            exact absurd hspec (spec_ne_of_plain hplain ho n durable)
    | exclusive =>
        intro c durable hasked
        rw [hqueue, hspec] at hasked
        exact hunclaimed c (w.broker.namedQueues + 1) durable hasked
  · cases hnone.symm.trans ho

theorem Orderly.throughout_apart (h : w.Orderly) (hunclaimed : w.Unclaimed) {ops : List Op}
    (hplain : ∀ op ∈ ops, Plain op) : w.Throughout Apart ops := by
  induction ops generalizing w with
  | nil => exact throughout_nil _ w
  | cons op ops ih =>
      have hfirst := hplain op List.mem_cons_self
      have hapart := h.apart_of_plain hunclaimed hfirst
      rw [throughout_cons]
      exact ⟨hapart, ih (h.perform hapart) (hunclaimed.perform hfirst) fun op' hop' =>
        hplain op' (List.mem_cons_of_mem op hop')⟩

/-- In every run of the broker each exclusive queue is a new one and private to its consumer, if and
only if nobody ever asks by name for the exclusive queue of somebody else or for the queue that the
broker will create.  So all is well with callers that never choose a name that the broker could
make. -/
theorem exclusive_queues_private_iff (ops : List Op) :
    (({} : Watched).run ops).broker = ({} : Broker).run ops ∧
      (({} : Watched).Throughout Keeps ops ↔ ({} : Watched).Throughout Apart ops) ∧
      ((∀ op ∈ ops, Plain op) → ({} : Watched).Throughout Keeps ops) := by
  have hiff := orderly_empty.throughout_keeps_iff ops
  refine ⟨broker_run {} ops, hiff, fun hplain => hiff.mpr ?_⟩
  exact orderly_empty.throughout_apart (fun c n durable => nofun) hplain

/-- Two subscribers to broadcasts and one of replies come, go and are cancelled. -/
def subscribers : List Op :=
  [.openConsumer (.fanout "events"), .openConsumer (.direct "reply" "replies" "rts"),
    .openConsumer (.fanout "events"), .publish ⟨"events", "", { msgType := "1" }⟩, .close 0,
    .cancelAll, .openConsumer (.fanout "events")]

theorem exclusive_queues_private_subscribers :
    (∀ op ∈ subscribers, Plain op) ∧ ({} : Watched).Throughout Keeps subscribers := by
  have hplain : ∀ op ∈ subscribers, Plain op := by
    have hreplies : ∀ n, "replies" ≠ madeName n := by
      intro n heq
      have hfirst := congrArg (fun name => name.toList.head?) heq
      simp [madeName] at hfirst
    intro op hop
    simp only [subscribers, List.mem_cons, List.not_mem_nil, or_false] at hop
    rcases hop with rfl | rfl | rfl | rfl | rfl | rfl | rfl
    case inr.inl =>
      intro n durable hnamed
      exact hreplies n (QueueSpec.named.inj hnamed).1
    all_goals simp [Plain, Binding.fanout]
  exact ⟨hplain, (exclusive_queues_private_iff subscribers).2.2 hplain⟩

/-- Somebody asks by name for the queue that the broker makes for a subscriber to broadcasts, and
gets the broadcast in place of the subscriber. -/
theorem chosen_name_shares_exclusive_queue :
    let broadcast : Message := ⟨"events", "", { msgType := "1", correlation := "c" }⟩
    let ops : List Op := [.openConsumer (.direct "x" "amq.gen-1" "k"),
      .openConsumer (.fanout "events")]
    let b := ({} : Broker).run (ops ++ [.publish broadcast])
    b.members "amq.gen-1" = [0, 1] ∧ b.unread 0 = [broadcast] ∧ b.unread 1 = [] ∧
      ¬({} : Watched).Throughout Keeps ops := by
  intro broadcast ops b
  refine ⟨by decide +kernel, by decide +kernel, by decide +kernel, ?_⟩
  intro hkeeps
  let w := ({} : Watched).run [.openConsumer (.direct "x" "amq.gen-1" "k")]
  let op : Op := .openConsumer (.fanout "events")
  have hfresh := (hkeeps [.openConsumer (.direct "x" "amq.gen-1" "k")] op [] rfl).2
  have hopening : w.broker.opening? op = some ⟨"amq.gen-1", 1, .exclusive⟩ := by decide +kernel
  have hthere : "amq.gen-1" ∈ w.broker.queues := by decide +kernel
  exact hfresh _ hopening rfl hthere

end Watched
end Broker
end MetricGateway
