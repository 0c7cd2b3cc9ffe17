import MetricGateway.Proofs.Broker.Holding

/-!
# What a queue holds

A queue holds the messages that wait in it and those that its consumers have not read.  A consumer
never changes its queue, so a message gets into a queue only by being published where a route leads
to the queue; every other operation moves what is there, or loses it.

A named queue is fenced when all routes to it are those of one binding to a direct exchange.  As
long as nobody declares it with further routes, it holds only messages that match the binding.
-/

namespace MetricGateway
namespace Broker

/-- A message waits in a queue, or a consumer of the queue has not read it. -/
inductive Holds (b : Broker) (name : String) (m : Message) : Prop where
  | waiting (h : m ∈ b.waiting name)
  | unread {c : ConsumerId} {attached : Bool} (standing : b.standing c = some (name, attached))
      (h : m ∈ b.unread c)

variable {b after : Broker} {name other : String} {m x : Message} {c id : ConsumerId}

/-! ## Publishing -/

/-- A route leads a message to a queue, and `x` is a copy of the message. -/
structure Copy (b : Broker) (name : String) (m x : Message) : Prop where
  exchange : x.exchange = m.exchange
  key : x.key = m.key
  led : ∃ r ∈ b.routes, r.queue = name ∧ b.Leads m r

theorem mem_unread_offer (h : x ∈ (b.offer id m).unread c) : x ∈ b.unread c ∨ x = m ∧ c = id := by
  by_cases heq : c = id
  · subst heq
    cases hlive : b.isLive c with
    | true =>
        rw [unread_offer_self hlive] at h
        split at h
        · rcases List.mem_append.mp h with hold | hnew
          · exact Or.inl hold
          · exact Or.inr ⟨List.mem_singleton.mp hnew, rfl⟩
        · exact Or.inl h
    | false =>
        have hnobody : b.consumers[c]? = none :=
          Std.ExtTreeMap.getElem?_eq_none (of_decide_eq_false hlive)
        unfold offer at h
        rw [hnobody] at h
        exact Or.inl h
  · rw [unread_offer_of_ne b heq] at h
    exact Or.inl h

theorem mem_unread_deliver (h : x ∈ (b.deliver name m).unread c) :
    x ∈ b.unread c ∨ x = m ∧ c ∈ b.readers name := by
  cases hq : b.queues[name]? with
  | none =>
      rw [deliver_of_none hq] at h
      exact Or.inl h
  | some q =>
      rcases deliver_cases hq m with ⟨before, turn, rest, hlive, hdeliver⟩ | ⟨_, hdeliver⟩
      · rw [hdeliver] at h
        rcases mem_unread_offer h with hold | ⟨heq, hturn⟩
        · exact Or.inl hold
        · rw [readers_of_getElem? hq, hlive, hturn]
          exact Or.inr ⟨heq, List.mem_append_right before List.mem_cons_self⟩
      · rw [hdeliver] at h
        exact Or.inl h

theorem mem_pile {backlog : List Message} (h : x ∈ pile backlog m) : x ∈ backlog ∨ x = m := by
  rcases List.mem_append.mp h with hold | hnew
  · left
    split at hold
    · exact List.mem_of_mem_tail hold
    · exact hold
  · exact Or.inr (List.mem_singleton.mp hnew)

theorem waiting_of_getElem? {q : Queue} (h : b.queues[name]? = some q) :
    b.waiting name = q.backlog.toList := by
  unfold waiting
  rw [Std.ExtTreeMap.getD_eq_getD_getElem?, h]
  rfl

/-- A message that is handed to a queue waits there behind the others, or nothing else waits. -/
theorem waiting_deliver_cases (b : Broker) (name other : String) (m : Message) :
    (b.deliver name m).waiting other = b.waiting other ∨
      other = name ∧ (b.deliver name m).waiting other = pile (b.waiting other) m := by
  by_cases hother : other = name
  · subst hother
    cases hq : b.queues[other]? with
    | none =>
        rw [deliver_of_none hq]
        exact Or.inl rfl
    | some q =>
        rw [waiting_of_getElem? hq]
        rcases deliver_cases hq m with ⟨before, turn, rest, _, hdeliver⟩ | ⟨_, hdeliver⟩
        · rw [hdeliver, waiting_of_getElem?
            ((congrArg (·[other]?) (queues_offer _ _ _)).trans
              Std.ExtTreeMap.getElem?_insert_self)]
          exact Or.inl rfl
        · rw [hdeliver, waiting_of_getElem? Std.ExtTreeMap.getElem?_insert_self]
          dsimp only
          split
          · exact Or.inl rfl
          · exact Or.inr ⟨rfl, toList_keep_eq_pile q.backlog m⟩
  · exact Or.inl (waiting_congr (getElem?_queues_deliver_of_ne b hother m))

theorem mem_waiting_deliver (h : x ∈ (b.deliver name m).waiting other) :
    x ∈ b.waiting other ∨ x = m ∧ other = name := by
  rcases waiting_deliver_cases b name other m with heq | ⟨hname, heq⟩
  · exact Or.inl (heq ▸ h)
  · rw [heq] at h
    exact (mem_pile h).imp_right fun hx => ⟨hx, hname⟩

theorem Seated.holds_deliver (h : b.Seated) (hx : (b.deliver name m).Holds other x) :
    b.Holds other x ∨ x = m ∧ other = name := by
  cases hx with
  | waiting hwaits => exact (mem_waiting_deliver hwaits).imp_left .waiting
  | unread hstanding hunread =>
      rw [standing_deliver] at hstanding
      rcases mem_unread_deliver hunread with hold | ⟨heq, hreads⟩
      · exact Or.inl (.unread hstanding hold)
      · right
        constructor
        · exact heq
        · rw [h.attached name _ hreads] at hstanding
          cases hstanding
          rfl

theorem Seated.holds_deliverAll (h : b.Seated) {exchange key : String} {frame : Wire.Bytes}
    {names : List String} (hx : (b.deliverAll exchange key frame names).1.Holds name x) :
    b.Holds name x ∨ x.exchange = exchange ∧ x.key = key ∧ name ∈ names := by
  induction names generalizing b with
  | nil => exact Or.inl hx
  | cons first names ih =>
      unfold deliverAll at hx
      split at hx
      next => exact Or.inl hx
      next envelope _ =>
        rcases ih (h.of_handsOut (handsOut_deliver b first ⟨exchange, key, envelope⟩)) hx with
          hheld | ⟨hexchange, hkey, hname⟩
        · rcases h.holds_deliver hheld with hold | ⟨heq, hname⟩
          · exact Or.inl hold
          · subst heq hname
            exact Or.inr ⟨rfl, rfl, List.mem_cons_self⟩
        · exact Or.inr ⟨hexchange, hkey, List.mem_cons_of_mem first hname⟩

theorem Seated.holds_publish (h : b.Seated) (hx : (b.publish m).1.Holds name x) :
    b.Holds name x ∨ b.Copy name m x := by
  unfold Broker.publish at hx
  split at hx
  · exact Or.inl hx
  · cases hkind : b.exchanges[m.exchange]? with
    | none =>
        rw [hkind] at hx
        exact Or.inl hx
    | some kind =>
        rw [hkind] at hx
        rcases h.holds_deliverAll hx with hold | ⟨hexchange, hkey, hname⟩
        · exact Or.inl hold
        · right
          constructor
          · exact hexchange
          · exact hkey
          · rcases List.mem_map.mp hname with ⟨r, hr, hqueue⟩
            rcases List.mem_filter.mp hr with ⟨hroute, hleads⟩
            rcases of_decide_eq_true hleads with ⟨hsame, hwhich⟩
            refine ⟨r, hroute, hqueue, hsame, ?_⟩
            rw [hkind]
            exact hwhich.imp_left (congrArg some)

/-! ## The other operations -/

theorem mem_unread_take (h : x ∈ (b.take id).1.unread c) : x ∈ b.unread c := by
  by_cases heq : c = id
  · subst heq
    rw [unread_take_self]
    exact List.mem_append_right _ h
  · rw [unread_take_of_ne b heq] at h
    exact h

theorem holds_take (hx : (b.take id).1.Holds name x) : b.Holds name x := by
  cases hx with
  | waiting hwaits =>
      rcases take_frame b id with ⟨consumers, heq⟩
      rw [heq] at hwaits
      exact .waiting hwaits
  | unread hstanding hunread =>
      rw [standing_take] at hstanding
      exact .unread hstanding (mem_unread_take hunread)

theorem holds_close (hx : (b.close id).Holds name x) : b.Holds name x := by
  cases hx with
  | waiting hwaits => exact .waiting hwaits
  | @unread c _ hstanding hunread =>
      rw [standing_close] at hstanding
      split at hstanding
      next => cases hstanding
      next hne =>
        rw [unread_close_of_ne b (Ne.symm hne)] at hunread
        exact .unread hstanding hunread

/-- A queue keeps what waits when all consumers are cancelled, unless it is deleted. -/
theorem waiting_cancelAll_cases (b : Broker) (name : String) :
    b.cancelAll.waiting name = b.waiting name ∨ b.cancelAll.waiting name = [] := by
  unfold waiting cancelAll
  dsimp only
  rw [Std.ExtTreeMap.getD_eq_getD_getElem?, Std.ExtTreeMap.getD_eq_getD_getElem?,
    Std.ExtTreeMap.getElem?_map, Std.ExtTreeMap.getElem?_filter']
  cases b.queues[name]? with
  | none => exact Or.inl rfl
  | some q =>
      rw [Option.filter_some]
      split
      · exact Or.inl rfl
      · exact Or.inr rfl

theorem mem_waiting_cancelAll (h : x ∈ b.cancelAll.waiting name) : x ∈ b.waiting name := by
  rcases waiting_cancelAll_cases b name with heq | heq
  · exact heq ▸ h
  · rw [heq] at h
    exact absurd h List.not_mem_nil

theorem holds_cancelAll (hx : b.cancelAll.Holds name x) : b.Holds name x := by
  cases hx with
  | waiting hwaits => exact .waiting (mem_waiting_cancelAll hwaits)
  | unread hstanding hunread =>
      rw [standing_cancelAll] at hstanding
      rw [unread_cancelAll] at hunread
      rcases Option.map_eq_some_iff.mp hstanding with ⟨⟨queue, attached⟩, hbefore, hsame⟩
      cases hsame
      exact .unread hbefore hunread

theorem holds_attach {exclusive : Bool} (hx : (b.attach other exclusive).1.Holds name x) :
    b.Holds name x := by
  cases hx with
  | waiting hwaits =>
      by_cases hname : name = other
      · subst hname
        rw [waiting_attach] at hwaits
        exact .waiting (List.mem_of_mem_drop hwaits)
      · have hsame : (b.attach other exclusive).1.queues[name]? = b.queues[name]? :=
          lookup_insert_of_ne _ hname _
        rw [waiting_congr hsame] at hwaits
        exact .waiting hwaits
  | @unread c _ hstanding hunread =>
      rw [standing_attach] at hstanding
      split at hstanding
      next hnew =>
        cases hstanding
        subst hnew
        rw [unread_attach] at hunread
        exact .waiting (List.mem_of_mem_take hunread)
      next hold =>
        rw [unread_attach_of_ne b _ _ (Ne.symm hold)] at hunread
        exact .unread hstanding hunread

theorem holds_openConsumer {binding : Binding} (hx : (b.openConsumer binding).1.Holds name x) :
    b.Holds name x := by
  rcases openConsumer_cases b binding with ⟨e, heq⟩ | ⟨exchanges, namedQueues, _, _, _, heq⟩
  · rw [heq] at hx
    exact hx
  · rw [heq] at hx
    cases holds_attach hx with
    | waiting hwaits => exact .waiting hwaits
    | unread hstanding hunread => exact .unread hstanding hunread

/-- What a queue holds after an operation it held before, or it is a copy of what was just
published. -/
theorem Seated.holds_perform (h : b.Seated) {op : Op} (hx : (b.perform op).Holds name x) :
    b.Holds name x ∨ ∃ m, op = .publish m ∧ b.Copy name m x := by
  cases op with
  | openConsumer binding => exact Or.inl (holds_openConsumer hx)
  | publish m => exact (h.holds_publish hx).imp_right fun hcopy => ⟨m, rfl, hcopy⟩
  | take id => exact Or.inl (holds_take hx)
  | close id => exact Or.inl (holds_close hx)
  | cancelAll => exact Or.inl (holds_cancelAll hx)
  | setRefusing refusing =>
      left
      cases hx with
      | waiting hwaits => exact .waiting hwaits
      | unread hstanding hunread => exact .unread hstanding hunread

/-! ## Routes and consumers -/

/-- Only opening a consumer declares exchanges and routes, and counts a consumer. -/
theorem perform_cases (b : Broker) (op : Op) :
    (∃ binding, op = .openConsumer binding) ∨
      (b.perform op).exchanges = b.exchanges ∧ (b.perform op).opened = b.opened ∧
        (b.perform op).routes ⊆ b.routes := by
  cases op with
  | openConsumer binding => exact Or.inl ⟨binding, rfl⟩
  | publish m =>
      right
      rcases (handsOut_publish b m).frame with ⟨_, _, heq⟩
      show (b.publish m).1.exchanges = _ ∧ (b.publish m).1.opened = _ ∧ (b.publish m).1.routes ⊆ _
      rw [heq]
      exact ⟨rfl, rfl, List.Subset.refl _⟩
  | take id =>
      right
      rcases take_frame b id with ⟨_, heq⟩
      show (b.take id).1.exchanges = _ ∧ (b.take id).1.opened = _ ∧ (b.take id).1.routes ⊆ _
      rw [heq]
      exact ⟨rfl, rfl, List.Subset.refl _⟩
  | close id => exact Or.inr ⟨rfl, rfl, List.Subset.refl _⟩
  | cancelAll => exact Or.inr ⟨rfl, rfl, List.filter_subset_self _⟩
  | setRefusing refusing => exact Or.inr ⟨rfl, rfl, List.Subset.refl _⟩

theorem exchanges_perform {exchange : String} {kind : ExchangeKind}
    (h : b.exchanges[exchange]? = some kind) (op : Op) :
    (b.perform op).exchanges[exchange]? = some kind := by
  rcases perform_cases b op with ⟨binding, rfl⟩ | ⟨hexchanges, _, _⟩
  · show (b.openConsumer binding).1.exchanges[exchange]? = some kind
    rcases openConsumer_cases b binding with ⟨e, heq⟩ | ⟨exchanges, _, _, _, hold, heq⟩
    · rw [heq]
      exact h
    · rw [heq]
      exact hold exchange kind h
  · rw [hexchanges]
    exact h

/-- A route was there before, or it is one of a binding that was just declared. -/
theorem mem_routes_perform {op : Op} {r : Route} (h : r ∈ (b.perform op).routes) :
    r ∈ b.routes ∨ ∃ binding, op = .openConsumer binding ∧ r.exchange = binding.exchange ∧
      r.queue = b.queueName binding ∧ r.key ∈ binding.keys ∧
      (b.perform op).exchanges[binding.exchange]? = some binding.kind := by
  rcases perform_cases b op with ⟨binding, rfl⟩ | ⟨_, _, hroutes⟩
  · have hafter : b.perform (.openConsumer binding) = (b.openConsumer binding).1 := rfl
    rw [hafter] at h ⊢
    rcases openConsumer_cases b binding with ⟨e, heq⟩ | ⟨exchanges, _, _, hkind, _, heq⟩
    · rw [heq] at h
      exact Or.inl h
    · rw [heq] at h ⊢
      rcases mem_addRoutes_iff.mp h with hold | ⟨hexchange, hqueue, hkey⟩
      · exact Or.inl hold
      · exact Or.inr ⟨binding, rfl, hexchange, hqueue, hkey, hkind⟩
  · exact Or.inl (hroutes h)

theorem opened_le_perform (b : Broker) (op : Op) : b.opened ≤ (b.perform op).opened := by
  rcases perform_cases b op with ⟨binding, rfl⟩ | ⟨_, hopened, _⟩
  · show b.opened ≤ (b.openConsumer binding).1.opened
    rcases openConsumer_cases b binding with ⟨e, heq⟩ | ⟨_, _, _, _, _, heq⟩
    · exact Nat.le_of_eq (congrArg (·.1.opened) heq).symm
    · rw [heq]
      exact Nat.le_succ _
  · exact Nat.le_of_eq hopened.symm

/-- A consumer that was opened reads the queue as long as it reads any. -/
structure StandsAt (b : Broker) (c : ConsumerId) (name : String) : Prop where
  numbered : c < b.opened
  queue : ∀ seat ∈ b.standing c, seat.1 = name

/-- A consumer that is opened with a binding to a named queue reads this queue. -/
theorem standsAt_openConsumer {binding : Binding} {queue : String} {durable : Bool}
    (hqueue : binding.queue = .named queue durable)
    (h : b.openConsumer binding = (after, .ok (name, c))) : after.StandsAt c queue := by
  have hname : b.queueName binding = queue := by
    unfold queueName
    rw [hqueue]
    rfl
  rcases openConsumer_cases b binding with ⟨e, heq⟩ | ⟨_, _, _, _, _, heq⟩
  · rw [h] at heq
    cases heq
  · rw [h] at heq
    cases heq
    constructor
    · exact Nat.lt_succ_self _
    · intro seat hseat
      rw [standing_attach] at hseat
      cases (if_pos rfl).symm.trans hseat
      exact hname

theorem StandsAt.perform (h : b.StandsAt c name) (op : Op) : (b.perform op).StandsAt c name where
  numbered := Nat.lt_of_lt_of_le h.numbered (opened_le_perform b op)
  queue := by
    intro seat hseat
    cases op with
    | openConsumer binding =>
        have hbefore : seat ∈ (b.openConsumer binding).1.standing c := hseat
        rcases openConsumer_cases b binding with ⟨e, heq⟩ | ⟨_, _, _, _, _, heq⟩
        · rw [heq] at hbefore
          exact h.queue seat hbefore
        · have hold : b.opened ≠ c := Nat.ne_of_gt h.numbered
          rw [heq, standing_attach] at hbefore
          exact h.queue seat ((if_neg hold).symm.trans hbefore)
    | publish m =>
        have hsame : (b.perform (.publish m)).standing = b.standing :=
          (handsOut_publish b m).standing
        rw [hsame] at hseat
        exact h.queue seat hseat
    | take id =>
        have hsame : (b.perform (.take id)).standing = b.standing := standing_take b id
        rw [hsame] at hseat
        exact h.queue seat hseat
    | close id =>
        have hbefore : seat ∈ (b.close id).standing c := hseat
        rw [standing_close] at hbefore
        split at hbefore
        · cases hbefore
        · exact h.queue seat hbefore
    | cancelAll =>
        have hbefore : seat ∈ b.cancelAll.standing c := hseat
        rw [standing_cancelAll] at hbefore
        rcases Option.map_eq_some_iff.mp hbefore with ⟨before, hstanding, heq⟩
        rw [← heq]
        exact h.queue before hstanding
    | setRefusing refusing => exact h.queue seat hseat

theorem StandsAt.run (h : b.StandsAt c name) (ops : List Op) : (b.run ops).StandsAt c name := by
  induction ops generalizing b with
  | nil => exact h
  | cons op ops ih => exact ih (h.perform op)

theorem exists_holds_of_take (htake : b.take c = (after, some m)) :
    ∃ name attached, b.standing c = some (name, attached) ∧ b.Holds name m := by
  cases hunread : b.unread c with
  | nil =>
      rw [take_of_unread_nil hunread] at htake
      cases htake
  | cons first rest =>
      rcases take_of_unread_cons hunread with ⟨consumer, _, hconsumer, _, heq⟩
      rw [heq] at htake
      cases htake
      have hstanding : b.standing c = some (consumer.queue, consumer.attached) := by
        unfold standing
        rw [hconsumer]
        rfl
      refine ⟨consumer.queue, consumer.attached, hstanding, Holds.unread hstanding ?_⟩
      rw [hunread]
      exact List.mem_cons_self

theorem StandsAt.holds_of_take (h : b.StandsAt c name) (htake : b.take c = (after, some m)) :
    b.Holds name m := by
  rcases exists_holds_of_take htake with ⟨queue, attached, hstanding, hheld⟩
  have hname : queue = name := h.queue _ hstanding
  exact hname ▸ hheld

/-! ## Fenced queues -/

namespace DirectQueue

/-- A binding that names the queue leads no further messages to it. -/
def Admits (q : DirectQueue) (binding : Binding) : Prop :=
  ∀ durable, binding.queue = .named q.name durable →
    binding.exchange = q.exchange ∧ binding.kind = .direct ∧ ∀ key ∈ binding.keys, key ∈ q.keys

/-- Whoever opens a consumer leads no further messages to the queue. -/
def Permits (q : DirectQueue) : Op → Prop
  | .openConsumer binding => q.Admits binding
  | _ => True

theorem admits_binding (q : DirectQueue) : q.Admits q.binding :=
  fun _ _ => ⟨rfl, rfl, fun _ hkey => hkey⟩

theorem admits_of_exclusive {q : DirectQueue} {binding : Binding}
    (h : binding.queue = .exclusive) : q.Admits binding := by
  intro durable hnamed
  rw [h] at hnamed
  cases hnamed

theorem admits_of_ne {q : DirectQueue} {binding : Binding} {queue : String} {durable : Bool}
    (h : binding.queue = .named queue durable) (hne : queue ≠ q.name) : q.Admits binding := by
  intro durable' hnamed
  rw [h] at hnamed
  cases hnamed
  exact absurd rfl hne

end DirectQueue

/-- Every route to a queue belongs to its binding, and the queue holds nothing else. -/
structure Fenced (b : Broker) (q : DirectQueue) : Prop where
  wired : b.Wired
  seated : b.Seated
  /-- The broker never makes up the name of the queue. -/
  named : ∀ n : Nat, q.name ≠ "amq.gen-" ++ toString n
  direct : ∀ r ∈ b.routes, r.queue = q.name → b.exchanges[q.exchange]? = some .direct
  routed : ∀ r ∈ b.routes, r.queue = q.name → r.exchange = q.exchange ∧ r.key ∈ q.keys
  holds : ∀ {m : Message}, b.Holds q.name m → q.Matches m

variable {q : DirectQueue}

theorem not_holds_empty (name : String) (m : Message) : ¬({} : Broker).Holds name m := by
  intro h
  cases h with
  | waiting hwaits => simp [waiting] at hwaits
  | unread hstanding => simp [standing] at hstanding

theorem fenced_empty (h : ∀ n : Nat, q.name ≠ "amq.gen-" ++ toString n) :
    ({} : Broker).Fenced q where
  wired := wired_empty
  seated := seated_empty
  named := h
  direct := fun _ hr => absurd hr List.not_mem_nil
  routed := fun _ hr => absurd hr List.not_mem_nil
  holds := fun hm => absurd hm (not_holds_empty _ _)

theorem Fenced.matches_of_copy (h : b.Fenced q) (hcopy : b.Copy q.name m x) : q.Matches x := by
  rcases hcopy.led with ⟨r, hr, hqueue, hsame, hwhich⟩
  rcases h.routed r hr hqueue with ⟨hexchange, hkey⟩
  have hdirect := h.direct r hr hqueue
  rw [← hexchange, hsame] at hdirect
  constructor
  · rw [hcopy.exchange, ← hsame, hexchange]
  · rcases hwhich with hfanout | hkeys
    · rw [hdirect] at hfanout
      cases hfanout
    · rw [hcopy.key, ← hkeys]
      exact hkey

theorem Fenced.of_queueName (h : b.Fenced q) {binding : Binding} (hadmits : q.Admits binding)
    (hname : b.queueName binding = q.name) :
    binding.exchange = q.exchange ∧ binding.kind = .direct ∧
      ∀ key ∈ binding.keys, key ∈ q.keys := by
  cases hqueue : binding.queue with
  | named queue durable =>
      apply hadmits durable
      unfold queueName chooseQueue at hname
      rw [hqueue] at hname ⊢
      exact congrArg (QueueSpec.named · durable) hname
  | exclusive =>
      unfold queueName chooseQueue at hname
      rw [hqueue] at hname
      exact absurd hname.symm (h.named _)

theorem Fenced.perform (h : b.Fenced q) {op : Op} (hpermits : q.Permits op) :
    (b.perform op).Fenced q where
  wired := h.wired.perform op
  seated := h.seated.perform h.wired op
  named := h.named
  direct := by
    intro r hr hqueue
    rcases mem_routes_perform hr with hold | ⟨binding, rfl, _, hdeclared, _, hkind⟩
    · exact exchanges_perform (h.direct r hold hqueue) op
    · rcases h.of_queueName hpermits (hdeclared.symm.trans hqueue) with ⟨hexchange, hdirect, _⟩
      rw [← hexchange, ← hdirect]
      exact hkind
  routed := by
    intro r hr hqueue
    rcases mem_routes_perform hr with hold | ⟨binding, rfl, hbound, hdeclared, hkey, _⟩
    · exact h.routed r hold hqueue
    · rcases h.of_queueName hpermits (hdeclared.symm.trans hqueue) with ⟨hexchange, _, hkeys⟩
      exact ⟨hbound.trans hexchange, hkeys _ hkey⟩
  holds := by
    intro m hm
    rcases h.seated.holds_perform hm with hold | ⟨published, _, hcopy⟩
    · exact h.holds hold
    · exact h.matches_of_copy hcopy

theorem Fenced.run (h : b.Fenced q) {ops : List Op} (hpermits : ∀ op ∈ ops, q.Permits op) :
    (b.run ops).Fenced q := by
  induction ops generalizing b with
  | nil => exact h
  | cons op ops ih =>
      have hnext := h.perform (hpermits op List.mem_cons_self)
      exact ih hnext fun op' hop' => hpermits op' (List.mem_cons_of_mem op hop')

end Broker
end MetricGateway
