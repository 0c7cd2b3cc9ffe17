import Mathlib.Data.List.Nodup
import MetricGateway.Proofs.Broker.Runs
import MetricGateway.Proofs.Maps

/-!
# How queues, routes and consumers hang together

In every state that the broker can reach, a route is declared once, leads from an exchange that is
there to a queue that is there, and a consumer belongs to one queue and stands there once.  Only
opening a consumer adds routes and consumers; every other operation at most takes some away.
-/

namespace MetricGateway
namespace Broker

/-- The consumers of a queue, also those that nobody reads any more. -/
def members (b : Broker) (name : String) : List ConsumerId := (b.queues.getD name {}).consumers

structure Wired (b : Broker) : Prop where
  routes_nodup : b.routes.Nodup
  exchange_mem : ∀ r ∈ b.routes, r.exchange ∈ b.exchanges
  queue_mem : ∀ r ∈ b.routes, r.queue ∈ b.queues
  opened : ∀ name, ∀ id ∈ b.members name, id < b.opened
  members_nodup : ∀ name, (b.members name).Nodup
  apart : ∀ {name other id}, id ∈ b.members name → id ∈ b.members other → name = other

theorem wired_empty : ({} : Broker).Wired where
  routes_nodup := List.nodup_nil
  exchange_mem := fun _ h => absurd h List.not_mem_nil
  queue_mem := fun _ h => absurd h List.not_mem_nil
  opened := by
    intro name id h
    simp [members] at h
  members_nodup := by
    intro name
    simp [members]
  apart := by
    intro name other id h
    simp [members] at h

theorem members_of_getElem? {b : Broker} {name : String} {q : Queue}
    (h : b.queues[name]? = some q) : b.members name = q.consumers := by
  unfold members
  rw [Std.ExtTreeMap.getD_eq_getD_getElem?, h, Option.getD_some]

theorem members_of_not_mem {b : Broker} {name : String} (h : name ∉ b.queues) :
    b.members name = [] := by
  unfold members
  rw [Std.ExtTreeMap.getD_eq_fallback h]

theorem members_congr {b after : Broker} {name : String}
    (h : after.queues[name]? = b.queues[name]?) : after.members name = b.members name := by
  unfold members
  rw [Std.ExtTreeMap.getD_eq_getD_getElem?, Std.ExtTreeMap.getD_eq_getD_getElem?, h]

theorem members_insert (b : Broker) (name other : String) (q : Queue) :
    ({ b with queues := b.queues.insert name q } : Broker).members other =
      if name = other then q.consumers else b.members other := by
  unfold members
  rw [Std.ExtTreeMap.getD_insert]
  simp only [Std.LawfulEqOrd.compare_eq_iff_eq]
  split <;> rfl

/-!
## Operations that take away

Taking routes and consumers away keeps the wiring, as long as the queues of the routes that stay are
still there.
-/

theorem Wired.shrink {b after : Broker} (h : b.Wired)
    (hroutes : after.routes.Sublist b.routes) (hexchanges : after.exchanges = b.exchanges)
    (hqueues : ∀ r ∈ after.routes, r.queue ∈ after.queues) (hopened : after.opened = b.opened)
    (hmembers : ∀ name, (after.members name).Sublist (b.members name)) : after.Wired where
  routes_nodup := h.routes_nodup.sublist hroutes
  exchange_mem := by
    intro r hr
    rw [hexchanges]
    exact h.exchange_mem r (hroutes.subset hr)
  queue_mem := hqueues
  opened := by
    intro name id hid
    rw [hopened]
    exact h.opened name id ((hmembers name).subset hid)
  members_nodup := fun name => (h.members_nodup name).sublist (hmembers name)
  apart := fun hid hother => h.apart ((hmembers _).subset hid) ((hmembers _).subset hother)

theorem Wired.congr {b after : Broker} (h : b.Wired) (hroutes : after.routes = b.routes)
    (hexchanges : after.exchanges = b.exchanges) (hqueues : after.queues = b.queues)
    (hopened : after.opened = b.opened) : after.Wired := by
  have hmembers : after.members = b.members := by
    unfold members
    rw [hqueues]
  apply h.shrink (hroutes ▸ List.Sublist.refl _) hexchanges _ hopened
  · intro name
    rw [hmembers]
  · intro r hr
    rw [hroutes] at hr
    rw [hqueues]
    exact h.queue_mem r hr

theorem offer_eq (b : Broker) (id : ConsumerId) (m : Message) :
    ∃ consumers, b.offer id m = { b with consumers } := by
  unfold offer
  split
  · split
    · exact ⟨_, rfl⟩
    · exact ⟨b.consumers, rfl⟩
  · exact ⟨b.consumers, rfl⟩

/-- What a queue that is there does with a message: one of the consumers that are read is offered
it, or nobody reads the queue. -/
theorem deliver_cases {b : Broker} {name : String} {q : Queue} (hq : b.queues[name]? = some q)
    (m : Message) :
    (∃ before id after, q.consumers.filter b.isLive = before ++ id :: after ∧
      b.deliver name m = ({ b with queues := b.queues.insert name { q with
        consumers := before ++ id :: after, rotation := q.rotation + 1 } } : Broker).offer id m) ∨
    q.consumers.filter b.isLive = [] ∧
      b.deliver name m = { b with queues := b.queues.insert name { q with
        consumers := [], backlog := if q.exclusive then q.backlog else keep q.backlog m } } := by
  unfold deliver
  rw [hq]
  dsimp only
  split
  next id hturn =>
    rcases List.append_of_mem (List.mem_of_getElem? hturn) with ⟨before, after, hlive⟩
    refine Or.inl ⟨before, id, after, hlive, ?_⟩
    rw [hlive]
  next hnobody =>
    have hlive : q.consumers.filter b.isLive = [] := by
      apply List.eq_nil_of_length_eq_zero
      have hpast := List.getElem?_eq_none_iff.mp hnobody
      rcases Nat.eq_zero_or_pos (q.consumers.filter b.isLive).length with hzero | hpos
      · exact hzero
      · exact absurd (Nat.mod_lt _ hpos) (Nat.not_lt.mpr hpast)
    refine Or.inr ⟨hlive, ?_⟩
    rw [hlive]

theorem deliver_of_none {b : Broker} {name : String} (hq : b.queues[name]? = none) (m : Message) :
    b.deliver name m = b := by
  unfold deliver
  rw [hq]

/-- Handing a message to a queue changes the consumers of the queue at most by taking out those that
nobody reads. -/
theorem deliver_eq {b : Broker} {name : String} {q : Queue} (hq : b.queues[name]? = some q)
    (m : Message) :
    ∃ after consumers, after.consumers = q.consumers.filter b.isLive ∧
      b.deliver name m = { b with queues := b.queues.insert name after, consumers } := by
  rcases deliver_cases hq m with ⟨before, id, after, hlive, hdeliver⟩ | ⟨hlive, hdeliver⟩
  · rw [hdeliver, hlive]
    rcases offer_eq { b with queues := b.queues.insert name { q with
      consumers := before ++ id :: after, rotation := q.rotation + 1 } } id m with
      ⟨consumers, hoffer⟩
    exact ⟨_, consumers, rfl, hoffer⟩
  · rw [hdeliver, hlive]
    exact ⟨_, b.consumers, rfl, rfl⟩

theorem Wired.deliver {b : Broker} (h : b.Wired) (name : String) (m : Message) :
    (b.deliver name m).Wired := by
  cases hq : b.queues[name]? with
  | none =>
      rw [deliver_of_none hq]
      exact h
  | some q =>
      rcases deliver_eq hq m with ⟨after, consumers, hconsumers, heq⟩
      rw [heq]
      let delivered : Broker := { b with queues := b.queues.insert name after, consumers }
      show delivered.Wired
      refine h.shrink (List.Sublist.refl _) rfl ?_ rfl ?_
      · intro r hr
        exact Std.ExtTreeMap.mem_insert.mpr (Or.inr (h.queue_mem r hr))
      · intro other
        have hinsert : delivered.members other =
            if name = other then after.consumers else b.members other :=
          members_insert b name other after
        rw [hinsert]
        split
        next hother =>
          rw [← hother, hconsumers, members_of_getElem? hq]
          exact List.filter_sublist
        next => exact List.Sublist.refl _

theorem Wired.deliverAll {b : Broker} (h : b.Wired) (exchange key : String) (frame : Wire.Bytes)
    (names : List String) : (b.deliverAll exchange key frame names).1.Wired := by
  induction names generalizing b with
  | nil => exact h
  | cons name names ih =>
      unfold Broker.deliverAll
      split
      · exact h
      · exact ih (h.deliver name _)

theorem Wired.publish {b : Broker} (h : b.Wired) (m : Message) : (b.publish m).1.Wired := by
  unfold Broker.publish
  split
  · exact h
  · split
    · exact h
    · exact h.deliverAll _ _ _ _

theorem Wired.take {b : Broker} (h : b.Wired) (id : ConsumerId) : (b.take id).1.Wired := by
  unfold Broker.take
  split
  · exact h
  · split
    · exact h
    · exact h.congr rfl rfl rfl rfl

theorem members_cancelAll (b : Broker) (name : String) : b.cancelAll.members name = [] := by
  unfold cancelAll members
  rw [Std.ExtTreeMap.getD_eq_getD_getElem?, Std.ExtTreeMap.getElem?_map]
  cases (b.queues.filter fun _ q => !q.exclusive)[name]? <;> rfl

theorem Wired.cancelAll {b : Broker} (h : b.Wired) : b.cancelAll.Wired := by
  show b.cancelAll.Wired
  refine h.shrink List.filter_sublist rfl ?_ rfl ?_
  · intro r hr
    rcases List.mem_filter.mp hr with ⟨hroute, hshared⟩
    have hmem := h.queue_mem r hroute
    rcases exists_lookup_of_mem hmem with ⟨q, hq⟩
    rw [Std.ExtTreeMap.mem_iff_isSome_getElem?]
    have hq' : q.exclusive = false := by simpa [hq] using hshared
    unfold Broker.cancelAll
    rw [Std.ExtTreeMap.getElem?_map, Std.ExtTreeMap.getElem?_filter', hq]
    simp [hq']
  · intro name
    rw [members_cancelAll]
    exact List.nil_sublist _

/-! ## Opening a consumer -/

theorem addRoutes_cons (routes : List Route) (exchange queue key : String) (keys : List String) :
    addRoutes routes exchange queue (key :: keys) =
      addRoutes (if ⟨exchange, key, queue⟩ ∈ routes then routes
        else routes ++ [⟨exchange, key, queue⟩]) exchange queue keys := rfl

theorem nodup_addRoutes {routes : List Route} (h : routes.Nodup) (exchange queue : String)
    (keys : List String) : (addRoutes routes exchange queue keys).Nodup := by
  induction keys generalizing routes with
  | nil => exact h
  | cons key keys ih =>
      rw [addRoutes_cons]
      apply ih
      split
      next => exact h
      next hnew =>
        rw [← List.concat_eq_append]
        exact h.concat hnew

theorem mem_addRoutes_iff {routes : List Route} {exchange queue : String} {keys : List String}
    {r : Route} : r ∈ addRoutes routes exchange queue keys ↔
      r ∈ routes ∨ r.exchange = exchange ∧ r.queue = queue ∧ r.key ∈ keys := by
  induction keys generalizing routes with
  | nil => simp [addRoutes]
  | cons key keys ih =>
      have hfirst : r ∈ (if ⟨exchange, key, queue⟩ ∈ routes then routes
          else routes ++ [⟨exchange, key, queue⟩]) ↔ r ∈ routes ∨ r = ⟨exchange, key, queue⟩ := by
        split
        next hdeclared =>
          constructor
          · exact Or.inl
          · rintro (hr | hr)
            · exact hr
            · exact hr ▸ hdeclared
        next => rw [List.mem_append, List.mem_singleton]
      have hroute : r = ⟨exchange, key, queue⟩ ↔
          r.exchange = exchange ∧ r.queue = queue ∧ r.key = key := by
        cases r
        simp only [Route.mk.injEq]
        exact and_congr_right fun _ => and_comm
      rw [addRoutes_cons, ih, hfirst, hroute, or_assoc, ← and_or_left, ← and_or_left,
        List.mem_cons]

theorem members_attach (b : Broker) (name other : String) (exclusive : Bool) :
    (b.attach name exclusive).1.members other =
      if name = other then b.members name ++ [b.opened] else b.members other :=
  members_insert b name other _

/-- Every consumer of a queue after `attach` is the new one or was there before. -/
theorem mem_members_attach {b : Broker} {name other : String} {exclusive : Bool} {id : ConsumerId}
    (h : id ∈ (b.attach name exclusive).1.members other) :
    id ∈ b.members other ∨ id = b.opened ∧ name = other := by
  rw [members_attach] at h
  split at h
  next heq =>
    rcases List.mem_append.mp h with hold | hnew
    · exact Or.inl (heq ▸ hold)
    · exact Or.inr ⟨List.mem_singleton.mp hnew, heq⟩
  next => exact Or.inl h

/-- Attaching a consumer keeps the wiring, also where routes to its queue were added just before,
when the queue may not have been there yet. -/
theorem Wired.attach {b : Broker} (h : b.Wired) {routes : List Route} {name : String}
    (exclusive : Bool) (hnodup : routes.Nodup)
    (hroutes : ∀ r ∈ routes, r ∈ b.routes ∨ r.exchange ∈ b.exchanges ∧ r.queue = name) :
    (({ b with routes } : Broker).attach name exclusive).1.Wired := by
  have hnew : ∀ name, b.opened ∉ b.members name :=
    fun name hid => Nat.lt_irrefl _ (h.opened name _ hid)
  constructor
  · exact hnodup
  · intro r hr
    rcases hroutes r hr with hold | ⟨hexchange, _⟩
    · exact h.exchange_mem r hold
    · exact hexchange
  · intro r hr
    apply Std.ExtTreeMap.mem_insert.mpr
    rcases hroutes r hr with hold | ⟨_, hqueue⟩
    · exact Or.inr (h.queue_mem r hold)
    · exact Or.inl (Std.LawfulEqOrd.compare_eq_iff_eq.mpr hqueue.symm)
  · intro other id hid
    rcases mem_members_attach hid with hold | ⟨heq, _⟩
    · exact Nat.lt_succ_of_lt (h.opened other id hold)
    · rw [heq]
      exact Nat.lt_succ_self _
  · intro other
    rw [members_attach]
    split
    · rw [← List.concat_eq_append]
      exact (h.members_nodup name).concat (hnew name)
    · exact h.members_nodup other
  · intro one other id hone hother
    rcases mem_members_attach hone with holdOne | ⟨heq, hnameOne⟩
    · rcases mem_members_attach hother with holdOther | ⟨heq, _⟩
      · exact h.apart holdOne holdOther
      · exact absurd (heq ▸ holdOne) (hnew one)
    · rcases mem_members_attach hother with holdOther | ⟨_, hnameOther⟩
      · exact absurd (heq ▸ holdOther) (hnew other)
      · exact hnameOne.symm.trans hnameOther

theorem chooseQueue_eq (b : Broker) (spec : QueueSpec) :
    ∃ namedQueues, (b.chooseQueue spec).1 = { b with namedQueues } := by
  cases spec with
  | named name durable => exact ⟨b.namedQueues, rfl⟩
  | exclusive => exact ⟨_, rfl⟩

theorem Wired.declare {b : Broker} (h : b.Wired) {binding : Binding}
    (hexchange : binding.exchange ∈ b.exchanges) : (b.declare binding).1.Wired := by
  rcases chooseQueue_eq b binding.queue with ⟨namedQueues, hchoose⟩
  have hnamed : (b.chooseQueue binding.queue).1.Wired := by
    rw [hchoose]
    exact h.congr rfl rfl rfl rfl
  apply hnamed.attach _ (nodup_addRoutes hnamed.routes_nodup _ _ _)
  intro r hr
  rcases mem_addRoutes_iff.mp hr with hold | ⟨hr, hqueue, _⟩
  · exact Or.inl hold
  · rw [hr, hchoose]
    exact Or.inr ⟨hexchange, hqueue⟩

theorem Wired.openConsumer {b : Broker} (h : b.Wired) (binding : Binding) :
    (b.openConsumer binding).1.Wired := by
  unfold Broker.openConsumer
  split
  · exact h
  · split
    next kind hkind =>
      split
      · apply h.declare
        exact mem_of_lookup hkind
      · exact h
    next =>
      apply Wired.declare
      · refine ⟨h.routes_nodup, ?_, h.queue_mem, h.opened, h.members_nodup, h.apart⟩
        intro r hr
        exact Std.ExtTreeMap.mem_insert.mpr (Or.inr (h.exchange_mem r hr))
      · exact Std.ExtTreeMap.mem_insert_self

/-! ## Runs -/

theorem Wired.perform {b : Broker} (h : b.Wired) (op : Op) : (b.perform op).Wired := by
  cases op with
  | openConsumer binding => exact h.openConsumer binding
  | publish m => exact h.publish m
  | take id => exact h.take id
  | close id => exact h.congr rfl rfl rfl rfl
  | cancelAll => exact h.cancelAll
  | setRefusing refusing => exact h.congr rfl rfl rfl rfl

theorem Wired.run {b : Broker} (h : b.Wired) (ops : List Op) : (b.run ops).Wired := by
  induction ops generalizing b with
  | nil => exact h
  | cons op ops ih => exact ih (h.perform op)

theorem wired_run (ops : List Op) : (({} : Broker).run ops).Wired := wired_empty.run ops

end Broker
end MetricGateway
