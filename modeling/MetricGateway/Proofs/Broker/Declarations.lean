import Mathlib.Data.List.Induction
import MetricGateway.Proofs.Broker.Privacy

/-!
# What is declared stays declared

An exchange is there from its first declaration on, under one kind.  A route is there from the
moment at which a binding declares it until all consumers are cancelled while its queue is
exclusive.  So a subscription to a named queue that is declared again finds its routes in place, and
the list of routes does not grow by reconnecting, however often that happens.

The broker takes a queue for exclusive that was last asked for as an exclusive one.  For a named
queue this cannot be, unless somebody chose a name that the broker makes.
-/

namespace MetricGateway
namespace Broker

/-- Whether a queue is there that goes when all consumers are cancelled. -/
def isExclusive (b : Broker) (name : String) : Bool := (b.queues[name]?).any (·.exclusive)

/-- An operation opens a consumer whose binding has a route. -/
def Declares (b : Broker) (op : Op) (r : Route) : Prop :=
  ∃ binding opened, op = .openConsumer binding ∧ (b.openConsumer binding).2 = .ok opened ∧
    r.exchange = binding.exchange ∧ r.queue = opened.1 ∧ r.key ∈ binding.keys

/-- An operation cancels all consumers while the queue of a route is exclusive. -/
def Withdraws (b : Broker) (op : Op) (r : Route) : Prop :=
  op = .cancelAll ∧ b.isExclusive r.queue = true

/-- Some operation of a run withdraws a route, and none declares it after that. -/
def Withdrawn (b : Broker) (ops : List Op) (r : Route) : Prop :=
  ∃ before op after, ops = before ++ op :: after ∧ (b.run before).Withdraws op r ∧
    ∀ earlier op' later, after = earlier ++ op' :: later →
      ¬(b.run (before ++ op :: earlier)).Declares op' r

/-- Declaring a subscription leaves the list of routes as it is. -/
def Neutral (b : Broker) (binding : Binding) : Prop :=
  (b.openConsumer binding).1.routes = b.routes

variable {b : Broker} {op : Op} {ops : List Op} {r : Route} {binding : Binding}

/-!
## Routes
-/

theorem addRoutes_of_mem {routes : List Route} {exchange queue : String} {keys : List String}
    (h : ∀ key ∈ keys, ⟨exchange, key, queue⟩ ∈ routes) :
    addRoutes routes exchange queue keys = routes := by
  induction keys with
  | nil => rfl
  | cons key keys ih =>
      rw [addRoutes_cons, if_pos (h key List.mem_cons_self)]
      exact ih fun other hother => h other (List.mem_cons_of_mem key hother)

theorem addRoutes_eq_self_iff {routes : List Route} {exchange queue : String}
    {keys : List String} : addRoutes routes exchange queue keys = routes ↔
      ∀ key ∈ keys, ⟨exchange, key, queue⟩ ∈ routes := by
  constructor
  · intro h key hkey
    rw [← h]
    exact mem_addRoutes_iff.mpr (Or.inr ⟨rfl, rfl, hkey⟩)
  · exact addRoutes_of_mem

/-- A consumer that is opened has its routes added, and nothing else happens to the routes. -/
theorem routes_openConsumer (b : Broker) (binding : Binding) :
    (∃ e, b.openConsumer binding = (b, .error e)) ∨
      (b.openConsumer binding).2 = .ok (b.queueName binding, b.opened) ∧
        (b.openConsumer binding).1.routes =
          addRoutes b.routes binding.exchange (b.queueName binding) binding.keys := by
  rcases openConsumer_cases b binding with hrefused | ⟨exchanges, namedQueues, _, _, _, heq⟩
  · exact Or.inl hrefused
  · right
    rw [heq]
    exact ⟨rfl, rfl⟩

theorem routes_of_opened (hopened : ∃ opened, (b.openConsumer binding).2 = .ok opened) :
    (b.openConsumer binding).1.routes =
      addRoutes b.routes binding.exchange (b.queueName binding) binding.keys := by
  rcases hopened with ⟨opened, hopened⟩
  rcases routes_openConsumer b binding with ⟨e, heq⟩ | ⟨_, hroutes⟩
  · rw [heq] at hopened
    cases hopened
  · exact hroutes

theorem mem_routes_openConsumer_iff :
    r ∈ (b.openConsumer binding).1.routes ↔
      r ∈ b.routes ∨ b.Declares (.openConsumer binding) r := by
  rcases routes_openConsumer b binding with ⟨e, heq⟩ | ⟨hopened, hroutes⟩
  · have hnone : ¬b.Declares (.openConsumer binding) r := by
      rintro ⟨_, _, hop, hok, _⟩
      cases hop
      rw [heq] at hok
      cases hok
    rw [heq]
    exact (or_iff_left hnone).symm
  · rw [hroutes, mem_addRoutes_iff]
    apply or_congr_right
    constructor
    · rintro ⟨hexchange, hqueue, hkey⟩
      exact ⟨binding, _, rfl, hopened, hexchange, hqueue, hkey⟩
    · rintro ⟨_, _, hop, hok, hexchange, hqueue, hkey⟩
      cases hop
      cases hopened.symm.trans hok
      exact ⟨hexchange, hqueue, hkey⟩

theorem mem_routes_cancelAll_iff :
    r ∈ b.cancelAll.routes ↔ r ∈ b.routes ∧ b.isExclusive r.queue = false := by
  unfold cancelAll isExclusive
  rw [List.mem_filter, Bool.not_eq_true']

theorem not_declares (h : ∀ binding, op ≠ .openConsumer binding) : ¬b.Declares op r := by
  rintro ⟨binding, _, hop, _⟩
  exact h binding hop

/-- After an operation the routes are there that were there and were not withdrawn, and those that
were declared. -/
theorem mem_routes_perform_iff (b : Broker) (op : Op) (r : Route) :
    r ∈ (b.perform op).routes ↔ r ∈ b.routes ∧ ¬b.Withdraws op r ∨ b.Declares op r := by
  have hkept : (b.perform op).routes = b.routes → op ≠ .cancelAll →
      (∀ binding, op ≠ .openConsumer binding) →
      (r ∈ (b.perform op).routes ↔ r ∈ b.routes ∧ ¬b.Withdraws op r ∨ b.Declares op r) := by
    intro hroutes hcancel hopen
    have hstays : ¬b.Withdraws op r := fun hwithdraws => hcancel hwithdraws.1
    rw [hroutes, or_iff_left (not_declares hopen)]
    exact (and_iff_left hstays).symm
  cases op with
  | openConsumer binding =>
      have hstays : ¬b.Withdraws (.openConsumer binding) r := fun hwithdraws => nomatch hwithdraws.1
      rw [and_iff_left hstays]
      exact mem_routes_openConsumer_iff
  | publish m =>
      apply hkept _ nofun nofun
      rcases (handsOut_publish b m).frame with ⟨_, _, heq⟩
      show (b.publish m).1.routes = b.routes
      rw [heq]
  | take id =>
      apply hkept _ nofun nofun
      rcases take_frame b id with ⟨_, heq⟩
      show (b.take id).1.routes = b.routes
      rw [heq]
  | close id => exact hkept rfl nofun nofun
  | cancelAll =>
      have hnone : ¬b.Declares .cancelAll r := not_declares nofun
      rw [or_iff_left hnone]
      show r ∈ b.cancelAll.routes ↔ _
      rw [mem_routes_cancelAll_iff]
      unfold Withdraws
      simp
  | setRefusing refusing => exact hkept rfl nofun nofun

/-! ## Runs -/

theorem run_concat (b : Broker) (ops : List Op) (op : Op) :
    b.run (ops ++ [op]) = (b.run ops).perform op := run_append b ops [op]

theorem exchanges_run {exchange : String} {kind : ExchangeKind}
    (h : b.exchanges[exchange]? = some kind) (ops : List Op) :
    (b.run ops).exchanges[exchange]? = some kind := by
  induction ops generalizing b with
  | nil => exact h
  | cons op ops ih => exact ih (exchanges_perform h op)

/-- Whatever is singled out in a list is its last element, or is there without that one. -/
theorem split_of_concat {α : Type} {before after all : List α} {x last : α}
    (h : all ++ [last] = before ++ x :: after) :
    all = before ∧ last = x ∧ after = [] ∨
      ∃ between, after = between ++ [last] ∧ all = before ++ x :: between := by
  rcases List.eq_nil_or_concat after with rfl | ⟨between, final, rfl⟩
  · rcases List.append_inj' h rfl with ⟨hall, hlast⟩
    exact Or.inl ⟨hall, List.singleton_inj.mp hlast, rfl⟩
  · rw [List.concat_eq_append, ← List.cons_append, ← List.append_assoc] at h
    rcases List.append_inj' h rfl with ⟨hall, hlast⟩
    rw [List.concat_eq_append, List.singleton_inj.mp hlast]
    exact Or.inr ⟨between, rfl, hall⟩

/-- The last operation withdraws a route, or it does not declare it and the route was withdrawn
before. -/
theorem withdrawn_concat : b.Withdrawn (ops ++ [op]) r ↔
    (b.run ops).Withdraws op r ∨ b.Withdrawn ops r ∧ ¬(b.run ops).Declares op r := by
  constructor
  · rintro ⟨before, withdrawal, after, heq, hwithdraws, hsince⟩
    rcases split_of_concat heq with ⟨rfl, rfl, _⟩ | ⟨between, rfl, rfl⟩
    · exact Or.inl hwithdraws
    · right
      constructor
      · refine ⟨before, withdrawal, between, rfl, hwithdraws, ?_⟩
        intro earlier op' later hbetween
        apply hsince earlier op' (later ++ [op])
        rw [hbetween, List.append_assoc, List.cons_append]
      · exact hsince between op [] rfl
  · rintro (hwithdraws | ⟨⟨before, withdrawal, after, rfl, hwithdraws, hsince⟩, hnot⟩)
    · refine ⟨ops, op, [], rfl, hwithdraws, ?_⟩
      intro earlier op' later hnone
      cases earlier <;> cases hnone
    · refine ⟨before, withdrawal, after ++ [op], ?_, hwithdraws, ?_⟩
      · rw [List.append_assoc, List.cons_append]
      · intro earlier op' later hafter
        rcases split_of_concat hafter with ⟨rfl, rfl, _⟩ | ⟨between, _, rfl⟩
        · exact hnot
        · exact hsince earlier op' between rfl

theorem mem_routes_run_iff (h : r ∈ b.routes) (ops : List Op) :
    r ∈ (b.run ops).routes ↔ ¬b.Withdrawn ops r := by
  induction ops using List.reverseRecOn with
  | nil =>
      refine iff_of_true h ?_
      rintro ⟨before, _, _, heq, _⟩
      cases before <;> cases heq
  | append_singleton ops op ih =>
      -- Only the last operation matters beside what was there before it, so the induction is from
      -- the end; it does not declare and withdraw at once.
      have hopposed : (b.run ops).Declares op r → ¬(b.run ops).Withdraws op r := by
        rintro ⟨_, _, rfl, _⟩ ⟨hop, _⟩
        cases hop
      rw [run_concat, mem_routes_perform_iff, ih, withdrawn_concat]
      tauto

/-! ## Cancelling all consumers -/

/-- What is left after all consumers were cancelled: no consumer is attached, no queue is exclusive
and no route leads to one; every other queue has its backlog and its routes as before. -/
structure Cleared (b after : Broker) : Prop where
  members : ∀ name, after.members name = []
  detached : ∀ {id : ConsumerId} {c : Consumer}, after.consumers[id]? = some c →
    c.attached = false
  shared : ∀ name, after.isExclusive name = false
  routes : ∀ r : Route, r ∈ after.routes ↔ r ∈ b.routes ∧ b.isExclusive r.queue = false
  order : after.routes.Sublist b.routes
  kept : ∀ {name : String}, name ∈ b.queues → b.isExclusive name = false →
    name ∈ after.queues ∧ after.waiting name = b.waiting name

/-- A queue that is not exclusive is as it was, but that it has lost its consumers. -/
theorem shared_of_isExclusive {name : String} (h : b.isExclusive name = false) :
    ∀ q, b.queues[name]? = some q → q.exclusive = false := by
  intro q hq
  unfold isExclusive at h
  rw [hq] at h
  exact h

theorem cleared_cancelAll (b : Broker) : b.Cleared b.cancelAll where
  members := members_cancelAll b
  detached := by
    intro id c hc
    unfold cancelAll at hc
    dsimp only at hc
    rw [Std.ExtTreeMap.getElem?_map] at hc
    rcases Option.map_eq_some_iff.mp hc with ⟨_, _, rfl⟩
    rfl
  shared := by
    intro name
    unfold isExclusive cancelAll
    dsimp only
    rw [Std.ExtTreeMap.getElem?_map, Std.ExtTreeMap.getElem?_filter']
    cases b.queues[name]? with
    | none => rfl
    | some q =>
        cases hflag : q.exclusive with
        | true => simp [Option.filter, hflag]
        | false => simp [Option.filter, hflag]
  routes := fun _ => mem_routes_cancelAll_iff
  order := List.filter_sublist
  kept := by
    intro name hname hshared
    have hflag := shared_of_isExclusive hshared
    exact ⟨(mem_queues_cancelAll hflag).mpr hname, waiting_cancelAll hflag⟩

/-! ## Declaring again -/

/-- A subscription that was declared once is refused only while the broker accepts no
connections. -/
theorem openConsumer_again (hopened : ∃ opened, (b.openConsumer binding).2 = .ok opened)
    {ops : List Op} (haccepting : (((b.openConsumer binding).1).run ops).refusing = false) :
    ∃ opened, ((((b.openConsumer binding).1).run ops).openConsumer binding).2 = .ok opened := by
  have hkind : (b.openConsumer binding).1.exchanges[binding.exchange]? = some binding.kind := by
    rcases hopened with ⟨opened, hopened⟩
    rcases openConsumer_cases b binding with ⟨e, heq⟩ | ⟨exchanges, _, _, hkind, _, heq⟩
    · rw [heq] at hopened
      cases hopened
    · rw [heq]
      exact hkind
  rw [openConsumer_ok_iff]
  refine ⟨haccepting, ?_⟩
  intro kind hdeclared
  exact Option.some.inj (hdeclared.symm.trans (exchanges_run hkind ops))

/-- A subscription to a named queue that is declared again finds exactly those of its routes that
were not withdrawn since; so it is neutral if none was. -/
theorem neutral_again_iff {name : String} {durable : Bool}
    (hnamed : binding.queue = .named name durable)
    (hopened : ∃ opened, (b.openConsumer binding).2 = .ok opened) (ops : List Op) :
    let declared := (b.openConsumer binding).1
    (declared.run ops).Neutral binding ↔ (declared.run ops).refusing = true ∨
      ∀ key ∈ binding.keys, ¬declared.Withdrawn ops ⟨binding.exchange, key, name⟩ := by
  intro declared
  have hname : ∀ b : Broker, b.queueName binding = name := by
    intro b
    unfold queueName
    rw [hnamed]
    rfl
  cases hrefusing : (declared.run ops).refusing with
  | true =>
      refine iff_of_true ?_ (Or.inl rfl)
      unfold Neutral openConsumer
      rw [if_pos hrefusing]
  | false =>
      have hroutes := routes_of_opened (openConsumer_again hopened hrefusing)
      have hfirst := routes_of_opened hopened
      rw [hname] at hroutes hfirst
      have hthere : ∀ key ∈ binding.keys,
          (⟨binding.exchange, key, name⟩ : Route) ∈ declared.routes := by
        intro key hkey
        show _ ∈ (b.openConsumer binding).1.routes
        rw [hfirst]
        exact mem_addRoutes_iff.mpr (Or.inr ⟨rfl, rfl, hkey⟩)
      unfold Neutral
      rw [hroutes, addRoutes_eq_self_iff]
      constructor
      · intro hroutes
        right
        exact fun key hkey => (mem_routes_run_iff (hthere key hkey) ops).mp (hroutes key hkey)
      · rintro (htrue | hstayed)
        · cases htrue
        · exact fun key hkey => (mem_routes_run_iff (hthere key hkey) ops).mpr (hstayed key hkey)

/-!
## Names that the broker does not make

As long as nobody asks by name for a queue that the broker could have made, the queues that were
asked for by name are the ones that are not exclusive.
-/

namespace Watched

variable {w : Watched}

theorem Orderly.run (h : w.Orderly) (hunclaimed : w.Unclaimed) (hplain : ∀ op ∈ ops, Plain op) :
    (w.run ops).Orderly ∧ (w.run ops).Unclaimed := by
  induction ops generalizing w with
  | nil => exact ⟨h, hunclaimed⟩
  | cons op ops ih =>
      have hfirst := hplain op List.mem_cons_self
      exact ih (h.perform (h.apart_of_plain hunclaimed hfirst)) (hunclaimed.perform hfirst)
        fun op' hop' => hplain op' (List.mem_cons_of_mem op hop')

theorem Orderly.asked_perform (h : w.Orderly) {c : ConsumerId} {spec : QueueSpec}
    (hasked : w.asked c = some spec) (op : Op) : (w.perform op).asked c = some spec := by
  rcases w.broker.perform_queues op with ⟨o, ho, hopens⟩ | ⟨hnone, _⟩
  · rw [asked_of_lt ho hopens (h.asked_lt hasked)]
    exact hasked
  · rw [asked_of_none hnone]
    exact hasked

theorem Orderly.asked_run (h : w.Orderly) (hunclaimed : w.Unclaimed)
    (hplain : ∀ op ∈ ops, Plain op) {c : ConsumerId} {spec : QueueSpec}
    (hasked : w.asked c = some spec) : (w.run ops).asked c = some spec := by
  induction ops generalizing w with
  | nil => exact hasked
  | cons op ops ih =>
      have hfirst := hplain op List.mem_cons_self
      exact ih (h.perform (h.apart_of_plain hunclaimed hfirst)) (hunclaimed.perform hfirst)
        (fun op' hop' => hplain op' (List.mem_cons_of_mem op hop')) (h.asked_perform hasked op)

theorem Orderly.isExclusive_of_asked (h : w.Orderly) {c : ConsumerId} {name : String}
    {durable : Bool} (hasked : w.asked c = some (.named name durable)) :
    w.broker.isExclusive name = false := by
  rcases (h.asked_for name).mpr ⟨c, durable, hasked⟩ with ⟨hmem, hnobody⟩
  rcases exists_lookup_of_mem hmem with ⟨q, hq⟩
  unfold isExclusive
  rw [hq]
  exact h.shared hnobody q hq

theorem asked_openConsumer (hopened : ∃ opened, (w.broker.openConsumer binding).2 = .ok opened) :
    ∃ c, (w.perform (.openConsumer binding)).asked c = some binding.queue := by
  rcases w.broker.openConsumer_opens binding with ⟨o, ho, hopens⟩ | ⟨hnone, _⟩
  · exists w.broker.opened
    rw [asked_of_opens ho hopens, if_pos rfl]
    rw [opening?_openConsumer] at ho
    split at ho
    · cases ho
      rfl
    · cases ho
  · rcases hopened with ⟨opened, hopened⟩
    rw [opening?_openConsumer, hopened] at hnone
    cases hnone

theorem Orderly.not_withdrawn (h : w.Orderly) (hunclaimed : w.Unclaimed)
    (hplain : ∀ op ∈ ops, Plain op) {c : ConsumerId} {durable : Bool}
    (hasked : w.asked c = some (.named r.queue durable)) : ¬w.broker.Withdrawn ops r := by
  rintro ⟨before, op, after, rfl, ⟨_, hexclusive⟩, _⟩
  have hbefore : ∀ op ∈ before, Plain op := fun op hop => hplain op (List.mem_append_left _ hop)
  have hlater := h.asked_run hunclaimed hbefore hasked
  have hshared := (h.run hunclaimed hbefore).1.isExclusive_of_asked hlater
  rw [broker_run, hexclusive] at hshared
  cases hshared

theorem not_withdrawn_of_plain {more : List Op} {name : String} {durable : Bool}
    (hnamed : binding.queue = .named name durable)
    (hopened : ∃ opened, ((({} : Broker).run ops).openConsumer binding).2 = .ok opened)
    (hplain : ∀ op ∈ ops ++ .openConsumer binding :: more, Plain op) (hr : r.queue = name) :
    ¬((({} : Broker).run ops).openConsumer binding).1.Withdrawn more r := by
  have hwatched : (({} : Watched).run ops).broker = ({} : Broker).run ops := broker_run {} ops
  rw [← hwatched] at hopened ⊢
  rcases List.forall_mem_append.mp hplain with ⟨hearlier, hlater⟩
  rcases List.forall_mem_cons.mp hlater with ⟨hnow, hmore⟩
  rcases orderly_empty.run (fun _ _ _ => nofun) hearlier with ⟨horderly, hunclaimed⟩
  rcases asked_openConsumer hopened with ⟨c, hasked⟩
  rw [hnamed, ← hr] at hasked
  exact (horderly.perform (horderly.apart_of_plain hunclaimed hnow)).not_withdrawn
    (hunclaimed.perform hnow) hmore hasked

end Watched

/-! ## Every state -/

/-- In every state that the broker can reach, each route is listed once, and its exchange and its
queue are there; an exchange keeps its kind from then on; and cancelling all consumers leaves no
consumer, no exclusive queue and no route to one, and takes nothing from the other queues.
Whatever happens after a subscription to a named queue was declared, declaring it again leaves the
list of routes as it is exactly if none of its routes was withdrawn since, or nothing can be
declared at all; and none was withdrawn as long as nobody chooses a name that the broker makes. -/
theorem declarations_last (ops : List Op) :
    let b := ({} : Broker).run ops
    b.routes.Nodup ∧ (∀ r ∈ b.routes, r.exchange ∈ b.exchanges ∧ r.queue ∈ b.queues) ∧
      (∀ (more : List Op) (exchange : String) (kind : ExchangeKind),
        b.exchanges[exchange]? = some kind → (b.run more).exchanges[exchange]? = some kind) ∧
      b.Cleared b.cancelAll ∧
      ∀ binding name durable, binding.queue = .named name durable →
        (∃ opened, (b.openConsumer binding).2 = .ok opened) →
        let declared := (b.openConsumer binding).1
        ∀ more, ((declared.run more).Neutral binding ↔ (declared.run more).refusing = true ∨
            ∀ key ∈ binding.keys, ¬declared.Withdrawn more ⟨binding.exchange, key, name⟩) ∧
          ((∀ op ∈ ops ++ .openConsumer binding :: more, Watched.Plain op) →
            (declared.run more).Neutral binding) := by
  intro b
  have hwired := wired_run ops
  refine ⟨hwired.routes_nodup, fun r hr => ⟨hwired.exchange_mem r hr, hwired.queue_mem r hr⟩,
    fun more exchange kind hkind => exchanges_run hkind more, b.cleared_cancelAll, ?_⟩
  intro binding name durable hnamed hopened declared more
  have hiff := neutral_again_iff hnamed hopened more
  refine ⟨hiff, fun hplain => hiff.mpr (Or.inr ?_)⟩
  exact fun key _ => Watched.not_withdrawn_of_plain hnamed hopened hplain rfl

/-- Replies are subscribed to, broadcasts come and go, all consumers are cancelled twice, and the
subscription is declared again. -/
theorem declarations_last_replies :
    let replies : Binding := .direct "reply" "replies" "rts"
    let more : List Op := [.cancelAll, .openConsumer (.fanout "events"), .cancelAll]
    let b := (({} : Broker).openConsumer replies).1.run more
    b.Neutral replies ∧ b.routes = [⟨"reply", "rts", "replies"⟩] ∧ b.Cleared b.cancelAll := by
  intro replies more b
  have hopened : ∃ opened, (({} : Broker).openConsumer replies).2 = .ok opened := ⟨_, rfl⟩
  have hplain : ∀ op ∈ [] ++ .openConsumer replies :: more, Watched.Plain op := by
    have hname : ∀ n, "replies" ≠ madeName n := by
      intro n heq
      have hfirst := congrArg (fun name => name.toList.head?) heq
      simp [madeName] at hfirst
    intro op hop
    simp only [more, List.nil_append, List.mem_cons, List.not_mem_nil, or_false] at hop
    rcases hop with rfl | rfl | rfl | rfl
    · intro n durable hnamed
      exact hname n (QueueSpec.named.inj hnamed).1
    · trivial
    · intro n durable hnamed
      cases hnamed
    · trivial
  have hdeclared := (declarations_last []).2.2.2.2 replies "replies" true rfl hopened more
  refine ⟨hdeclared.2 hplain, by decide +kernel, ?_⟩
  exact (declarations_last (.openConsumer replies :: more)).2.2.2.1

/-- A named queue whose name the broker makes for a subscriber to broadcasts is deleted with its
route when all consumers are cancelled.  A message for it is lost, and declaring the subscription
again makes the list of routes grow. -/
theorem chosen_name_loses_route :
    let chosen : Binding := .direct "x" "amq.gen-1" "k"
    let declared := ({} : Broker).run [.openConsumer chosen, .openConsumer (.fanout "events")]
    let b := declared.cancelAll
    declared.routes = [⟨"x", "k", "amq.gen-1"⟩, ⟨"events", "", "amq.gen-1"⟩] ∧ b.routes = [] ∧
      (b.publish ⟨"x", "k", { msgType := "1" }⟩).1.waiting "amq.gen-1" = [] ∧
      (b.openConsumer chosen).1.routes = [⟨"x", "k", "amq.gen-1"⟩] ∧ ¬b.Neutral chosen := by
  intro chosen declared b
  have hgrown : (b.openConsumer chosen).1.routes = [⟨"x", "k", "amq.gen-1"⟩] := by decide +kernel
  have hnone : b.routes = [] := by decide +kernel
  refine ⟨by decide +kernel, hnone, by decide +kernel, hgrown, ?_⟩
  intro hneutral
  have hlists := hgrown.symm.trans (hneutral.trans hnone)
  cases hlists

end Broker
end MetricGateway
