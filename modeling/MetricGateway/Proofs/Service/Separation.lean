import MetricGateway.Environment
import MetricGateway.Proofs.Answering.Setup
import MetricGateway.Proofs.Channel.Sources
import MetricGateway.Proofs.Fetching.Polled
import MetricGateway.Proofs.Service.Runs

/-!
# Two ways of replies

An instance takes the replies to its own fetches from a queue of its own, under its reply key, and
the replies to background polls from a shared queue, under the shared key.  Both queues are bound to
one exchange.  In every run of a service each of the two inlets receives only what was published
under its own key, as long as others who declare one of the queues declare it as the service does.

So the two ways are separate exactly if the reply key is not the shared key.  The reply key is the
identity of the instance, which the environment may set to any text.
-/

namespace MetricGateway

open Broker (DirectQueue)
open Channel (SubscriptionId)

namespace Service

/-! ## The queues of replies -/

def repliesQueue (settings : ServiceSettings) : DirectQueue where
  exchange := settings.topology.responseExchange
  name := settings.topology.replyQueue settings.service
  durable := true
  keys := [settings.resolver.replyKey]

def pollsQueue (settings : ServiceSettings) : DirectQueue where
  exchange := settings.topology.responseExchange
  name := settings.topology.pollReplyQueue
  durable := true
  keys := [settings.topology.pollReplyKey]

def replyQueues (settings : ServiceSettings) : List DirectQueue :=
  [repliesQueue settings, pollsQueue settings]

/-- Others who declare a queue of replies declare it as the service does. -/
def Act.Spares (settings : ServiceSettings) : Act → Prop
  | .other op => ∀ q ∈ replyQueues settings, q.Permits op
  | .join binding _ => ∀ q ∈ replyQueues settings, q.Admits binding
  | _ => True

/-! ## What a service upholds -/

/-- The resolver asks for replies under the keys of the settings, the inlets read the subscriptions
that were made for them, and the queues of replies are fenced. -/
structure Upholds (s : Service) (settings : ServiceSettings) : Prop where
  setup : s.resolver.setup = (settings.routes, settings.resolver, settings.topology)
  pollKey : s.resolver.polling.replyKey = settings.topology.pollReplyKey
  inlets : ∀ p ∈ s.inlets, s.channels.binding? p.2 = some (p.1.binding settings)
  fenced : ∀ q ∈ replyQueues settings, s.link.Fenced q

variable {s s' : Service} {settings : ServiceSettings}

theorem Upholds.resolved (h : s.Upholds settings) {r : Resolver}
    (hsetup : r.setup = s.resolver.setup) (hleads : s.resolver.polling.LeadsTo r.polling) :
    ({ s with resolver := r } : Service).Upholds settings where
  setup := hsetup.trans h.setup
  pollKey := hleads.replyKey_eq.trans h.pollKey
  inlets := h.inlets
  fenced := fun q hq => (h.fenced q hq).same rfl rfl

theorem Upholds.resolver (h : s.Upholds settings) (a : Fetching.Act) :
    ({ s with resolver := Fetching.actOn s.resolver a } : Service).Upholds settings :=
  h.resolved (Fetching.setup_actOn s.resolver a) (Pulling.Polling.leadsTo_actOn s.resolver a)

theorem Upholds.onCommon (h : s.Upholds settings) (f : Commons → Commons) :
    (s.onCommon f).Upholds settings :=
  h.resolved rfl ⟨[.share f], rfl⟩

/-- The subscriptions keep their bindings, and the queues of replies stay fenced. -/
theorem Upholds.relink (h : s.Upholds settings) {l : Link}
    (hbinding : l.channels.binding? = s.channels.binding?)
    (hfenced : ∀ q ∈ replyQueues settings, l.Fenced q) : (s.withLink l).Upholds settings where
  setup := h.setup
  pollKey := h.pollKey
  inlets := by
    intro p hp
    show l.channels.binding? p.2 = _
    rw [hbinding]
    exact h.inlets p hp
  fenced := hfenced

theorem Upholds.same (h : s.Upholds settings) (hresolver : s'.resolver = s.resolver)
    (hinlets : s'.inlets ⊆ s.inlets) (hchannels : s'.channels = s.channels)
    (hbroker : s'.broker = s.broker) : s'.Upholds settings where
  setup := by
    rw [hresolver]
    exact h.setup
  pollKey := by
    rw [hresolver]
    exact h.pollKey
  inlets := by
    intro p hp
    rw [hchannels]
    exact h.inlets p (hinlets hp)
  fenced := fun q hq => (h.fenced q hq).same hbroker (congrArg Channels.subscriptions hchannels)

/-! ## Inlets -/

theorem Upholds.receive (h : s.Upholds settings) (id : SubscriptionId) :
    ({ s with channels := (s.channels.receive id).1 } : Service).Upholds settings where
  setup := h.setup
  pollKey := h.pollKey
  inlets := by
    intro p hp
    show (s.channels.receive id).1.binding? p.2 = _
    rw [Channels.binding?_receive]
    exact h.inlets p hp
  fenced := fun q hq => ((h.fenced q hq).receive id).same rfl rfl

theorem Upholds.closeInlet (h : s.Upholds settings) (i : Inlet) :
    (s.closeInlet i).Upholds settings := by
  unfold Service.closeInlet
  cases s.inlets.lookup i with
  | none => exact h
  | some id =>
      constructor
      · exact h.setup
      · exact h.pollKey
      · intro p hp
        show (s.channels.unsubscribe id).binding? p.2 = _
        rw [Channels.binding?_unsubscribe]
        exact h.inlets p (List.mem_of_mem_filter hp)
      · exact fun q hq => ((h.fenced q hq).unsubscribe id).same rfl rfl

/-! ## Steps -/

theorem stable_upholds (settings : ServiceSettings) : Stable (Upholds · settings) where
  resolved := fun a h => h.resolver a
  counted := fun f h => h.onCommon (·.count f)
  received := fun id h => h.receive id
  closed := fun h => h.closeInlet .polls
  moved := fun _ _ _ h => h.same rfl (List.Subset.refl _) rfl rfl

theorem Upholds.step (h : s.Upholds settings) (t : Task) (preference : Preference) :
    (s.step t preference).Upholds settings := by
  have hinner := fun hinner => (stable_upholds settings).step h (t := t) hinner preference
  cases t with
  | network t =>
      apply h.relink
      · exact Link.binding?_step s.link t preference
      · exact fun q hq => (h.fenced q hq).step t preference
  | inlet i => exact hinner nofun
  | handler => exact hinner nofun
  | resolver a => exact hinner nofun

theorem Upholds.perform (h : s.Upholds settings) {a : Act} (hspares : a.Spares settings) :
    (s.perform a).Upholds settings := by
  cases a with
  | task t preference => exact h.step t preference
  | resolver a => exact h.resolver a
  | other op =>
      refine ⟨h.setup, h.pollKey, h.inlets, ?_⟩
      exact fun q hq => (h.fenced q hq).performed rfl (hspares q hq) rfl
  | join binding role =>
      apply h.relink
      · unfold Channels.binding?
        rw [(Link.unmoved_join s.link binding role).subscriptions]
        rfl
      · exact fun q hq => (h.fenced q hq).join (hspares q hq) role
  | shutdown =>
      have hstopped := h.resolver (.polling .shutdown)
      exact ⟨hstopped.setup, hstopped.pollKey, h.inlets,
        fun q hq => (h.fenced q hq).same rfl rfl⟩

theorem Upholds.run (h : s.Upholds settings) {acts : List Act}
    (hspares : ∀ a ∈ acts, a.Spares settings) : (s.run acts).Upholds settings := by
  induction acts generalizing s with
  | nil => exact h
  | cons a acts ih =>
      have hnext := h.perform (hspares a List.mem_cons_self)
      exact ih hnext fun b hb => hspares b (List.mem_cons_of_mem a hb)

/-- A message that an inlet of replies takes was published under the key of its queue. -/
theorem Upholds.matches_next? (h : s.Upholds settings) {q : DirectQueue}
    (hq : q ∈ replyQueues settings) {i : Inlet} (hbinding : i.binding settings = q.binding)
    {m : Message} (hm : s.next? i = some m) : q.Matches m := by
  unfold next? at hm
  cases hid : s.inlets.lookup i with
  | none =>
      rw [hid] at hm
      cases hm
  | some id =>
      rw [hid] at hm
      rcases List.lookup_eq_some_iff.mp hid with ⟨before, after, heq, _⟩
      have hinlet : (i, id) ∈ s.inlets := heq ▸ List.mem_append_right before List.mem_cons_self
      have hread : s.channels.binding? id = some q.binding :=
        (h.inlets _ hinlet).trans (congrArg some hbinding)
      exact (h.fenced q hq).matches_of_receive hread hm

/-! ## A service that has just started -/

/-- The inlets are being opened; numbers of subscriptions are given out once. -/
structure Opens (s : Service) (settings : ServiceSettings) : Prop where
  upholds : s.Upholds settings
  configured : s.settings = settings
  unmade : ∀ id, s.channels.made ≤ id → s.channels.binding? id = none

theorem Opens.openInlet (h : s.Opens settings) {i : Inlet}
    (hadmits : ∀ q ∈ replyQueues settings, q.Admits (i.binding settings)) :
    (s.openInlet i).Opens settings := by
  have hbinding : (s.openInlet i).channels.binding? = fun id =>
      if s.channels.made = id then some (i.binding settings) else s.channels.binding? id := by
    funext id
    rw [← h.configured]
    exact Channels.binding?_listen s.channels _ id
  have hnew : s.channels.binding? s.channels.made = none := h.unmade _ (Nat.le_refl _)
  constructor
  · refine ⟨h.upholds.setup, h.upholds.pollKey, ?_, ?_⟩
    · intro p hp
      rw [hbinding]
      dsimp only
      rcases List.mem_append.mp hp with hold | hlast
      · have hread := h.upholds.inlets p hold
        have hne : s.channels.made ≠ p.2 := by
          intro heq
          rw [← heq, hnew] at hread
          cases hread
        rw [if_neg hne]
        exact hread
      · rw [List.mem_singleton.mp hlast]
        exact if_pos rfl
    · intro q hq
      have hfenced := (h.upholds.fenced q hq).listen (hadmits q hq)
      rw [← h.configured] at hfenced
      exact hfenced.same rfl rfl
  · exact h.configured
  · intro id hid
    have hmade : s.channels.made < id := hid
    rw [hbinding]
    dsimp only
    rw [if_neg (Nat.ne_of_lt hmade)]
    exact h.unmade id (Nat.le_of_lt hmade)

theorem Opens.foldl_openInlet (h : s.Opens settings) (inlets : List Inlet)
    (hadmits : ∀ i ∈ inlets, ∀ q ∈ replyQueues settings, q.Admits (i.binding settings)) :
    (inlets.foldl Service.openInlet s).Opens settings := by
  induction inlets generalizing s with
  | nil => exact h
  | cons i inlets ih =>
      have hopened := h.openInlet (hadmits i List.mem_cons_self)
      exact ih hopened fun j hj => hadmits j (List.mem_cons_of_mem i hj)

theorem Upholds.warmUp (h : s.Upholds settings) : s.warmUp.Upholds settings := by
  have hreloaded := h.resolved s.resolver.keeps_reload.setup
    (Pulling.Polling.leadsTo_reload s.resolver)
  unfold Service.warmUp
  split
  next hresult =>
    rw [hresult] at hreloaded
    exact hreloaded
  next hresult =>
    rw [hresult] at hreloaded
    exact hreloaded.onCommon _

theorem upholds_start (settings : ServiceSettings) (historyWriter : Bool) (site : Site)
    (collaborators : Collaborators)
    (hnamed : ∀ q ∈ replyQueues settings, ∀ n : Nat, q.name ≠ "amq.gen-" ++ toString n)
    (hadmits : ∀ (i : Inlet), ∀ q ∈ replyQueues settings, q.Admits (i.binding settings)) :
    (idle settings historyWriter { site, collaborators }).start.Upholds settings := by
  let opening : Service :=
    { (idle settings historyWriter { site, collaborators }).onCommon (·.registerParts) with
      channels := .start settings.channel }
  have hopening : opening.Opens settings := by
    refine ⟨⟨rfl, rfl, fun p hp => absurd hp List.not_mem_nil, ?_⟩, rfl, fun id _ => rfl⟩
    intro q hq
    constructor
    · exact Broker.fenced_empty (hnamed q hq)
    · intro id s hs
      cases hs
    · intro id s hs
      cases hs
  have hopened := hopening.foldl_openInlet Inlet.all fun i _ => hadmits i
  exact hopened.upholds.warmUp.onCommon _

/-! ## Services that are set up from the environment -/

theorem head?_replyQueue (service : String) :
    (({} : Topology).replyQueue service).toList.head? = some 'm' := by
  unfold Topology.replyQueue
  rw [String.toList_append, String.toList_append]
  rfl

theorem replyQueue_ne {service text : String} (h : text.toList.head? ≠ some 'm') :
    ({} : Topology).replyQueue service ≠ text := by
  intro heq
  rw [← heq, head?_replyQueue] at h
  exact h rfl

theorem replyQueue_ne_pollReplyQueue (service : String) :
    ({} : Topology).replyQueue service ≠ ({} : Topology).pollReplyQueue :=
  replyQueue_ne (by decide)

theorem replyQueue_ne_requestQueue (service : String) :
    ({} : Topology).replyQueue service ≠ ({} : Topology).requestQueue :=
  replyQueue_ne (by decide)

theorem requestQueue_ne_pollReplyQueue :
    ({} : Topology).requestQueue ≠ ({} : Topology).pollReplyQueue := by decide

/-- Every instance declares the queues of replies of every other instance as that one does. -/
theorem admits_inlet (e other : Environment) (i : Inlet) :
    ∀ q ∈ replyQueues e.settings, q.Admits (i.binding other.settings) := by
  intro q hq
  unfold replyQueues at hq
  rcases List.mem_pair.mp hq with rfl | rfl
  · cases i with
    | replies =>
        by_cases heq : other.service = e.service
        · have hsame : Inlet.replies.binding other.settings =
              (repliesQueue e.settings).binding := by
            unfold Environment.settings
            rw [heq]
            rfl
          rw [hsame]
          exact DirectQueue.admits_binding _
        · apply DirectQueue.admits_of_ne rfl
          intro hname
          exact heq ((String.append_right_inj _).mp hname)
    | polls => exact DirectQueue.admits_of_ne rfl (replyQueue_ne_pollReplyQueue e.service).symm
    | topic t => exact DirectQueue.admits_of_exclusive rfl
    | requests => exact DirectQueue.admits_of_ne rfl (replyQueue_ne_requestQueue e.service).symm
  · cases i with
    | replies => exact DirectQueue.admits_of_ne rfl (replyQueue_ne_pollReplyQueue other.service)
    | polls => exact DirectQueue.admits_binding _
    | topic t => exact DirectQueue.admits_of_exclusive rfl
    | requests => exact DirectQueue.admits_of_ne rfl requestQueue_ne_pollReplyQueue

theorem named_replyQueues (e : Environment) :
    ∀ q ∈ replyQueues e.settings, ∀ n : Nat, q.name ≠ "amq.gen-" ++ toString n := by
  intro q hq n heq
  have hhead : q.name.toList.head? = some 'a' := by
    rw [heq, String.toList_append]
    rfl
  unfold replyQueues at hq
  rcases List.mem_pair.mp hq with rfl | rfl
  · exact absurd ((head?_replyQueue e.service).symm.trans hhead) (by decide)
  · have hpolls : ({} : Topology).pollReplyQueue.toList.head? = some 'a' := hhead
    exact absurd hpolls (by decide)

/-- A fetch asks for its reply under a key that is not empty and not the key of background polls,
and neither of the two inlets takes a reply that was published for the other one. -/
structure Apart (s : Service) : Prop where
  fetches : ∀ request key correlation,
    (s.resolver.fetchMessage request key correlation).envelope.replyKey ≠ "" ∧
      (s.resolver.fetchMessage request key correlation).envelope.replyKey ≠
        s.resolver.topology.pollReplyKey
  polls : ∀ m, s.next? .polls = some m → ∀ request key correlation,
    m.key ≠ (s.resolver.fetchMessage request key correlation).envelope.replyKey
  replies : ∀ m, s.next? .replies = some m → ∀ request key correlation,
    m.key ≠ (s.resolver.polling.pollMessage key correlation request).envelope.replyKey

theorem Upholds.apart (h : s.Upholds settings) (hsome : settings.resolver.replyKey ≠ "")
    (hown : settings.resolver.replyKey ≠ settings.topology.pollReplyKey) : s.Apart := by
  have hfetch : ∀ request key correlation,
      (s.resolver.fetchMessage request key correlation).envelope.replyKey =
        settings.resolver.replyKey := by
    intro request key correlation
    exact congrArg (·.2.1.replyKey) h.setup
  have htopology : s.resolver.topology = settings.topology := congrArg (·.2.2) h.setup
  constructor
  · intro request key correlation
    rw [hfetch, htopology]
    exact ⟨hsome, hown⟩
  · intro m hm request key correlation
    have hmatches := h.matches_next? (q := pollsQueue settings)
      (List.mem_cons_of_mem _ List.mem_cons_self) rfl hm
    rw [hfetch, List.mem_singleton.mp hmatches.2]
    exact hown.symm
  · intro m hm request key correlation
    have hmatches := h.matches_next? (q := repliesQueue settings) List.mem_cons_self rfl hm
    have hpoll : (s.resolver.polling.pollMessage key correlation request).envelope.replyKey =
        settings.topology.pollReplyKey := h.pollKey
    rw [hpoll, List.mem_singleton.mp hmatches.2]
    exact hown

/-- Replies to fetches and replies to background polls stay apart in every run of a service that is
set up from an environment, exactly if the environment gives the instance an identity that is
neither empty nor the key of background polls. -/
theorem replies_apart_iff (vars : Environment.Variables) (suffix : String) (historyWriter : Bool)
    (site : Site) (collaborators : Collaborators) :
    let environment := Environment.load vars suffix
    let start := (idle environment.settings historyWriter { site, collaborators }).start
    (∀ acts, (∀ a ∈ acts, Act.Spares environment.settings a) → (start.run acts).Apart) ↔
      environment.service ≠ "" ∧
        environment.service ≠ environment.settings.topology.pollReplyKey := by
  intro environment start
  have hstart : start.Upholds environment.settings :=
    upholds_start _ historyWriter site collaborators (named_replyQueues environment)
      (admits_inlet environment environment)
  constructor
  · intro hapart
    have hbegins := hapart [] (fun _ ha => absurd ha List.not_mem_nil)
    have hkeys := hbegins.fetches ⟨0, .generic, 0, .int, 0⟩ "" ""
    have htopology : start.resolver.topology = environment.settings.topology :=
      congrArg (·.2.2) hstart.setup
    have hkey : start.resolver.settings.replyKey = environment.service :=
      congrArg (·.2.1.replyKey) hstart.setup
    have hasks : start.resolver.settings.replyKey ≠ "" ∧
        start.resolver.settings.replyKey ≠ start.resolver.topology.pollReplyKey := hkeys
    rw [hkey, htopology] at hasks
    exact hasks
  · rintro ⟨hsome, hown⟩ acts hspares
    exact (hstart.run hspares).apart hsome hown

def named (service : String) : Service :=
  (idle (Environment.load [("RTS_SERVICE_ID", service)] "").settings false
    { site := { journal := { service } } }).start

def fetched (service : String) : Message :=
  let request := (named service).resolver.fetchMessage ⟨7, .snmpV2c, 42, .int, 0⟩ "snmp" "a"
  (Broker.Translator.answer? {} request.envelope).getD default

def polled (service : String) : Message :=
  let request := (named service).resolver.polling.pollMessage "snmp" "b" ⟨7, .snmpV2c, [⟨42, .int⟩]⟩
  (Broker.Translator.answer? {} request.envelope).getD default

/-- The first two listeners declare both queues of replies, answers are published, and the listeners
bring what there is for them. -/
def answering (answers : List Message) : List Act :=
  let listeners : List Act :=
    [.task (.network (.listener 0)) .goOn, .task (.network (.listener 1)) .goOn]
  listeners ++ answers.map (fun m => .other (.publish m)) ++ listeners

theorem spares_answering (settings : ServiceSettings) (answers : List Message) :
    ∀ a ∈ answering answers, a.Spares settings := by
  intro a ha
  unfold answering at ha
  rcases List.mem_append.mp ha with hbefore | hlisteners
  · rcases List.mem_append.mp hbefore with hlisteners | hanswers
    · rcases List.mem_pair.mp hlisteners with rfl | rfl <;> trivial
    · rcases List.mem_map.mp hanswers with ⟨m, _, rfl⟩
      exact fun _ _ => trivial
  · rcases List.mem_pair.mp hlisteners with rfl | rfl <;> trivial

theorem replies_apart_both_answered :
    let s := (named "rts-a").run (answering [fetched "rts-a", polled "rts-a"])
    s.next? .replies = some (fetched "rts-a") ∧ s.next? .polls = some (polled "rts-a") ∧
      s.Apart := by
  have happart := (replies_apart_iff [("RTS_SERVICE_ID", "rts-a")] "" false
    { journal := { service := "rts-a" } } {}).mpr (by decide +kernel)
  constructor
  · decide +kernel
  constructor
  · decide +kernel
  · exact happart _ (spares_answering _ _)

/-- An instance that is called like the key of background polls takes a reply to a background poll
for a reply to a fetch. -/
theorem poll_reply_reaches_fetches :
    (named "rts").resolver.settings.replyKey = (named "rts").resolver.topology.pollReplyKey ∧
      ((named "rts").run (answering [polled "rts"])).next? .replies = some (polled "rts") := by
  decide +kernel

end Service
end MetricGateway
