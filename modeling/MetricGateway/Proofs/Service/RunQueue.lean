import Mathlib.Data.List.Dedup
import MetricGateway.Proofs.Service.Shutdown

/-!
# The run queue

A service runs on one thread, as everywhere in this library (`Machine`).  A task that has something
to do is woken and comes to the end of a queue.  The first task of the queue gets the thread and
keeps it until it has to wait; between two such turns callers, other systems and the clock do what
they do.  Where a task could go on and has also been told to stop, either may happen.

A shutdown wakes every listener that is not held up, and each of them stops in its next turn.  The
task of an inlet ends in a turn after the one in which its listener has stopped.  Since a listener
comes to the queue behind the task for which it has left a message, that turn is behind all who were
in the queue at the shutdown: when the task has ended, they all had their turns.
-/

namespace MetricGateway

open Channel (Subscription SubscriptionId)

/-! ## Subscriptions of others -/

namespace Link

variable {l l' : Link} {id : SubscriptionId} {s : Subscription}

theorem lookup_step (l : Link) {t : Link.Task} (hother : t ≠ .listener id)
    (preference : Preference) :
    (l.step t preference).channels.subscriptions[id]? = l.channels.subscriptions[id]? := by
  cases t with
  | sender i =>
      show (l.stepSender i preference).channels.subscriptions[id]? = _
      rw [(unmoved_stepSender l i preference).subscriptions]
  | listener i =>
      show (l.stepListener i preference).channels.subscriptions[id]? = _
      cases hs : l.channels.subscriptions[i]? with
      | none => rw [stepListener_of_none hs]
      | some s =>
          rcases (stepsTo_stepListener hs preference).turned with hsame | ⟨s', hturned⟩
          · rw [hsame]
          · rw [hturned.subscriptions]
            refine lookup_insert_of_ne _ ?_ s'
            rintro rfl
            exact hother rfl
  | client i =>
      show (l.stepClient i).channels.subscriptions[id]? = _
      rw [(unmoved_stepClient l i).subscriptions]

/-- A subscription with a reader; its listener has not stopped before it was told to. -/
def Keeps (l : Link) (id : SubscriptionId) : Prop :=
  ∃ s, l.channels.subscriptions[id]? = some s ∧ s.inbox.closed = false ∧
    (s.phase = .stopped → l.channels.stopping = true)

theorem keeps_of_insert {s' : Subscription}
    (hsubscriptions : l'.channels.subscriptions = l.channels.subscriptions.insert id s')
    (hopen : s'.inbox.closed = false) (hphase : s'.phase ≠ .stopped ∨ l'.channels.stopping = true) :
    l'.Keeps id := by
  refine ⟨s', ?_, hopen, fun hstopped => hphase.resolve_left fun hruns => hruns hstopped⟩
  rw [hsubscriptions]
  exact Std.ExtTreeMap.getElem?_insert_self

theorem keeps_forwarded (hopen : s.inbox.closed = false) (c : Broker.ConsumerId) (m : Message)
    {offered : Mailbox Message × Mailbox.Offer} (hinbox : offered.1.closed = s.inbox.closed)
    (hoffer : offered.2 ≠ .refused) : (l.forwarded id s c m offered).Keeps id := by
  rcases offered with ⟨inbox, offer⟩
  cases offer with
  | accepted => exact keeps_of_insert rfl (hinbox.trans hopen) (Or.inl nofun)
  | parked ticket => exact keeps_of_insert rfl (hinbox.trans hopen) (Or.inl nofun)
  | refused => exact absurd rfl hoffer

theorem StepsTo.stopping_eq (h : l.StepsTo id s l') : l'.channels.stopping = l.channels.stopping := by
  cases h with
  | @established b _ c => exact (replaces_establish { l with broker := b } id s c).stopping
  | @rejected b => exact (replaces_retreat { l with broker := b } id s).stopping
  | @lost c => exact (replaces_retreat { l with broker := l.broker.close c } id s).stopping
  | @took c b m =>
      rcases s.inbox.offer m with ⟨inbox, offer⟩
      cases offer <;> rfl
  | @retried c ticket m =>
      rcases s.inbox.retry ticket m with ⟨inbox, offer⟩
      cases offer <;> rfl
  | _ => rfl

theorem StepsTo.keeps (h : l.StepsTo id s l') (hs : l.channels.subscriptions[id]? = some s)
    (hkeeps : l.Keeps id) : l'.Keeps id := by
  have hopen : s.inbox.closed = false := by
    rcases hkeeps with ⟨s', hs', hopen, _⟩
    cases hs.symm.trans hs'
    exact hopen
  cases h with
  | @established b _ c =>
      have hreplaces := replaces_establish { l with broker := b } id s c
      exact keeps_of_insert hreplaces.subscriptions hopen (Or.inl nofun)
  | @rejected b =>
      have hreplaces := replaces_retreat { l with broker := b } id s
      exact keeps_of_insert hreplaces.subscriptions hopen (Or.inl nofun)
  | @lost c =>
      have hreplaces := replaces_retreat { l with broker := l.broker.close c } id s
      exact keeps_of_insert hreplaces.subscriptions hopen (Or.inl nofun)
  | @took c b m =>
      exact keeps_forwarded hopen c m (s.inbox.closed_offer m) (Mailbox.offer_ne_refused hopen m)
  | @retried c ticket m =>
      exact keeps_forwarded hopen c m (s.inbox.closed_retry ticket m)
        (Mailbox.retry_ne_refused hopen ticket m)
  | quit _ htold => exact keeps_of_insert rfl hopen (Or.inr htold)
  | stopped _ htold => exact keeps_of_insert rfl hopen (Or.inr htold)
  | empty => exact hkeeps
  | early => exact hkeeps
  | halted => exact hkeeps

end Link

namespace Service

/-! ## Turns -/

/-- The turn of a task, which takes step after step, by its choices, until it has to wait. -/
def turn (s : Service) (t : Task) : List Preference → Service
  | [] => s
  | choice :: choices => if s.ready t then (s.step t choice).turn t choices else s

theorem turn_replicate (s : Service) (t : Task) (fuel : Nat) :
    s.turn t (List.replicate fuel .goOn) = Machine.runTask fuel s t := by
  induction fuel generalizing s with
  | zero => rfl
  | succ fuel ih =>
      show (if s.ready t then (s.step t .goOn).turn t (List.replicate fuel .goOn) else s) = _
      rw [ih]
      rfl

/-- Whether the line of an inlet has ended and its task has nothing left to pass on. -/
def lineEnded (s : Service) (i : Inlet) : Bool :=
  (s.inlets.lookup i).any fun id => (s.backlog? i).isNone && s.channels.hasEnded id

/-- What callers, other systems and the clock do, and the other clients of the broker. -/
def Act.Outside : Act → Prop
  | .task (.network (.client _)) _ => True
  | .task _ _ => False
  | _ => True

/-- A service on its thread. -/
structure Running where
  service : Service
  /-- The tasks that were woken and had no turn since; the first one is next. -/
  queue : List Task := []
  /-- The inlets whose tasks have ended, as they have seen the ends of their lines. -/
  ended : List Inlet := []

namespace Running

/-- Whether a task has something to do: a step to take, or the end of its line to see. -/
def isUp (r : Running) : Task → Bool
  | .inlet i => r.service.inletReady i || r.service.lineEnded i && !r.ended.contains i
  | t => r.service.ready t

def endedAfter (s : Service) (ended : List Inlet) : Task → List Inlet
  | .inlet i => if s.lineEnded i then i :: ended else ended
  | _ => ended

/-- The first task of the queue has its turn, or something happens outside. -/
inductive Happens (r : Running) : Option Task → Running → Prop where
  | turn {t : Task} {rest : List Task} (choices : List Preference) (first : r.queue = t :: rest)
      (waits : (r.service.turn t choices).ready t = false) :
      Happens r (some t)
        { service := r.service.turn t choices
          queue := rest
          ended := endedAfter (r.service.turn t choices) r.ended t }
  | outside (a : Act) (outside : a.Outside) :
      Happens r none { r with service := r.service.perform a }

/-- All tasks that have something to do and are not in the queue come to its end, in any order. -/
inductive Wakes (r : Running) : Running → Prop where
  | come (woken : List Task) (nodup : woken.Nodup)
      (mem_iff : ∀ t, t ∈ woken ↔ t ∈ r.service.tasks ∧ r.isUp t = true ∧ t ∉ r.queue) :
      Wakes r { r with queue := r.queue ++ woken }

/-- A service that was started can come to a state on its thread. -/
inductive Reaches (settings : ServiceSettings) (historyWriter : Bool) (w : Surroundings) :
    Running → Prop where
  | start {r : Running} (wakes : Wakes { service := (idle settings historyWriter w).start } r) :
      Reaches settings historyWriter w r
  | step {r r' r'' : Running} {who : Option Task} (reached : Reaches settings historyWriter w r)
      (happens : r.Happens who r') (wakes : r'.Wakes r'') : Reaches settings historyWriter w r''

/-- The shutdown has returned: it was called, and the tasks that it waits for have ended, which are
the senders, those of the inlets, and the handler. -/
structure Returned (r : Running) : Prop where
  called : r.service.channels.stopping = true
  senders : r.service.channels.senders = []
  inlets : ∀ p ∈ r.service.inlets, p.1 ∈ r.ended
  handler : r.service.applying = none ∧ r.service.events.isEmpty = true

end Running

/-! ## What a task leaves alone -/

variable {s : Service} {id : SubscriptionId} {a : Act}

def phase? (s : Service) (id : SubscriptionId) : Option Subscription.Phase :=
  (s.channels.subscriptions[id]?).map (·.phase)

/-- The subscription of the replies is read by their task alone. -/
structure Wired (s : Service) (id : SubscriptionId) : Prop where
  replies : s.inlets.lookup .replies = some id
  alone : ∀ p ∈ s.inlets, p.2 = id → p.1 = .replies

theorem inlets_closeInlet_subset (s : Service) (i : Inlet) : (s.closeInlet i).inlets ⊆ s.inlets := by
  unfold closeInlet
  cases s.inlets.lookup i with
  | none => exact List.Subset.refl _
  | some id => exact List.filter_subset_self _

theorem inlets_perform_subset (s : Service) (a : Act) : (s.perform a).inlets ⊆ s.inlets := by
  have hstable : Stable fun s' => s'.inlets ⊆ s.inlets := by
    refine ⟨fun _ h => h, fun _ h => h, fun _ h => h, ?_, fun _ _ _ h => h⟩
    exact fun {s'} h => List.Subset.trans (inlets_closeInlet_subset s' .polls) h
  cases a with
  | task t preference =>
      have hinner := fun hinner =>
        hstable.step (List.Subset.refl _) (t := t) hinner preference
      cases t with
      | network t => exact List.Subset.refl _
      | inlet i => exact hinner nofun
      | handler => exact hinner nofun
      | resolver a => exact hinner nofun
  | _ => exact List.Subset.refl _

theorem stable_wired (id : SubscriptionId) : Stable (Wired · id) where
  resolved := fun _ h => ⟨h.replies, h.alone⟩
  counted := fun _ h => ⟨h.replies, h.alone⟩
  received := fun _ h => ⟨h.replies, h.alone⟩
  closed := by
    intro s h
    constructor
    · unfold closeInlet
      cases s.inlets.lookup .polls with
      | none => exact h.replies
      | some _ =>
          have hne : Inlet.replies ≠ .polls := by decide
          exact (lookup_filter hne s.inlets).trans h.replies
    · exact fun p hp => h.alone p (inlets_closeInlet_subset s .polls hp)
  moved := fun _ _ _ h => ⟨h.replies, h.alone⟩

theorem Wired.perform (h : s.Wired id) (a : Act) : (s.perform a).Wired id := by
  cases a with
  | task t preference =>
      have hinner := fun hinner => (stable_wired id).step h (t := t) hinner preference
      cases t with
      | network t => exact ⟨h.replies, h.alone⟩
      | inlet i => exact hinner nofun
      | handler => exact hinner nofun
      | resolver a => exact hinner nofun
  | _ => exact ⟨h.replies, h.alone⟩

theorem phase_setInbox {c : Channels} {i : SubscriptionId} {sub : Subscription}
    (hsub : c.subscriptions[i]? = some sub) (inbox : Mailbox Message) :
    ((c.setSubscription i { sub with inbox }).subscriptions[id]?).map (·.phase) =
      (c.subscriptions[id]?).map (·.phase) := by
  unfold Channels.setSubscription
  dsimp only
  rw [lookup_insert]
  split
  next heq =>
    rw [← heq, hsub]
    rfl
  next => rfl

theorem phase?_perform (s : Service)
    (hother : ∀ preference, a ≠ .task (.network (.listener id)) preference) :
    (s.perform a).phase? id = s.phase? id := by
  have hstable : Stable fun s' => s'.phase? id = s.phase? id := by
    constructor
    · exact fun _ h => h
    · exact fun _ h => h
    · intro s' i h
      refine Eq.trans ?_ h
      unfold phase? Channels.receive
      cases hsub : s'.channels.subscriptions[i]? with
      | none => rfl
      | some sub => exact phase_setInbox hsub _
    · intro s' h
      refine Eq.trans ?_ h
      unfold closeInlet
      cases s'.inlets.lookup .polls with
      | none => rfl
      | some i =>
          unfold phase? Channels.unsubscribe
          dsimp only
          cases hsub : s'.channels.subscriptions[i]? with
          | none => rfl
          | some sub => exact phase_setInbox hsub _
    · exact fun _ _ _ h => h
  cases a with
  | task t preference =>
      have hinner := fun hinner => hstable.step rfl (t := t) hinner preference
      cases t with
      | network t =>
          refine congrArg (Option.map (·.phase)) (Link.lookup_step s.link ?_ preference)
          rintro rfl
          exact hother preference rfl
      | inlet i => exact hinner nofun
      | handler => exact hinner nofun
      | resolver a => exact hinner nofun
  | join binding role =>
      unfold phase?
      show ((s.link.join binding role).1.channels.subscriptions[id]?).map (·.phase) = _
      rw [(Link.unmoved_join s.link binding role).subscriptions]
      rfl
  | _ => rfl

theorem lookup_receive {c : Channels} {other : SubscriptionId} (hne : id ≠ other) :
    (c.receive other).1.subscriptions[id]? = c.subscriptions[id]? := by
  unfold Channels.receive
  cases c.subscriptions[other]? with
  | none => rfl
  | some sub => exact lookup_insert_of_ne _ hne _

theorem lookup_closeInlet {i : Inlet} (hother : s.inlets.lookup i ≠ some id) :
    (s.closeInlet i).channels.subscriptions[id]? = s.channels.subscriptions[id]? := by
  unfold closeInlet
  cases hlookup : s.inlets.lookup i with
  | none => rfl
  | some other =>
      have hne : id ≠ other := fun heq => hother (heq ▸ hlookup)
      show (s.channels.unsubscribe other).subscriptions[id]? = _
      unfold Channels.unsubscribe
      cases s.channels.subscriptions[other]? with
      | none => rfl
      | some sub => exact lookup_insert_of_ne _ hne _

/-- What is done with a message has nothing to do with subscriptions, but that a fatal one ends the
task of the polls. -/
theorem lookup_accept (hpolls : s.inlets.lookup .polls ≠ some id) (i : Inlet) (e : Envelope) :
    (s.accept i e).channels.subscriptions[id]? = s.channels.subscriptions[id]? := by
  cases i with
  | replies => rfl
  | polls =>
      unfold accept acceptPoll
      dsimp only
      split
      · rfl
      · exact lookup_closeInlet hpolls
  | topic t =>
      unfold accept notify
      dsimp only
      split
      · rfl
      · unfold brought
        split <;> rfl
  | requests => rfl

theorem Wired.lookup_ne (h : s.Wired id) {i : Inlet} (hother : i ≠ .replies) :
    s.inlets.lookup i ≠ some id := by
  intro hlookup
  rcases List.lookup_eq_some_iff.mp hlookup with ⟨before, after, heq, _⟩
  exact hother (h.alone (i, id) (heq ▸ List.mem_append_right before List.mem_cons_self) rfl)

theorem Wired.lookup_stepInlet (h : s.Wired id) {i : Inlet} (hother : i ≠ .replies) :
    (s.stepInlet i).channels.subscriptions[id]? = s.channels.subscriptions[id]? := by
  unfold stepInlet
  cases hlookup : s.inlets.lookup i with
  | none => rfl
  | some other =>
      dsimp only
      cases s.backlog? i with
      | some p =>
          unfold notifyAgain brought
          dsimp only
          split <;> rfl
      | none =>
          have hne : id ≠ other := fun heq => h.lookup_ne hother (heq ▸ hlookup)
          have hpolls : Inlet.polls ≠ .replies := by decide
          have hreceived := lookup_receive (c := s.channels) hne
          dsimp only
          rcases hreceive : s.channels.receive other with ⟨channels, _ | m⟩
          · rfl
          · rw [hreceive] at hreceived
            exact (lookup_accept (s := { s with channels }) (h.lookup_ne hpolls) i m.envelope).trans hreceived

theorem channels_stepHandler (s : Service) : s.stepHandler.channels = s.channels := by
  unfold stepHandler
  cases s.applying with
  | some event => rfl
  | none =>
      dsimp only
      split <;> rfl

/-- The subscription of the replies changes by steps of its listener and of its reader only. -/
theorem Wired.lookup_perform (h : s.Wired id)
    (hlistener : ∀ preference, a ≠ .task (.network (.listener id)) preference)
    (hreader : ∀ preference, a ≠ .task (.inlet .replies) preference) :
    (s.perform a).channels.subscriptions[id]? = s.channels.subscriptions[id]? := by
  cases a with
  | task t preference =>
      cases t with
      | network t =>
          refine Link.lookup_step s.link ?_ preference
          rintro rfl
          exact hlistener preference rfl
      | inlet i =>
          apply h.lookup_stepInlet
          rintro rfl
          exact hreader preference rfl
      | handler => exact congrArg (·.subscriptions[id]?) (channels_stepHandler s)
      | resolver a => rfl
  | join binding role =>
      show (s.link.join binding role).1.channels.subscriptions[id]? = _
      rw [(Link.unmoved_join s.link binding role).subscriptions]
      rfl
  | _ => rfl

theorem Wired.keeps_stepReplies (h : s.Wired id) (hkeeps : s.link.Keeps id) :
    (s.stepInlet .replies).link.Keeps id := by
  rcases hkeeps with ⟨sub, hsub, hopen, htold⟩
  replace hsub : s.channels.subscriptions[id]? = some sub := hsub
  have hreceive : s.channels.receive id =
      (s.channels.setSubscription id { sub with inbox := sub.inbox.take.1 }, sub.inbox.take.2) := by
    unfold Channels.receive
    rw [hsub]
  unfold stepInlet
  rw [h.replies]
  dsimp only [backlog?]
  rw [hreceive]
  cases sub.inbox.take.2 with
  | none => exact ⟨sub, hsub, hopen, htold⟩
  | some m =>
      refine ⟨{ sub with inbox := sub.inbox.take.1 }, ?_, ?_, htold⟩
      · exact Std.ExtTreeMap.getElem?_insert_self
      · exact sub.inbox.closed_take.trans hopen

theorem Wired.keeps_perform (h : s.Wired id) (hkeeps : s.link.Keeps id) (a : Act) :
    (s.perform a).link.Keeps id := by
  by_cases hlistener : ∃ preference, a = .task (.network (.listener id)) preference
  · rcases hlistener with ⟨preference, rfl⟩
    rcases hkeeps with ⟨sub, hsub, hkept⟩
    exact (Link.stepsTo_stepListener hsub preference).keeps hsub ⟨sub, hsub, hkept⟩
  by_cases hreader : ∃ preference, a = .task (.inlet .replies) preference
  · rcases hreader with ⟨preference, rfl⟩
    exact h.keeps_stepReplies hkeeps
  rcases hkeeps with ⟨sub, hsub, hopen, htold⟩
  refine ⟨sub, ?_, hopen, fun hstopped => (leadsTo_perform s a).link.told (htold hstopped)⟩
  refine (h.lookup_perform ?_ ?_).trans hsub
  · exact fun preference heq => hlistener ⟨preference, heq⟩
  · exact fun preference heq => hreader ⟨preference, heq⟩

/-! ## A service that has just started -/

/-- A service whose first inlet was opened first. -/
structure Opened (s : Service) (sub : Subscription) : Prop where
  wired : s.Wired 0
  untold : s.channels.stopping = false
  made : s.channels.made ≠ 0
  lookup : s.channels.subscriptions[0]? = some sub

theorem Opened.openInlet {sub : Subscription} (h : s.Opened sub) {i : Inlet} :
    (s.openInlet i).Opened sub where
  wired := by
    constructor
    · show (s.inlets ++ [(i, s.channels.made)]).lookup .replies = some 0
      rw [List.lookup_append, h.wired.replies]
      rfl
    · intro p hp hfirst
      rcases List.mem_append.mp hp with hp | hp
      · exact h.wired.alone p hp hfirst
      · rw [List.mem_singleton.mp hp] at hfirst
        exact absurd hfirst h.made
  untold := h.untold
  made := Nat.succ_ne_zero _
  lookup := (lookup_insert_of_ne _ h.made.symm _).trans h.lookup

theorem Opened.congr {s' : Service} {sub : Subscription} (h : s.Opened sub)
    (hinlets : s'.inlets = s.inlets) (hchannels : s'.channels = s.channels) : s'.Opened sub where
  wired := ⟨hinlets ▸ h.wired.replies, hinlets ▸ h.wired.alone⟩
  untold := hchannels ▸ h.untold
  made := hchannels ▸ h.made
  lookup := hchannels ▸ h.lookup

theorem opened_start (settings : ServiceSettings) (historyWriter : Bool) (w : Surroundings) :
    (idle settings historyWriter w).start.Opened
      { binding := Inlet.replies.binding settings
        inbox := { capacity := settings.channel.deliveryBuffer } } := by
  let opening : Service :=
    { (idle settings historyWriter w).onCommon (·.registerParts) with
      channels := .start settings.channel }
  have hfirst : (opening.openInlet .replies).Opened
      { binding := Inlet.replies.binding settings
        inbox := { capacity := settings.channel.deliveryBuffer } } := by
    refine ⟨⟨rfl, ?_⟩, rfl, Nat.succ_ne_zero _, Std.ExtTreeMap.getElem?_insert_self⟩
    intro p hp _
    rw [List.mem_singleton.mp hp]
  have hall : ∀ {s : Service} {sub : Subscription} (inlets : List Inlet), s.Opened sub →
      (inlets.foldl Service.openInlet s).Opened sub := by
    intro s sub inlets h
    induction inlets generalizing s with
    | nil => exact h
    | cons i inlets ih => exact ih h.openInlet
  have hopened := hall Inlet.all.tail hfirst
  rw [← List.foldl_cons, show .replies :: Inlet.all.tail = Inlet.all from rfl] at hopened
  have hwarm := warmUp_frame (Inlet.all.foldl Service.openInlet opening)
  exact (hopened.congr hwarm.1 hwarm.2).congr rfl rfl

/-! ## What happens at a time -/

def Act.By : Option Task → Act → Prop
  | some t, a => ∃ preference, a = .task t preference
  | none, a => a.Outside

theorem Act.By.ne_task {who : Option Task} {t : Task} (h : a.By who) (hwho : who ≠ some t)
    (hown : ∀ c, t ≠ .network (.client c)) (preference : Preference) : a ≠ .task t preference := by
  rintro rfl
  cases who with
  | some t' =>
      rcases h with ⟨preference', heq⟩
      cases heq
      exact hwho rfl
  | none =>
      cases t with
      | network t =>
          cases t with
          | client c => exact hown c rfl
          | _ => exact h.elim
      | _ => exact h.elim

theorem turn_induction {P : Service → Prop} {t : Task} (hP : P s)
    (hstep : ∀ {s : Service} (preference : Preference), P s → P (s.perform (.task t preference)))
    (choices : List Preference) : P (s.turn t choices) := by
  induction choices generalizing s with
  | nil => exact hP
  | cons choice choices ih =>
      unfold turn
      split
      · exact ih (hstep choice hP)
      · exact hP

namespace Running

variable {r r' : Running} {who : Option Task} {old : List Task}

theorem Happens.induction {P : Service → Prop} (h : r.Happens who r') (hP : P r.service)
    (hact : ∀ {s : Service} {a : Act}, a.By who → P s → P (s.perform a)) : P r'.service := by
  cases h with
  | turn choices => exact turn_induction hP (fun preference => hact ⟨preference, rfl⟩) choices
  | outside a outside => exact hact outside hP

theorem Happens.leadsTo (h : r.Happens who r') : r.service.LeadsTo r'.service :=
  h.induction (leadsTo_of_same rfl rfl rfl) fun _ hleads => hleads.trans (leadsTo_perform _ _)

theorem Happens.inlets_subset (h : r.Happens who r') : r'.service.inlets ⊆ r.service.inlets := by
  apply h.induction (P := fun s => s.inlets ⊆ r.service.inlets) (List.Subset.refl _)
  exact fun _ hsub => List.Subset.trans (inlets_perform_subset _ _) hsub

theorem Happens.phase?_eq (h : r.Happens who r') {i : SubscriptionId}
    (hwho : who ≠ some (.network (.listener i))) :
    r'.service.phase? i = r.service.phase? i := by
  apply h.induction (P := fun s => s.phase? i = r.service.phase? i) rfl
  intro s a hby heq
  exact (phase?_perform s (hby.ne_task hwho nofun)).trans heq

/-! ## The order of the queue -/

/-- A running service is in order: who reads which subscription is as at the start, the listener of the
replies is not before their task in the queue, and where a task of an inlet has ended, so has the
listener of the inlet. -/
structure InOrder (r : Running) (id : SubscriptionId) : Prop where
  wired : r.service.Wired id
  attached : r.service.Attached
  keeps : r.service.link.Keeps id
  nodup : r.queue.Nodup
  behind : r.queue.Pairwise fun t u => t = .network (.listener id) → u ≠ .inlet .replies
  ended : ∀ p ∈ r.service.inlets, p.1 ∈ r.ended →
    ∀ phase, r.service.phase? p.2 = some phase → phase = .stopped

/-- Whoever has something to do is in the queue. -/
def Awake (r : Running) : Prop := ∀ t ∈ r.service.tasks, r.isUp t = true → t ∈ r.queue

theorem Wakes.awake (h : r.Wakes r') : r'.Awake := by
  cases h with
  | come woken nodup mem_iff =>
      intro t ht hup
      by_cases hqueue : t ∈ r.queue
      · exact List.mem_append_left _ hqueue
      · exact List.mem_append_right _ ((mem_iff t).mpr ⟨ht, hup, hqueue⟩)

theorem phase_of_leadsTo {s s' : Service} (h : s.LeadsTo s') {i : SubscriptionId}
    (hstopped : ∀ phase, s.phase? i = some phase → phase = .stopped) :
    ∀ phase, s'.phase? i = some phase → phase = .stopped := by
  intro phase' hphase'
  rcases Option.map_eq_some_iff.mp hphase' with ⟨sub', hsub', rfl⟩
  rcases h.link.subscriptions hsub' with ⟨sub, hsub, hages⟩
  exact hages.stopped (hstopped sub.phase (Option.map_eq_some_iff.mpr ⟨sub, hsub, rfl⟩))

theorem stopped_of_lineEnded {s : Service} (h : s.Attached) {p : Inlet × SubscriptionId}
    (hp : p ∈ s.inlets) (hended : s.lineEnded p.1 = true) :
    ∀ phase, s.phase? p.2 = some phase → phase = .stopped := by
  intro phase hphase
  rcases Option.map_eq_some_iff.mp hphase with ⟨sub, hsub, rfl⟩
  unfold lineEnded at hended
  cases hlookup : s.inlets.lookup p.1 with
  | none =>
      rw [hlookup] at hended
      cases hended
  | some i =>
      rcases List.lookup_eq_some_iff.mp hlookup with ⟨before, after, heq, _⟩
      have hmem : (p.1, i) ∈ s.inlets := heq ▸ List.mem_append_right before List.mem_cons_self
      have hsame : i = p.2 := congrArg Prod.snd (List.inj_on_of_nodup_map h.distinct hmem hp rfl)
      rw [hlookup, Option.any_some, hsame] at hended
      have hboth := (Bool.and_eq_true_iff.mp hended).2
      unfold Channels.hasEnded at hboth
      rw [hsub] at hboth
      exact of_decide_eq_true (Bool.and_eq_true_iff.mp hboth).1

theorem InOrder.happens (hr : r.InOrder id) (h : r.Happens who r') : r'.InOrder id := by
  have hattached := h.leadsTo.attached hr.attached
  have hended : ∀ p ∈ r'.service.inlets, p.1 ∈ r.ended →
      ∀ phase, r'.service.phase? p.2 = some phase → phase = .stopped :=
    fun p hp hmem => phase_of_leadsTo h.leadsTo (hr.ended p (h.inlets_subset hp) hmem)
  have hkept : r'.service.Wired id ∧ r'.service.link.Keeps id := by
    apply h.induction (P := fun s => s.Wired id ∧ s.link.Keeps id) ⟨hr.wired, hr.keeps⟩
    exact fun _ hs => ⟨hs.1.perform _, hs.1.keeps_perform hs.2 _⟩
  cases h with
  | @turn t rest choices first waits =>
      have hnodup := hr.nodup
      have hbehind := hr.behind
      rw [first] at hnodup hbehind
      refine ⟨hkept.1, hattached, hkept.2, hnodup.of_cons, hbehind.of_cons, ?_⟩
      intro p hp hmem
      cases t with
      | inlet i =>
          unfold endedAfter at hmem
          dsimp only at hmem
          split at hmem
          next hline =>
            rcases List.mem_cons.mp hmem with heq | hmem
            · exact stopped_of_lineEnded hattached hp (heq ▸ hline)
            · exact hended p hp hmem
          next => exact hended p hp hmem
      | _ => exact hended p hp hmem
  | outside a outside =>
      exact ⟨hkept.1, hattached, hkept.2, hr.nodup, hr.behind, hended⟩

theorem isUp_replies (h : r.service.Wired id) : r.isUp (.inlet .replies) =
    ((r.service.channels.subscriptions[id]?).any (·.hasMessage) ||
      (r.service.channels.subscriptions[id]?).all (·.hasEnded) &&
        !r.ended.contains .replies) := by
  unfold isUp
  dsimp only
  unfold inletReady lineEnded
  rw [h.replies]
  rfl

theorem mem_endedAfter {s : Service} {ended : List Inlet} {t : Task} {i : Inlet} :
    i ∈ endedAfter s ended t ↔ i ∈ ended ∨ t = .inlet i ∧ s.lineEnded i = true := by
  unfold endedAfter
  split
  next j =>
    split
    next hline =>
      rw [List.mem_cons, or_comm]
      refine or_congr_right ⟨?_, ?_⟩
      · rintro rfl
        exact ⟨rfl, hline⟩
      · rintro ⟨heq, _⟩
        cases heq
        rfl
    next hline =>
      refine ⟨Or.inl, fun h => h.resolve_right ?_⟩
      rintro ⟨heq, hline'⟩
      cases heq
      exact hline hline'
  next hother =>
    refine ⟨Or.inl, fun h => h.resolve_right ?_⟩
    rintro ⟨rfl, _⟩
    exact hother i rfl

/-- Whether the task of the replies has something to do is a matter of its listener and itself. -/
theorem InOrder.isUp_replies (hr : r.InOrder id) (h : r.Happens who r')
    (hlistener : who ≠ some (.network (.listener id))) (hreader : who ≠ some (.inlet .replies)) :
    r'.isUp (.inlet .replies) = r.isUp (.inlet .replies) := by
  have hlookup : r'.service.Wired id ∧ r'.service.channels.subscriptions[id]? =
      r.service.channels.subscriptions[id]? := by
    apply h.induction (P := fun s => s.Wired id ∧
      s.channels.subscriptions[id]? = r.service.channels.subscriptions[id]?) ⟨hr.wired, rfl⟩
    intro s a hby hs
    refine ⟨hs.1.perform a, Eq.trans (hs.1.lookup_perform ?_ ?_) hs.2⟩
    · exact hby.ne_task hlistener nofun
    · exact hby.ne_task hreader nofun
  have hended : r'.ended.contains .replies = r.ended.contains .replies := by
    cases h with
    | @turn t rest choices first waits =>
        rw [Bool.eq_iff_iff, List.contains_iff_mem, List.contains_iff_mem, mem_endedAfter]
        refine or_iff_left ?_
        rintro ⟨rfl, _⟩
        exact hreader rfl
    | outside a outside => rfl
  rw [Running.isUp_replies hlookup.1, Running.isUp_replies hr.wired, hlookup.2, hended]

/-- The task of the replies comes to the queue after a turn of their listener, which is then not
there. -/
theorem InOrder.listener_away (hr : r.InOrder id) (hawake : r.Awake) (h : r.Happens who r')
    (hup : r'.isUp (.inlet .replies) = true) (hnew : .inlet .replies ∉ r'.queue) :
    .network (.listener id) ∉ r'.queue ∧ r'.isUp (.network (.listener id)) = false := by
  have hqueued : r.isUp (.inlet .replies) = true → .inlet .replies ∈ r.queue := by
    apply hawake
    rcases List.lookup_eq_some_iff.mp hr.wired.replies with ⟨before, after, heq, _⟩
    unfold tasks
    rw [heq]
    simp
  by_cases hlistener : who = some (.network (.listener id))
  · subst hlistener
    cases h with
    | turn choices first waits =>
        have hnodup := hr.nodup
        rw [first] at hnodup
        exact ⟨hnodup.notMem, waits⟩
  by_cases hreader : who = some (.inlet .replies)
  · subst hreader
    cases h with
    | turn choices first waits =>
        rcases Bool.or_eq_true_iff.mp hup with hready | hline
        · exact absurd hready (Bool.eq_false_iff.mp waits)
        · rcases Bool.and_eq_true_iff.mp hline with ⟨hline, hunseen⟩
          rw [List.contains_iff_mem.mpr (mem_endedAfter.mpr (Or.inr ⟨rfl, hline⟩))] at hunseen
          cases hunseen
  have hmem := hqueued ((hr.isUp_replies h hlistener hreader).symm.trans hup)
  cases h with
  | turn choices first waits =>
      rw [first] at hmem
      rcases List.mem_cons.mp hmem with rfl | hmem
      · exact absurd rfl hreader
      · exact absurd hmem hnew
  | outside a outside => exact absurd hmem hnew

theorem InOrder.wakes (hr : r.InOrder id) (h : r.Wakes r')
    (haway : r.isUp (.inlet .replies) = true → .inlet .replies ∉ r.queue →
      .network (.listener id) ∉ r.queue ∧ r.isUp (.network (.listener id)) = false) :
    r'.InOrder id := by
  cases h with
  | come woken nodup mem_iff =>
      have hwoken : .inlet .replies ∈ woken →
          .network (.listener id) ∉ r.queue ∧ .network (.listener id) ∉ woken := by
        intro hmem
        rcases (mem_iff _).mp hmem with ⟨_, hup, hnew⟩
        rcases haway hup hnew with ⟨hqueue, hdown⟩
        refine ⟨hqueue, fun hlistener => ?_⟩
        rw [((mem_iff _).mp hlistener).2.1] at hdown
        cases hdown
      refine ⟨hr.wired, hr.attached, hr.keeps, ?_, ?_, hr.ended⟩
      · refine List.nodup_append.mpr ⟨hr.nodup, nodup, ?_⟩
        rintro t ht t' ht' rfl
        exact ((mem_iff t).mp ht').2.2 ht
      · refine List.pairwise_append.mpr ⟨hr.behind, ?_, ?_⟩
        · apply List.pairwise_of_forall_mem_list
          rintro t ht u hu rfl rfl
          exact (hwoken hu).2 ht
        · rintro t ht u hu rfl rfl
          exact (hwoken hu).1 ht

/-! ## After the shutdown -/

/-- Of those who were in the queue at the shutdown, the last ones have had no turn since.  The other
listeners have stopped or are held up.  The task of the replies has not ended before all had their
turns; it gets its last one behind them. -/
structure Passed (r : Running) (id : SubscriptionId) (old : List Task) : Prop where
  front : old <+: r.queue
  rests : ∀ i phase, r.service.phase? i = some phase →
    phase.AtRest ∨ .network (.listener i) ∈ old
  reader : old ≠ [] → .replies ∉ r.ended ∧
    (r.service.phase? id = some .stopped → .inlet .replies ∉ old)

theorem Passed.wakes (h : r.Passed id old) (hwakes : r.Wakes r') : r'.Passed id old := by
  cases hwakes with
  | come woken nodup mem_iff =>
      exact ⟨h.front.trans (List.prefix_append _ _), h.rests, h.reader⟩

theorem atRest_of_waits {s : Service} {i : SubscriptionId} {phase : Subscription.Phase}
    (htold : s.channels.stopping = true) (hwaits : s.ready (.network (.listener i)) = false)
    (hphase : s.phase? i = some phase) : phase.AtRest := by
  rcases Option.map_eq_some_iff.mp hphase with ⟨sub, hsub, rfl⟩
  exact Link.atRest_of_told htold hsub hwaits

theorem listener_mem_tasks {s : Service} {i : SubscriptionId} {sub : Subscription}
    (hsub : s.channels.subscriptions[i]? = some sub) : .network (.listener i) ∈ s.tasks := by
  have hkey : i ∈ s.channels.subscriptions.keys :=
    Std.ExtTreeMap.mem_keys.mpr (Std.ExtTreeMap.mem_iff_isSome_getElem?.mpr (hsub ▸ rfl))
  simp only [tasks, Machine.tasks, Link.tasks, List.mem_append, List.mem_map]
  exact Or.inl (Or.inl (Or.inl ⟨_, Or.inl (Or.inr ⟨i, hkey, rfl⟩), rfl⟩))

theorem InOrder.replies_mem (hr : r.InOrder id) : (.replies, id) ∈ r.service.inlets := by
  rcases List.lookup_eq_some_iff.mp hr.wired.replies with ⟨before, after, heq, _⟩
  exact heq ▸ List.mem_append_right before List.mem_cons_self

theorem InOrder.exists_phase (hr : r.InOrder id) : ∃ phase, r.service.phase? id = some phase := by
  rcases hr.keeps with ⟨sub, hsub, _⟩
  exact ⟨sub.phase, Option.map_eq_some_iff.mpr ⟨sub, hsub, rfl⟩⟩

theorem Passed.happens (h : r.Passed id old) (hr : r.InOrder id)
    (htold : r.service.channels.stopping = true) (hhappens : r.Happens who r') :
    ∃ left, r'.Passed id left := by
  have htold' := hhappens.leadsTo.link.told htold
  have hr' := hr.happens hhappens
  have hphase : ∀ i, who ≠ some (.network (.listener i)) →
      r'.service.phase? i = r.service.phase? i := fun i => hhappens.phase?_eq
  cases hhappens with
  | outside a outside =>
      refine ⟨old, h.front, ?_, ?_⟩
      · intro i
        rw [hphase i nofun]
        exact h.rests i
      · rw [hphase id nofun]
        exact h.reader
  | @turn t rest choices first waits =>
      have hrests : ∀ i phase, (r.service.turn t choices).phase? i = some phase →
          phase.AtRest ∨ .network (.listener i) ≠ t ∧ .network (.listener i) ∈ old := by
        intro i phase hi
        by_cases ht : .network (.listener i) = t
        · exact Or.inl (atRest_of_waits htold' (ht ▸ waits) hi)
        · rw [hphase i fun heq => ht (Option.some.inj heq).symm] at hi
          exact (h.rests i phase hi).imp_right fun hmem => ⟨ht, hmem⟩
      cases old with
      | nil =>
          refine ⟨[], List.nil_prefix, ?_, fun hne => absurd rfl hne⟩
          exact fun i phase hi => (hrests i phase hi).imp_right (·.2)
      | cons t' old =>
          have hfront := h.front
          rw [first, List.cons_prefix_cons] at hfront
          rcases hfront with ⟨rfl, hfront⟩
          rcases h.reader (List.cons_ne_nil _ _) with ⟨hopen, haway⟩
          refine ⟨old, hfront, ?_, fun _ => ⟨?_, ?_⟩⟩
          · intro i phase hi
            refine (hrests i phase hi).imp_right ?_
            rintro ⟨hne, hmem⟩
            exact List.mem_of_ne_of_mem hne hmem
          · intro hmem
            rcases mem_endedAfter.mp hmem with hmem | ⟨rfl, hline⟩
            · exact hopen hmem
            · -- The turn of the reader: it is not among the old tasks if the listener has stopped.
              rcases hr.exists_phase with ⟨phase, hp⟩
              have hp' := (hphase id nofun).trans hp
              have hstopped := stopped_of_lineEnded hr'.attached hr'.replies_mem hline phase hp'
              exact haway (hstopped ▸ hp) List.mem_cons_self
          · intro hstopped hmem
            by_cases ht : t' = .network (.listener id)
            · have hbehind := hr.behind
              rw [first, ht] at hbehind
              exact (List.pairwise_cons.mp hbehind).1 _ (hfront.subset hmem) rfl rfl
            · rw [hphase id fun heq => ht (Option.some.inj heq)] at hstopped
              exact haway hstopped (List.mem_cons_of_mem _ hmem)

theorem InOrder.passed (hr : r.InOrder id) (hawake : r.Awake)
    (htold : r.service.channels.stopping = true) (hruns : r.service.phase? id ≠ some .stopped) :
    r.Passed id r.queue where
  front := List.prefix_refl _
  rests := by
    intro i phase hphase
    by_cases hready : r.service.ready (.network (.listener i)) = true
    · right
      refine hawake _ ?_ hready
      rcases Option.map_eq_some_iff.mp hphase with ⟨sub, hsub, _⟩
      exact listener_mem_tasks hsub
    · exact Or.inl (atRest_of_waits htold (Bool.eq_false_iff.mpr hready) hphase)
  reader := by
    refine fun _ => ⟨?_, fun hstopped => absurd hstopped hruns⟩
    intro hended
    rcases hr.exists_phase with ⟨phase, hphase⟩
    exact hruns (hr.ended _ hr.replies_mem hended phase hphase ▸ hphase)

theorem InOrder.not_stopped (hr : r.InOrder id) (h : r.Happens who r')
    (huntold : r.service.channels.stopping = false)
    (htold : r'.service.channels.stopping = true) : r'.service.phase? id ≠ some .stopped := by
  by_cases hlistener : who = some (.network (.listener id))
  · subst hlistener
    have hstill : r'.service.channels.stopping = false := by
      apply h.induction (P := fun s => s.channels.stopping = false) huntold
      rintro s a ⟨preference, rfl⟩ hs
      show (s.link.stepListener id preference).channels.stopping = false
      cases hsub : s.link.channels.subscriptions[id]? with
      | none =>
          rw [Link.stepListener_of_none hsub]
          exact hs
      | some sub => exact (Link.stepsTo_stepListener hsub preference).stopping_eq.trans hs
    exact absurd htold (Bool.eq_false_iff.mp hstill)
  · rw [h.phase?_eq hlistener]
    rcases hr.keeps with ⟨sub, hsub, _, hkept⟩
    intro hstopped
    rcases Option.map_eq_some_iff.mp hstopped with ⟨sub', hsub', hphase⟩
    cases hsub.symm.trans hsub'
    exact absurd (hkept hphase) (Bool.eq_false_iff.mp huntold)

/-! ## From the start -/

theorem inOrder_start {settings : ServiceSettings} {historyWriter : Bool} {w : Surroundings}
    (h : Wakes { service := (idle settings historyWriter w).start } r) : r.InOrder 0 := by
  have hopened := opened_start settings historyWriter w
  have hkeeps : (idle settings historyWriter w).start.link.Keeps 0 :=
    ⟨_, hopened.lookup, rfl, nofun⟩
  have hstart : InOrder { service := (idle settings historyWriter w).start } 0 :=
    ⟨hopened.wired, (attached_start settings historyWriter w).1, hkeeps, List.nodup_nil, .nil, nofun⟩
  apply hstart.wakes h
  intro hup
  rw [isUp_replies hopened.wired, hopened.lookup] at hup
  cases hup

variable {settings : ServiceSettings} {historyWriter : Bool} {w : Surroundings}

/-- All along the queue is in order, and after the shutdown every listener has had a turn or is
among those who were in the queue then. -/
theorem Reaches.inOrder (h : Reaches settings historyWriter w r) :
    r.InOrder 0 ∧ r.Awake ∧ (r.service.channels.stopping = true → ∃ old, r.Passed 0 old) := by
  induction h with
  | start wakes =>
      refine ⟨inOrder_start wakes, wakes.awake, ?_⟩
      intro htold
      have hopened := opened_start settings historyWriter w
      cases wakes
      exact absurd htold (Bool.eq_false_iff.mp hopened.untold)
  | @step r r' r'' who reached happens wakes ih =>
      rcases ih with ⟨hr, hawake, hpassed⟩
      have hr' := hr.happens happens
      have hr'' := hr'.wakes wakes (hr.listener_away hawake happens)
      refine ⟨hr'', wakes.awake, ?_⟩
      intro htold
      have hsame : r''.service = r'.service := by
        cases wakes
        rfl
      rw [hsame] at htold
      cases hbefore : r.service.channels.stopping with
      | true =>
          rcases hpassed hbefore with ⟨old, hold⟩
          rcases hold.happens hr hbefore happens with ⟨left, hleft⟩
          exact ⟨left, hleft.wakes wakes⟩
      | false =>
          have hruns := hr.not_stopped happens hbefore htold
          rw [← hsame] at htold hruns
          exact ⟨r''.queue, hr''.passed wakes.awake htold hruns⟩

/-- When a shutdown has returned, no listener will open a consumer any more: those with a reader
have stopped, and the orphans, for which it does not wait, had their turns. -/
theorem Reaches.spent (h : Reaches settings historyWriter w r) (hreturned : r.Returned)
    {i : SubscriptionId} {sub : Subscription}
    (hsub : r.service.channels.subscriptions[i]? = some sub) : sub.Spent := by
  rcases h.inOrder with ⟨hr, -, hpassed⟩
  rcases hpassed hreturned.called with ⟨old, hold⟩
  have hphase : r.service.phase? i = some sub.phase := Option.map_eq_some_iff.mpr ⟨sub, hsub, rfl⟩
  rcases hr.attached.read hsub with ⟨inlet, hmem⟩ | hclosed
  · exact Or.inl (hr.ended _ hmem (hreturned.inlets _ hmem) _ hphase)
  · have hnone : old = [] := by
      by_contra hsome
      exact (hold.reader hsome).1 (hreturned.inlets _ hr.replies_mem)
    refine Or.inr ⟨hclosed, (hold.rests i _ hphase).resolve_right ?_⟩
    rw [hnone]
    exact List.not_mem_nil

/-! ## Runs in which tasks that are woken together are told by their place in the service -/

inductive Move where
  | turn (choices : List Preference)
  | outside (a : Act)

def wake (r : Running) : Running :=
  let woken := (r.service.tasks.filter fun t => r.isUp t && !r.queue.contains t).dedup
  { r with queue := r.queue ++ woken }

/-- What comes of a move; a turn is none that leaves its task with something to do, nor is an act of
a task one from outside. -/
def move? (r : Running) : Move → Option Running
  | .turn choices =>
      match r.queue with
      | [] => none
      | t :: rest =>
          let service := r.service.turn t choices
          if service.ready t then none
          else some (wake { service, queue := rest, ended := endedAfter service r.ended t })
  | .outside (.task _ _) => none
  | .outside a => some (wake { r with service := r.service.perform a })

def follow? (r : Running) : List Move → Option Running
  | [] => some r
  | m :: moves => (r.move? m).bind (follow? · moves)

theorem wakes_wake (r : Running) : r.Wakes r.wake := by
  refine .come _ (List.nodup_dedup _) ?_
  intro t
  rw [List.mem_dedup, List.mem_filter]
  simp

theorem Reaches.move (h : Reaches settings historyWriter w r) {m : Move}
    (hmove : r.move? m = some r') : Reaches settings historyWriter w r' := by
  unfold move? at hmove
  split at hmove
  next choices =>
    split at hmove
    next => cases hmove
    next t rest hqueue =>
      dsimp only at hmove
      split at hmove
      next => cases hmove
      next hwaits =>
        cases hmove
        exact h.step (.turn choices hqueue (Bool.eq_false_iff.mpr hwaits)) (wakes_wake _)
  next => cases hmove
  next a hnot =>
    cases hmove
    refine h.step (.outside a ?_) (wakes_wake _)
    cases a with
    | task t preference => exact (hnot t preference rfl).elim
    | _ => trivial

theorem Reaches.follow (h : Reaches settings historyWriter w r) {moves : List Move}
    (hmoves : r.follow? moves = some r') : Reaches settings historyWriter w r' := by
  induction moves generalizing r with
  | nil =>
      cases hmoves
      exact h
  | cons m moves ih =>
      rcases Option.bind_eq_some_iff.mp hmoves with ⟨next, hnext, hrest⟩
      exact ih (h.move hnext) hrest

end Running
end Service
end MetricGateway
