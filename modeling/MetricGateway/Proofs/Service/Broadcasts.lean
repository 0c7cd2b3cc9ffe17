import Mathlib.Data.List.Nodup
import MetricGateway.Proofs.Lines
import MetricGateway.Proofs.Service.Runs

/-!
# Broadcasts on their way to the handler

The task of a topic takes a broadcast from its subscription, decodes it and brings it to the line of
the handler; where that is full, it waits for room with the broadcast in its hands and takes no other
one.  The handler takes the broadcasts from the line and applies one after the other.

On this way no broadcast is lost or doubled, and those of one topic do not overtake each other: at
any time, what the task of a topic took and could read are the broadcasts of the topic that were
applied, followed by those that are still on the way.  A broadcast that cannot be read is counted
and dropped.
-/

namespace MetricGateway

def LifecycleEvent.topic : LifecycleEvent → LifecycleTopic
  | containerUpdated _ => .containerUpdated
  | containerDeleted _ => .containerDeleted
  | metricUpdated _ _ => .metricUpdated
  | metricDeleted _ _ => .metricDeleted
  | policyDeleted _ => .policyDeleted

theorem LifecycleTopic.topic_of_decode {t : LifecycleTopic} {e : Envelope} {event : LifecycleEvent}
    (h : t.decode e = .ok event) : event.topic = t := by
  have hmap : ∀ {α : Type} {read : Except Wire.Fault α} {f : α → LifecycleEvent},
      (∀ a, (f a).topic = t) → read.map f = .ok event → event.topic = t := by
    intro α read f hf hread
    cases read with
    | error fault => cases hread
    | ok a =>
        cases hread
        exact hf a
  cases t <;> exact hmap (fun _ => rfl) h

def LifecycleTopic.of (t : LifecycleTopic) (events : List LifecycleEvent) : List LifecycleEvent :=
  events.filter (·.topic = t)

/-- What can be read of the broadcasts that the task of a topic took, among those of all topics. -/
def LifecycleTopic.read (t : LifecycleTopic) (taken : List (LifecycleTopic × Message)) :
    List LifecycleEvent :=
  taken.filterMap fun y => if y.1 = t then (t.decode y.2.envelope).toOption else none

namespace Service

/-- The broadcast that the task of a topic takes from its subscription next; none while it waits for
room for another one. -/
def taken? (s : Service) (t : LifecycleTopic) : Option Message :=
  match s.parked? t with
  | some _ => none
  | none => s.next? (.topic t)

def takes (s : Service) : Act → List (LifecycleTopic × Message)
  | .task (.inlet (.topic t)) _ => (s.taken? t).toList.map fun m => (t, m)
  | _ => []

def applies (s : Service) : Act → List LifecycleEvent
  | .task .handler _ => s.applying.toList
  | _ => []

def along {α : Type} (adds : Service → Act → List α) (s : Service) : List Act → List α
  | [] => []
  | a :: acts => adds s a ++ (s.perform a).along adds acts

/-- The broadcast that the handler is applying, and those in its line. -/
def line (s : Service) : List LifecycleEvent := s.applying.toList ++ s.events.toList

/-- The broadcasts of a topic that were read and not applied yet, in their order. -/
def inFlight (s : Service) (t : LifecycleTopic) : List LifecycleEvent :=
  t.of s.line ++ ((s.parked? t).map (·.event)).toList

variable {s s' : Service} {t : LifecycleTopic}

theorem along_append {α : Type} (adds : Service → Act → List α) (s : Service)
    (acts more : List Act) :
    s.along adds (acts ++ more) = s.along adds acts ++ (s.run acts).along adds more := by
  induction acts generalizing s with
  | nil => rfl
  | cons a acts ih =>
      show adds s a ++ (s.perform a).along adds (acts ++ more) = _
      rw [ih, ← List.append_assoc]
      rfl

theorem run_append (s : Service) (acts more : List Act) :
    s.run (acts ++ more) = (s.run acts).run more :=
  List.foldl_append

/-!
## The line of the handler
-/

/-- The tasks of the topics are there, and those that wait for room wait in line, each with one
broadcast of its own topic. -/
structure Lined (s : Service) : Prop where
  orderly : s.events.Orderly (s.parked.map (·.ticket))
  capacity : s.events.capacity = 256
  topics : (s.parked.map (·.topic)).Nodup
  told : ∀ p ∈ s.parked, p.event.topic = p.topic
  inlets : ∀ t, ∃ id, s.inlets.lookup (.topic t) = some id

/-- Two states with the same broadcasts on the way. -/
structure Alike (s s' : Service) : Prop where
  events : s'.events = s.events
  applying : s'.applying = s.applying
  parked : s'.parked.Perm s.parked
  inlets : ∀ t, s'.inlets.lookup (.topic t) = s.inlets.lookup (.topic t)

theorem alike_refl (s : Service) : s.Alike s where
  events := rfl
  applying := rfl
  parked := .refl _
  inlets := fun _ => rfl

theorem Lined.parked?_eq_some_iff (h : s.Lined) {p : Parked} :
    s.parked? t = some p ↔ p ∈ s.parked ∧ p.topic = t := by
  unfold parked?
  constructor
  · intro hfound
    exact ⟨List.mem_of_find?_eq_some hfound, by simpa using List.find?_some hfound⟩
  · rintro ⟨hmem, rfl⟩
    have hsome : (s.parked.find? (·.topic = p.topic)).isSome = true :=
      List.find?_isSome.mpr ⟨p, hmem, by simp⟩
    rcases Option.isSome_iff_exists.mp hsome with ⟨q, hq⟩
    have hsame : q.topic = p.topic := by simpa using List.find?_some hq
    rw [hq, List.inj_on_of_nodup_map h.topics (List.mem_of_find?_eq_some hq) hmem hsame]

theorem Lined.parked?_congr (h : s.Lined) (h' : s'.Lined) (hperm : s'.parked.Perm s.parked)
    (t : LifecycleTopic) : s'.parked? t = s.parked? t := by
  apply Option.ext
  intro p
  rw [h.parked?_eq_some_iff, h'.parked?_eq_some_iff, hperm.mem_iff]

theorem Lined.alike (h : s.Lined) (halike : s.Alike s') : s'.Lined where
  orderly := by
    rw [halike.events]
    exact h.orderly.perm (halike.parked.symm.map _)
  capacity := by
    rw [halike.events]
    exact h.capacity
  topics := (halike.parked.map _).nodup_iff.mpr h.topics
  told := fun p hp => h.told p (halike.parked.mem_iff.mp hp)
  inlets := by
    intro t
    rw [halike.inlets]
    exact h.inlets t

theorem Lined.inFlight_alike (h : s.Lined) (halike : s.Alike s') (t : LifecycleTopic) :
    s'.inFlight t = s.inFlight t := by
  unfold inFlight line
  rw [halike.applying, halike.events, h.parked?_congr (h.alike halike) halike.parked]

theorem Lined.length_parked_le (h : s.Lined) : s.parked.length ≤ 5 := by
  have hsub := List.subperm_of_subset h.topics fun t _ => LifecycleTopic.mem_all t
  have hle := hsub.length_le
  rw [List.length_map] at hle
  exact hle

/-!
## Acts of others
-/

theorem lookup_filter {i j : Inlet} (hne : i ≠ j) (inlets : List (Inlet × Channel.SubscriptionId)) :
    (inlets.filter (·.1 ≠ j)).lookup i = inlets.lookup i := by
  induction inlets with
  | nil => rfl
  | cons first rest ih =>
      rcases first with ⟨k, id⟩
      by_cases hk : k = j
      · rw [List.filter_cons_of_neg (by simpa using hk), ih, List.lookup_cons]
        have hother : (i == k) = false := by
          rw [hk]
          exact beq_eq_false_iff_ne.mpr hne
        rw [hother]
      · rw [List.filter_cons_of_pos (by simpa using hk), List.lookup_cons, List.lookup_cons, ih]

theorem alike_closePolls (s : Service) : s.Alike (s.closeInlet .polls) := by
  unfold closeInlet
  split
  · exact alike_refl s
  · refine ⟨rfl, rfl, .refl _, ?_⟩
    intro t
    exact lookup_filter (by simp) s.inlets

theorem Alike.trans {s'' : Service} (h : s.Alike s') (h' : s'.Alike s'') : s.Alike s'' where
  events := h'.events.trans h.events
  applying := h'.applying.trans h.applying
  parked := h'.parked.trans h.parked
  inlets := fun t => (h'.inlets t).trans (h.inlets t)

theorem alike_acceptPoll (s : Service) (e : Envelope) : s.Alike (s.acceptPoll e) := by
  unfold acceptPoll
  split
  next resolver _ _ => exact ⟨rfl, rfl, .refl _, fun _ => rfl⟩
  next resolver _ =>
    have hresolved : s.Alike { s with resolver } := ⟨rfl, rfl, .refl _, fun _ => rfl⟩
    exact hresolved.trans (alike_closePolls _)

theorem alike_stepInlet {i : Inlet} (hother : ∀ t, i ≠ .topic t) : s.Alike (s.stepInlet i) := by
  unfold stepInlet
  cases s.inlets.lookup i with
  | none => exact alike_refl s
  | some id =>
      dsimp only
      have hfree : s.backlog? i = none := by
        cases i with
        | topic t => exact absurd rfl (hother t)
        | _ => rfl
      rw [hfree]
      dsimp only
      split
      next => exact alike_refl s
      next channels m _ =>
        have hreceived : s.Alike { s with channels } := ⟨rfl, rfl, .refl _, fun _ => rfl⟩
        apply hreceived.trans
        cases i with
        | replies => exact ⟨rfl, rfl, .refl _, fun _ => rfl⟩
        | polls => exact alike_acceptPoll _ _
        | topic t => exact absurd rfl (hother t)
        | requests => exact ⟨rfl, rfl, .refl _, fun _ => rfl⟩

/-- Acts that are neither a step of the task of a topic nor one of the handler. -/
def Act.Foreign : Act → Prop
  | .task (.inlet (.topic _)) _ => False
  | .task .handler _ => False
  | _ => True

theorem alike_perform {a : Act} (h : a.Foreign) : s.Alike (s.perform a) := by
  cases a with
  | task task preference =>
      cases task with
      | network task => exact ⟨rfl, rfl, .refl _, fun _ => rfl⟩
      | inlet i =>
          apply alike_stepInlet
          rintro t rfl
          exact h
      | handler => exact h.elim
      | resolver a => exact ⟨rfl, rfl, .refl _, fun _ => rfl⟩
  | resolver a => exact ⟨rfl, rfl, .refl _, fun _ => rfl⟩
  | other op => exact ⟨rfl, rfl, .refl _, fun _ => rfl⟩
  | join binding role => exact ⟨rfl, rfl, .refl _, fun _ => rfl⟩
  | shutdown => exact ⟨rfl, rfl, .refl _, fun _ => rfl⟩

theorem takes_of_foreign {a : Act} (h : a.Foreign) (s : Service) :
    s.takes a = [] ∧ s.applies a = [] := by
  unfold takes applies
  constructor
  · split
    · exact h.elim
    · rfl
  · split
    · exact h.elim
    · rfl

/-!
## Steps of the task of a topic
-/

/-- What the step of the task of a topic comes to. -/
inductive Heard (s : Service) (t : LifecycleTopic) (s' : Service) : Prop where
  | waited (nothing : s.taken? t = none) (alike : s.Alike s')
      (denied : ∀ p, s.parked? t = some p → p.ticket ∉ s.events.granted)
  | dropped (m : Message) (taken : s.taken? t = some m) (fault : Wire.Fault)
      (unread : t.decode m.envelope = .error fault) (alike : s.Alike s')
      (free : s.parked? t = none)
  | lined (m : Message) (taken : s.taken? t = some m) (event : LifecycleEvent)
      (read : t.decode m.envelope = .ok event) (free : s.parked? t = none)
      (orderly : s'.events.Orderly (s.parked.map (·.ticket)))
      (holds : s'.events.toList = s.events.toList ++ [event])
      (waiting : s'.events.waiting = s.events.waiting)
      (granted : s'.events.granted = s.events.granted)
      (capacity : s'.events.capacity = s.events.capacity)
      (applying : s'.applying = s.applying) (parked : s'.parked = s.parked)
      (inlets : s'.inlets = s.inlets)
  | joined (m : Message) (taken : s.taken? t = some m) (event : LifecycleEvent)
      (read : t.decode m.envelope = .ok event) (free : s.parked? t = none) (ticket : Ticket)
      (orderly : s'.events.Orderly (ticket :: s.parked.map (·.ticket)))
      (holds : s'.events.toList = s.events.toList)
      (waiting : s'.events.waiting = s.events.waiting ++ [ticket])
      (granted : s'.events.granted = s.events.granted)
      (capacity : s'.events.capacity = s.events.capacity)
      (applying : s'.applying = s.applying)
      (parked : s'.parked = { topic := t, ticket, event } :: s.parked)
      (inlets : s'.inlets = s.inlets)
  | passed (p : Parked) (waited : s.parked? t = some p) (nothing : s.taken? t = none)
      (answered : p.ticket ∈ s.events.granted)
      (orderly : s'.events.Orderly ((s.parked.map (·.ticket)).erase p.ticket))
      (holds : s'.events.toList = s.events.toList ++ [p.event])
      (waiting : s'.events.waiting = s.events.waiting)
      (granted : s'.events.granted = s.events.granted.erase p.ticket)
      (capacity : s'.events.capacity = s.events.capacity)
      (applying : s'.applying = s.applying) (parked : s'.parked = s.parked.erase p)
      (inlets : s'.inlets = s.inlets)

theorem taken?_of_parked {p : Parked} (h : s.parked? t = some p) : s.taken? t = none := by
  unfold taken?
  rw [h]

theorem taken?_of_free (h : s.parked? t = none) : s.taken? t = s.next? (.topic t) := by
  unfold taken?
  rw [h]

theorem Lined.heard_again (h : s.Lined) {p : Parked} (hp : s.parked? t = some p) :
    s.Heard t (s.notifyAgain p) := by
  have hmem := (h.parked?_eq_some_iff.mp hp).1
  have hnothing := taken?_of_parked hp
  unfold notifyAgain
  rcases h.orderly.retry p.ticket p.event with
    ⟨hanswered, events, hretry, horderly, hholds, hwaiting, hgranted, hcapacity⟩ | ⟨hdenied, hretry⟩
  · rw [hretry]
    exact .passed p hp hnothing hanswered horderly hholds hwaiting hgranted hcapacity rfl rfl rfl
  · rw [hretry]
    refine .waited hnothing ⟨rfl, rfl, ?_, fun _ => rfl⟩ ?_
    · exact (List.perm_cons_erase hmem).symm
    · intro q hq
      cases hp.symm.trans hq
      exact hdenied

theorem Lined.heard_notify (h : s.Lined) (hfree : s.parked? t = none) {m : Message}
    (hm : s.taken? t = some m) (channels : Channels) :
    s.Heard t (({ s with channels } : Service).notify t m.envelope) := by
  unfold notify
  cases hdecode : t.decode m.envelope with
  | error fault => exact .dropped m hm fault hdecode ⟨rfl, rfl, .refl _, fun _ => rfl⟩ hfree
  | ok event =>
      dsimp only
      rcases h.orderly.offer event with
        ⟨events, hoffer, horderly, hholds, hwaiting, hgranted, hcapacity⟩ |
        ⟨events, hoffer, horderly, hholds, hwaiting, hgranted, hcapacity⟩
      · rw [hoffer]
        exact .lined m hm event hdecode hfree horderly hholds hwaiting hgranted hcapacity rfl rfl rfl
      · rw [hoffer]
        exact .joined m hm event hdecode hfree _ horderly hholds hwaiting hgranted hcapacity rfl rfl
          rfl

theorem Lined.heard (h : s.Lined) (t : LifecycleTopic) : s.Heard t (s.stepInlet (.topic t)) := by
  cases hp : s.parked? t with
  | some p =>
      rcases h.inlets t with ⟨id, hid⟩
      have hbacklog : s.backlog? (.topic t) = some p := hp
      unfold stepInlet
      rw [hid, hbacklog]
      exact h.heard_again hp
  | none =>
      rcases stepInlet_eq s (i := .topic t) hp with ⟨channels, hstep⟩
      have htaken := taken?_of_free hp
      rw [hstep]
      cases hnext : s.next? (.topic t) with
      | none =>
          rw [hnext] at htaken
          refine .waited htaken (alike_refl s) ?_
          intro q hq
          rw [hp] at hq
          cases hq
      | some m =>
          rw [hnext] at htaken
          exact h.heard_notify hp htaken channels

/-!
## Steps of the handler
-/

inductive Handled (s s' : Service) : Prop where
  | waited (idle : s.applying = none) (empty : s.events.toList = []) (same : s' = s)
  | took (idle : s.applying = none) (event : LifecycleEvent) (applying : s'.applying = some event)
      (first : s.events.toList = event :: s'.events.toList)
      (orderly : s'.events.Orderly (s.parked.map (·.ticket)))
      (waiting : s'.events.waiting = s.events.waiting.tail)
      (granted : s'.events.granted = s.events.granted ++ s.events.waiting.head?.toList)
      (capacity : s'.events.capacity = s.events.capacity) (parked : s'.parked = s.parked)
      (inlets : s'.inlets = s.inlets)
  | applied (event : LifecycleEvent) (busy : s.applying = some event) (done : s'.applying = none)
      (resolver : s'.resolver = (s.resolver.apply event).1) (events : s'.events = s.events)
      (parked : s'.parked = s.parked) (inlets : s'.inlets = s.inlets)

theorem Lined.handled (h : s.Lined) : s.Handled s.stepHandler := by
  unfold stepHandler
  cases hbusy : s.applying with
  | some event => exact .applied event hbusy rfl rfl rfl rfl rfl
  | none =>
      dsimp only
      rcases h.orderly.take with ⟨htake, hempty⟩ |
        ⟨event, events, htake, horderly, hfirst, hwaiting, hgranted, hcapacity⟩
      · rw [htake]
        exact .waited hbusy hempty rfl
      · rw [htake]
        exact .took hbusy event rfl hfirst horderly hwaiting hgranted hcapacity rfl rfl

theorem Handled.parked (h : s.Handled s') : s'.parked = s.parked := by
  cases h with
  | waited _ _ same => rw [same]
  | took _ _ _ _ _ _ _ _ parked _ => exact parked
  | applied _ _ _ _ _ parked _ => exact parked

theorem Handled.parked?_eq (h : s.Handled s') (t : LifecycleTopic) :
    s'.parked? t = s.parked? t := by
  unfold parked?
  rw [h.parked]

theorem Handled.granted (h : s.Handled s') : s.events.granted ⊆ s'.events.granted := by
  cases h with
  | waited _ _ same => exact same ▸ List.Subset.refl _
  | took _ _ _ _ _ _ granted _ _ _ => exact granted ▸ List.subset_append_left _ _
  | applied _ _ _ _ events _ _ => exact events ▸ List.Subset.refl _

theorem Handled.line_eq (h : s.Handled s') : s.line = s.applying.toList ++ s'.line := by
  unfold line
  cases h with
  | waited idle _ same =>
      rw [same, idle]
      rfl
  | took idle event applying first _ _ _ _ _ _ =>
      rw [idle, applying, first]
      rfl
  | applied event busy done _ events _ _ =>
      rw [busy, done, events]
      rfl

/-!
## What stays
-/

theorem Heard.parked?_of_ne (hheard : s.Heard t s') (h : s.Lined) (h' : s'.Lined)
    {other : LifecycleTopic} (hne : other ≠ t) : s'.parked? other = s.parked? other := by
  cases hheard with
  | waited _ alike _ => exact h.parked?_congr h' alike.parked other
  | dropped _ _ _ _ alike _ => exact h.parked?_congr h' alike.parked other
  | lined _ _ _ _ _ _ _ _ _ _ _ parked _ => exact h.parked?_congr h' (.of_eq parked) other
  | joined _ _ event _ _ ticket _ _ _ _ _ _ parked _ =>
      apply Option.ext
      intro p
      rw [h.parked?_eq_some_iff, h'.parked?_eq_some_iff, parked, List.mem_cons]
      constructor
      · rintro ⟨rfl | hmem, htopic⟩
        · exact absurd htopic.symm hne
        · exact ⟨hmem, htopic⟩
      · exact fun hp => ⟨Or.inr hp.1, hp.2⟩
  | passed p waited _ _ _ _ _ _ _ _ parked _ =>
      have htopic := (h.parked?_eq_some_iff.mp waited).2
      apply Option.ext
      intro q
      rw [h.parked?_eq_some_iff, h'.parked?_eq_some_iff, parked]
      constructor
      · exact fun hq => ⟨List.mem_of_mem_erase hq.1, hq.2⟩
      · rintro ⟨hmem, hq⟩
        refine ⟨(List.mem_erase_of_ne ?_).mpr hmem, hq⟩
        rintro rfl
        exact hne (hq.symm.trans htopic)

theorem Lined.after_heard (h : s.Lined) (hheard : s.Heard t s') : s'.Lined := by
  cases hheard with
  | waited _ alike _ => exact h.alike alike
  | dropped _ _ _ _ alike _ => exact h.alike alike
  | lined _ _ _ _ _ orderly _ _ _ capacity _ parked inlets =>
      constructor
      · exact parked ▸ orderly
      · exact capacity.trans h.capacity
      · exact parked ▸ h.topics
      · exact parked ▸ h.told
      · exact inlets ▸ h.inlets
  | joined m _ event read free ticket orderly _ _ _ capacity _ parked inlets =>
      constructor
      · exact parked ▸ orderly
      · exact capacity.trans h.capacity
      · rw [parked]
        refine List.nodup_cons.mpr ⟨?_, h.topics⟩
        intro hmem
        rcases List.mem_map.mp hmem with ⟨p, hp, htopic⟩
        rw [h.parked?_eq_some_iff.mpr ⟨hp, htopic⟩] at free
        cases free
      · rw [parked]
        exact List.forall_mem_cons.mpr ⟨LifecycleTopic.topic_of_decode read, h.told⟩
      · exact inlets ▸ h.inlets
  | passed p waited _ _ orderly _ _ _ capacity _ parked inlets =>
      have hmem := (h.parked?_eq_some_iff.mp waited).1
      constructor
      · have hsplit := (List.perm_cons_erase hmem).map (·.ticket)
        have herased := hsplit.erase p.ticket
        rw [List.map_cons, List.erase_cons_head] at herased
        exact parked ▸ orderly.perm herased
      · exact capacity.trans h.capacity
      · exact parked ▸ h.topics.sublist ((List.erase_sublist).map _)
      · exact fun q hq => h.told q (List.mem_of_mem_erase (parked ▸ hq))
      · exact inlets ▸ h.inlets

theorem Lined.after_handled (h : s.Lined) (hhandled : s.Handled s') : s'.Lined := by
  cases hhandled with
  | waited _ _ same => exact same ▸ h
  | took _ _ _ _ orderly _ _ capacity parked inlets =>
      constructor
      · exact parked ▸ orderly
      · exact capacity.trans h.capacity
      · exact parked ▸ h.topics
      · exact parked ▸ h.told
      · exact inlets ▸ h.inlets
  | applied _ _ _ _ events parked inlets =>
      constructor
      · rw [events, parked]
        exact h.orderly
      · exact events ▸ h.capacity
      · exact parked ▸ h.topics
      · exact parked ▸ h.told
      · exact inlets ▸ h.inlets

theorem Lined.perform (h : s.Lined) (a : Act) : (s.perform a).Lined := by
  by_cases hforeign : a.Foreign
  · exact h.alike (alike_perform hforeign)
  · unfold Act.Foreign at hforeign
    split at hforeign
    next t preference => exact h.after_heard (h.heard t)
    next preference => exact h.after_handled h.handled
    next => exact absurd trivial hforeign

theorem Lined.run (h : s.Lined) (acts : List Act) : (s.run acts).Lined := by
  induction acts generalizing s with
  | nil => exact h
  | cons a acts ih => exact ih (h.perform a)

/-!
## Nothing lost, nothing doubled, nothing overtaken
-/

theorem of_append (t : LifecycleTopic) (events more : List LifecycleEvent) :
    t.of (events ++ more) = t.of events ++ t.of more :=
  List.filter_append ..

theorem of_singleton (t : LifecycleTopic) (event : LifecycleEvent) :
    t.of [event] = if event.topic = t then [event] else [] := by
  unfold LifecycleTopic.of
  by_cases htopic : event.topic = t <;> simp [htopic]

theorem read_taken (t other : LifecycleTopic) (m : Message) :
    t.read [(other, m)] = if other = t then (t.decode m.envelope).toOption.toList else [] := by
  unfold LifecycleTopic.read
  by_cases htopic : other = t
  · rw [if_pos htopic]
    cases hdecode : (t.decode m.envelope).toOption <;> simp [htopic, hdecode]
  · simp [htopic]

theorem Lined.balance_heard (h : s.Lined) (hheard : s.Heard t s') (other : LifecycleTopic) :
    s.inFlight other ++ other.read ((s.taken? t).toList.map fun m => (t, m)) =
      s'.inFlight other := by
  have h' := h.after_heard hheard
  have helsewhere := fun hne : other ≠ t => hheard.parked?_of_ne h h' hne
  have hend : ∀ {event : LifecycleEvent}, s'.applying = s.applying →
      s'.events.toList = s.events.toList ++ [event] →
        other.of s'.line = other.of s.line ++ other.of [event] := by
    intro event happlying hholds
    unfold line
    rw [happlying, hholds, ← List.append_assoc, of_append]
  cases hheard with
  | waited nothing alike _ =>
      rw [nothing, h.inFlight_alike alike]
      exact List.append_nil _
  | dropped m taken fault unread alike _ =>
      have hnone : other.read [(t, m)] = [] := by
        rw [read_taken]
        split
        next heq =>
          rw [← heq, unread]
          rfl
        next => rfl
      rw [taken, Option.toList_some, List.map_singleton, hnone, h.inFlight_alike alike]
      exact List.append_nil _
  | lined m taken event read free _ holds _ _ _ applying parked _ =>
      have htopic := LifecycleTopic.topic_of_decode read
      have hparked := h.parked?_congr h' (.of_eq parked) other
      rw [taken, Option.toList_some, List.map_singleton, read_taken]
      unfold inFlight
      rw [hend applying holds, hparked, of_singleton, htopic]
      by_cases hsame : t = other
      · subst hsame
        rw [if_pos rfl, if_pos rfl, free, read]
        simp [Except.toOption]
      · rw [if_neg hsame, if_neg hsame, List.append_nil, List.append_nil]
  | joined m taken event read free ticket _ holds _ _ _ applying parked _ =>
      rw [taken, Option.toList_some, List.map_singleton, read_taken]
      unfold inFlight line
      rw [applying, holds]
      by_cases hsame : t = other
      · subst hsame
        have hjoined : s'.parked? t = some { topic := t, ticket, event } :=
          h'.parked?_eq_some_iff.mpr ⟨parked ▸ List.mem_cons_self, rfl⟩
        rw [if_pos rfl, free, hjoined, read]
        simp [Except.toOption]
      · rw [if_neg hsame, helsewhere (Ne.symm hsame), List.append_nil]
  | passed p waited nothing _ _ holds _ _ _ applying parked _ =>
      rcases h.parked?_eq_some_iff.mp waited with ⟨hmem, htopic⟩
      have htold : p.event.topic = t := (h.told p hmem).trans htopic
      rw [nothing]
      unfold inFlight
      rw [hend applying holds, of_singleton, htold]
      by_cases hsame : t = other
      · subst hsame
        have hpassed : s'.parked? t = none := by
          apply Option.eq_none_iff_forall_ne_some.mpr
          intro q hq
          rcases h'.parked?_eq_some_iff.mp hq with ⟨hleft, hq⟩
          rw [parked] at hleft
          have hbefore : q = p := List.inj_on_of_nodup_map h.topics
            (List.mem_of_mem_erase hleft) hmem (hq.trans htopic.symm)
          rw [hbefore] at hleft
          exact (h.topics.of_map _).not_mem_erase hleft
        rw [if_pos rfl, waited, hpassed]
        simp [LifecycleTopic.read]
      · rw [if_neg hsame, helsewhere (Ne.symm hsame), List.append_nil]
        exact List.append_nil _

theorem balance_handled (hhandled : s.Handled s') (t : LifecycleTopic) :
    s.inFlight t = t.of s.applying.toList ++ s'.inFlight t := by
  unfold inFlight
  rw [hhandled.line_eq, hhandled.parked?_eq, of_append, List.append_assoc]

/-- What the tasks of the topics take goes on its way, and what the handler applies leaves it. -/
theorem Lined.balance (h : s.Lined) (a : Act) (t : LifecycleTopic) :
    s.inFlight t ++ t.read (s.takes a) = t.of (s.applies a) ++ (s.perform a).inFlight t := by
  by_cases hforeign : a.Foreign
  · rcases takes_of_foreign hforeign s with ⟨htakes, happlies⟩
    rw [htakes, happlies, h.inFlight_alike (alike_perform hforeign)]
    exact List.append_nil _
  · unfold Act.Foreign at hforeign
    split at hforeign
    next topic preference => exact h.balance_heard (h.heard topic) t
    next preference =>
      show s.inFlight t ++ [] = t.of s.applying.toList ++ s.stepHandler.inFlight t
      rw [List.append_nil]
      exact balance_handled h.handled t
    next => exact absurd trivial hforeign

theorem read_append (t : LifecycleTopic) (taken more : List (LifecycleTopic × Message)) :
    t.read (taken ++ more) = t.read taken ++ t.read more :=
  List.filterMap_append

theorem Lined.balance_run (h : s.Lined) (acts : List Act) (t : LifecycleTopic) :
    s.inFlight t ++ t.read (s.along takes acts) =
      t.of (s.along applies acts) ++ (s.run acts).inFlight t := by
  induction acts generalizing s with
  | nil => exact List.append_nil _
  | cons a acts ih =>
      show s.inFlight t ++ t.read (s.takes a ++ (s.perform a).along takes acts) =
        t.of (s.applies a ++ (s.perform a).along applies acts) ++ ((s.perform a).run acts).inFlight t
      rw [read_append, of_append, ← List.append_assoc, h.balance a t, List.append_assoc,
        ih (h.perform a), List.append_assoc]

/-!
## A service that has just started
-/

theorem foldl_openInlet (s : Service) (inlets : List Inlet) :
    (inlets.foldl openInlet s).events = s.events ∧
      (inlets.foldl openInlet s).applying = s.applying ∧
      (inlets.foldl openInlet s).parked = s.parked ∧
      (inlets.foldl openInlet s).inlets.map (·.1) = s.inlets.map (·.1) ++ inlets := by
  induction inlets generalizing s with
  | nil => exact ⟨rfl, rfl, rfl, (List.append_nil _).symm⟩
  | cons i inlets ih =>
      rcases ih (s.openInlet i) with ⟨hevents, happlying, hparked, hinlets⟩
      refine ⟨hevents, happlying, hparked, ?_⟩
      show (inlets.foldl openInlet (s.openInlet i)).inlets.map (·.1) = _
      rw [hinlets]
      show (s.inlets ++ [(i, s.channels.made)]).map (·.1) ++ inlets = _
      rw [List.map_append, List.append_assoc]
      rfl

end Service
end MetricGateway
