import MetricGateway.Proofs.Answering.Setup
import MetricGateway.Proofs.Fetching.Replies

/-!
# What a request makes its task send

A request that was dispatched is an errand of its task.  The task sends at most its fetch and one
answer: first the fetch, if it has to ask a translator, and then the answer, which it takes from the
cache, makes up without data, or has got as the reply to its own fetch.  Each stage of an errand
says which messages were sent so far and what the task still has in hand; every step of the task
leads from one stage to another, and whatever else happens leaves it in its stage.
-/

namespace MetricGateway
namespace Fetching

open Pulling (Polling)
open Resolver (TaskId Task Requester)

/-!
## Messages that something brings to the outbox
-/

def sentIn (s : Recorded Resolver) (a : Act) : List Message :=
  (act s a).host.common.outbox.toList.drop s.host.common.outbox.toList.length

def Act.isStep (id : TaskId) : Act → Bool
  | .step other => other = id
  | _ => false

theorem Act.isStep_iff {id : TaskId} {a : Act} : a.isStep id = true ↔ a = .step id := by
  cases a <;> simp [isStep]

/-- The messages that the steps of a task bring to the outbox in a run. -/
def sentBy (id : TaskId) (s : Recorded Resolver) : List Act → List Message
  | [] => []
  | a :: acts => (if a.isStep id then sentIn s a else []) ++ sentBy id (act s a) acts

theorem sentBy_append (id : TaskId) (s : Recorded Resolver) (acts more : List Act) :
    sentBy id s (acts ++ more) = sentBy id s acts ++ sentBy id (run s acts) more := by
  induction acts generalizing s with
  | nil => rfl
  | cons a acts ih =>
      show _ ++ sentBy id (act s a) (acts ++ more) = (_ ++ sentBy id (act s a) acts) ++ _
      rw [ih, List.append_assoc]
      rfl

theorem sentBy_step (id : TaskId) (s : Recorded Resolver) :
    sentBy id s [.step id] = sentIn s (.step id) := by
  unfold sentBy
  rw [if_pos (Act.isStep_iff.mpr rfl)]
  exact List.append_nil _

theorem sentBy_of_ne {id : TaskId} {a : Act} (ha : a ≠ .step id) (s : Recorded Resolver) :
    sentBy id s [a] = [] := by
  unfold sentBy
  rw [if_neg fun hstep => ha (Act.isStep_iff.mp hstep)]
  rfl

theorem sentIn_of_append {s : Recorded Resolver} {a : Act} {own : List Message}
    (h : (act s a).host.common.outbox.toList = s.host.common.outbox.toList ++ own) :
    sentIn s a = own := by
  unfold sentIn
  rw [h, List.drop_left]

/-!
## Errands
-/

/-- A request that was dispatched, from the state in which its task was there. -/
structure Errand where
  start : Recorded Resolver
  id : TaskId
  request : MetricRequest
  key : String
  correlation : String

namespace Errand

def requester (x : Errand) : Requester :=
  .outbox x.start.host.topology.responseExchange x.key x.correlation

def address (x : Errand) (reply : Envelope) : Message where
  exchange := x.start.host.topology.responseExchange
  key := x.key
  envelope := reply.withCorrelation x.correlation

/-- A message asks a translator for the metric of the request, under an id that was given out for
it. -/
def Fetch (x : Errand) (m : Message) : Prop :=
  ∃ translator n, x.start.host.common.issued ≤ n ∧
    m = x.start.host.fetchMessage x.request translator (Correlation.id n)

/-- Where the answer comes from, after the fetches that were sent. -/
inductive Source (x : Errand) (acts : List Act) : List Message → Envelope → Prop where
  | cached {earlier later : List Act} {body : Wire.Bytes}
      (hacts : acts = earlier ++ .step x.id :: later)
      (hcached : let r := (run x.start earlier).host
        (r.collaborators.cachedValue r.now x.request.metric).2 = .ok (some body)) :
      Source x acts [] (Envelope.ofBody body .ok)
  | noData {earlier later : List Act} (hacts : acts = earlier ++ .step x.id :: later)
      (hroute : x.start.host.routes.key? x.request.containerKind = none) :
      Source x acts []
        (Envelope.pack (Reading.noData x.request (run x.start earlier).host.common.wall) .ok)
  | fetched {fetch : Message} {reply : Envelope} (hfetch : x.Fetch fetch)
      (hid : reply.correlation = fetch.envelope.correlation) (hrouted : .route reply ∈ acts) :
      Source x acts [fetch] reply

def Fetches (x : Errand) (ms : List Message) : Prop := ms.length ≤ 1 ∧ ∀ m ∈ ms, x.Fetch m

def Answer (x : Errand) (acts : List Act) (fetches : List Message) (m : Message) : Prop :=
  ∃ reply, x.Source acts fetches reply ∧ m = x.address reply

structure Runs (x : Errand) (r : Resolver) (t : Task) : Prop where
  task : r.tasks[x.id]? = some t
  request : t.request = x.request
  requester : t.requester = x.requester

/-- How far an errand has got, and the messages that were sent for it. -/
inductive Stage (x : Errand) (acts : List Act) (r : Resolver) : List Message → Prop where
  | starting {t : Task} (hruns : x.Runs r t) (hphase : t.phase = .starting) : Stage x acts r []
  | fetching {t : Task} {ticket : Ticket} {fetch : Message} {correlation : String}
      {settings : MetricSettings} (hruns : x.Runs r t)
      (hphase : t.phase = .fetching ticket fetch correlation settings) (hfetch : x.Fetch fetch)
      (hid : fetch.envelope.correlation = correlation) : Stage x acts r []
  | awaiting {t : Task} {wait : WaitId} {fetch : Message} {correlation : String}
      {settings : MetricSettings} (hruns : x.Runs r t)
      (hphase : t.phase = .awaiting wait correlation settings) (hfetch : x.Fetch fetch)
      (hid : fetch.envelope.correlation = correlation)
      (hheard : ∀ reply, r.correlator.Handed wait correlation reply → .route reply ∈ acts) :
      Stage x acts r [fetch]
  | answering {t : Task} {ticket : Ticket} {answer : Message} {resolution : Resolver.Resolution}
      {fetches : List Message} (hruns : x.Runs r t)
      (hphase : t.phase = .answering ticket answer resolution)
      (hanswer : x.Answer acts fetches answer) : Stage x acts r fetches
  | answered {answer : Message} {fetches : List Message} (hgone : r.tasks[x.id]? = none)
      (hanswer : x.Answer acts fetches answer) : Stage x acts r (fetches ++ [answer])
  | ended {fetches : List Message} (hgone : r.tasks[x.id]? = none) (hfetches : x.Fetches fetches) :
      Stage x acts r fetches

variable {x : Errand} {acts : List Act} {r r' : Resolver}

theorem fetches_nil (x : Errand) : x.Fetches [] :=
  ⟨Nat.zero_le 1, fun _ hm => absurd hm List.not_mem_nil⟩

theorem Fetch.fetches {fetch : Message} (h : x.Fetch fetch) : x.Fetches [fetch] := by
  refine ⟨Nat.le_refl 1, ?_⟩
  intro m hm
  rw [List.mem_singleton.mp hm]
  exact h

theorem Answer.fetches {fetches : List Message} {m : Message} (h : x.Answer acts fetches m) :
    x.Fetches fetches := by
  rcases h with ⟨reply, hsource, _⟩
  cases hsource with
  | cached => exact fetches_nil x
  | noData => exact fetches_nil x
  | fetched hfetch => exact hfetch.fetches

theorem Source.append {fetches : List Message} {reply : Envelope}
    (h : x.Source acts fetches reply) (more : List Act) :
    x.Source (acts ++ more) fetches reply := by
  cases h with
  | @cached earlier later body hacts hcached =>
      have hmore : acts ++ more = earlier ++ .step x.id :: (later ++ more) := by
        rw [hacts, List.append_assoc, List.cons_append]
      exact .cached hmore hcached
  | @noData earlier later hacts hroute =>
      have hmore : acts ++ more = earlier ++ .step x.id :: (later ++ more) := by
        rw [hacts, List.append_assoc, List.cons_append]
      exact .noData hmore hroute
  | fetched hfetch hid hrouted => exact .fetched hfetch hid (List.mem_append_left more hrouted)

theorem Answer.append {fetches : List Message} {m : Message} (h : x.Answer acts fetches m)
    (more : List Act) : x.Answer (acts ++ more) fetches m := by
  rcases h with ⟨reply, hsource, rfl⟩
  exact ⟨reply, hsource.append more, rfl⟩

theorem Stage.split {sent : List Message} (h : x.Stage acts r sent) :
    ∃ fetches answers, sent = fetches ++ answers ∧ x.Fetches fetches ∧ answers.length ≤ 1 ∧
      ∀ m ∈ answers, x.Answer acts fetches m := by
  have hunanswered : ∀ {fetches : List Message}, x.Fetches fetches →
      ∃ fetches' answers, fetches = fetches' ++ answers ∧ x.Fetches fetches' ∧
        answers.length ≤ 1 ∧ ∀ m ∈ answers, x.Answer acts fetches' m := by
    intro fetches hfetches
    exact ⟨fetches, [], (List.append_nil _).symm, hfetches, Nat.zero_le 1,
      fun _ hm => absurd hm List.not_mem_nil⟩
  cases h with
  | starting => exact hunanswered (fetches_nil x)
  | fetching => exact hunanswered (fetches_nil x)
  | awaiting _ _ hfetch => exact hunanswered hfetch.fetches
  | answering _ _ hanswer => exact hunanswered hanswer.fetches
  | @answered answer fetches _ hanswer =>
      refine ⟨fetches, [answer], rfl, hanswer.fetches, Nat.le_refl 1, ?_⟩
      intro m hm
      rw [List.mem_singleton.mp hm]
      exact hanswer
  | ended _ hfetches => exact hunanswered hfetches

end Errand

/-!
## What others do

A task is changed by its own steps alone, and its wait is reached by replies under its id alone.
-/

theorem handed_unique {c : Correlator Envelope} {wait : WaitId} {correlation : String}
    {reply reply' : Envelope} (h : c.Handed wait correlation reply)
    (h' : c.Handed wait correlation reply') : reply = reply' := by
  rcases h with ⟨w, place, hw, _, hslot, _⟩
  rcases h' with ⟨w', place', hw', _, hslot', _⟩
  cases hw.symm.trans hw'
  cases hslot.symm.trans hslot'
  rfl

theorem Correlated.handed_of_result {r : Resolver} (h : Correlated r) {id : TaskId} {t : Task}
    {wait : WaitId} {correlation : String} {settings : MetricSettings} {reply : Envelope}
    (htask : r.tasks[id]? = some t) (hphase : t.phase = .awaiting wait correlation settings)
    (hresult : r.correlator.result? wait r.now = some (.ok reply)) :
    r.correlator.Handed wait correlation reply := by
  rcases h.open_or_handed htask hphase with ⟨w, hw, _, hslot, _⟩ | ⟨e, hhanded⟩
  · rcases Correlator.result?_ok hresult with ⟨w', place, hw', hslot'⟩
    cases hw.symm.trans hw'
    cases hslot.symm.trans hslot'
  · rw [Correlator.result?_of_handed hhanded] at hresult
    cases hresult
    exact hhanded

theorem Correlated.handed_route {r : Resolver} (h : Correlated r) {id : TaskId} {t : Task}
    {wait : WaitId} {settings : MetricSettings} {e reply : Envelope}
    (htask : r.tasks[id]? = some t) (hphase : t.phase = .awaiting wait e.correlation settings)
    (hhanded : (r.route e).1.correlator.Handed wait e.correlation reply) :
    r.correlator.Handed wait e.correlation reply ∨ e = reply := by
  rcases h.route_cases e with
    hbackground | ⟨other, x, wait', settings', hx, hphase', hopen, _, hrouted⟩
  · left
    rw [← hbackground.correlator]
    exact hhanded
  · right
    have hsame : other = id :=
      h.unique (carries_of_awaiting hx hphase') (carries_of_awaiting htask hphase)
    subst hsame
    cases htask.symm.trans hx
    cases hphase.symm.trans hphase'
    rw [hrouted] at hhanded
    exact handed_unique (Correlator.handed_send hopen e) hhanded

/-- A reply that has reached the wait of a task had reached it before, or was routed just now. -/
theorem Correlated.handed_before {s : Recorded Resolver} (h : Correlated s.host) {id : TaskId}
    {t : Task} {wait : WaitId} {correlation : String} {settings : MetricSettings}
    (htask : s.host.tasks[id]? = some t) (hphase : t.phase = .awaiting wait correlation settings)
    {a : Act} (ha : a ≠ .step id) {reply : Envelope}
    (hhanded : (Fetching.act s a).host.correlator.Handed wait correlation reply) :
    s.host.correlator.Handed wait correlation reply ∨ a = .route reply := by
  have hquiet : ∀ {r' : Resolver}, SameButOutbox s.host r' →
      r'.correlator.Handed wait correlation reply →
        s.host.correlator.Handed wait correlation reply := by
    rintro r' ⟨outbox, rfl⟩ hafter
    exact hafter
  rcases act_cases s a with heq | rfl | rfl
  · rw [heq] at hhanded
    by_cases hroute : ∃ e, a = .route e ∧ e.correlation = correlation
    · rcases hroute with ⟨e, rfl, rfl⟩
      exact (h.handed_route htask hphase hhanded).imp_right (congrArg Act.route)
    · left
      have hcause : a.cause ≠ .task id := fun hcause => ha (Act.eq_step hcause)
      have hreply : ∀ e, a.cause = .reply e → e.correlation ≠ correlation ∨
          ∃ e', s.host.correlator.Handed wait correlation e' := by
        intro e he
        left
        intro hid
        cases a <;> cases he
        exact hroute ⟨_, rfl, hid⟩
      have hsame := (h.waits_effect (effect_actOn s.host a) htask hphase hcause hreply).2
      exact hhanded.of_sameAt ⟨hsame.waits.symm, hsame.registered.symm⟩
  · exact Or.inl (hquiet (sameButOutbox_take s) hhanded)
  · exact Or.inl (hquiet (sameButOutbox_closeOutbox s) hhanded)

theorem tasks_act_of_ne {s : Recorded Resolver} {id : TaskId} (hid : id < s.host.started) {a : Act}
    (ha : a ≠ .step id) : (act s a).host.tasks[id]? = s.host.tasks[id]? := by
  have hcause : a.cause ≠ .task id := fun hcause => ha (Act.eq_step hcause)
  rcases act_cases s a with heq | rfl | rfl
  · rw [heq]
    exact (effect_actOn s.host a).tasks_of_ne hcause hid
  · rcases sameButOutbox_take s with ⟨outbox, heq⟩
    rw [heq]
    rfl
  · rfl

namespace Errand

variable {x : Errand} {acts : List Act} {r r' : Resolver} {s : Recorded Resolver}

theorem Runs.of_eq {t : Task} (h : x.Runs r t) (htasks : r'.tasks[x.id]? = r.tasks[x.id]?) :
    x.Runs r' t :=
  ⟨htasks.trans h.task, h.request, h.requester⟩

theorem Stage.other {sent : List Message} (h : x.Stage acts s.host sent)
    (hcorrelated : Correlated s.host) (hid : x.id < s.host.started) {a : Act}
    (ha : a ≠ .step x.id) : x.Stage (acts ++ [a]) (act s a).host sent := by
  have htasks := tasks_act_of_ne hid ha
  cases h with
  | starting hruns hphase => exact .starting (hruns.of_eq htasks) hphase
  | fetching hruns hphase hfetch hid => exact .fetching (hruns.of_eq htasks) hphase hfetch hid
  | awaiting hruns hphase hfetch hid hheard =>
      refine .awaiting (hruns.of_eq htasks) hphase hfetch hid ?_
      intro reply hhanded
      rcases hcorrelated.handed_before hruns.task hphase ha hhanded with hbefore | rfl
      · exact List.mem_append_left [a] (hheard reply hbefore)
      · exact List.mem_append_right acts List.mem_cons_self
  | answering hruns hphase hanswer =>
      exact .answering (hruns.of_eq htasks) hphase (hanswer.append [a])
  | answered hgone hanswer => exact .answered (htasks.trans hgone) (hanswer.append [a])
  | ended hgone hfetches => exact .ended (htasks.trans hgone) hfetches

end Errand

end Fetching
end MetricGateway
