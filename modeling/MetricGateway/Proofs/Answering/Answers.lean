import MetricGateway.Proofs.Answering.Stages

/-!
# Answers stay with their requests

Many requests are answered at one time, and their tasks share the cache, the waits and the outbox.
Still, whatever the order in which they take their steps, the task of a request sends at most one
fetch and one answer.  The answer goes to the requester, under the key and the id of the request,
and holds what the cache had for its metric, no data for its metric, or what came as a reply to its
own fetch.
-/

namespace MetricGateway
namespace Fetching

open Pulling (Polling)
open Resolver (TaskId Task Requester)

/-!
## Who sends
-/

theorem sentIn_eq_nil (s : Recorded Resolver) {a : Act} (hstep : ∀ id, a ≠ .step id)
    (hpolling : ∀ op, a ≠ .polling op) : sentIn s a = [] := by
  cases a with
  | step id => exact absurd rfl (hstep id)
  | polling op => exact absurd rfl (hpolling op)
  | take =>
      have hlist := s.host.common.outbox.toList_take
      have hafter : (act s .take).host.common.outbox = s.host.common.outbox.take.1 := by
        rw [act_take]
        rfl
      unfold sentIn
      rw [hafter, hlist, List.length_append]
      exact List.drop_eq_nil_of_le (Nat.le_add_left _ _)
  | closeOutbox => exact List.drop_eq_nil_of_le (Nat.zero_le _)
  | start request requester timeout => exact sentIn_of_append (List.append_nil _).symm
  | dispatch e =>
      apply sentIn_of_append
      rw [List.append_nil]
      show (s.host.dispatch e).1.common.outbox.toList = _
      unfold Resolver.dispatch
      split
      · rfl
      · split <;> rfl
  | route e =>
      exact sentIn_of_append
        ((route_frame s.host e).2.2.2.sent.trans (List.append_nil _).symm)
  | handlePoll history e =>
      exact sentIn_of_append
        ((still_handlePoll s.host history e).silent.sent.trans (List.append_nil _).symm)
  | apply event =>
      exact sentIn_of_append
        ((still_apply s.host event).silent.sent.trans (List.append_nil _).symm)
  | collaborate collaborators => exact sentIn_of_append (List.append_nil _).symm
  | setClock now => exact sentIn_of_append (List.append_nil _).symm

theorem exchange_of_mem_sentIn {s : Recorded Resolver} {exchange : String}
    (h : s.host.polling.PollsTo exchange) {a : Act} (hstep : ∀ id, a ≠ .step id) {m : Message}
    (hm : m ∈ sentIn s a) : m.exchange = exchange := by
  by_cases hpolling : ∃ op, a = .polling op
  · rcases hpolling with ⟨op, rfl⟩
    rcases (h.perform op).sent with ⟨polls, hpolls, hall⟩
    have hsent : sentIn s (.polling op) = polls := sentIn_of_append hpolls
    rw [hsent] at hm
    exact hall m hm
  · rw [sentIn_eq_nil s hstep fun op heq => hpolling ⟨op, heq⟩] at hm
    cases hm

/-!
## Deliveries
-/

section Dispatch

variable {r : Resolver} {e : Envelope}

theorem dispatch_of_request {request : MetricRequest} {key : String}
    (hrequest : e.unpack = .ok request) (hkey : e.replyKey? = some key) :
    r.dispatch e =
      ((r.start request (.outbox r.topology.responseExchange key e.correlation)
        r.settings.fetchTimeout).1, some r.started) := by
  unfold Resolver.dispatch
  rw [hrequest]
  dsimp only
  rw [hkey]
  rfl

/-- A delivery that does not decode or says nowhere to reply starts no task, and changes nothing but
the counters. -/
theorem dispatch_of_dropped
    (h : (∀ request : MetricRequest, e.unpack ≠ .ok request) ∨ e.replyKey? = none) :
    (r.dispatch e).2 = none ∧ ∃ f, (r.dispatch e).1 = r.count f := by
  unfold Resolver.dispatch
  cases hrequest : (e.unpack : Except Wire.Fault MetricRequest) with
  | error fault => exact ⟨rfl, _, rfl⟩
  | ok request =>
      rcases h with hundecoded | hkeyless
      · exact absurd hrequest (hundecoded request)
      · dsimp only
        rw [hkeyless]
        exact ⟨rfl, id, rfl⟩

end Dispatch

theorem followed_dispatch {s : Recorded Resolver} (h : Correlated s.host) {e : Envelope}
    {request : MetricRequest} {key : String} (hrequest : e.unpack = .ok request)
    (hkey : e.replyKey? = some key) :
    Errand.Followed ⟨act s (.dispatch e), s.host.started, request, key, e.correlation⟩ [] := by
  have hhost : (act s (.dispatch e)).host =
      (s.host.start request (.outbox s.host.topology.responseExchange key e.correlation)
        s.host.settings.fetchTimeout).1 :=
    congrArg Prod.fst (dispatch_of_request hrequest hkey)
  constructor
  · exact h.act (.dispatch e)
  · show s.host.started < (act s (.dispatch e)).host.started
    rw [hhost]
    exact Nat.lt_succ_self _
  · exact Nat.le_refl _
  · refine .starting (t := {
      request
      requester := .outbox s.host.topology.responseExchange key e.correlation
      timeout := s.host.settings.fetchTimeout
      startedAt := s.host.now }) ⟨?_, rfl, ?_⟩ rfl
    · show (act s (.dispatch e)).host.tasks[s.host.started]? = _
      rw [hhost]
      exact Std.ExtTreeMap.getElem?_insert_self
    · show _ = Requester.outbox (act s (.dispatch e)).host.topology.responseExchange _ _
      rw [hhost]
      rfl

/-!
## Answers
-/

theorem Errand.Fetch.exchange {x : Errand} {m : Message} (h : x.Fetch m) :
    m.exchange = x.start.host.topology.fetchExchange := by
  rcases h with ⟨translator, n, _, rfl⟩
  rfl

theorem Errand.Answer.exchange {x : Errand} {acts : List Act} {fetches : List Message}
    {m : Message} (h : x.Answer acts fetches m) :
    m.exchange = x.start.host.topology.responseExchange := by
  rcases h with ⟨reply, _, rfl⟩
  rfl

/-- The task of a request that is dispatched sends at most one fetch and at most one answer in any
continuation.  The answer goes to the response exchange under the key and the id of the request; its
body comes from the cache, from the request, or from a reply under the id of the fetch.  If fetches
go to another exchange, the answer is all that the task brings to the response exchange.  A delivery
that does not decode or says nowhere to reply starts no task.  Whatever is not sent by a task is a
poll, and polls go to the exchange that was set up for them. -/
theorem answers_stay_apart {start : Recorded Resolver} (hbegins : Begins start)
    (before : List Act) (e : Envelope) :
    let s := run start before
    let s' := act s (.dispatch e)
    sentIn s (.dispatch e) = [] ∧
      (∀ request key, e.unpack = .ok request → e.replyKey? = some key →
        (s.host.dispatch e).2 = some s.host.started ∧ ∀ after,
          let x : Errand := ⟨s', s.host.started, request, key, e.correlation⟩
          ∃ fetches answers, sentBy x.id s' after = fetches ++ answers ∧ x.Fetches fetches ∧
            answers.length ≤ 1 ∧ (∀ m ∈ answers, x.Answer after fetches m) ∧
            (s'.host.topology.fetchExchange ≠ s'.host.topology.responseExchange →
              (sentBy x.id s' after).filter
                (·.exchange = s'.host.topology.responseExchange) = answers)) ∧
      ((∀ request : MetricRequest, e.unpack ≠ .ok request) ∨ e.replyKey? = none →
        (s.host.dispatch e).2 = none ∧ ∃ f, s' = s.onHost (·.count f)) ∧
      ∀ after a, (∀ id, a ≠ .step id) → ∀ m ∈ sentIn (run s' after) a,
        m.exchange = s'.host.polling.exchange := by
  intro s s'
  have hcorrelated : Correlated s.host := correlated_run hbegins.correlated before
  have hpolls : s'.host.polling.PollsTo start.host.polling.exchange :=
    pollsTo_act (pollsTo_run ⟨rfl, fun hm => absurd hm (hbegins.parks _)⟩ before) (.dispatch e)
  refine ⟨sentIn_eq_nil s (by simp) (by simp), ?_, ?_, ?_⟩
  · intro request key hrequest hkey
    refine ⟨congrArg Prod.snd (dispatch_of_request hrequest hkey), ?_⟩
    intro after x
    have hfollowed : x.Followed after := (followed_dispatch hcorrelated hrequest hkey).run after
    rcases hfollowed.stage.split with ⟨fetches, answers, hsent, hfetches, hone, hanswers⟩
    refine ⟨fetches, answers, hsent, hfetches, hone, hanswers, ?_⟩
    intro hne
    show (sentBy x.id x.start after).filter _ = answers
    rw [hsent, List.filter_append]
    have hnone : fetches.filter (·.exchange = s'.host.topology.responseExchange) = [] := by
      rw [List.filter_eq_nil_iff]
      intro m hm
      rw [(hfetches.2 m hm).exchange]
      simpa using hne
    have hall : answers.filter (·.exchange = s'.host.topology.responseExchange) = answers := by
      rw [List.filter_eq_self]
      intro m hm
      rw [(hanswers m hm).exchange]
      simp [x]
    rw [hnone, hall, List.nil_append]
  · intro hdropped
    rcases dispatch_of_dropped (r := s.host) hdropped with ⟨hnone, f, hcounted⟩
    exact ⟨hnone, f, congrArg (fun host => { s with host }) hcounted⟩
  · intro after a hstep m hm
    rw [hpolls.exchange_eq]
    exact exchange_of_mem_sentIn (pollsTo_run hpolls after) hstep hm

/-- A request of another service for a metric that is not in the cache. -/
def inquiry : Envelope :=
  ((Envelope.pack Resolver.temperature .ok).withCorrelation "q").replyTo "panel"

theorem unpack_inquiry : inquiry.unpack = .ok Resolver.temperature := by decide +kernel

theorem answers_stay_apart_inquiry :
    let s := act unasked (.dispatch inquiry)
    let x : Errand := ⟨s, 0, Resolver.temperature, "panel", "q"⟩
    let acts : List Act := [.step 0, .take, .route firstReply, .step 0]
    ∃ fetch answer, sentBy 0 s acts = [fetch, answer] ∧ x.Answer acts [fetch] answer := by
  intro s x acts
  have hkey : inquiry.replyKey? = some "panel" := by decide +kernel
  rcases (answers_stay_apart begins_unasked [] inquiry).2.1 _ _ unpack_inquiry hkey with
    ⟨_, hsent⟩
  rcases hsent acts with ⟨fetches, answers, hsplit, hfetches, hone, hanswers, _⟩
  have htwo : (fetches ++ answers).length = 2 := by
    rw [← hsplit]
    decide +kernel
  rw [List.length_append] at htwo
  have hfetch : fetches.length = 1 := by
    have hle := hfetches.1
    omega
  have hanswer : answers.length = 1 := by omega
  rcases List.length_eq_one_iff.mp hfetch with ⟨fetch, rfl⟩
  rcases List.length_eq_one_iff.mp hanswer with ⟨answer, rfl⟩
  exact ⟨fetch, answer, hsplit, hanswers answer List.mem_cons_self⟩

def sharedExchange : Recorded Resolver :=
  { host := { Resolver.unscheduled {} with
      topology := { fetchExchange := "metric", responseExchange := "metric" } } }

/-- Where they share an exchange, the fetch of a request appears among its answers, under the key of
the translator and an id of its own. -/
theorem shared_exchange_carries_fetch :
    let s := act sharedExchange (.dispatch inquiry)
    (sharedExchange.host.dispatch inquiry).2 = some 0 ∧
      ∃ m ∈ sentBy 0 s [.step 0], m.exchange = s.host.topology.responseExchange ∧
        m.key ≠ inquiry.replyKey ∧ m.envelope.correlation ≠ inquiry.correlation := by
  decide +kernel

end Fetching
end MetricGateway
