import Mathlib.Data.List.Dedup
import Mathlib.Data.List.Nodup
import MetricGateway.Proofs.Waiting.Kept

/-!
# What a waiting room promises

The promises are about the log alone: who called, what was taken, what was returned and what the
time is.  A payload is taken if and only if the newest call under its id is still waiting for one,
and then this call returns it and no other call does.  A call that gets no payload ends with a
timeout of its own, when a newer call replaces it or when its time is up.
-/

namespace MetricGateway
namespace WaitingRoom
namespace Log

variable {α : Type}

structure Contract (l : Log α) : Prop where
  send_iff : ∀ id payload, (l.room.send id payload).2 = true ↔
    ∃ wait, newest? l.calls id = some wait ∧ l.hasReturned wait = false ∧ l.payload? wait = none
  /-- The call that takes a payload is handed it, and nothing changes for the others. -/
  send_hands : ∀ id payload, (l.room.send id payload).2 = true → ∀ wait,
    (l.send id payload).payload? wait =
      if newest? l.calls id = some wait then some payload else l.payload? wait
  /-- The task of a call in flight can go on if and only if a payload was handed to it, a newer call
  has replaced it or its time is up, and then it returns what was handed to it or its timeout. -/
  poll : ∀ wait call, l.call? wait = some call → l.hasReturned wait = false →
    (Machine.ready l.room wait = true ↔ (l.payload? wait).isSome ∨ l.Expired wait call) ∧
      (l.poll wait).room.results =
        if (l.payload? wait).isSome ∨ l.Expired wait call then
          ⟨l.room.now, wait, call.outcome (l.payload? wait)⟩ :: l.room.results
        else l.room.results
  returned : ∀ r ∈ l.room.results,
    ∃ call, l.call? r.wait = some call ∧ r.result = call.outcome (l.payload? r.wait)
  returns_once : (l.room.results.map (·.wait)).Nodup
  handed_once : (l.handed.map (·.1)).Nodup
  /-- A call that returns leaves the registrations of newer calls alone. -/
  clean_up : ∀ wait id, newest? l.calls id ≠ some wait →
    (l.poll wait).room.correlator.registered[id]? = l.room.correlator.registered[id]?
  pending : l.room.correlator.pending =
    ((l.calls.map (·.correlation)).dedup.filter fun id => (l.holder? id).isSome).length
  pending_none : (∀ wait < l.calls.length, l.hasReturned wait = true) →
    l.room.correlator.pending = 0

theorem Kept.send_iff {l : Log α} (h : l.Kept) (id : String) (payload : α) :
    (l.room.send id payload).2 = true ↔ (l.holder? id).isSome := by
  cases hholder : l.holder? id with
  | none =>
      rw [h.send_of_none hholder]
      rfl
  | some wait =>
      rcases h.send_of_some hholder payload with ⟨w, place, _, hsend⟩
      rw [hsend]
      rfl

theorem Kept.payload?_send {l : Log α} (h : l.Kept) {id : String} {payload : α}
    (htaken : (l.room.send id payload).2 = true) (wait : WaitId) :
    (l.send id payload).payload? wait =
      if newest? l.calls id = some wait then some payload else l.payload? wait := by
  rcases Option.isSome_iff_exists.mp ((h.send_iff id payload).mp htaken) with ⟨holder, hholder⟩
  have hnewest := (holder?_eq_some_iff.mp hholder).1
  have hhanded : (l.send id payload).handed = (holder, payload) :: l.handed := by
    unfold Log.send
    rw [htaken, if_pos rfl, hnewest]
    rfl
  rw [payload?_cons hhanded, hnewest]
  simp only [Option.some.injEq, eq_comm]

theorem Kept.poll_results {l : Log α} (h : l.Kept) {wait : WaitId} {call : Call}
    (hcall : l.call? wait = some call) (hflight : l.hasReturned wait = false) :
    (Machine.ready l.room wait = true ↔ (l.payload? wait).isSome ∨ l.Expired wait call) ∧
      (l.poll wait).room.results =
        if (l.payload? wait).isSome ∨ l.Expired wait call then
          ⟨l.room.now, wait, call.outcome (l.payload? wait)⟩ :: l.room.results
        else l.room.results := by
  have hresult := h.result?_eq hcall hflight
  have hready : Machine.ready l.room wait =
      (l.room.correlator.result? wait l.room.now).isSome := rfl
  rw [hready]
  split at hresult
  next hover =>
    rw [hresult, room_poll hresult, if_pos hover]
    exact ⟨iff_of_true rfl hover, rfl⟩
  next hwaits =>
    rw [hresult, poll_eq_self hresult, if_neg hwaits]
    exact ⟨iff_of_false Bool.false_ne_true hwaits, rfl⟩

theorem Kept.clean_up {l : Log α} (h : l.Kept) (hfew : l.calls.length < UInt64.size) {wait : WaitId}
    {id : String} (hnewest : newest? l.calls id ≠ some wait) :
    (l.poll wait).room.correlator.registered[id]? = l.room.correlator.registered[id]? := by
  cases hresult : l.room.correlator.result? wait l.room.now with
  | none => rw [poll_eq_self hresult]
  | some result =>
      rw [room_poll hresult]
      cases hw : l.room.correlator.waits[wait]? with
      | none =>
          unfold Correlator.result? at hresult
          rw [hw] at hresult
          cases hresult
      | some w =>
          rcases h.tracked hw with ⟨call, htracked⟩
          rw [h.registered_finish hfew hw htracked, if_neg]
          intro hholder
          exact hnewest (holder?_eq_some_iff.mp hholder).1

/-- The ids that are registered are those whose newest call still waits for a payload. -/
theorem Kept.pending {l : Log α} (h : l.Kept) : l.room.correlator.pending =
    ((l.calls.map (·.correlation)).dedup.filter fun id => (l.holder? id).isSome).length := by
  have hnodup : l.room.correlator.registered.keys.Nodup := by
    refine (Std.ExtTreeMap.distinct_keys (t := l.room.correlator.registered)).imp ?_
    intro id other hne heq
    exact hne (Std.LawfulEqOrd.compare_eq_iff_eq.mpr heq)
  have hmem : ∀ id, id ∈ l.room.correlator.registered.keys ↔
      id ∈ (l.calls.map (·.correlation)).dedup.filter fun id => (l.holder? id).isSome := by
    intro id
    rw [Std.ExtTreeMap.mem_keys, Std.ExtTreeMap.mem_iff_isSome_getElem?, h.registered,
      Option.isSome_map, List.mem_filter, List.mem_dedup]
    constructor
    · intro hholder
      rcases Option.isSome_iff_exists.mp hholder with ⟨wait, hwait⟩
      rcases newest?_some (holder?_eq_some_iff.mp hwait).1 with ⟨call, hcall, hid⟩
      have hcalls := List.mem_reverse.mp (List.mem_of_getElem? hcall)
      exact ⟨List.mem_map.mpr ⟨call, hcalls, hid⟩, hholder⟩
    · exact And.right
  have hperm := (List.perm_ext_iff_of_nodup hnodup ((List.nodup_dedup _).filter _)).mpr hmem
  rw [← hperm.length_eq, Std.ExtTreeMap.length_keys]
  rfl

theorem Kept.contract {l : Log α} (h : l.Kept) (hfew : l.calls.length < UInt64.size) :
    l.Contract where
  send_iff := by
    intro id payload
    rw [h.send_iff, Option.isSome_iff_exists]
    simp only [holder?_eq_some_iff]
  send_hands := fun _ _ htaken => h.payload?_send htaken
  poll := fun _ _ => h.poll_results
  returned := h.results
  returns_once := h.results_nodup
  handed_once := h.handed_nodup
  clean_up := fun _ _ => h.clean_up hfew
  pending := h.pending
  pending_none := by
    intro hreturned
    rw [h.pending, List.length_eq_zero_iff, List.filter_eq_nil_iff]
    intro id _ hholder
    rcases Option.isSome_iff_exists.mp hholder with ⟨wait, hwait⟩
    rcases holder?_eq_some_iff.mp hwait with ⟨hnewest, hflight, _⟩
    rw [hreturned wait (newest?_lt hnewest)] at hflight
    cases hflight

/-- Whatever is called and run in whatever order, and however the time passes, the room keeps its
promises as long as there were fewer calls than tickets. -/
theorem contract_run (acts : List (Act α))
    (hfew : (({} : Log α).run acts).calls.length < UInt64.size) :
    (({} : Log α).run acts).Contract :=
  (kept_empty.run acts hfew).contract hfew

theorem contract_run_replaced :
    let acts : List (Act Nat) := [.listen "a" (.ofSecs 1), .listen "a" (.ofSecs 2), .send "a" 7,
      .pass (.ofSecs 3), .poll 1, .poll 0, .send "a" 8]
    (({} : Log Nat).run acts).calls.length < UInt64.size ∧ (({} : Log Nat).run acts).Contract := by
  intro acts
  have hfew : (({} : Log Nat).run acts).calls.length < UInt64.size := by decide +kernel
  exact ⟨hfew, contract_run acts hfew⟩

end Log
end WaitingRoom
end MetricGateway
