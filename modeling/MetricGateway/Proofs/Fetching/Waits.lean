import MetricGateway.Correlator
import MetricGateway.Envelope
import MetricGateway.Proofs.Maps

/-!
# Waits for replies

A wait under an id is open while the registration under the id is its own and nothing has come; once
a reply has reached it the id is free.  What happens under one id does not change the waits under
others.
-/

namespace MetricGateway
namespace Correlator

variable {α : Type}

/-- Nothing has reached a wait, and it owns the registration under its id. -/
def Open (c : Correlator α) (wait : WaitId) (correlation : String) : Prop :=
  ∃ w, c.waits[wait]? = some w ∧ w.correlation = correlation ∧ w.slot = .unfilled ∧
    c.registered[correlation]? = some ⟨wait, w.ticket⟩

/-- A payload has reached a wait, and its id is free. -/
def Handed (c : Correlator α) (wait : WaitId) (correlation : String) (payload : α) : Prop :=
  ∃ w place, c.waits[wait]? = some w ∧ w.correlation = correlation ∧
    w.slot = .filled payload place ∧ c.registered[correlation]? = none

/-- A wait under an id is as it was. -/
structure SameAt (c : Correlator α) (wait : WaitId) (correlation : String) (c' : Correlator α) :
    Prop where
  waits : c'.waits[wait]? = c.waits[wait]?
  registered : c'.registered[correlation]? = c.registered[correlation]?

theorem Open.of_sameAt {c c' : Correlator α} {wait : WaitId} {correlation : String}
    (h : c.Open wait correlation) (hsame : c.SameAt wait correlation c') :
    c'.Open wait correlation := by
  rcases h with ⟨w, hw, hcorrelation, hslot, hregistered⟩
  exact ⟨w, hsame.waits ▸ hw, hcorrelation, hslot, hsame.registered ▸ hregistered⟩

theorem Handed.of_sameAt {c c' : Correlator α} {wait : WaitId} {correlation : String}
    {payload : α} (h : c.Handed wait correlation payload)
    (hsame : c.SameAt wait correlation c') : c'.Handed wait correlation payload := by
  rcases h with ⟨w, place, hw, hcorrelation, hslot, hfree⟩
  exact ⟨w, place, hsame.waits ▸ hw, hcorrelation, hslot, hsame.registered ▸ hfree⟩

theorem result?_of_handed {c : Correlator α} {wait : WaitId} {correlation : String} {payload : α}
    (h : c.Handed wait correlation payload) (now : Instant) :
    c.result? wait now = some (.ok payload) := by
  rcases h with ⟨w, place, hw, _, hslot, _⟩
  unfold result?
  rw [hw]
  show w.result? now = some (.ok payload)
  unfold Wait.result?
  rw [hslot]

theorem result?_ok {c : Correlator α} {wait : WaitId} {now : Instant} {payload : α}
    (h : c.result? wait now = some (.ok payload)) :
    ∃ w place, c.waits[wait]? = some w ∧ w.slot = .filled payload place := by
  unfold result? at h
  cases hwait : c.waits[wait]? with
  | none =>
      rw [hwait] at h
      cases h
  | some w =>
      rw [hwait] at h
      replace h : w.result? now = some (.ok payload) := h
      unfold Wait.result? at h
      split at h
      next reached place hslot =>
        cases h
        exact ⟨w, place, rfl, hslot⟩
      next => cases h
      next => split at h <;> cases h

theorem result?_error {c : Correlator α} {wait : WaitId} {now : Instant} {e : GatewayError}
    (h : c.result? wait now = some (.error e)) :
    ∃ w, c.waits[wait]? = some w ∧ e = .timeout w.correlation w.timeout := by
  unfold result? at h
  cases hwait : c.waits[wait]? with
  | none =>
      rw [hwait] at h
      cases h
  | some w =>
      rw [hwait] at h
      replace h : w.result? now = some (.error e) := h
      refine ⟨w, rfl, ?_⟩
      unfold Wait.result? at h
      split at h
      next => cases h
      next =>
        cases h
        rfl
      next =>
        split at h
        · cases h
          rfl
        · cases h

/-!
## Listening
-/

theorem listen_eq {c : Correlator α} {correlation : String}
    (hfree : c.registered[correlation]? = none) (timeout : Duration) (now : Instant) :
    (c.listen correlation timeout now).1 =
      { c with
        lastTicket := c.lastTicket + 1
        started := c.started + 1
        registered := c.registered.insert correlation ⟨c.started, c.lastTicket + 1⟩
        waits := c.waits.insert c.started
          { correlation, timeout, due := now.later? timeout, ticket := c.lastTicket + 1 } } := by
  unfold listen
  rw [hfree]

theorem open_listen {c : Correlator α} {correlation : String}
    (hfree : c.registered[correlation]? = none) (timeout : Duration) (now : Instant) :
    (c.listen correlation timeout now).1.Open c.started correlation := by
  rw [listen_eq hfree]
  exact ⟨_, Std.ExtTreeMap.getElem?_insert_self, rfl, rfl, Std.ExtTreeMap.getElem?_insert_self⟩

theorem sameAt_listen {c : Correlator α} {correlation other : String} {wait : WaitId}
    (hfree : c.registered[correlation]? = none) (hid : correlation ≠ other)
    (hwait : c.started ≠ wait) (timeout : Duration) (now : Instant) :
    c.SameAt wait other (c.listen correlation timeout now).1 := by
  rw [listen_eq hfree]
  constructor
  · simp [Std.ExtTreeMap.getElem?_insert, hwait]
  · simp [Std.ExtTreeMap.getElem?_insert, hid]

/-!
## Finishing
-/

theorem waits_finish {c : Correlator α} {wait : WaitId} {correlation : String}
    (h : c.Open wait correlation ∨ ∃ payload, c.Handed wait correlation payload) :
    (c.finish wait).waits = c.waits.erase wait := by
  unfold finish
  rcases h with ⟨w, hw, _⟩ | ⟨payload, w, place, hw, _⟩ <;> rw [hw]

/-- When a wait is finished its id is free, and the registrations under other ids stay. -/
theorem registered_finish {c : Correlator α} {wait : WaitId} {correlation : String}
    (h : c.Open wait correlation ∨ ∃ payload, c.Handed wait correlation payload) (id : String) :
    (c.finish wait).registered[id]? = if correlation = id then none else c.registered[id]? := by
  unfold finish
  rcases h with ⟨w, hw, rfl, hslot, hregistered⟩ | ⟨payload, w, place, hw, rfl, hslot, hfree⟩
  · rw [hw]
    simp [hregistered, Std.ExtTreeMap.getElem?_erase]
  · rw [hw]
    by_cases hid : w.correlation = id
    · subst hid
      simp [hfree]
    · simp [hfree, hid]

theorem sameAt_finish {c : Correlator α} {wait other : WaitId} {correlation id : String}
    (h : c.Open wait correlation ∨ ∃ payload, c.Handed wait correlation payload)
    (hid : correlation ≠ id) (hwait : wait ≠ other) : c.SameAt other id (c.finish wait) := by
  constructor
  · rw [waits_finish h]
    simp [Std.ExtTreeMap.getElem?_erase, hwait]
  · rw [registered_finish h, if_neg hid]

/-!
## Sending
-/

theorem send_of_free {c : Correlator α} {correlation : String}
    (hfree : c.registered[correlation]? = none) (payload : α) :
    c.send correlation payload = (c, false) := by
  unfold send
  rw [hfree]

theorem send_of_open {c : Correlator α} {wait : WaitId} {correlation : String}
    (h : c.Open wait correlation) (payload : α) :
    ∃ w, c.waits[wait]? = some w ∧ w.correlation = correlation ∧
      c.send correlation payload =
        ({ c with
            registered := c.registered.erase correlation
            delivered := c.delivered + 1
            waits := c.waits.insert wait { w with slot := .filled payload c.delivered } },
          true) := by
  rcases h with ⟨w, hw, hcorrelation, _, hregistered⟩
  refine ⟨w, hw, hcorrelation, ?_⟩
  unfold send
  rw [hregistered]
  dsimp only
  rw [hw]

theorem handed_send {c : Correlator α} {wait : WaitId} {correlation : String}
    (h : c.Open wait correlation) (payload : α) :
    (c.send correlation payload).1.Handed wait correlation payload := by
  rcases send_of_open h payload with ⟨w, hw, hcorrelation, hsend⟩
  rw [hsend]
  exact ⟨_, c.delivered, Std.ExtTreeMap.getElem?_insert_self, hcorrelation, rfl,
    Std.ExtTreeMap.getElem?_erase_self⟩

theorem sameAt_send {c : Correlator α} {wait other : WaitId} {correlation id : String}
    (h : c.Open wait correlation) (hid : correlation ≠ id) (hwait : wait ≠ other) (payload : α) :
    c.SameAt other id (c.send correlation payload).1 := by
  rcases send_of_open h payload with ⟨w, hw, hcorrelation, hsend⟩
  rw [hsend]
  constructor
  · simp [Std.ExtTreeMap.getElem?_insert, hwait]
  · simp [Std.ExtTreeMap.getElem?_erase, hid]

theorem started_send (c : Correlator α) (correlation : String) (payload : α) :
    (c.send correlation payload).1.started = c.started := by
  unfold send
  split
  · rfl
  · dsimp only
    split <;> rfl

theorem started_finish (c : Correlator α) (wait : WaitId) :
    (c.finish wait).started = c.started := by
  unfold finish
  split <;> rfl

/-!
## The number of registrations
-/

theorem not_mem_of_handed {c : Correlator α} {wait : WaitId} {correlation : String} {payload : α}
    (h : c.Handed wait correlation payload) : correlation ∉ c.registered := by
  rcases h with ⟨w, place, _, _, _, hfree⟩
  intro hmem
  rcases exists_lookup_of_mem hmem with ⟨reg, hreg⟩
  rw [hfree] at hreg
  cases hreg

theorem mem_of_open {c : Correlator α} {wait : WaitId} {correlation : String}
    (h : c.Open wait correlation) : correlation ∈ c.registered := by
  rcases h with ⟨w, _, _, _, hregistered⟩
  exact mem_of_lookup hregistered

theorem pending_listen {c : Correlator α} {correlation : String}
    (hfree : c.registered[correlation]? = none) (timeout : Duration) (now : Instant) :
    (c.listen correlation timeout now).1.pending = c.pending + 1 := by
  have hnot : correlation ∉ c.registered := by
    intro hmem
    rcases exists_lookup_of_mem hmem with ⟨reg, hreg⟩
    rw [hfree] at hreg
    cases hreg
  rw [listen_eq hfree]
  exact size_insert_of_not_mem hnot _

theorem pending_send {c : Correlator α} {wait : WaitId} {correlation : String}
    (h : c.Open wait correlation) (payload : α) :
    (c.send correlation payload).1.pending + 1 = c.pending := by
  rcases send_of_open h payload with ⟨w, _, _, hsend⟩
  rw [hsend]
  exact size_erase_of_mem (mem_of_open h)

theorem registered_finish_eq {c : Correlator α} {wait : WaitId} {correlation : String}
    (h : c.Open wait correlation ∨ ∃ payload, c.Handed wait correlation payload) :
    (c.finish wait).registered = c.registered.erase correlation := by
  apply Std.ExtTreeMap.ext_getElem?
  intro id
  rw [registered_finish h, lookup_erase]

theorem pending_finish_of_open {c : Correlator α} {wait : WaitId} {correlation : String}
    (h : c.Open wait correlation) : (c.finish wait).pending + 1 = c.pending := by
  unfold pending
  rw [registered_finish_eq (Or.inl h)]
  exact size_erase_of_mem (mem_of_open h)

theorem pending_finish_of_handed {c : Correlator α} {wait : WaitId} {correlation : String}
    {payload : α} (h : c.Handed wait correlation payload) :
    (c.finish wait).pending = c.pending := by
  unfold pending
  rw [registered_finish_eq (Or.inr ⟨payload, h⟩)]
  exact size_erase_of_not_mem (not_mem_of_handed h)

end Correlator
end MetricGateway
