import Mathlib.Data.List.Perm.Basic
import MetricGateway.Mailbox

/-!
# Lines of writers

Several writers may stand in line before a mailbox that is full, each under a ticket of its own.
What an item takes with it when it leaves is the place of the first writer in line: the room is kept
for that writer, so that there is never more in the mailbox, and kept for it, than it can hold, and
nobody stands in line before a mailbox that has room for more.
-/

namespace MetricGateway
namespace Mailbox

variable {α : Type}

/-- An open mailbox, where the writers with the given tickets wait. -/
structure Orderly (m : Mailbox α) (tickets : List Ticket) : Prop where
  isOpen : m.closed = false
  line : (m.waiting ++ m.granted).Perm tickets
  nodup : tickets.Nodup
  given : ∀ t ∈ tickets, t < m.tickets
  full : m.waiting ≠ [] → m.capacity ≤ m.toList.length + m.granted.length
  room : m.toList.length + m.granted.length ≤ m.capacity

theorem orderly_new (capacity : Nat) : ({ capacity } : Mailbox α).Orderly [] where
  isOpen := rfl
  line := .nil
  nodup := .nil
  given := by simp
  full := fun h => absurd rfl h
  room := Nat.zero_le capacity

variable {m : Mailbox α} {tickets : List Ticket}

theorem Orderly.perm (h : m.Orderly tickets) {tickets' : List Ticket}
    (hperm : tickets.Perm tickets') : m.Orderly tickets' where
  isOpen := h.isOpen
  line := h.line.trans hperm
  nodup := hperm.nodup_iff.mp h.nodup
  given := fun t ht => h.given t (hperm.mem_iff.mpr ht)
  full := h.full
  room := h.room

/-- A writer that comes for the first time leaves its item, or joins the end of the line. -/
theorem Orderly.offer (h : m.Orderly tickets) (a : α) :
    (∃ m', m.offer a = (m', .accepted) ∧ m'.Orderly tickets ∧ m'.toList = m.toList ++ [a] ∧
      m'.waiting = m.waiting ∧ m'.granted = m.granted ∧ m'.capacity = m.capacity) ∨
    ∃ m', m.offer a = (m', .parked m.tickets) ∧ m'.Orderly (m.tickets :: tickets) ∧
      m'.toList = m.toList ∧ m'.waiting = m.waiting ++ [m.tickets] ∧ m'.granted = m.granted ∧
      m'.capacity = m.capacity := by
  have hsize : m.queue.size = m.toList.length := Fifo.size_eq_length m.queue
  unfold Mailbox.offer
  rw [h.isOpen, if_neg Bool.false_ne_true]
  split
  next hroom =>
    have hless : m.toList.length + m.granted.length < m.capacity := by
      rw [← hsize]
      simpa [hasRoom] using hroom
    have hlist : (m.queue.push a).toList = m.toList ++ [a] := Fifo.toList_push _ _
    refine Or.inl ⟨_, rfl, ⟨rfl, h.line, h.nodup, h.given, ?_, ?_⟩, hlist, rfl, rfl, rfl⟩
    · intro hwaiting
      exact absurd (h.full hwaiting) (Nat.not_le.mpr hless)
    · show (m.queue.push a).toList.length + m.granted.length ≤ m.capacity
      rw [hlist, List.length_append, List.length_singleton]
      omega
  next hnone =>
    have hfull : m.capacity ≤ m.toList.length + m.granted.length := by
      rw [← hsize]
      simpa [hasRoom] using hnone
    refine Or.inr ⟨_, rfl, ⟨rfl, ?_, ?_, ?_, fun _ => hfull, h.room⟩, rfl, rfl, rfl, rfl⟩
    · show ((m.waiting ++ [m.tickets]) ++ m.granted).Perm (m.tickets :: tickets)
      rw [List.append_assoc]
      exact List.perm_middle.trans (h.line.cons _)
    · refine List.nodup_cons.mpr ⟨?_, h.nodup⟩
      intro hmem
      exact Nat.lt_irrefl _ (h.given _ hmem)
    · intro t ht
      rcases List.mem_cons.mp ht with rfl | hold
      · exact Nat.lt_succ_self _
      · exact Nat.lt_succ_of_lt (h.given t hold)

/-- A writer that comes back leaves its item in the room that is kept for it, or waits on. -/
theorem Orderly.retry (h : m.Orderly tickets) (ticket : Ticket) (a : α) :
    (ticket ∈ m.granted ∧ ∃ m', m.retry ticket a = (m', .accepted) ∧
      m'.Orderly (tickets.erase ticket) ∧ m'.toList = m.toList ++ [a] ∧
      m'.waiting = m.waiting ∧ m'.granted = m.granted.erase ticket ∧ m'.capacity = m.capacity) ∨
    ticket ∉ m.granted ∧ m.retry ticket a = (m, .parked ticket) := by
  unfold Mailbox.retry
  rw [h.isOpen, if_neg Bool.false_ne_true]
  by_cases hgranted : ticket ∈ m.granted
  · rw [if_pos (by simpa using hgranted)]
    have hkept : m.granted.length = (m.granted.erase ticket).length + 1 := by
      rw [List.length_erase_of_mem hgranted]
      exact (Nat.succ_pred_eq_of_pos (List.length_pos_of_mem hgranted)).symm
    have hlist : (m.queue.push a).toList = m.toList ++ [a] := Fifo.toList_push _ _
    have hlength : (m.queue.push a).toList.length + (m.granted.erase ticket).length =
        m.toList.length + m.granted.length := by
      rw [hlist, List.length_append, List.length_singleton, hkept]
      omega
    have hline : (m.waiting ++ m.granted.erase ticket).Perm (tickets.erase ticket) := by
      have hapart : ticket ∉ m.waiting := fun hwaiting =>
        (List.nodup_append.mp (h.line.nodup_iff.mpr h.nodup)).2.2 _ hwaiting _ hgranted rfl
      rw [← List.erase_append_right _ hapart]
      exact h.line.erase ticket
    refine Or.inl ⟨hgranted, _, rfl, ⟨rfl, hline, h.nodup.erase ticket, ?_, ?_, ?_⟩, hlist,
      rfl, rfl, rfl⟩
    · exact fun t ht => h.given t (List.mem_of_mem_erase ht)
    · intro hwaiting
      exact Nat.le_trans (h.full hwaiting) (Nat.le_of_eq hlength.symm)
    · exact Nat.le_trans (Nat.le_of_eq hlength) h.room
  · rw [if_neg (by simpa using hgranted)]
    exact Or.inr ⟨hgranted, rfl⟩

theorem Orderly.take (h : m.Orderly tickets) :
    (m.take = (m, none) ∧ m.toList = []) ∨
    ∃ a m', m.take = (m', some a) ∧ m'.Orderly tickets ∧ m.toList = a :: m'.toList ∧
      m'.waiting = m.waiting.tail ∧ m'.granted = m.granted ++ m.waiting.head?.toList ∧
      m'.capacity = m.capacity := by
  unfold Mailbox.take
  cases hfirst : m.queue.pop? with
  | none => exact Or.inl ⟨rfl, Fifo.toList_of_pop?_none hfirst⟩
  | some popped =>
      rcases popped with ⟨a, queue⟩
      have hlist : m.toList = a :: queue.toList := Fifo.toList_of_pop?_some hfirst
      have hroom := h.room
      have hfull := h.full
      rw [hlist, List.length_cons] at hroom hfull
      right
      cases hwaiting : m.waiting with
      | nil =>
          have hline : ([] ++ m.granted).Perm tickets := hwaiting ▸ h.line
          refine ⟨a, _, rfl, ⟨h.isOpen, hline, h.nodup, h.given, ?_, ?_⟩, hlist, rfl, ?_, rfl⟩
          · exact fun hnot => absurd rfl hnot
          · show queue.toList.length + m.granted.length ≤ m.capacity
            omega
          · exact (List.append_nil _).symm
      | cons ticket waiting =>
          have hline := h.line
          rw [hwaiting, List.cons_append] at hline
          have hkept : (m.granted ++ [ticket]).length = m.granted.length + 1 := by
            rw [List.length_append, List.length_singleton]
          refine ⟨a, _, rfl, ⟨h.isOpen, ?_, h.nodup, h.given, ?_, ?_⟩, hlist, rfl, rfl, rfl⟩
          · show (waiting ++ (m.granted ++ [ticket])).Perm tickets
            rw [← List.append_assoc]
            exact (List.perm_append_singleton ticket _).trans hline
          · intro _
            have hbefore := hfull (hwaiting ▸ List.cons_ne_nil _ _)
            show m.capacity ≤ queue.toList.length + (m.granted ++ [ticket]).length
            omega
          · show queue.toList.length + (m.granted ++ [ticket]).length ≤ m.capacity
            omega

end Mailbox
end MetricGateway
