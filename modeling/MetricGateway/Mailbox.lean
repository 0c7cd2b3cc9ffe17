import MetricGateway.Fifo

/-!
# Mailboxes

A mailbox passes items from its writers to one reader and holds a bounded number of them.  A writer
that finds no room waits in line under a ticket.  Each item that the reader takes makes room for the
first writer in line; that room is reserved for it until it comes back with its ticket, so a writer
that arrives later cannot overtake it.  Once nobody reads the mailbox, every writer is refused.
-/

namespace MetricGateway

/-- The number under which a writer waits. -/
abbrev Ticket := Nat

structure Mailbox (α : Type) where
  capacity : Nat
  queue : Fifo α := .empty
  /-- Writers without room, in line. -/
  waiting : List Ticket := []
  /-- Writers for whom room is reserved. -/
  granted : List Ticket := []
  tickets : Nat := 0
  closed : Bool := false

namespace Mailbox

variable {α : Type}

/-- What became of an item that a writer brought. -/
inductive Offer where
  | accepted
  /-- There is no room; the writer waits under the ticket. -/
  | parked (ticket : Ticket)
  | refused
deriving DecidableEq

/-- Whether there is room that is not reserved. -/
def hasRoom (m : Mailbox α) : Bool := m.queue.size + m.granted.length < m.capacity

def offer (m : Mailbox α) (a : α) : Mailbox α × Offer :=
  if m.closed then (m, .refused)
  else if m.hasRoom then ({ m with queue := m.queue.push a }, .accepted)
  else
    let ticket := m.tickets
    ({ m with tickets := ticket + 1, waiting := m.waiting ++ [ticket] }, .parked ticket)

/-- Whether a writer that waits would get an answer now. -/
def answers (m : Mailbox α) (ticket : Ticket) : Bool := m.closed || m.granted.contains ticket

def retry (m : Mailbox α) (ticket : Ticket) (a : α) : Mailbox α × Offer :=
  if m.closed then (m, .refused)
  else if m.granted.contains ticket then
    ({ m with granted := m.granted.erase ticket, queue := m.queue.push a }, .accepted)
  else (m, .parked ticket)

/-- The reader takes the first item; the room goes to the first writer in line. -/
def take (m : Mailbox α) : Mailbox α × Option α :=
  match m.queue.pop? with
  | none => (m, none)
  | some (a, queue) =>
      match m.waiting with
      | [] => ({ m with queue }, some a)
      | ticket :: waiting => ({ m with queue, waiting, granted := m.granted ++ [ticket] }, some a)

/-- The reader leaves; the items that were not taken are lost. -/
def close (m : Mailbox α) : Mailbox α :=
  { m with closed := true, queue := .empty, waiting := [], granted := [] }

def toList (m : Mailbox α) : List α := m.queue.toList

def isEmpty (m : Mailbox α) : Bool := m.queue.isEmpty

theorem toList_take (m : Mailbox α) : m.toList = m.take.2.toList ++ m.take.1.toList := by
  unfold take
  cases hfirst : m.queue.pop? with
  | none => rfl
  | some popped =>
      have hlist : m.toList = popped.1 :: popped.2.toList := Fifo.toList_of_pop?_some hfirst
      rw [hlist]
      dsimp only
      split <;> rfl

theorem toList_of_take_none {m : Mailbox α} (h : m.take.2 = none) : m.toList = [] := by
  unfold take at h
  cases hfirst : m.queue.pop? with
  | none => exact Fifo.toList_of_pop?_none hfirst
  | some popped =>
      rw [hfirst] at h
      dsimp only at h
      split at h <;> cases h

theorem closed_take (m : Mailbox α) : m.take.1.closed = m.closed := by
  unfold take
  split
  · rfl
  · split <;> rfl

end Mailbox
end MetricGateway
