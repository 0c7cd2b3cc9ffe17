/-!
# Turns

Tasks that can go at one time go in the order of their turns.  Tasks of one turn go in the order in
which they are listed.
-/

namespace MetricGateway
namespace Turn

variable {α : Type}

def insert (turn : α → Nat) (a : α) : List α → List α
  | [] => [a]
  | b :: rest => if turn a ≤ turn b then a :: b :: rest else b :: insert turn a rest

def order (turn : α → Nat) : List α → List α
  | [] => []
  | a :: rest => insert turn a (order turn rest)

theorem mem_insert (turn : α → Nat) (a : α) (l : List α) (x : α) :
    x ∈ insert turn a l ↔ x = a ∨ x ∈ l := by
  induction l with
  | nil => simp [insert]
  | cons b rest ih =>
      unfold insert
      split
      · simp
      · simp only [List.mem_cons, ih]
        exact or_left_comm

theorem mem_order (turn : α → Nat) (l : List α) (x : α) : x ∈ order turn l ↔ x ∈ l := by
  induction l with
  | nil => simp [order]
  | cons b rest ih => simp [order, mem_insert, ih]

end Turn
end MetricGateway
