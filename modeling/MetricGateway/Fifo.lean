/-!
# First in, first out

A line of items in the order in which they came.  Items join at the back and leave at the front;
both are cheap, because the back of the line is kept in reverse.  What the line holds is said by its
list of items, the first one in front.
-/

namespace MetricGateway

structure Fifo (α : Type) where
  front : List α
  /-- The back of the line, the last item first. -/
  back : List α
  size : Nat
  size_eq : size = front.length + back.length

namespace Fifo

variable {α : Type}

def toList (q : Fifo α) : List α := q.front ++ q.back.reverse

def ofList (as : List α) : Fifo α := ⟨as, [], as.length, by simp⟩

def empty : Fifo α := ofList []

instance : Inhabited (Fifo α) := ⟨empty⟩

def isEmpty (q : Fifo α) : Bool := q.size = 0

def push (q : Fifo α) (a : α) : Fifo α :=
  ⟨q.front, a :: q.back, q.size + 1, by simp [q.size_eq, Nat.add_assoc]⟩

def pop? (q : Fifo α) : Option (α × Fifo α) :=
  match hf : q.front with
  | a :: as => some (a, ⟨as, q.back, q.size - 1, by simp [q.size_eq, hf, Nat.add_right_comm]⟩)
  | [] =>
      match q.back.reverse with
      | [] => none
      | a :: as => some (a, ofList as)

@[simp] theorem toList_ofList (as : List α) : (ofList as).toList = as := by
  simp [toList, ofList]

@[simp] theorem toList_empty : (empty : Fifo α).toList = [] := rfl

@[simp] theorem toList_push (q : Fifo α) (a : α) : (q.push a).toList = q.toList ++ [a] := by
  simp [toList, push]

theorem size_eq_length (q : Fifo α) : q.size = q.toList.length := by
  simp [toList, q.size_eq]

theorem isEmpty_iff (q : Fifo α) : q.isEmpty = true ↔ q.toList = [] := by
  rw [isEmpty, decide_eq_true_iff, size_eq_length, List.length_eq_zero_iff]

theorem pop?_map_toList (q : Fifo α) :
    (q.pop?.map fun p => (p.1, p.2.toList)) =
      match q.toList with
      | [] => none
      | a :: as => some (a, as) := by
  unfold pop?
  split
  next a as hf => simp [toList, hf]
  next hf =>
    split
    next hb => simp [toList, hf, hb]
    next a as hb => simp [toList, hf, hb, ofList]

theorem toList_of_pop?_none {q : Fifo α} (h : q.pop? = none) : q.toList = [] := by
  have hpop := q.pop?_map_toList
  rw [h] at hpop
  cases hlist : q.toList with
  | nil => rfl
  | cons a as =>
      rw [hlist] at hpop
      cases hpop

theorem toList_of_pop?_some {q rest : Fifo α} {a : α} (h : q.pop? = some (a, rest)) :
    q.toList = a :: rest.toList := by
  have hpop := q.pop?_map_toList
  rw [h] at hpop
  cases hlist : q.toList with
  | nil =>
      rw [hlist] at hpop
      cases hpop
  | cons b bs =>
      rw [hlist] at hpop
      cases hpop
      rfl

end Fifo
end MetricGateway
