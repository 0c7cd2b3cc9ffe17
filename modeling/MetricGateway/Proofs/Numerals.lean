import Std.Data.String.ToInt

/-!
# Numbers at the start of a text

A number is written with its digits, after a sign where it is negative.  A text that goes on with
another character after a number has only one reading: the number, and the rest of the text.
-/

namespace MetricGateway

/-- Two texts that are cut at the first place of a character have the same parts. -/
theorem append_cons_inj {c : Char} {a a' b b' : List Char} (ha : c ∉ a) (ha' : c ∉ a')
    (h : a ++ c :: b = a' ++ c :: b') : a = a' ∧ b = b' := by
  induction a generalizing a' with
  | nil =>
      cases a' with
      | nil => exact ⟨rfl, (List.cons.inj h).2⟩
      | cons d a' =>
          have hd : c = d := (List.cons.inj h).1
          exact absurd (hd ▸ List.mem_cons_self) ha'
  | cons d a ih =>
      cases a' with
      | nil =>
          have hd : d = c := (List.cons.inj h).1
          exact absurd (hd ▸ List.mem_cons_self) ha
      | cons d' a' =>
          rcases List.cons.inj h with ⟨hd, hrest⟩
          rcases ih (List.not_mem_of_not_mem_cons ha) (List.not_mem_of_not_mem_cons ha') hrest with
            ⟨hsame, hb⟩
          exact ⟨by rw [hd, hsame], hb⟩

theorem notMem_repr {c : Char} (hc : c.isDigit = false) (n : Nat) : c ∉ n.repr.toList := by
  intro hmem
  rw [Nat.toList_repr] at hmem
  have hdigit := Nat.isDigit_of_mem_toDigits (by decide) (by decide) hmem
  rw [hc] at hdigit
  cases hdigit

theorem notMem_repr_int {c : Char} (hc : c.isDigit = false) (hsign : c ≠ '-') (i : Int) :
    c ∉ i.repr.toList := by
  cases i with
  | ofNat n => exact notMem_repr hc n
  | negSucc n =>
      show c ∉ ("-" ++ n.succ.repr).toList
      rw [String.toList_append]
      intro hmem
      rcases List.mem_append.mp hmem with hfirst | hdigits
      · exact hsign (List.mem_singleton.mp hfirst)
      · exact notMem_repr hc n.succ hdigits

end MetricGateway
