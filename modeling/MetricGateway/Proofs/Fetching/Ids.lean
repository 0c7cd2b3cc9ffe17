import MetricGateway.Commons

/-!
# Correlation ids

Ids that were given out under different numbers are different, and none of them is empty.  The
number is read back from the hexadecimal digits, which the leading zeros do not change.
-/

namespace MetricGateway
namespace Correlation

def digitValue (c : Char) : Nat := if c.isDigit then c.toNat - 48 else c.toNat - 87

def valueOf (digits : List Char) : Nat := digits.foldl (fun n c => 16 * n + digitValue c) 0

theorem valueOf_append_singleton (digits : List Char) (c : Char) :
    valueOf (digits ++ [c]) = 16 * valueOf digits + digitValue c := by
  unfold valueOf
  rw [List.foldl_append]
  rfl

theorem digitValue_digitChar {d : Nat} (h : d < 16) : digitValue d.digitChar = d := by
  have hall : ∀ d : Fin 16, digitValue d.val.digitChar = d.val := by decide
  exact hall ⟨d, h⟩

theorem valueOf_toDigits (n : Nat) : valueOf (Nat.toDigits 16 n) = n := by
  induction n using Nat.strongRecOn with
  | ind n ih =>
      by_cases hsmall : n < 16
      · rw [Nat.toDigits_of_lt_base hsmall]
        show 16 * 0 + digitValue n.digitChar = n
        rw [digitValue_digitChar hsmall, Nat.mul_zero, Nat.zero_add]
      · rw [Nat.toDigits_of_base_le (by decide) (Nat.le_of_not_lt hsmall),
          valueOf_append_singleton, ih (n / 16) (by omega),
          digitValue_digitChar (Nat.mod_lt n (by decide))]
        omega

theorem valueOf_zeros_append (k : Nat) (digits : List Char) :
    valueOf (List.replicate k '0' ++ digits) = valueOf digits := by
  induction k with
  | zero => rfl
  | succ k ih => exact ih

theorem id_injective {n m : Nat} (h : id n = id m) : n = m := by
  unfold id at h
  have hdigits : hex 12 n = hex 12 m := by
    have hlist := congrArg String.toList h
    simpa using hlist
  have hvalue := congrArg valueOf hdigits
  unfold hex at hvalue
  dsimp only at hvalue
  rw [valueOf_zeros_append, valueOf_zeros_append, valueOf_toDigits, valueOf_toDigits] at hvalue
  exact hvalue

theorem id_ne_empty (n : Nat) : (id n).isEmpty = false := by
  unfold id start
  simp [String.isEmpty_eq_false_iff]

end Correlation
end MetricGateway
