import Std.Data.String.ToInt
import MetricGateway.Status

/-!
# Which texts are read as numbers and as statuses

Trimming a text drops the blanks at its two ends and keeps what stands between them.  A number is
read from an optional plus sign and at least one digit, and from nothing else; leading zeros do not
matter, and a number that is too large is no number, whatever it is congruent to.  So the type field
of a message writes a status if and only if, between blanks, it is the digit of the status behind
any number of zeros and at most one plus sign.
-/

namespace MetricGateway
namespace Text

/-!
## Runs of characters
-/

/-- A run of characters with a property ends where the rest begins. -/
def EndsAt (p : Char → Bool) (rest : List Char) : Prop := ∀ c ∈ rest.head?, p c = false

theorem endsAt_cons {p : Char → Bool} {c : Char} (h : p c = false) (rest : List Char) :
    EndsAt p (c :: rest) := by
  intro d hd
  cases hd
  exact h

theorem endsAt_append {p : Char → Bool} {front : List Char} (hne : front ≠ [])
    (hfront : ∀ c ∈ front, p c = false) (rest : List Char) : EndsAt p (front ++ rest) := by
  cases front with
  | nil => exact absurd rfl hne
  | cons c front => exact endsAt_cons (hfront c List.mem_cons_self) (front ++ rest)

theorem endsAt_dropWhile (p : Char → Bool) (cs : List Char) : EndsAt p (cs.dropWhile p) := by
  induction cs with
  | nil => exact fun _ hc => absurd hc (Option.not_mem_none _)
  | cons c cs ih =>
      rw [List.dropWhile_cons]
      split
      next => exact ih
      next hc => exact endsAt_cons (Bool.eq_false_iff.mpr hc) cs

theorem forall_mem_takeWhile (p : Char → Bool) (cs : List Char) :
    ∀ c ∈ cs.takeWhile p, p c = true :=
  List.all_eq_true.mp List.all_takeWhile

theorem cut_run {p : Char → Bool} {run rest : List Char} (hrun : ∀ c ∈ run, p c = true)
    (hrest : EndsAt p rest) :
    (run ++ rest).takeWhile p = run ∧ (run ++ rest).dropWhile p = rest := by
  rw [List.takeWhile_append_of_pos hrun, List.dropWhile_append_of_pos hrun]
  cases rest with
  | nil => exact ⟨List.append_nil run, rfl⟩
  | cons c rest =>
      have hc : ¬p c = true := Bool.eq_false_iff.mp (hrest c rfl)
      rw [List.takeWhile_cons_of_neg hc, List.dropWhile_cons_of_neg hc]
      exact ⟨List.append_nil run, rfl⟩

/-!
## Blanks
-/

def Blanks (cs : List Char) : Prop := ∀ c ∈ cs, isBlank c = true

theorem Blanks.reverse {cs : List Char} (h : Blanks cs) : Blanks cs.reverse :=
  fun c hc => h c (List.mem_reverse.mp hc)

theorem exists_blanks_trim (cs : List Char) :
    ∃ front back, Blanks front ∧ Blanks back ∧ cs = front ++ trim cs ++ back := by
  have hback : (cs.dropWhile isBlank).reverse.takeWhile isBlank ++
      (cs.dropWhile isBlank).reverse.dropWhile isBlank = (cs.dropWhile isBlank).reverse :=
    List.takeWhile_append_dropWhile
  have hblanks : Blanks ((cs.dropWhile isBlank).reverse.takeWhile isBlank) :=
    forall_mem_takeWhile isBlank _
  refine ⟨cs.takeWhile isBlank, ((cs.dropWhile isBlank).reverse.takeWhile isBlank).reverse,
    forall_mem_takeWhile isBlank cs, hblanks.reverse, ?_⟩
  unfold trim
  rw [List.append_assoc, ← List.reverse_append, hback, List.reverse_reverse,
    List.takeWhile_append_dropWhile]

theorem trim_of_blanks {front core back : List Char} (hfront : Blanks front) (hback : Blanks back)
    (hne : core ≠ []) (hcore : ∀ c ∈ core, isBlank c = false) :
    trim (front ++ core ++ back) = core := by
  have hreversed : ∀ c ∈ core.reverse, isBlank c = false :=
    fun c hc => hcore c (List.mem_reverse.mp hc)
  have hstart := (cut_run hfront (endsAt_append hne hcore back)).2
  have hend := (cut_run hback.reverse
    (endsAt_append (List.reverse_ne_nil_iff.mpr hne) hreversed [])).2
  rw [List.append_nil] at hend
  unfold trim
  rw [List.append_assoc, hstart, List.reverse_append, hend, List.reverse_reverse]

/-!
## Numbers
-/

theorem digit?_eq_some_iff {c : Char} {d : Nat} :
    digit? c = some d ↔ c.isDigit = true ∧ c.toNat - '0'.toNat = d := by
  have hdigit : c.isDigit = true ↔ '0' ≤ c ∧ c ≤ '9' := by
    simp [Char.isDigit, Char.le_def]
  unfold digit?
  rw [hdigit]
  split
  next h => simp [h]
  next h => simp [h]

theorem digitsFrom?_eq_some_iff {acc n : Nat} {cs : List Char} :
    digitsFrom? acc cs = some n ↔
      (∀ c ∈ cs, c.isDigit = true) ∧ Nat.ofDigitChars 10 cs acc = n := by
  induction cs generalizing acc with
  | nil => simp [Nat.ofDigitChars]
  | cons c cs ih =>
      unfold digitsFrom?
      rw [Option.bind_eq_bind, Option.bind_eq_some_iff]
      simp only [digit?_eq_some_iff, ih, List.forall_mem_cons, Nat.ofDigitChars_cons]
      constructor
      · rintro ⟨d, ⟨hdigit, rfl⟩, hdigits, hvalue⟩
        rw [Nat.mul_comm] at hvalue
        exact ⟨⟨hdigit, hdigits⟩, hvalue⟩
      · rintro ⟨⟨hdigit, hdigits⟩, hvalue⟩
        rw [Nat.mul_comm] at hvalue
        exact ⟨_, ⟨hdigit, rfl⟩, hdigits, hvalue⟩

/-- The texts that write a number: at least one digit, behind at most one plus sign. -/
inductive Numeral : List Char → Nat → Prop where
  | plain {digits : List Char} (hne : digits ≠ []) (hdigits : ∀ c ∈ digits, c.isDigit = true) :
      Numeral digits (Nat.ofDigitChars 10 digits 0)
  | signed {digits : List Char} (hne : digits ≠ []) (hdigits : ∀ c ∈ digits, c.isDigit = true) :
      Numeral ('+' :: digits) (Nat.ofDigitChars 10 digits 0)

theorem digits?_eq_some_iff {cs : List Char} {n : Nat} :
    digits? cs = some n ↔
      cs ≠ [] ∧ (∀ c ∈ cs, c.isDigit = true) ∧ Nat.ofDigitChars 10 cs 0 = n := by
  cases cs with
  | nil => simp
  | cons c cs =>
      unfold digits?
      rw [digitsFrom?_eq_some_iff]
      simp

theorem dropPlus_cases (cs : List Char) :
    (∃ rest, cs = '+' :: rest ∧ dropPlus cs = rest) ∨ dropPlus cs = cs := by
  unfold dropPlus
  split
  next rest => exact Or.inl ⟨rest, rfl, rfl⟩
  next => exact Or.inr rfl

theorem dropPlus_of_digits {digits : List Char} (h : ∀ c ∈ digits, c.isDigit = true) :
    dropPlus digits = digits := by
  rcases dropPlus_cases digits with ⟨rest, rfl, -⟩ | hsame
  · have hplus : ('+' : Char).isDigit = true := h '+' List.mem_cons_self
    cases hplus
  · exact hsame

theorem numeral_iff {cs : List Char} {n : Nat} : Numeral cs n ↔ digits? (dropPlus cs) = some n := by
  rw [digits?_eq_some_iff]
  constructor
  · intro h
    cases h with
    | plain hne hdigits =>
        rw [dropPlus_of_digits hdigits]
        exact ⟨hne, hdigits, rfl⟩
    | signed hne hdigits => exact ⟨hne, hdigits, rfl⟩
  · rintro ⟨hne, hdigits, rfl⟩
    rcases dropPlus_cases cs with ⟨rest, rfl, hrest⟩ | hsame
    · rw [hrest] at hne hdigits ⊢
      exact .signed hne hdigits
    · rw [hsame] at hne hdigits ⊢
      exact .plain hne hdigits

theorem unsigned?_eq_some_iff {limit n : Nat} {cs : List Char} :
    unsigned? limit cs = some n ↔ Numeral cs n ∧ n < limit := by
  unfold unsigned?
  rw [Option.filter_eq_some_iff, decide_eq_true_iff, numeral_iff]

/-!
## Small numbers
-/

theorem eq_digitChar {c : Char} (h : c.isDigit = true) :
    c = Nat.digitChar (c.toNat - '0'.toNat) ∧ c.toNat - '0'.toNat < 10 := by
  obtain ⟨hlow, hhigh⟩ := Char.isDigit_iff_toNat.mp h
  have hzero : '0'.toNat = 48 := rfl
  have hnine : '9'.toNat = 57 := rfl
  have hlt : c.toNat - '0'.toNat < 10 := by omega
  refine ⟨Char.toNat_inj.mp ?_, hlt⟩
  rw [Nat.toNat_digitChar_of_lt_ten hlt]
  omega

theorem ofDigitChars_eq_zero_iff {digits : List Char} (h : ∀ c ∈ digits, c.isDigit = true) :
    Nat.ofDigitChars 10 digits 0 = 0 ↔ ∀ c ∈ digits, c = '0' := by
  induction digits with
  | nil => simp
  | cons c digits ih =>
      obtain ⟨hc, hdigits⟩ := List.forall_mem_cons.mp h
      have hpow : 0 < 10 ^ digits.length := Nat.pow_pos (by decide)
      rw [Nat.ofDigitChars_cons, Nat.ofDigitChars_eq_ofDigitChars_zero, Nat.add_eq_zero_iff,
        Nat.mul_zero, Nat.zero_add, ih hdigits, List.forall_mem_cons, Nat.mul_eq_zero,
        or_iff_right (Nat.ne_of_gt hpow)]
      apply and_congr_left
      intro _
      constructor
      · intro hvalue
        have hsame := (eq_digitChar hc).1
        rw [hvalue] at hsame
        exact hsame
      · rintro rfl
        rfl

theorem digits_iff_of_lt_ten {digits : List Char} {n : Nat} (hn : n < 10) :
    (digits ≠ [] ∧ (∀ c ∈ digits, c.isDigit = true) ∧ Nat.ofDigitChars 10 digits 0 = n) ↔
      ∃ zeros, digits = List.replicate zeros '0' ++ [Nat.digitChar n] := by
  constructor
  · rintro ⟨hne, hdigits, hvalue⟩
    rcases List.eq_nil_or_concat digits with rfl | ⟨front, c, rfl⟩
    · exact absurd rfl hne
    · rw [List.concat_eq_append] at hdigits hvalue ⊢
      obtain ⟨hfront, hlast⟩ := List.forall_mem_append.mp hdigits
      have hc := eq_digitChar (hlast c List.mem_cons_self)
      rw [Nat.ofDigitChars_append, Nat.ofDigitChars_cons, Nat.ofDigitChars_nil] at hvalue
      -- Whatever stands in front of the last digit counts tenfold, and so for nothing.
      have hzero : Nat.ofDigitChars 10 front 0 = 0 := by omega
      have hdigit : c.toNat - '0'.toNat = n := by omega
      have hzeros := (ofDigitChars_eq_zero_iff hfront).mp hzero
      refine ⟨front.length, ?_⟩
      rw [← hdigit, ← hc.1, ← List.eq_replicate_iff.mpr ⟨rfl, hzeros⟩]
  · rintro ⟨zeros, rfl⟩
    have hzeros : ∀ c ∈ List.replicate zeros '0', c = '0' := fun c hc => List.eq_of_mem_replicate hc
    have hdigits : ∀ c ∈ List.replicate zeros '0', c.isDigit = true := by
      intro c hc
      rw [hzeros c hc]
      rfl
    refine ⟨List.append_ne_nil_of_right_ne_nil _ (List.cons_ne_nil _ _), ?_, ?_⟩
    · rw [List.forall_mem_append]
      refine ⟨hdigits, fun c hc => ?_⟩
      rw [List.mem_singleton.mp hc, Nat.isDigit_digitChar]
      exact decide_eq_true hn
    · rw [Nat.ofDigitChars_append, (ofDigitChars_eq_zero_iff hdigits).mpr hzeros,
        Nat.ofDigitChars_cons, Nat.ofDigitChars_nil, Nat.toNat_digitChar_of_lt_ten hn]
      exact (Nat.zero_add _).trans (Nat.add_sub_cancel_left 48 n)

theorem numeral_iff_of_lt_ten {cs : List Char} {n : Nat} (hn : n < 10) :
    Numeral cs n ↔ ∃ sign zeros, (sign = [] ∨ sign = ['+']) ∧
      cs = sign ++ List.replicate zeros '0' ++ [Nat.digitChar n] := by
  constructor
  · intro h
    cases h with
    | plain hne hdigits =>
        obtain ⟨zeros, heq⟩ := (digits_iff_of_lt_ten hn).mp ⟨hne, hdigits, rfl⟩
        exact ⟨[], zeros, Or.inl rfl, heq⟩
    | signed hne hdigits =>
        obtain ⟨zeros, heq⟩ := (digits_iff_of_lt_ten hn).mp ⟨hne, hdigits, rfl⟩
        exact ⟨['+'], zeros, Or.inr rfl, congrArg ('+' :: ·) heq⟩
  · rintro ⟨sign, zeros, hsign, rfl⟩
    obtain ⟨hne, hdigits, hvalue⟩ := (digits_iff_of_lt_ten hn).mpr ⟨zeros, rfl⟩
    rcases hsign with rfl | rfl
    · have hplain := Numeral.plain hne hdigits
      rw [hvalue] at hplain
      exact hplain
    · have hsigned := Numeral.signed hne hdigits
      rw [hvalue] at hsigned
      exact hsigned

end Text

/-!
## Type fields
-/

namespace Status

open Text (Blanks Numeral)

/-- The type fields that write a status: its digit, behind any number of zeros and at most one plus
sign, between blanks. -/
def WrittenIn (s : Status) (field : String) : Prop :=
  ∃ front sign zeros back, Blanks front ∧ Blanks back ∧ (sign = [] ∨ sign = ['+']) ∧
    field.toList = front ++ (sign ++ List.replicate zeros '0' ++ [Nat.digitChar s.code]) ++ back

theorem code_lt_ten (s : Status) : s.code < 10 := by
  cases s <;> decide

theorem code_ofCode {n : Nat} (h : ofCode n ≠ .untyped) : (ofCode n).code = n := by
  unfold ofCode at h ⊢
  split at h
  all_goals first | rfl | exact absurd rfl h

theorem isBlank_digitChar_code (s : Status) : Text.isBlank (Nat.digitChar s.code) = false := by
  cases s <;> decide

theorem writtenIn_iff {s : Status} {field : String} :
    s.WrittenIn field ↔ Numeral (Text.trim field.toList) s.code := by
  rw [Text.numeral_iff_of_lt_ten s.code_lt_ten]
  constructor
  · rintro ⟨front, sign, zeros, back, hfront, hback, hsign, heq⟩
    refine ⟨sign, zeros, hsign, ?_⟩
    rw [heq]
    apply Text.trim_of_blanks hfront hback
    · exact List.append_ne_nil_of_right_ne_nil _ (List.cons_ne_nil _ _)
    · rw [List.forall_mem_append, List.forall_mem_append]
      refine ⟨⟨?_, ?_⟩, ?_⟩
      · rcases hsign with rfl | rfl
        · exact List.forall_mem_nil _
        · exact List.forall_mem_singleton.mpr rfl
      · intro c hc
        rw [List.eq_of_mem_replicate hc]
        rfl
      · intro c hc
        rw [List.mem_singleton.mp hc]
        exact s.isBlank_digitChar_code
  · rintro ⟨sign, zeros, hsign, htrim⟩
    obtain ⟨front, back, hfront, hback, heq⟩ := Text.exists_blanks_trim field.toList
    rw [htrim] at heq
    exact ⟨front, sign, zeros, back, hfront, hback, hsign, heq⟩

theorem ofText_eq_iff {s : Status} (hs : s ≠ .untyped) {field : String} :
    ofText field = s ↔ s.WrittenIn field := by
  rw [writtenIn_iff]
  unfold ofText
  constructor
  · intro h
    split at h
    next n hn =>
      subst h
      rw [code_ofCode hs]
      exact (Text.unsigned?_eq_some_iff.mp hn).1
    next => exact absurd h.symm hs
  · intro h
    rw [Text.unsigned?_eq_some_iff.mpr ⟨h, Nat.lt_trans s.code_lt_ten (by decide)⟩]
    exact ofCode_code s

end Status
end MetricGateway
