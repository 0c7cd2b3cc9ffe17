import MetricGateway.Environment
import MetricGateway.Proofs.Text.Numbers

/-!
# Names that lead into values

A name that leads into a value is the name of the value with steps behind it: the step to a part is
a point and a plain name, the step to a place a number in brackets.  Steps are read as far as their
characters go, and none of these characters begins another step.  So a name is read in one way only,
and reading it finds the steps wherever there are some.
-/

namespace MetricGateway
namespace Environment

open Text (EndsAt cut_run endsAt_append endsAt_cons endsAt_dropWhile forall_mem_takeWhile)

/-!
## Steps
-/

def sign : Bool → List Char
  | true => ['-']
  | false => []

/-- The step to a part of a value or to one of its places.  A place is counted from the front, or
from the back if its number has a sign, as far as machine words go. -/
inductive Step : List Char → Prop where
  | part {chars : List Char} (hne : chars ≠ []) (hchars : ∀ c ∈ chars, isNameChar c = true) :
      Step ('.' :: chars)
  | place {front digits back : List Char} {negative : Bool} (hfront : ∀ c ∈ front, isGap c = true)
      (hne : digits ≠ []) (hdigits : ∀ c ∈ digits, c.isDigit = true)
      (hfits : Nat.ofDigitChars 10 digits 0 < UInt64.size / 2 + negative.toNat)
      (hback : ∀ c ∈ back, isGap c = true) :
      Step ('[' :: (front ++ (sign negative ++ (digits ++ (back ++ [']'])))))

def Path (cs : List Char) : Prop :=
  ∃ steps : List (List Char), (∀ step ∈ steps, Step step) ∧ steps.flatten = cs

/-- A name leads into the value that has the given name.  As for `leadsInto`, lower case is that of
ASCII, and places may be as far out as a number of 64 bits can say. -/
def LeadsInto (name key : String) : Prop :=
  ∃ path, path ≠ [] ∧ Path path ∧ key.toLower.toList = name.toList ++ path

theorem isDigit_of_isGap {c : Char} (h : isGap c = true) : c.isDigit = false := by
  unfold isGap at h
  rw [Bool.or_eq_true, decide_eq_true_iff, decide_eq_true_iff] at h
  rcases h with rfl | rfl <;> rfl

theorem isGap_of_isDigit {c : Char} (h : c.isDigit = true) : isGap c = false := by
  cases hgap : isGap c with
  | false => rfl
  | true =>
      rw [isDigit_of_isGap hgap] at h
      cases h

theorem endsAt_gaps {back : List Char} (hback : ∀ c ∈ back, isGap c = true) (rest : List Char) :
    EndsAt Char.isDigit (back ++ ']' :: rest) := by
  cases back with
  | nil => exact endsAt_cons rfl rest
  | cons c back => exact endsAt_cons (isDigit_of_isGap (hback c List.mem_cons_self)) _

/-- The number of a place begins with a sign or with a digit, and so with no gap. -/
theorem endsAt_number {negative : Bool} {digits : List Char} (hne : digits ≠ [])
    (hdigits : ∀ c ∈ digits, c.isDigit = true) (rest : List Char) :
    EndsAt isGap (sign negative ++ (digits ++ rest)) := by
  cases negative with
  | true => exact endsAt_cons rfl (digits ++ rest)
  | false => exact endsAt_append hne (fun c hc => isGap_of_isDigit (hdigits c hc)) rest

def dropDigits? (limit : Nat) (cs : List Char) : Option (List Char) :=
  match Text.digits? (cs.takeWhile Char.isDigit) with
  | some n => if n < limit then some (cs.dropWhile Char.isDigit) else none
  | none => none

theorem dropNumber?_of_unsigned {cs : List Char} (h : cs.head? ≠ some '-') :
    dropNumber? cs = dropDigits? (UInt64.size / 2) cs := by
  unfold dropNumber?
  split
  next heq =>
    split at heq
    next => exact absurd rfl h
    next =>
      cases heq
      rfl

theorem dropDigits?_eq_some_iff {limit : Nat} {cs rest : List Char} :
    dropDigits? limit cs = some rest ↔ ∃ digits, digits ≠ [] ∧
      (∀ c ∈ digits, c.isDigit = true) ∧ Nat.ofDigitChars 10 digits 0 < limit ∧
      EndsAt Char.isDigit rest ∧ cs = digits ++ rest := by
  unfold dropDigits?
  constructor
  · intro h
    split at h
    next n hn =>
      obtain ⟨hne, hdigits, rfl⟩ := Text.digits?_eq_some_iff.mp hn
      split at h
      next hlt =>
        cases h
        exact ⟨_, hne, hdigits, hlt, endsAt_dropWhile _ cs,
          List.takeWhile_append_dropWhile.symm⟩
      next => cases h
    next => cases h
  · rintro ⟨digits, hne, hdigits, hlt, hends, rfl⟩
    obtain ⟨htake, hdrop⟩ := cut_run hdigits hends
    rw [htake, hdrop, Text.digits?_eq_some_iff.mpr ⟨hne, hdigits, rfl⟩]
    exact if_pos hlt

/-- Whether it has a sign or not, a number is taken off with all of its digits. -/
theorem dropNumber?_eq_some_iff {cs rest : List Char} :
    dropNumber? cs = some rest ↔ ∃ negative digits, digits ≠ [] ∧
      (∀ c ∈ digits, c.isDigit = true) ∧
      Nat.ofDigitChars 10 digits 0 < UInt64.size / 2 + negative.toNat ∧
      EndsAt Char.isDigit rest ∧ cs = sign negative ++ (digits ++ rest) := by
  constructor
  · intro h
    by_cases hsign : cs.head? = some '-'
    · obtain ⟨digits, rfl⟩ := List.head?_eq_some_iff.mp hsign
      have hdrop : dropDigits? (UInt64.size / 2 + 1) digits = some rest := h
      obtain ⟨digits, hne, hdigits, hfits, hends, rfl⟩ := dropDigits?_eq_some_iff.mp hdrop
      exact ⟨true, digits, hne, hdigits, hfits, hends, rfl⟩
    · rw [dropNumber?_of_unsigned hsign] at h
      obtain ⟨digits, hne, hdigits, hfits, hends, rfl⟩ := dropDigits?_eq_some_iff.mp h
      exact ⟨false, digits, hne, hdigits, hfits, hends, rfl⟩
  · rintro ⟨negative, digits, hne, hdigits, hfits, hends, rfl⟩
    cases negative with
    | true =>
        show dropDigits? (UInt64.size / 2 + 1) (digits ++ rest) = some rest
        exact dropDigits?_eq_some_iff.mpr ⟨digits, hne, hdigits, hfits, hends, rfl⟩
    | false =>
        have hunsigned : (digits ++ rest).head? ≠ some '-' := by
          obtain ⟨c, digits, rfl⟩ := List.exists_cons_of_ne_nil hne
          intro hsign
          cases hsign
          have hminus : ('-' : Char).isDigit = true := hdigits '-' List.mem_cons_self
          cases hminus
        show dropNumber? (digits ++ rest) = some rest
        rw [dropNumber?_of_unsigned hunsigned]
        exact dropDigits?_eq_some_iff.mpr ⟨digits, hne, hdigits, hfits, hends, rfl⟩

theorem dropStep?_of_step {step rest : List Char} (h : Step step) (hrest : EndsAt isNameChar rest) :
    dropStep? (step ++ rest) = some rest := by
  cases h with
  | @part chars hne hchars =>
      obtain ⟨-, hdrop⟩ := cut_run hchars hrest
      obtain ⟨c, chars, rfl⟩ := List.exists_cons_of_ne_nil hne
      have hfirst : isNameChar c = true := hchars c List.mem_cons_self
      show (if isNameChar c = true then some ((c :: chars ++ rest).dropWhile isNameChar)
        else none) = some rest
      rw [if_pos hfirst, hdrop]
  | @place front digits back negative hfront hne hdigits hfits hback =>
      have hwhole : front ++ (sign negative ++ (digits ++ (back ++ [']']))) ++ rest =
          front ++ (sign negative ++ (digits ++ (back ++ ']' :: rest))) := by
        simp only [List.append_assoc, List.singleton_append]
      have hnumber : dropNumber? (sign negative ++ (digits ++ (back ++ ']' :: rest))) =
          some (back ++ ']' :: rest) :=
        dropNumber?_eq_some_iff.mpr
          ⟨negative, digits, hne, hdigits, hfits, endsAt_gaps hback rest, rfl⟩
      have hstart : (front ++ (sign negative ++ (digits ++ (back ++ ']' :: rest)))).dropWhile isGap =
          sign negative ++ (digits ++ (back ++ ']' :: rest)) :=
        (cut_run hfront (endsAt_number hne hdigits _)).2
      have hend : (back ++ ']' :: rest).dropWhile isGap = ']' :: rest :=
        (cut_run hback (endsAt_cons (by rfl) rest)).2
      rw [List.cons_append, hwhole]
      unfold dropStep?
      simp only [hstart, hnumber, Option.map_some, hend]

theorem step_of_dropStep? {cs rest : List Char} (h : dropStep? cs = some rest) :
    ∃ step, Step step ∧ cs = step ++ rest := by
  unfold dropStep? at h
  split at h
  next cs =>
    split at h
    next hfirst =>
      cases h
      have hne : cs.takeWhile isNameChar ≠ [] := by
        cases cs with
        | nil => cases hfirst
        | cons c cs =>
            have hc : isNameChar c = true := hfirst
            rw [List.takeWhile_cons_of_pos hc]
            exact List.cons_ne_nil _ _
      refine ⟨'.' :: cs.takeWhile isNameChar, .part hne (forall_mem_takeWhile _ cs), ?_⟩
      rw [List.cons_append, List.takeWhile_append_dropWhile]
    next => cases h
  next cs =>
    split at h
    next rest' heq =>
      cases h
      obtain ⟨tail, hnumber, htail⟩ := Option.map_eq_some_iff.mp heq
      obtain ⟨negative, digits, hne, hdigits, hfits, -, hcs⟩ := dropNumber?_eq_some_iff.mp hnumber
      refine ⟨_, .place (forall_mem_takeWhile isGap cs) hne hdigits hfits
        (forall_mem_takeWhile isGap tail), ?_⟩
      have htail' : tail.takeWhile isGap ++ ([']'] ++ rest) = tail := by
        rw [List.singleton_append, ← htail, List.takeWhile_append_dropWhile]
      rw [List.cons_append, List.append_assoc, List.append_assoc, List.append_assoc,
        List.append_assoc, htail', ← hcs, List.takeWhile_append_dropWhile]
    next => cases h
  next => cases h

theorem Path.endsAt {cs : List Char} (h : Path cs) : EndsAt isNameChar cs := by
  obtain ⟨steps, hsteps, rfl⟩ := h
  cases steps with
  | nil => exact fun _ hc => absurd hc (Option.not_mem_none _)
  | cons step steps =>
      cases hsteps step List.mem_cons_self with
      | part hne hchars => exact endsAt_cons rfl _
      | place => exact endsAt_cons rfl _

theorem Path.cons {step cs : List Char} (hstep : Step step) (h : Path cs) : Path (step ++ cs) := by
  obtain ⟨steps, hsteps, rfl⟩ := h
  exact ⟨step :: steps, List.forall_mem_cons.mpr ⟨hstep, hsteps⟩, rfl⟩

theorem path_nil : Path [] :=
  ⟨[], fun _ hmem => absurd hmem List.not_mem_nil, rfl⟩

theorem path_of_areSteps {fuel : Nat} {cs : List Char} (h : areSteps fuel cs = true) :
    Path cs := by
  induction fuel generalizing cs with
  | zero =>
      cases cs with
      | nil => exact path_nil
      | cons c cs => cases h
  | succ fuel ih =>
      cases cs with
      | nil => exact path_nil
      | cons c cs =>
          cases hdrop : dropStep? (c :: cs) with
          | none =>
              unfold areSteps at h
              rw [hdrop] at h
              cases h
          | some rest =>
              unfold areSteps at h
              rw [hdrop] at h
              obtain ⟨step, hstep, heq⟩ := step_of_dropStep? hdrop
              rw [heq]
              exact (ih h).cons hstep

theorem areSteps_of_path {fuel : Nat} {cs : List Char} (h : Path cs) (hfuel : cs.length ≤ fuel) :
    areSteps fuel cs = true := by
  obtain ⟨steps, hsteps, rfl⟩ := h
  induction steps generalizing fuel with
  | nil => exact areSteps.eq_1 fuel
  | cons step steps ih =>
      obtain ⟨hstep, hrest⟩ := List.forall_mem_cons.mp hsteps
      have hends : EndsAt isNameChar steps.flatten := Path.endsAt ⟨steps, hrest, rfl⟩
      have hdrop := dropStep?_of_step hstep hends
      have hpos : 0 < step.length := by cases hstep <;> exact Nat.succ_pos _
      rw [List.flatten_cons] at hfuel ⊢
      rw [List.length_append] at hfuel
      cases fuel with
      | zero => omega
      | succ fuel =>
          obtain ⟨c, cs, heq⟩ := List.exists_cons_of_ne_nil (List.ne_nil_of_length_pos hpos)
          rw [heq, List.cons_append] at hdrop ⊢
          unfold areSteps
          rw [hdrop]
          exact ih hrest (by omega)

theorem leadsInto_iff {name key : String} (hname : ∀ c ∈ name.toList, isNameChar c = true) :
    leadsInto name key = true ↔ LeadsInto name key := by
  unfold leadsInto LeadsInto
  generalize key.toLower.toList = cs
  constructor
  · intro h
    simp only [Bool.and_eq_true, decide_eq_true_eq, Bool.not_eq_true',
      List.isEmpty_eq_false_iff] at h
    obtain ⟨⟨hplain, hne⟩, hsteps⟩ := h
    refine ⟨cs.dropWhile isNameChar, hne, path_of_areSteps hsteps, ?_⟩
    rw [← hplain, String.toList_ofList, List.takeWhile_append_dropWhile]
  · rintro ⟨path, hne, hpath, rfl⟩
    obtain ⟨htake, hdrop⟩ := cut_run hname hpath.endsAt
    simp only [htake, hdrop, String.ofList_toList, Bool.and_eq_true, decide_eq_true_eq,
      Bool.not_eq_true', List.isEmpty_eq_false_iff]
    exact ⟨⟨trivial, hne⟩, areSteps_of_path hpath (Nat.le_refl _)⟩

end Environment
end MetricGateway
