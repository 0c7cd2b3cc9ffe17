import Std.Data.ExtTreeMap

/-!
# Lookups in maps

Keys are compared by orders that tell any two of them apart, so an entry is found under its own key
and under no other one.
-/

namespace MetricGateway

variable {α β : Type} [Ord α] [Std.TransOrd α] [Std.LawfulEqOrd α] [DecidableEq α]

theorem lookup_insert (m : Std.ExtTreeMap α β) (key other : α) (b : β) :
    (m.insert key b)[other]? = if key = other then some b else m[other]? := by
  rw [Std.ExtTreeMap.getElem?_insert]
  simp only [Std.LawfulEqOrd.compare_eq_iff_eq]

theorem lookup_insert_of_ne (m : Std.ExtTreeMap α β) {key other : α} (h : other ≠ key) (b : β) :
    (m.insert key b)[other]? = m[other]? := by
  rw [lookup_insert, if_neg h.symm]

theorem lookup_erase (m : Std.ExtTreeMap α β) (key other : α) :
    (m.erase key)[other]? = if key = other then none else m[other]? := by
  rw [Std.ExtTreeMap.getElem?_erase]
  simp only [Std.LawfulEqOrd.compare_eq_iff_eq]

theorem insert_of_lookup {m : Std.ExtTreeMap α β} {key : α} {b : β} (h : m[key]? = some b) :
    m.insert key b = m := by
  apply Std.ExtTreeMap.ext_getElem?
  intro other
  rw [lookup_insert]
  split
  next heq => rw [← heq, h]
  next => rfl

theorem erase_insert {m : Std.ExtTreeMap α β} {key : α} (h : key ∉ m) (b : β) :
    (m.insert key b).erase key = m := by
  apply Std.ExtTreeMap.ext_getElem?
  intro other
  rw [lookup_erase, lookup_insert]
  split
  next heq =>
    subst heq
    exact (Std.ExtTreeMap.getElem?_eq_none h).symm
  next => rfl

theorem erase_erase (m : Std.ExtTreeMap α β) (key : α) : (m.erase key).erase key = m.erase key := by
  apply Std.ExtTreeMap.ext_getElem?
  intro other
  simp only [lookup_erase]
  split <;> rfl

omit [Std.LawfulEqOrd α] [DecidableEq α] in
theorem exists_lookup_of_mem {m : Std.ExtTreeMap α β} {key : α} (h : key ∈ m) :
    ∃ b, m[key]? = some b :=
  Option.isSome_iff_exists.mp (Std.ExtTreeMap.mem_iff_isSome_getElem?.mp h)

omit [Std.LawfulEqOrd α] [DecidableEq α] in
theorem mem_of_lookup {m : Std.ExtTreeMap α β} {key : α} {b : β} (h : m[key]? = some b) :
    key ∈ m := by
  rw [Std.ExtTreeMap.mem_iff_isSome_getElem?, h]
  rfl

/-!
## Sizes
-/

omit [Std.LawfulEqOrd α] [DecidableEq α] in
theorem size_insert_of_not_mem {m : Std.ExtTreeMap α β} {key : α} (h : key ∉ m) (b : β) :
    (m.insert key b).size = m.size + 1 := by
  rw [Std.ExtTreeMap.size_insert, if_neg (by simpa using h)]

omit [DecidableEq α] in
theorem size_erase_of_mem {m : Std.ExtTreeMap α β} {key : α} (h : key ∈ m) :
    (m.erase key).size + 1 = m.size := by
  have hpos : 0 < m.size := by
    rw [← Std.ExtTreeMap.length_keys]
    exact List.length_pos_of_mem (Std.ExtTreeMap.mem_keys.mpr h)
  rw [Std.ExtTreeMap.size_erase, if_pos (by simpa using h)]
  exact Nat.sub_add_cancel hpos

omit [Std.LawfulEqOrd α] [DecidableEq α] in
theorem size_erase_of_not_mem {m : Std.ExtTreeMap α β} {key : α} (h : key ∉ m) :
    (m.erase key).size = m.size := by
  rw [Std.ExtTreeMap.size_erase, if_neg (by simpa using h)]

omit [DecidableEq α] in
theorem size_eq_of_mem_iff {γ : Type} {m : Std.ExtTreeMap α β} {m' : Std.ExtTreeMap α γ}
    (h : ∀ key, key ∈ m ↔ key ∈ m') : m.size = m'.size := by
  have hkeys : m.keys.Perm m'.keys := by
    rw [List.perm_ext_iff_of_nodup Std.ExtTreeMap.nodup_keys Std.ExtTreeMap.nodup_keys]
    intro key
    rw [Std.ExtTreeMap.mem_keys, Std.ExtTreeMap.mem_keys, h]
  rw [← Std.ExtTreeMap.length_keys, ← Std.ExtTreeMap.length_keys]
  exact hkeys.length_eq

/-!
## Values
-/

omit [Std.LawfulEqOrd α] [DecidableEq α] in
theorem values_eq_map_toList (m : Std.ExtTreeMap α β) : m.values = m.toList.map (·.2) := by
  have hfold : m.values = m.foldr (fun _ b bs => b :: bs) [] := by
    rcases m with ⟨⟨q⟩⟩
    induction q using Quotient.ind
    rfl
  rw [hfold, Std.ExtTreeMap.foldr_eq_foldr_toList, List.map_eq_foldr]

omit [DecidableEq α] in
theorem nodup_toList (m : Std.ExtTreeMap α β) : m.toList.Nodup := by
  apply Std.ExtTreeMap.distinct_keys_toList.imp
  intro a b hne heq
  rw [heq] at hne
  exact hne (Std.ReflCmp.compare_self)

omit [DecidableEq α] in
theorem not_mem_erase (m : Std.ExtTreeMap α β) (key : α) : key ∉ m.erase key := by
  intro hmem
  exact (Std.ExtTreeMap.mem_erase.mp hmem).1 Std.ReflCmp.compare_self

theorem values_insert_perm {m : Std.ExtTreeMap α β} {key : α} (h : key ∉ m) (b : β) :
    (m.insert key b).values.Perm (b :: m.values) := by
  have hentries : (m.insert key b).toList.Perm ((key, b) :: m.toList) := by
    have hfresh : (key, b) ∉ m.toList := by
      intro hmem
      exact h (mem_of_lookup (Std.ExtTreeMap.mem_toList_iff_getElem?_eq_some.mp hmem))
    rw [List.perm_ext_iff_of_nodup (nodup_toList _) (List.nodup_cons.mpr ⟨hfresh, nodup_toList m⟩)]
    rintro ⟨other, c⟩
    rw [Std.ExtTreeMap.mem_toList_iff_getElem?_eq_some, lookup_insert, List.mem_cons,
      Std.ExtTreeMap.mem_toList_iff_getElem?_eq_some]
    split
    next heq =>
      subst heq
      rw [Std.ExtTreeMap.getElem?_eq_none h]
      simp [eq_comm]
    next hne =>
      have hother : (other, c) ≠ (key, b) := fun heq => hne (congrArg Prod.fst heq).symm
      simp [hother]
  rw [values_eq_map_toList, values_eq_map_toList]
  exact hentries.map (·.2)

theorem countP_values_insert (m : Std.ExtTreeMap α β) (key : α) (b : β) (p : β → Bool) :
    (m.insert key b).values.countP p + ((m[key]?).any p).toNat =
      m.values.countP p + (p b).toNat := by
  have hnew : ∀ {m : Std.ExtTreeMap α β} (a : β), key ∉ m →
      (m.insert key a).values.countP p = m.values.countP p + (p a).toNat := by
    intro m a h
    rw [(values_insert_perm h a).countP_eq, List.countP_cons]
    cases p a <;> rfl
  by_cases h : key ∈ m
  · rcases exists_lookup_of_mem h with ⟨a, ha⟩
    have herased : key ∉ m.erase key := not_mem_erase m key
    have hold : m = (m.erase key).insert key a := by
      apply Std.ExtTreeMap.ext_getElem?
      intro other
      rw [lookup_insert, lookup_erase]
      split
      next heq => rw [← heq, ha]
      next => rfl
    have hagain : m.insert key b = (m.erase key).insert key b := by
      apply Std.ExtTreeMap.ext_getElem?
      intro other
      rw [lookup_insert, lookup_insert, lookup_erase]
      split <;> rfl
    have hcount := hnew a herased
    rw [← hold] at hcount
    rw [hagain, hnew b herased, hcount, ha]
    exact Nat.add_right_comm _ _ _
  · rw [Std.ExtTreeMap.getElem?_eq_none h, hnew b h]
    rfl

end MetricGateway
