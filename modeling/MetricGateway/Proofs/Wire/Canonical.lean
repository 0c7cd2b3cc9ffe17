import MetricGateway.Proofs.Wire.Payloads

/-!
# What a codec accepts

A codec that accepts some bytes has used the front of them, and what it used spells the value that
it found.  For most codecs a value has one spelling, the one in which it is written.  For a duration
it is not so: nanoseconds that make up whole seconds are carried over, and other bytes are written
for the duration that comes out.
-/

namespace MetricGateway

theorem exists_of_bind_eq_ok {ε α β : Type} {x : Except ε α} {f : α → Except ε β} {b : β}
    (h : x >>= f = .ok b) : ∃ a, x = .ok a ∧ f a = .ok b := by
  cases x with
  | error fault => cases h
  | ok a => exact ⟨a, rfl, h⟩

namespace Wire

theorem readLittleEndian_eq_ok {width n : Nat} {bs rest : Bytes}
    (h : readLittleEndian width bs = .ok (n, rest)) :
    bs = littleEndian width n ++ rest ∧ n < 256 ^ width := by
  induction width generalizing n bs with
  | zero =>
      cases h
      exact ⟨rfl, by decide⟩
  | succ width ih =>
      cases bs with
      | nil => cases h
      | cons b bs =>
          obtain ⟨⟨quotient, tail⟩, hquotient, hn⟩ := exists_of_bind_eq_ok h
          cases hn
          obtain ⟨hbytes, hlt⟩ := ih hquotient
          have hdigit := b.toNat_lt
          have hdiv : (b.toNat + 256 * quotient) / 256 = quotient := by omega
          have hmod : UInt8.ofNat (b.toNat + 256 * quotient) = b := by
            apply UInt8.toNat_inj.mp
            rw [UInt8.toNat_ofNat']
            omega
          constructor
          · rw [littleEndian_succ, hdiv, hmod, hbytes, List.cons_append]
          · rw [Nat.pow_succ]
            omega

namespace Codec

variable {α β : Type}

/-- What the codec takes from the front of the bytes that it accepts spells the value. -/
def Accepts (c : Codec α) (spelled : Bytes → α → Prop) : Prop :=
  ∀ ⦃bs a rest⦄, c.decode bs = .ok (a, rest) → ∃ used, bs = used ++ rest ∧ spelled used a

/-- The codec accepts a value only in the spelling in which it is written. -/
abbrev Exact (c : Codec α) : Prop := c.Accepts fun used a => used = c.encode a

theorem Accepts.mono {c : Codec α} {spelled spelled' : Bytes → α → Prop} (h : c.Accepts spelled)
    (hmono : ∀ used a, spelled used a → spelled' used a) : c.Accepts spelled' := by
  intro bs a rest hdecode
  obtain ⟨used, hbytes, hspelled⟩ := h hdecode
  exact ⟨used, hbytes, hmono used a hspelled⟩

/-!
## Records
-/

theorem Accepts.pair {first : Codec α} {second : Codec β} {spelled : Bytes → α → Prop}
    {spelled' : Bytes → β → Prop} (hfirst : first.Accepts spelled)
    (hsecond : second.Accepts spelled') :
    (first.pair second).Accepts fun used p =>
      ∃ front back, used = front ++ back ∧ spelled front p.1 ∧ spelled' back p.2 := by
  intro bs p rest h
  obtain ⟨⟨a, middle⟩, ha, h⟩ := exists_of_bind_eq_ok h
  obtain ⟨⟨b, rest'⟩, hb, h⟩ := exists_of_bind_eq_ok h
  cases h
  obtain ⟨front, hfront, ha⟩ := hfirst ha
  obtain ⟨back, hback, hb⟩ := hsecond hb
  refine ⟨front ++ back, ?_, front, back, rfl, ha, hb⟩
  rw [hfront, hback, List.append_assoc]

theorem Accepts.iso {c : Codec α} {spelled : Bytes → α → Prop} {make : α → β} {back : β → α}
    (h : c.Accepts spelled) :
    (c.iso make back).Accepts fun used b => ∃ a, make a = b ∧ spelled used a := by
  intro bs b rest hdecode
  obtain ⟨⟨a, rest'⟩, ha, hb⟩ := exists_of_bind_eq_ok hdecode
  cases hb
  obtain ⟨used, hbytes, hspelled⟩ := h ha
  exact ⟨used, hbytes, a, rfl, hspelled⟩

theorem Exact.pair {first : Codec α} {second : Codec β} (hfirst : first.Exact)
    (hsecond : second.Exact) : (first.pair second).Exact := by
  apply (Accepts.pair hfirst hsecond).mono
  rintro used p ⟨front, back, rfl, rfl, rfl⟩
  rfl

theorem Exact.iso {c : Codec α} {make : α → β} {back : β → α} (h : c.Exact)
    (hback : ∀ a, back (make a) = a) : (c.iso make back).Exact := by
  apply (Accepts.iso h).mono
  rintro used b ⟨a, rfl, rfl⟩
  show c.encode a = c.encode (back (make a))
  rw [hback]

/-!
## Words
-/

theorem accepts_number (width : Nat) :
    (number width).Accepts fun used n => used = littleEndian width n ∧ n < 256 ^ width := by
  intro bs n rest h
  obtain ⟨hbytes, hlt⟩ := readLittleEndian_eq_ok h
  exact ⟨littleEndian width n, hbytes, rfl, hlt⟩

/-- A word is accepted as it is written if it can hold every number of its width. -/
theorem exact_word {width : Nat} {make : Nat → α} {back : α → Nat}
    (hback : ∀ n < 256 ^ width, back (make n) = n) : ((number width).iso make back).Exact := by
  apply (accepts_number width).iso.mono
  rintro used b ⟨n, rfl, rfl, hlt⟩
  show littleEndian width n = littleEndian width (back (make n))
  rw [hback n hlt]

theorem exact_u8 : u8.Exact := exact_word fun _ h => UInt8.toNat_ofNat_of_lt' h

theorem exact_u16 : u16.Exact := exact_word fun _ h => UInt16.toNat_ofNat_of_lt' h

theorem exact_u32 : u32.Exact := exact_word fun _ h => UInt32.toNat_ofNat_of_lt' h

theorem exact_u64 : u64.Exact := exact_word fun _ h => UInt64.toNat_ofNat_of_lt' h

theorem exact_i32 : i32.Exact := exact_u32.iso UInt32.toUInt32_toInt32

theorem exact_i64 : i64.Exact := exact_u64.iso UInt64.toUInt64_toInt64

/-!
## Choices
-/

theorem encode_u8 (b : UInt8) : u8.encode b = [b] := by
  show [UInt8.ofNat b.toNat] = [b]
  rw [UInt8.ofNat_toNat]

theorem exact_bool : bool.Exact := by
  intro bs b rest h
  obtain ⟨⟨n, tail⟩, hn, h⟩ := exists_of_bind_eq_ok h
  obtain ⟨used, hbytes, hused⟩ := exact_u8 hn
  rw [encode_u8] at hused
  subst hused
  dsimp only at h
  split at h
  next hzero =>
    cases h
    exact ⟨[n], hbytes, congrArg (fun n => [n]) hzero⟩
  next =>
    split at h
    next hone =>
      cases h
      exact ⟨[n], hbytes, congrArg (fun n => [n]) hone⟩
    next => cases h

/-- The spellings of an optional value: its mark, and a spelling of the value if there is one. -/
inductive SpellsOption (spelled : Bytes → α → Prop) : Bytes → Option α → Prop where
  | none : SpellsOption spelled [0] none
  | some {part : Bytes} {a : α} (h : spelled part a) : SpellsOption spelled (1 :: part) (some a)

theorem Accepts.option {c : Codec α} {spelled : Bytes → α → Prop} (h : c.Accepts spelled) :
    (option c).Accepts (SpellsOption spelled) := by
  intro bs a? rest hdecode
  obtain ⟨⟨mark, tail⟩, hmark, hvalue⟩ := exists_of_bind_eq_ok hdecode
  obtain ⟨used, hbytes, hused⟩ := exact_u8 hmark
  rw [encode_u8] at hused
  subst hused
  dsimp only at hvalue
  split at hvalue
  next hzero =>
    cases hvalue
    rw [hzero] at hbytes
    exact ⟨[0], hbytes, .none⟩
  next =>
    split at hvalue
    next hone =>
      obtain ⟨⟨a, rest'⟩, ha, hvalue⟩ := exists_of_bind_eq_ok hvalue
      cases hvalue
      obtain ⟨part, hpart, hspelled⟩ := h ha
      rw [hone, hpart] at hbytes
      exact ⟨1 :: part, hbytes, .some hspelled⟩
    next => cases hvalue

theorem Exact.option {c : Codec α} (h : c.Exact) : (option c).Exact := by
  apply (Accepts.option h).mono
  intro used a? hspelled
  cases hspelled with
  | none => rfl
  | some hpart =>
      rw [hpart]
      rfl

theorem exact_variant [DecidableEq α] {all : List α} (hnodup : all.Nodup) :
    (variant all).Exact := by
  intro bs a rest h
  obtain ⟨⟨n, rest'⟩, hn, h⟩ := exists_of_bind_eq_ok h
  obtain ⟨hbytes, -⟩ := readLittleEndian_eq_ok hn
  dsimp only at h
  split at h
  next found hfound =>
    cases h
    obtain ⟨hlt, rfl⟩ := List.getElem?_eq_some_iff.mp hfound
    refine ⟨littleEndian 4 n, hbytes, ?_⟩
    show littleEndian 4 n = littleEndian 4 (all.idxOf all[n])
    rw [hnodup.idxOf_getElem n hlt]
  next => cases h

/-!
## Sequences
-/

/-- The spellings of the items of a list, one behind the other. -/
inductive SpellsItems (spelled : Bytes → α → Prop) : Bytes → List α → Prop where
  | nil : SpellsItems spelled [] []
  | cons {part parts : Bytes} {a : α} {as : List α} (h : spelled part a)
      (hs : SpellsItems spelled parts as) : SpellsItems spelled (part ++ parts) (a :: as)

/-- The spellings of a list: the number of its items, and a spelling of each. -/
def SpellsList (spelled : Bytes → α → Prop) (used : Bytes) (as : List α) : Prop :=
  ∃ parts, used = littleEndian 8 as.length ++ parts ∧ SpellsItems spelled parts as

theorem readItems_eq_ok {c : Codec α} {spelled : Bytes → α → Prop} (h : c.Accepts spelled)
    {count : Nat} {bs rest : Bytes} {as : List α} (hread : readItems c count bs = .ok (as, rest)) :
    as.length = count ∧ ∃ parts, bs = parts ++ rest ∧ SpellsItems spelled parts as := by
  induction count generalizing bs as with
  | zero =>
      cases hread
      exact ⟨rfl, [], rfl, .nil⟩
  | succ count ih =>
      obtain ⟨⟨a, middle⟩, ha, hread⟩ := exists_of_bind_eq_ok hread
      obtain ⟨⟨as', rest'⟩, has, hread⟩ := exists_of_bind_eq_ok hread
      cases hread
      obtain ⟨part, hpart, hspelled⟩ := h ha
      obtain ⟨hlength, parts, hparts, hitems⟩ := ih has
      refine ⟨by rw [List.length_cons, hlength], part ++ parts, ?_, .cons hspelled hitems⟩
      rw [hpart, hparts, List.append_assoc]

theorem Accepts.list {c : Codec α} {spelled : Bytes → α → Prop} (h : c.Accepts spelled) :
    (list c).Accepts (SpellsList spelled) := by
  intro bs as rest hdecode
  obtain ⟨⟨count, tail⟩, hcount, hread⟩ := exists_of_bind_eq_ok hdecode
  obtain ⟨hbytes, -⟩ := readLittleEndian_eq_ok hcount
  obtain ⟨rfl, parts, hparts, hitems⟩ := readItems_eq_ok h hread
  refine ⟨littleEndian 8 as.length ++ parts, ?_, parts, rfl, hitems⟩
  rw [hbytes, hparts, List.append_assoc]

theorem SpellsItems.mono {spelled spelled' : Bytes → α → Prop} {parts : Bytes} {as : List α}
    (h : SpellsItems spelled parts as)
    (hmono : ∀ used, ∀ a ∈ as, spelled used a → spelled' used a) :
    SpellsItems spelled' parts as := by
  induction h with
  | nil => exact .nil
  | cons hpart _ ih =>
      have hrest := ih fun used a ha => hmono used a (List.mem_cons_of_mem _ ha)
      exact .cons (hmono _ _ List.mem_cons_self hpart) hrest

theorem SpellsItems.length_eq {spelled : Bytes → α → Prop} {encode : α → Bytes} {parts : Bytes}
    {as : List α} (h : SpellsItems spelled parts as)
    (hlength : ∀ used a, spelled used a → used.length = (encode a).length) :
    parts.length = (as.flatMap encode).length := by
  induction h with
  | nil => rfl
  | cons hpart _ ih =>
      rw [List.flatMap_cons, List.length_append, List.length_append, hlength _ _ hpart, ih]

theorem SpellsItems.eq_flatMap {encode : α → Bytes} {parts : Bytes} {as : List α}
    (h : SpellsItems (fun used a => used = encode a) parts as) : parts = as.flatMap encode := by
  induction h with
  | nil => rfl
  | cons hpart _ ih => rw [hpart, ih, List.flatMap_cons]

theorem spellsItems_flatMap {encode : α → Bytes} (as : List α) :
    SpellsItems (fun used a => used = encode a) (as.flatMap encode) as := by
  induction as with
  | nil => exact .nil
  | cons a as ih =>
      rw [List.flatMap_cons]
      exact .cons rfl ih

theorem Exact.list {c : Codec α} (h : c.Exact) : (list c).Exact := by
  apply (Accepts.list h).mono
  rintro used as ⟨parts, rfl, hitems⟩
  rw [hitems.eq_flatMap]
  rfl

theorem exact_blob : blob.Exact := exact_u8.list

theorem toByteArray_of_fromUTF8? {bytes : ByteArray} {s : String}
    (h : String.fromUTF8? bytes = some s) : s.toByteArray = bytes := by
  unfold String.fromUTF8? at h
  split at h
  · cases h
    rfl
  · cases h

theorem exact_text : text.Exact := by
  intro bs s rest h
  obtain ⟨⟨count, tail⟩, hcount, h⟩ := exists_of_bind_eq_ok h
  obtain ⟨hbytes, -⟩ := readLittleEndian_eq_ok hcount
  dsimp only at h
  split at h
  next => cases h
  next hlength =>
    split at h
    next found hfound =>
      cases h
      have hbody : s.toByteArray.data.toList = tail.take count := by
        rw [toByteArray_of_fromUTF8? hfound]
      have hsize : s.utf8ByteSize = count := by
        have hsize : s.toByteArray.data.toList.length = s.utf8ByteSize := by simp
        rw [← hsize, hbody]
        have htake := List.length_take_le count tail
        omega
      refine ⟨littleEndian 8 count ++ tail.take count, ?_, ?_⟩
      · rw [hbytes, List.append_assoc, List.take_append_drop]
      · show _ = littleEndian 8 s.utf8ByteSize ++ s.toByteArray.data.toList
        rw [hsize, hbody]
    next => cases h

/-!
## Durations
-/

/-- The spellings of a duration: the one in which it is written, and those with a second or more
among the nanoseconds, from which it comes out by carrying. -/
inductive SpellsDuration : Bytes → Duration → Prop where
  | plain (d : Duration) : SpellsDuration (duration.encode d) d
  | carried {secs : UInt64} {nanos : UInt32} {d : Duration} (hnanos : nanosPerSec ≤ nanos.toNat)
      (h : Duration.carried? secs nanos = some d) :
      SpellsDuration (u64.encode secs ++ u32.encode nanos) d

theorem accepts_duration : duration.Accepts SpellsDuration := by
  intro bs d rest h
  obtain ⟨⟨secs, middle⟩, hsecs, h⟩ := exists_of_bind_eq_ok h
  obtain ⟨⟨nanos, tail⟩, hnanos, h⟩ := exists_of_bind_eq_ok h
  obtain ⟨front, hfront, rfl⟩ := exact_u64 hsecs
  obtain ⟨back, hback, rfl⟩ := exact_u32 hnanos
  dsimp only at h
  split at h
  next found hcarried =>
    cases h
    refine ⟨u64.encode secs ++ u32.encode nanos, ?_, ?_⟩
    · rw [hfront, hback, List.append_assoc]
    · rcases Nat.lt_or_ge nanos.toNat nanosPerSec with hlt | hge
      · -- Such a pair is a duration, and nothing is carried over in it.
        cases (carried?_self ⟨secs, nanos, hlt⟩).symm.trans hcarried
        exact .plain ⟨secs, nanos, hlt⟩
      · exact .carried hge hcarried
  next => cases h

theorem length_encode_duration (d : Duration) : (duration.encode d).length = 12 := by
  show (littleEndian 8 d.secs.toNat ++ littleEndian 4 d.nanos.toNat).length = 12
  rw [List.length_append, length_littleEndian, length_littleEndian]

theorem SpellsDuration.length_eq {used : Bytes} {d : Duration} (h : SpellsDuration used d) :
    used.length = 12 := by
  cases h with
  | plain => exact length_encode_duration d
  | @carried secs nanos =>
      show (littleEndian 8 secs.toNat ++ littleEndian 4 nanos.toNat).length = 12
      rw [List.length_append, length_littleEndian, length_littleEndian]

end Codec
end Wire
end MetricGateway
