import Mathlib.Algebra.Group.Nat.Defs
import MetricGateway.Envelope

/-!
# Reading back what was written

A codec reads a value back if it finds the value in front of whatever bytes follow it, and leaves
those bytes.  The bytes that follow make the property compose: a record is read back because each of
its fields is, in front of the encodings of the fields behind it.  Numbers are read back where they
fit into their width, and so are texts and lists where their length fits into eight bytes.
-/

namespace MetricGateway
namespace Wire

theorem readLittleEndian_littleEndian {width n : Nat} (h : n < 256 ^ width) (rest : Bytes) :
    readLittleEndian width (littleEndian width n ++ rest) = .ok (n, rest) := by
  induction width generalizing n with
  | zero =>
      have hn : n = 0 := by simpa using h
      rw [hn]
      rfl
  | succ width ih =>
      have hquotient : n / 256 < 256 ^ width := by
        rw [Nat.pow_succ] at h
        omega
      have hdigit : (UInt8.ofNat n).toNat = n % 256 := UInt8.toNat_ofNat'
      rw [littleEndian_succ, List.cons_append]
      unfold readLittleEndian
      rw [ih hquotient]
      have hn : (UInt8.ofNat n).toNat + 256 * (n / 256) = n := by omega
      exact congrArg (fun k => Except.ok (k, rest)) hn

theorem readLittleEndian_length {n : Nat} (h : n < UInt64.size) (rest : Bytes) :
    readLittleEndian 8 (littleEndian 8 n ++ rest) = .ok (n, rest) :=
  have hsize : UInt64.size = 256 ^ 8 := by decide
  readLittleEndian_littleEndian (hsize ▸ h) rest

namespace Codec

variable {α β : Type}

/-- The codec finds the value in front of whatever follows what it wrote for it. -/
def ReadsBack (c : Codec α) (a : α) : Prop :=
  ∀ rest, c.decode (c.encode a ++ rest) = .ok (a, rest)

theorem ReadsBack.read {c : Codec α} {a : α} (h : c.ReadsBack a) : c.read (c.encode a) = .ok a := by
  have hdecode := h []
  rw [List.append_nil] at hdecode
  unfold Codec.read
  rw [hdecode]
  rfl

theorem ReadsBack.pair {first : Codec α} {second : Codec β} {a : α} {b : β}
    (ha : first.ReadsBack a) (hb : second.ReadsBack b) : (first.pair second).ReadsBack (a, b) := by
  intro rest
  have hfirst := ha (second.encode b ++ rest)
  have hsecond := hb rest
  simp only [Codec.pair, List.append_assoc, hfirst, hsecond, bind, Except.bind]

theorem ReadsBack.iso {c : Codec α} {make : α → β} {back : β → α} {b : β}
    (h : c.ReadsBack (back b)) (hmake : make (back b) = b) : (c.iso make back).ReadsBack b := by
  intro rest
  simp only [Codec.iso, h rest, bind, Except.bind, hmake]

theorem readsBack_number {width n : Nat} (h : n < 256 ^ width) : (number width).ReadsBack n :=
  readLittleEndian_littleEndian h

theorem readsBack_u8 (b : UInt8) : u8.ReadsBack b :=
  (readsBack_number b.toNat_lt).iso UInt8.ofNat_toNat

/-! ## Sequences -/

theorem readItems_flatMap {c : Codec α} {as : List α} (h : ∀ a ∈ as, c.ReadsBack a) (rest : Bytes) :
    readItems c as.length (as.flatMap c.encode ++ rest) = .ok (as, rest) := by
  induction as with
  | nil => rfl
  | cons a as ih =>
      have hitem := h a List.mem_cons_self (as.flatMap c.encode ++ rest)
      have hitems := ih fun a' ha' => h a' (List.mem_cons_of_mem a ha')
      rw [List.length_cons, List.flatMap_cons, List.append_assoc]
      unfold readItems
      simp only [hitem, hitems, bind, Except.bind]

theorem readsBack_list {c : Codec α} {as : List α} (hlength : as.length < UInt64.size)
    (h : ∀ a ∈ as, c.ReadsBack a) : (list c).ReadsBack as := by
  intro rest
  simp only [list, List.append_assoc, readLittleEndian_length hlength, bind, Except.bind]
  exact readItems_flatMap h rest

theorem readsBack_blob {bs : Bytes} (h : bs.length < UInt64.size) : blob.ReadsBack bs :=
  readsBack_list h fun b _ => readsBack_u8 b

theorem fromUTF8?_toByteArray (s : String) : String.fromUTF8? s.toByteArray = some s := by
  unfold String.fromUTF8?
  rw [dif_pos s.isValidUTF8]
  rfl

theorem readsBack_text {s : String} (h : s.utf8ByteSize < UInt64.size) : text.ReadsBack s := by
  intro rest
  have hlength : s.toByteArray.data.toList.length = s.utf8ByteSize := by simp
  simp only [text, List.append_assoc, readLittleEndian_length h, bind, Except.bind]
  rw [← hlength, List.take_left, List.drop_left, if_neg (Nat.lt_irrefl _)]
  have hbytes : (⟨s.toByteArray.data.toList.toArray⟩ : ByteArray) = s.toByteArray := by simp
  rw [hbytes, fromUTF8?_toByteArray]

end Codec
end Wire

/-! ## Envelopes -/

namespace Envelope

open Wire (Bytes Codec)

/-- The texts and the body of the envelope are short enough to be written behind their length. -/
structure Fits (e : Envelope) : Prop where
  msgType : e.msgType.utf8ByteSize < UInt64.size
  correlation : e.correlation.utf8ByteSize < UInt64.size
  replyKey : e.replyKey.utf8ByteSize < UInt64.size
  expiration : e.expiration.utf8ByteSize < UInt64.size
  body : e.body.length < UInt64.size

theorem Fits.readsBack {e : Envelope} (h : e.Fits) : Codec.envelope.ReadsBack e := by
  apply Codec.ReadsBack.iso
  · apply Codec.ReadsBack.pair (Codec.readsBack_text h.msgType)
    apply Codec.ReadsBack.pair (Codec.readsBack_text h.correlation)
    apply Codec.ReadsBack.pair (Codec.readsBack_text h.replyKey)
    apply Codec.ReadsBack.pair (Codec.readsBack_text h.expiration)
    exact Codec.readsBack_blob h.body
  · rfl

theorem Fits.ofFrame_toFrame {e : Envelope} (h : e.Fits) : ofFrame e.toFrame = .ok e :=
  h.readsBack.read

end Envelope
end MetricGateway
