import MetricGateway.Time
import MetricGateway.Wire.Fault

/-!
# Binary codecs

A codec writes a value as bytes and reads a value from the front of a byte sequence, handing back
the bytes it did not use.  Numbers have a fixed width and are written with the least significant
byte first.  Texts and lists are written behind the number of their bytes or items, optional values
behind a mark, and a choice among variants behind the number of the variant.  A record is the
sequence of its fields.
-/

namespace MetricGateway
namespace Wire

/-- The bytes of a message or of a part of it. -/
abbrev Bytes := List UInt8

/-- How values of a type are written as bytes and read back. -/
structure Codec (α : Type) where
  encode : α → Bytes
  decode : Bytes → Except Fault (α × Bytes)

/-! ## Numbers -/

/-- The `width` lowest base-256 digits of a number, least significant first. -/
def littleEndian : (width : Nat) → Nat → Bytes
  | 0, _ => []
  | width + 1, n => UInt8.ofNat n :: littleEndian width (n / 256)

def readLittleEndian : (width : Nat) → Bytes → Except Fault (Nat × Bytes)
  | 0, bs => .ok (0, bs)
  | _ + 1, [] => .error .unexpectedEnd
  | width + 1, b :: bs => do
    let (n, rest) ← readLittleEndian width bs
    .ok (b.toNat + 256 * n, rest)

@[simp] theorem littleEndian_zero (n : Nat) : littleEndian 0 n = [] := rfl

@[simp] theorem littleEndian_succ (width n : Nat) :
    littleEndian (width + 1) n = UInt8.ofNat n :: littleEndian width (n / 256) := rfl

@[simp] theorem length_littleEndian (width n : Nat) : (littleEndian width n).length = width := by
  induction width generalizing n with
  | zero => rfl
  | succ width ih => simp [ih]

namespace Codec

variable {α β : Type}

/-- Reads a whole body as one value; bytes behind the value are ignored. -/
def read (c : Codec α) (bs : Bytes) : Except Fault α :=
  (c.decode bs).map (·.1)

/-- The codec of a type whose values correspond one to one to those of `α`. -/
def iso (c : Codec α) (make : α → β) (back : β → α) : Codec β where
  encode b := c.encode (back b)
  decode bs := do
    let (a, rest) ← c.decode bs
    .ok (make a, rest)

def pair (first : Codec α) (second : Codec β) : Codec (α × β) where
  encode p := first.encode p.1 ++ second.encode p.2
  decode bs := do
    let (a, rest) ← first.decode bs
    let (b, rest) ← second.decode rest
    .ok ((a, b), rest)

def number (width : Nat) : Codec Nat where
  encode := littleEndian width
  decode := readLittleEndian width

def u8 : Codec UInt8 := (number 1).iso UInt8.ofNat UInt8.toNat

def u16 : Codec UInt16 := (number 2).iso UInt16.ofNat UInt16.toNat

def u32 : Codec UInt32 := (number 4).iso UInt32.ofNat UInt32.toNat

def u64 : Codec UInt64 := (number 8).iso UInt64.ofNat UInt64.toNat

def i32 : Codec Int32 := u32.iso UInt32.toInt32 Int32.toUInt32

def i64 : Codec Int64 := u64.iso UInt64.toInt64 Int64.toUInt64

/-! ## Choices -/

def bool : Codec Bool where
  encode b := [if b then 1 else 0]
  decode bs := do
    let (n, rest) ← u8.decode bs
    if n = 0 then .ok (false, rest)
    else if n = 1 then .ok (true, rest)
    else .error (.badBool n)

/-- An optional value stands behind the byte 1; the byte 0 stands for no value. -/
def option (c : Codec α) : Codec (Option α) where
  encode
    | none => [0]
    | some a => 1 :: c.encode a
  decode bs := do
    let (n, rest) ← u8.decode bs
    if n = 0 then .ok (none, rest)
    else if n = 1 then
      let (a, rest) ← c.decode rest
      .ok (some a, rest)
    else .error (.badPresence n)

/-- A value of a finite list of variants is written as its place in the list. -/
def variant [DecidableEq α] (all : List α) : Codec α where
  encode a := littleEndian 4 (all.idxOf a)
  decode bs := do
    let (n, rest) ← readLittleEndian 4 bs
    match all[n]? with
    | some a => .ok (a, rest)
    | none => .error (.unknownVariant n all.length)

/-! ## Sequences -/

def readItems (c : Codec α) : (count : Nat) → Bytes → Except Fault (List α × Bytes)
  | 0, bs => .ok ([], bs)
  | count + 1, bs => do
    let (a, rest) ← c.decode bs
    let (as, rest) ← readItems c count rest
    .ok (a :: as, rest)

def list (c : Codec α) : Codec (List α) where
  encode as := littleEndian 8 as.length ++ as.flatMap c.encode
  decode bs := do
    let (count, rest) ← readLittleEndian 8 bs
    readItems c count rest

def blob : Codec Bytes := list u8

def text : Codec String where
  encode s := littleEndian 8 s.utf8ByteSize ++ s.toByteArray.data.toList
  decode bs := do
    let (count, rest) ← readLittleEndian 8 bs
    let body := rest.take count
    if body.length < count then .error .textCutShort
    else
      match String.fromUTF8? ⟨body.toArray⟩ with
      | some s => .ok (s, rest.drop count)
      | none => .error (.badText ((Text.utf8Fault body).getD (.incomplete body.length)))

/-! ## Durations -/

/-- A duration is its seconds and its nanoseconds; whole seconds among the nanoseconds read are
carried over. -/
def duration : Codec Duration where
  encode d := u64.encode d.secs ++ u32.encode d.nanos
  decode bs := do
    let (secs, rest) ← u64.decode bs
    let (nanos, rest) ← u32.decode rest
    match Duration.carried? secs nanos with
    | some d => .ok (d, rest)
    | none => .error .durationOverflow

end Codec
end Wire
end MetricGateway
