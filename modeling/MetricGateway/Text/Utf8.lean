/-!
# Faults in UTF-8

A byte sequence is read by an acceptor whose state lists the ranges of the continuation bytes that
are still owed to the current character.  A fault names the index at which the offending character
starts and, where the sequence is wrong rather than cut short, the number of bytes that belong to
the wrong start.
-/

namespace MetricGateway
namespace Text

inductive Utf8Fault where
  /-- The `length` bytes at `index` start no character. -/
  | invalid (length index : Nat)
  /-- The bytes end inside the character that starts at `index`. -/
  | incomplete (index : Nat)
deriving DecidableEq

namespace Utf8Fault

def message : Utf8Fault → String
  | invalid length index =>
      "invalid utf-8 sequence of " ++ toString length ++ " bytes from index " ++ toString index
  | incomplete index =>
      "incomplete utf-8 byte sequence from index " ++ toString index

end Utf8Fault

/-- Ranges of the continuation bytes that have to follow a first byte; none where no character
starts with it. -/
def owedAfter (b : UInt8) : Option (List (UInt8 × UInt8)) :=
  let tail : UInt8 × UInt8 := (0x80, 0xBF)
  if b < 0x80 then some []
  else if b < 0xC2 then none
  else if b < 0xE0 then some [tail]
  else if b = 0xE0 then some [(0xA0, 0xBF), tail]
  else if b = 0xED then some [(0x80, 0x9F), tail]
  else if b < 0xF0 then some [tail, tail]
  else if b = 0xF0 then some [(0x90, 0xBF), tail, tail]
  else if b < 0xF4 then some [tail, tail, tail]
  else if b = 0xF4 then some [(0x80, 0x8F), tail, tail]
  else none

/-- The first fault of the bytes from index `pos` on, inside a character that started at index
`first` and is still owed some continuation bytes. -/
def faultFrom (first pos : Nat) : List (UInt8 × UInt8) → List UInt8 → Option Utf8Fault
  | [], [] => none
  | _ :: _, [] => some (.incomplete first)
  | [], b :: bs =>
      match owedAfter b with
      | none => some (.invalid 1 pos)
      | some owed => faultFrom pos (pos + 1) owed bs
  | range :: owed, b :: bs =>
      if range.1 ≤ b ∧ b ≤ range.2 then faultFrom first (pos + 1) owed bs
      else some (.invalid (pos - first) first)

def utf8Fault (bs : List UInt8) : Option Utf8Fault :=
  faultFrom 0 0 [] bs

end Text
end MetricGateway
