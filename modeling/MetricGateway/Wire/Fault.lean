import MetricGateway.Text.Utf8

/-!
# Why bytes do not decode

Every reader of the wire format fails with one of these causes; the wording is given here and
nowhere else.
-/

namespace MetricGateway
namespace Wire

/-- Why a byte sequence is not the encoding of a value. -/
inductive Fault where
  /-- The bytes end inside a number, or inside the items of a list. -/
  | unexpectedEnd
  /-- The announced length of a text goes beyond the bytes that are left. -/
  | textCutShort
  | unknownVariant (found count : Nat)
  | badBool (found : UInt8)
  /-- The mark of an optional value is neither 0 nor 1. -/
  | badPresence (found : UInt8)
  | badText (fault : Text.Utf8Fault)
  /-- The nanoseconds of a duration carry beyond the last second that can be counted. -/
  | durationOverflow
deriving DecidableEq

namespace Fault

def message : Fault → String
  | unexpectedEnd => "io error: unexpected end of file"
  | textCutShort => "io error: "
  | unknownVariant found count =>
      "invalid value: integer \x60" ++ toString found ++ "\x60, expected variant index 0 <= i < "
        ++ toString count
  | badBool found => "invalid u8 while decoding bool, expected 0 or 1, found " ++ toString found
  | badPresence found => "tag for enum is not valid, found " ++ toString found
  | badText fault => "string is not valid utf8: " ++ fault.message
  | durationOverflow => "overflow deserializing Duration"

end Fault

end Wire
end MetricGateway
