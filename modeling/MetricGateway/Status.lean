import MetricGateway.Text.Blank
import MetricGateway.Text.Unsigned

/-!
# The status of a message

The status of a message travels as a small number in the text of its type field.  A type field that
writes none of the known numbers leaves the message without a status.
-/

namespace MetricGateway

inductive Status where
  | untyped
  | ok
  | invalidBody
  | notFound
  | failed
  | internalError
deriving DecidableEq, Inhabited

namespace Status

def code : Status → Nat
  | untyped => 0
  | ok => 1
  | invalidBody => 2
  | notFound => 3
  | failed => 4
  | internalError => 5

def text (s : Status) : String :=
  toString s.code

def ofCode : Nat → Status
  | 1 => ok
  | 2 => invalidBody
  | 3 => notFound
  | 4 => failed
  | 5 => internalError
  | _ => untyped

/-- The status that a type field writes: a number below 256 between blanks. -/
def ofText (field : String) : Status :=
  match Text.unsigned? 256 (Text.trim field.toList) with
  | some n => ofCode n
  | none => untyped

def isOk (s : Status) : Bool := s = ok

@[simp] theorem ofCode_code (s : Status) : ofCode s.code = s := by cases s <;> rfl

@[simp] theorem isOk_iff (s : Status) : s.isOk = true ↔ s = ok := by simp [isOk]

end Status
end MetricGateway
