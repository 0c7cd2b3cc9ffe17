import MetricGateway.Document.Basic
import MetricGateway.Time

/-!
# Values as documents

Many types have a document form, and many can be read back from it.  Reading says what does not
fit.
-/

namespace MetricGateway
namespace Document

inductive Mismatch where
  | missing (field : String)
  | expected (kind : String)
  | unknown (name : String)
deriving DecidableEq

def Mismatch.message : Mismatch → String
  | missing field => "missing field " ++ field
  | expected kind => "expected " ++ kind
  | unknown name => "unknown name " ++ name

/-- Types whose values have a document form. -/
class Shown (α : Type) where
  toDocument : α → Document

/-- Types whose values can be read from a document. -/
class Legible (α : Type) where
  ofDocument : Document → Except Mismatch α

def of {α : Type} [Shown α] (a : α) : Document := Shown.toDocument a

def as {α : Type} [Legible α] (d : Document) : Except Mismatch α := Legible.ofDocument d

/-! ## Fields -/

/-- The field of a record with a name; a null field counts as none. -/
def field? (d : Document) (name : String) : Option Document :=
  match d with
  | record fields =>
      match fields.lookup name with
      | some null => none
      | found => found
  | _ => none

def get {α : Type} [Legible α] (d : Document) (name : String) : Except Mismatch α :=
  match d.field? name with
  | some v => v.as
  | none => .error (.missing name)

def get? {α : Type} [Legible α] (d : Document) (name : String) : Except Mismatch (Option α) :=
  match d.field? name with
  | some v => v.as.map some
  | none => .ok none

def getD {α : Type} [Legible α] (d : Document) (name : String) (default : α) :
    Except Mismatch α :=
  (d.get? name).map (·.getD default)

/-! ## Plain values -/

instance : Shown Document := ⟨id⟩
instance : Shown Bool := ⟨flag⟩
instance : Shown Int := ⟨number⟩
instance : Shown Nat := ⟨fun n => number n⟩
instance : Shown String := ⟨text⟩
instance : Shown Int32 := ⟨fun n => number n.toInt⟩
instance : Shown Int64 := ⟨fun n => number n.toInt⟩
instance : Shown UInt16 := ⟨fun n => number n.toNat⟩
instance : Shown UInt64 := ⟨fun n => number n.toNat⟩

instance {α : Type} [Shown α] : Shown (List α) := ⟨fun as => list (as.map of)⟩

instance {α : Type} [Shown α] : Shown (Option α) :=
  ⟨fun
    | some a => of a
    | none => null⟩

/-- A duration is shown as its whole seconds and its nanoseconds. -/
instance : Shown Duration := ⟨fun d => of [d.secs.toNat, d.nanos.toNat]⟩

instance : Legible Document := ⟨.ok⟩

instance : Legible Bool where
  ofDocument
    | flag b => .ok b
    | _ => .error (.expected "a truth value")

instance : Legible Int where
  ofDocument
    | number n => .ok n
    | _ => .error (.expected "a number")

instance : Legible Nat where
  ofDocument
    | number (.ofNat n) => .ok n
    | _ => .error (.expected "a number that is not negative")

instance : Legible String where
  ofDocument
    | text s => .ok s
    | _ => .error (.expected "a text")

instance : Legible Int32 := ⟨fun d => d.as.map Int32.ofInt⟩
instance : Legible Int64 := ⟨fun d => d.as.map Int64.ofInt⟩
instance : Legible UInt16 := ⟨fun d => d.as.map UInt16.ofNat⟩
instance : Legible UInt64 := ⟨fun d => d.as.map UInt64.ofNat⟩

instance {α : Type} [Legible α] : Legible (List α) where
  ofDocument
    | list items => items.mapM as
    | _ => .error (.expected "a list")

/-- A duration is read from a number of milliseconds, or from seconds and nanoseconds. -/
instance : Legible Duration where
  ofDocument
    | list [secs, nanos] => do
        let secs ← secs.as
        let nanos ← (nanos.as : Except Mismatch Nat)
        match Duration.carried? secs (UInt32.ofNat nanos) with
        | some d => .ok d
        | none => .error (.expected "a duration")
    | d => d.as.map Duration.ofMillis

/-! ## Names -/

/-- Types with finitely many values, each of which has a name. -/
class Named (α : Type) where
  all : List α
  name : α → String

instance (priority := low) {α : Type} [Named α] : Shown α := ⟨fun a => text (Named.name a)⟩

instance (priority := low) {α : Type} [Named α] : Legible α where
  ofDocument d := do
    let s ← d.as
    match (Named.all : List α).find? fun a => Named.name a = s with
    | some a => .ok a
    | none => .error (.unknown s)

/-! ## Bytes -/

def hexDigit (n : Nat) : Char := if n < 10 then Char.ofNat (48 + n) else Char.ofNat (87 + n)

def hexValue? (c : Char) : Option Nat :=
  if '0' ≤ c ∧ c ≤ '9' then some (c.toNat - 48)
  else if 'a' ≤ c ∧ c ≤ 'f' then some (c.toNat - 87)
  else if 'A' ≤ c ∧ c ≤ 'F' then some (c.toNat - 55)
  else none

def hexText (bs : List UInt8) : String :=
  String.ofList (bs.flatMap fun b => [hexDigit (b.toNat / 16), hexDigit (b.toNat % 16)])

def hexBytes? : List Char → Option (List UInt8)
  | [] => some []
  | a :: b :: rest => do
      let high ← hexValue? a
      let low ← hexValue? b
      let bs ← hexBytes? rest
      return UInt8.ofNat (high * 16 + low) :: bs
  | [_] => none

def asBytes (d : Document) : Except Mismatch (List UInt8) := do
  let s ← (d.as : Except Mismatch String)
  match hexBytes? s.toList with
  | some bs => .ok bs
  | none => .error (.expected "hexadecimal digits")

end Document
end MetricGateway
