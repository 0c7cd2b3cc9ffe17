/-!
# Documents

A document is a structured value for people and tools.  Its written form is one line of JSON, in
which the fields of a record stand in the order of their names.
-/

namespace MetricGateway

inductive Document where
  | null
  | flag (value : Bool)
  | number (value : Int)
  | text (value : String)
  | list (items : List Document)
  | record (fields : List (String × Document))
deriving Inhabited

namespace Document

instance : Coe Bool Document := ⟨flag⟩
instance : Coe Int Document := ⟨number⟩
instance : Coe Nat Document := ⟨fun n => number n⟩
instance : Coe String Document := ⟨text⟩

def isEmptyList : Document → Bool
  | list [] => true
  | _ => false

/-! ## Changing texts -/

mutual

/-- The document with a function applied to every text in it and to every name of a field. -/
def mapTexts (f : String → String) : Document → Document
  | null => null
  | flag b => flag b
  | number n => number n
  | text s => text (f s)
  | list items => list (mapItems f items)
  | record fields => record (mapFields f fields)

def mapItems (f : String → String) : List Document → List Document
  | [] => []
  | d :: ds => mapTexts f d :: mapItems f ds

def mapFields (f : String → String) : List (String × Document) → List (String × Document)
  | [] => []
  | (name, d) :: fields => (f name, mapTexts f d) :: mapFields f fields

end

/-! ## The written form -/

/-- A character as it stands inside a quoted text: quotes, backslashes and control characters are
escaped. -/
def escapedChar (c : Char) : List Char :=
  if c = '"' then ['\\', '"']
  else if c = '\\' then ['\\', '\\']
  else if c = '\n' then ['\\', 'n']
  else if c = '\r' then ['\\', 'r']
  else if c = '\t' then ['\\', 't']
  else if c.toNat = 0x08 then ['\\', 'b']
  else if c.toNat = 0x0C then ['\\', 'f']
  else if c.toNat < 0x20 then
    let digits := Nat.toDigits 16 c.toNat
    ['\\', 'u'] ++ List.replicate (4 - digits.length) '0' ++ digits
  else [c]

def quotedText (s : String) : String :=
  String.ofList ('"' :: s.toList.flatMap escapedChar ++ ['"'])

/-- The written form of a record, from its names and the written forms of its fields. -/
def renderRecord (fields : List (String × String)) : String :=
  let sorted := fields.mergeSort fun a b => a.1 ≤ b.1
  "\x7b" ++ String.intercalate "," (sorted.map fun p => quotedText p.1 ++ ":" ++ p.2) ++ "\x7d"

mutual

def render : Document → String
  | null => "null"
  | flag true => "true"
  | flag false => "false"
  | number n => toString n
  | text s => quotedText s
  | list items => "[" ++ String.intercalate "," (renderItems items) ++ "]"
  | record fields => renderRecord (renderFields fields)

def renderItems : List Document → List String
  | [] => []
  | d :: ds => render d :: renderItems ds

def renderFields : List (String × Document) → List (String × String)
  | [] => []
  | (name, d) :: fields => (name, render d) :: renderFields fields

end

end Document
end MetricGateway
