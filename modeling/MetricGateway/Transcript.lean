import MetricGateway.Commons
import MetricGateway.Document.Basic

/-!
# Transcripts

A transcript shows to people what happened in a run.  Each correlation id gets a short name when a
message of the transcript first carries it; an id that no message has carried is not shown.  What
happened at one time is put in the order of its text.  Among messages all ids count as equal there;
among events an id counts by its name.
-/

namespace MetricGateway
namespace Transcript

/-! ## Correlation ids in texts -/

/-- The number of digits behind the common beginning of correlation ids. -/
def idDigits : Nat := 12

def replacePieces (f : String → String) : List String → String
  | [] => ""
  | piece :: pieces =>
      let id := Correlation.start ++ String.ofList (piece.toList.take idDigits)
      f id ++ String.ofList (piece.toList.drop idDigits) ++ replacePieces f pieces

def replaceIds (f : String → String) (s : String) : String :=
  match s.splitOn Correlation.start with
  | [] => s
  | first :: pieces => first ++ replacePieces f pieces

def isId (s : String) : Bool :=
  s.startsWith Correlation.start && s.length = Correlation.start.length + idDigits

/-! ## Names -/

/-- The ids that have a name, in the order in which they got it. -/
abbrev Names := List String

namespace Names

def nameAt (place : Nat) : String := "$c" ++ toString (place + 1)

def name? (ns : Names) (id : String) : Option String := (ns.idxOf? id).map nameAt

def resolve (ns : Names) (s : String) : String :=
  (ns.find? fun id => ns.name? id = some s).getD s

def add (ns : Names) (texts : List String) : Names :=
  texts.foldl (fun ns s => if isId s && !ns.contains s then ns ++ [s] else ns) ns

def apply (ns : Names) (s : String) : String :=
  if isId s then (ns.name? s).getD "$unseen" else replaceIds (fun id => (ns.name? id).getD id) s

end Names

/-! ## Items -/

structure Item where
  time : Nat
  content : Document

namespace Item

def of (t : Instant) (content : Document) : Item := { time := t.tick, content }

def toDocument (i : Item) : Document :=
  match i.content with
  | .record fields => .record (("t", i.time) :: fields)
  | d => d

end Item

/-- Items in the order of their times, and at one time of their texts after a replacement. -/
def sorted (replace : String → String) (items : List Item) : List Item :=
  let keyed := items.map fun i => (i, (i.content.mapTexts replace).render)
  (keyed.mergeSort fun a b =>
    a.1.time < b.1.time || (a.1.time = b.1.time && a.2 ≤ b.2)).map (·.1)

/-- A text as it counts in the order of messages: all ids are alike. -/
def withoutId (s : String) : String := if isId s then "uuid" else s

def ofMessages (items : List Item) : Document :=
  .list ((sorted withoutId items).map (·.toDocument))

def ofEvents (ns : Names) (items : List Item) : Document :=
  .list ((sorted ns.apply items).map (·.toDocument))

end Transcript
end MetricGateway
