import MetricGateway.Settings
import MetricGateway.Text.Unsigned

/-!
# Settings from the environment

The settings of an instance are read from environment variables.  Names are matched without regard
to case and unknown names do not matter.  Every value is a text: numbers may also be written as
words, and one value that does not parse makes every setting take its default.

The name of a variable may also lead into a value: to one of its parts (`name.part`) or to one of
its places (`name[3]`).  A setting of which a part or a place is given has no text for a value, so
that it does not parse.
-/

namespace MetricGateway

/-- What the environment says about one instance. -/
structure Environment where
  service : String
  apiPort : Nat := 8080
  fetchTimeoutMs : UInt64 := 25000
  reconnectDelayMs : UInt64 := 5000
  senderCount : Nat := 2
  messageTtlMs : UInt64 := 30000
  historyEnabled : Bool := false
deriving DecidableEq

namespace Environment

/-- The variables of a process: names and values. -/
abbrev Variables := List (String × String)

/-! ## Names -/

def isNameChar (c : Char) : Bool := c.isAlphanum || c = ' ' || c = '_' || c = '-'

def isGap (c : Char) : Bool := c = ' ' || c = '\t'

/-- Drops the sign and the digits of the number of a place. -/
def dropNumber? (cs : List Char) : Option (List Char) :=
  let (limit, cs) := match cs with
    | '-' :: rest => (UInt64.size / 2 + 1, rest)
    | cs => (UInt64.size / 2, cs)
  match Text.digits? (cs.takeWhile Char.isDigit) with
  | some n => if n < limit then some (cs.dropWhile Char.isDigit) else none
  | none => none

/-- Drops the step to a part or to a place with which the characters begin. -/
def dropStep? : List Char → Option (List Char)
  | '.' :: cs => if cs.head?.any isNameChar then some (cs.dropWhile isNameChar) else none
  | '[' :: cs =>
      match (dropNumber? (cs.dropWhile isGap)).map (·.dropWhile isGap) with
      | some (']' :: rest) => some rest
      | _ => none
  | _ => none

/-- Whether characters are steps and nothing else, at most `fuel` of them. -/
def areSteps : (fuel : Nat) → List Char → Bool
  | _, [] => true
  | 0, _ => false
  | fuel + 1, cs => (dropStep? cs).any (areSteps fuel)

/-- Whether the name of a variable leads to a part or a place of the value that has the given
name.

Only the letters of ASCII have a lower case here, so that a Kelvin sign is not read as `k`.  A place
is a number of 64 bits, however far out it is; whether there is memory for so many places is not
asked. -/
def leadsInto (name key : String) : Bool :=
  let cs := key.toLower.toList
  let steps := cs.dropWhile isNameChar
  String.ofList (cs.takeWhile isNameChar) = name && !steps.isEmpty && areSteps steps.length steps

/-! ## Values -/

/-- The value of a variable whose name is known in lower case; the last of several wins. -/
def value? (vars : Variables) (name : String) : Option String :=
  (vars.reverse.find? fun v => v.1.toLower = name).map (·.2)

def word? (s : String) : Option Bool :=
  let w := s.toLower
  if w = "true" ∨ w = "on" ∨ w = "yes" then some true
  else if w = "false" ∨ w = "off" ∨ w = "no" then some false
  else none

/-- A number below `limit`, written in digits or as a word. -/
def number? (limit : Nat) (s : String) : Option Nat :=
  match word? s with
  | some b => some (if b then 1 else 0)
  | none => Text.unsigned? limit s.toList

/-- A truth value, written as a word or as one of the digits 0 and 1. -/
def flag? (s : String) : Option Bool :=
  if s = "1" then some true
  else if s = "0" then some false
  else word? s

/-- The value of a variable, or the default where it is absent; nothing where it does not parse. -/
def field? {α : Type} (vars : Variables) (name : String) (parse : String → Option α)
    (default : α) : Option α :=
  if vars.any fun v => leadsInto name v.1 then none
  else
    match value? vars name with
    | none => some default
    | some s => parse s

/-- The identity of an instance that was given none: the name of its host, else a name made from
`suffix`. -/
def defaultService (vars : Variables) (suffix : String) : String :=
  match vars.lookup "HOSTNAME" with
  | some host => host
  | none => "rts-" ++ suffix

def default (vars : Variables) (suffix : String) : Environment :=
  { service := defaultService vars suffix }

/-- The settings, where every value parses. -/
def parse? (vars : Variables) (suffix : String) : Option Environment := do
  let base := default vars suffix
  let service ← field? vars "rts_service_id" some base.service
  let apiPort ← field? vars "rts_api_port" (number? UInt16.size) base.apiPort
  let word := fun s => (number? UInt64.size s).map UInt64.ofNat
  let fetchTimeoutMs ← field? vars "rts_fetch_timeout_ms" word base.fetchTimeoutMs
  let reconnectDelayMs ← field? vars "rts_reconnect_delay_ms" word base.reconnectDelayMs
  let senderCount ← field? vars "rts_sender_count" (number? UInt64.size) base.senderCount
  let messageTtlMs ← field? vars "rts_message_ttl_ms" word base.messageTtlMs
  let historyEnabled ← field? vars "rts_history_enabled" flag? base.historyEnabled
  return {
    service := service
    apiPort := apiPort
    fetchTimeoutMs := fetchTimeoutMs
    reconnectDelayMs := reconnectDelayMs
    senderCount := senderCount
    messageTtlMs := messageTtlMs
    historyEnabled := historyEnabled }

/-- The settings that the environment gives: all of them as written, or all of them at their
defaults. -/
def load (vars : Variables) (suffix : String) : Environment :=
  (parse? vars suffix).getD (default vars suffix)

/-- The shortest pause before a lost subscription is declared again, in milliseconds. -/
def minReconnectDelayMs : UInt64 := 100

def settings (e : Environment) : ServiceSettings where
  service := e.service
  channel := {
    reconnectDelay := Duration.ofMillis (max e.reconnectDelayMs minReconnectDelayMs)
    senderCount := e.senderCount }
  resolver := {
    replyKey := e.service
    fetchTimeout := Duration.ofMillis e.fetchTimeoutMs
    messageTtl := Duration.ofMillis e.messageTtlMs }
  historyEnabled := e.historyEnabled

end Environment
end MetricGateway
