/-!
# Unsigned numbers as text

The accepted texts are an optional plus sign and at least one ASCII digit; any number of leading
zeros is allowed, and the value has to stay below a given limit.
-/

namespace MetricGateway
namespace Text

def digit? (c : Char) : Option Nat :=
  if '0' ≤ c ∧ c ≤ '9' then some (c.toNat - '0'.toNat) else none

/-- The value of a run of digits, read after a part with value `acc`. -/
def digitsFrom? (acc : Nat) : List Char → Option Nat
  | [] => some acc
  | c :: cs => do
    let d ← digit? c
    digitsFrom? (acc * 10 + d) cs

def digits? : List Char → Option Nat
  | [] => none
  | c :: cs => digitsFrom? 0 (c :: cs)

def dropPlus : List Char → List Char
  | '+' :: cs => cs
  | cs => cs

def unsigned? (limit : Nat) (cs : List Char) : Option Nat :=
  (digits? (dropPlus cs)).filter (· < limit)

@[simp] theorem digitsFrom?_nil (acc : Nat) : digitsFrom? acc [] = some acc := rfl

@[simp] theorem digits?_nil : digits? [] = none := rfl

end Text
end MetricGateway
