/-!
# Durations and the clock

A duration counts whole seconds and the nanoseconds below one second.  Time itself is a count of
nanoseconds since the gateway started.  Sleeping tasks are woken by a clock that ticks once a
millisecond: a deadline that falls between two ticks is met at the later one.

In products and sums the constant stands first.  Both recurse on what stands second, so that an
unknown time is left alone where a definition is unfolded.
-/

namespace MetricGateway

/-- Nanoseconds in one second. -/
abbrev nanosPerSec : Nat := 1000000000

/-- Nanoseconds in one millisecond. -/
abbrev nanosPerMilli : Nat := 1000000

/-- A length of time: whole seconds, and the nanoseconds below one second. -/
structure Duration where
  secs : UInt64
  nanos : UInt32
  nanos_lt : nanos.toNat < nanosPerSec := by decide
deriving DecidableEq

namespace Duration

def zero : Duration := { secs := 0, nanos := 0 }

instance : Inhabited Duration := ⟨zero⟩

def ofSecs (secs : UInt64) : Duration := { secs, nanos := 0 }

def ofMillis (ms : UInt64) : Duration where
  secs := ms / 1000
  nanos := UInt32.ofNat (ms.toNat % 1000 * nanosPerMilli)
  nanos_lt := by
    have h : ms.toNat % 1000 < 1000 := Nat.mod_lt _ (by decide)
    have h' : ms.toNat % 1000 * nanosPerMilli < nanosPerSec := by
      simp only [nanosPerMilli, nanosPerSec]; omega
    have h'' : ms.toNat % 1000 * nanosPerMilli < UInt32.size := by
      simp only [nanosPerMilli, nanosPerSec, UInt32.size] at h' ⊢; omega
    rw [UInt32.toNat_ofNat_of_lt' h'']
    exact h'

/-- Seconds and any number of nanoseconds: whole seconds among the nanoseconds are carried over,
and a carry beyond the last second that can be counted gives nothing. -/
def carried? (secs : UInt64) (nanos : UInt32) : Option Duration :=
  let total := secs.toNat + nanos.toNat / nanosPerSec
  if total < UInt64.size then
    some {
      secs := UInt64.ofNat total
      nanos := UInt32.ofNat (nanos.toNat % nanosPerSec)
      nanos_lt := by
        have h : nanos.toNat % nanosPerSec < nanosPerSec := Nat.mod_lt _ (by decide)
        have h' : nanos.toNat % nanosPerSec < UInt32.size := by
          simp only [nanosPerSec, UInt32.size] at h ⊢; omega
        rw [UInt32.toNat_ofNat_of_lt' h']
        exact h }
  else
    none

def toNanos (d : Duration) : Nat :=
  nanosPerSec * d.secs.toNat + d.nanos.toNat

def wholeMillis (d : Duration) : Nat :=
  d.toNanos / nanosPerMilli

/-- The length in milliseconds as a 64-bit word: lengths beyond the last word wrap. -/
def millisWord (d : Duration) : UInt64 :=
  UInt64.ofNat d.wholeMillis

/-- The digits of `n`, at least `width` of them, without the zeros at the end. -/
def fractionDigits (width n : Nat) : List Char :=
  let digits := Nat.toDigits 10 n
  let padded := List.replicate (width - digits.length) '0' ++ digits
  (padded.reverse.dropWhile (· = '0')).reverse

/-- A whole part and `n` parts of `10 ^ width`, with a point only where a fraction remains. -/
def decimal (whole width n : Nat) : String :=
  let fraction := fractionDigits width n
  if fraction.isEmpty then toString whole
  else toString whole ++ "." ++ String.ofList fraction

/-- The written form: the largest of the units `s`, `ms`, `µs` and `ns` that has a whole part, with
the fraction in that unit and no zeros at its end. -/
def text (d : Duration) : String :=
  let n := d.nanos.toNat
  if d.secs ≠ 0 then decimal d.secs.toNat 9 n ++ "s"
  else if n ≥ 1000000 then decimal (n / 1000000) 6 (n % 1000000) ++ "ms"
  else if n ≥ 1000 then decimal (n / 1000) 3 (n % 1000) ++ "µs"
  else toString n ++ "ns"

end Duration

/-- A point in time, in nanoseconds since the gateway started. -/
structure Instant where
  nanos : Nat
deriving DecidableEq, Inhabited

namespace Instant

def start : Instant := ⟨0⟩

def tick (t : Instant) : Nat :=
  t.nanos / nanosPerMilli

/-- The first tick of the millisecond clock that is not before `t`. -/
def ceilTick (t : Instant) : Nat :=
  (nanosPerMilli - 1 + t.nanos) / nanosPerMilli

def ofTick (ms : Nat) : Instant := ⟨nanosPerMilli * ms⟩

def plus (t : Instant) (d : Duration) : Instant :=
  ⟨d.toNanos + t.nanos⟩

def nanosSince (now t : Instant) : Nat :=
  now.nanos - t.nanos

def clockSecs : Nat := UInt64.size / 2

/-- Whether the clock can count up to this instant. -/
def countable (t : Instant) : Bool :=
  t.nanos < clockSecs * nanosPerSec

/-- The instant `d` later; none where it lies beyond the end of the clock. -/
def later? (t : Instant) (d : Duration) : Option Instant :=
  if (t.plus d).countable then some (t.plus d) else none

/-- The thirty years that a pause lasts which would run past the end of the clock. -/
def farFuture : Duration := Duration.ofSecs (86400 * 365 * 30)

/-- The end of a pause of length `d`: a pause that runs past the end of the clock is cut to thirty
years. -/
def deadline (t : Instant) (d : Duration) : Instant := (t.later? d).getD (t.plus farFuture)

def roundedPlus (t : Instant) (d : Duration) : Instant := ofTick (t.plus d).ceilTick

/-- A deadline is met from the first tick that is not before it. -/
def metBy (due now : Instant) : Bool :=
  due.ceilTick ≤ now.tick

@[simp] theorem tick_ofTick (ms : Nat) : (ofTick ms).tick = ms := by
  simp [tick, ofTick, nanosPerMilli]

theorem metBy_iff (due now : Instant) : due.metBy now = true ↔ due.ceilTick ≤ now.tick := by
  simp [metBy]

end Instant

end MetricGateway
