/-!
# Time

Spans of time and their texts, and what is waited for, with a limit or without.
-/

namespace ArtifactCache

/-!
## Spans of time

A span is a number of nanoseconds.  Its text has the largest unit of which it has at least one, and
as many decimal places as it needs.
-/

structure Duration where
  nanos : Nat
  deriving DecidableEq, Repr

namespace Duration

def nanosPerMilli : Nat := 1000000

def nanosPerSecond : Nat := 1000000000

def zero : Duration := ⟨0⟩

def ofParts (seconds nanos : Nat) : Duration := ⟨seconds * nanosPerSecond + nanos⟩

def ofSeconds (seconds : Nat) : Duration := ofParts seconds 0

def ofMillis (millis : Nat) : Duration := ⟨millis * nanosPerMilli⟩

def seconds (d : Duration) : Nat := d.nanos / nanosPerSecond

def subsecond (d : Duration) : Nat := d.nanos % nanosPerSecond

/-- The least number of milliseconds that is no shorter. -/
def ceilMillis (d : Duration) : Nat := (d.nanos + (nanosPerMilli - 1)) / nanosPerMilli

theorem ofParts_seconds_subsecond (d : Duration) : ofParts d.seconds d.subsecond = d := by
  cases d
  simp only [ofParts, seconds, subsecond, mk.injEq]
  rw [Nat.mul_comm]
  exact Nat.div_add_mod _ _

@[simp] theorem ceilMillis_ofMillis (n : Nat) : (ofMillis n).ceilMillis = n := by
  simp only [ofMillis, ceilMillis, nanosPerMilli]
  omega

/-- `n` in `places` decimal digits, without the zeros at the end. -/
def fractionChars (places n : Nat) : List Char :=
  let digits := Nat.toDigits 10 n
  let padded := List.replicate (places - digits.length) '0' ++ digits
  (padded.reverse.dropWhile (· == '0')).reverse

/-- A whole number of units and a fraction of `places` decimal digits. -/
def decimalChars (places whole fraction : Nat) : List Char :=
  let digits := fractionChars places fraction
  Nat.toDigits 10 whole ++ (if fraction = 0 then [] else '.' :: digits)

def chars (d : Duration) : List Char :=
  if nanosPerSecond ≤ d.nanos then decimalChars 9 d.seconds d.subsecond ++ ['s']
  else if nanosPerMilli ≤ d.nanos then
    decimalChars 6 (d.nanos / nanosPerMilli) (d.nanos % nanosPerMilli) ++ ['m', 's']
  else if 1000 ≤ d.nanos then decimalChars 3 (d.nanos / 1000) (d.nanos % 1000) ++ ['µ', 's']
  else decimalChars 0 d.nanos 0 ++ ['n', 's']

def text (d : Duration) : String := String.ofList d.chars

end Duration

/-!
## Waiting for an answer

An answer comes after some milliseconds, or never.  Waiting may have a limit, which is an instant
on the same clock: what comes at that very instant is still in time.
-/

/-- An answer that takes its time. -/
inductive Wait (α : Type) where
  | after (delay : Nat) (answer : α)
  | never
  deriving Repr

inductive Awaited (α : Type) where
  | answered (instant : Nat) (answer : α)
  | expired (limit : Duration)
  /-- The answer never comes and there is no limit. -/
  | stuck
  deriving Repr

/-- Milliseconds in thirty years, which stand for a limit that is too far away for the clock. -/
def farAway : Nat := 30 * 365 * 24 * 60 * 60 * 1000

/-- The instants of the clock are below this many seconds. -/
def clockRange : Nat := UInt64.size / 2

/-- The instant at which a span from the beginning on is over. -/
def Duration.deadline (d : Duration) : Nat :=
  if d.seconds < clockRange then d.ceilMillis else farAway

namespace Wait

/-- An answer that is there at once. -/
def now {α : Type} (answer : α) : Wait α := .after 0 answer

/-- Wait from an instant on, within a span from the beginning on if there is a limit. -/
def resolve {α : Type} (limit : Option Duration) (start : Nat) : Wait α → Awaited α
  | .after delay answer =>
      match limit with
      | none => .answered (start + delay) answer
      | some d =>
          if start + delay ≤ d.deadline then .answered (start + delay) answer else .expired d
  | .never =>
      match limit with
      | none => .stuck
      | some d => .expired d

end Wait

end ArtifactCache
