import ArtifactCache.Duration
import ArtifactCache.Number
import ArtifactCache.Text

/-!
# A transfer and its observer

How far a transfer has come, what an observer is told about it, and the stream that tells this while
it is looked at.
-/

namespace ArtifactCache

/-!
## Progress of a transfer

How much has arrived, out of how much, and in what time; from these follow an average rate, the time
that is left and a percentage.
-/

open Number

def Duration.inSeconds (d : Duration) : Binary64 :=
  (Binary64.ofNat d.seconds).add
    ((Binary64.ofNat d.subsecond).div (Binary64.ofNat Duration.nanosPerSecond))

structure Progress where
  bytes : Nat
  /-- The number of bytes that are expected, if it is known. -/
  total : Option Nat
  elapsed : Duration
  deriving DecidableEq, Repr

namespace Progress

def rate? (p : Progress) : Option Binary64 :=
  let seconds := p.elapsed.inSeconds
  if seconds.isZero then none else some ((Binary64.ofNat p.bytes).div seconds)

/-- The span of so many seconds, if those are fewer than a 64-bit word can count. -/
def spanOfSeconds? (seconds : Binary64) : Option Duration :=
  if seconds.floor < Text.wordBound then
    some ⟨roundDiv (seconds.num * Duration.nanosPerSecond) seconds.den⟩
  else none

/-- The time that the rest takes at the rate so far. -/
def remaining? (p : Progress) : Option Duration := do
  let total ← p.total
  if total ≤ p.bytes then some .zero
  else
    let rate ← p.rate?
    if rate.isZero then none
    else spanOfSeconds? ((Binary64.ofNat (total - p.bytes)).div rate)

/-- How many hundredths have arrived; of nothing, everything has. -/
def percentage? (p : Progress) : Option Binary64 :=
  p.total.map fun total =>
    if total = 0 then Binary64.ofNat 100
    else ((Binary64.ofNat p.bytes).div (Binary64.ofNat total)).mul (Binary64.ofNat 100)

end Progress

/-! ### Sizes -/

/-- The units of sizes, each 1024 times the one before. -/
def sizeUnits : List String := ["KiB", "MiB", "GiB", "TiB"]

/-- A size in the given unit, or in a larger one of which there is at least one. -/
def sizeCharsFrom (num den : Nat) (unit : String) : List String → List Char
  | [] => fixedChars 1 num den ++ ' ' :: unit.toList
  | larger :: rest =>
      if num < 1024 * den then fixedChars 1 num den ++ ' ' :: unit.toList
      else sizeCharsFrom num (1024 * den) larger rest

/-- A number of bytes in the largest unit of which there is at least one. -/
def sizeChars (bytes : Nat) : List Char :=
  let size := Binary64.ofNat bytes
  match sizeUnits with
  | unit :: larger =>
      if 1024 ≤ bytes then sizeCharsFrom size.num (1024 * size.den) unit larger
      else Nat.toDigits 10 bytes ++ " B".toList
  | [] => []

def sizeText (bytes : Nat) : String := String.ofList (sizeChars bytes)

/-!
## Telling an observer about a transfer

An observer hears that a transfer starts, how far it has come with each piece, and how it ends: it
is finished, or it is abandoned because it failed or was given up.
-/

inductive Progress.Event where
  | start (url : String) (total : Option Nat)
  | update (progress : Progress)
  | finish (progress : Progress)
  | abandon (progress : Progress)
  deriving DecidableEq, Repr

namespace Progress.Event

def isTerminal : Event → Bool
  | .finish _ | .abandon _ => true
  | .start _ _ | .update _ => false

end Progress.Event

/-- What one look at a stream of pieces gives. -/
inductive Polled where
  | pending
  | data (bytes : List UInt8)
  | failure (causes : List String)
  | ended
  deriving DecidableEq, Repr

/-- What has gone by in a stream. -/
structure Meter where
  total : Option Nat
  transferred : Nat := 0
  /-- The observer has heard how the transfer ended. -/
  isDone : Bool := false
  deriving DecidableEq, Repr

namespace Meter

def start (url : String) (total : Option Nat) : Progress.Event × Meter :=
  (.start url total, { total })

def snapshot (m : Meter) (elapsed : Duration) : Progress := ⟨m.transferred, m.total, elapsed⟩

/-- What the observer hears when this goes by. -/
def pass (m : Meter) (elapsed : Duration) : Polled → List Progress.Event × Meter
  | .pending => ([], m)
  | .data bytes =>
      let m := { m with transferred := m.transferred + bytes.length }
      ([.update (m.snapshot elapsed)], m)
  | .failure _ =>
      if m.isDone then ([], m) else ([.abandon (m.snapshot elapsed)], { m with isDone := true })
  | .ended =>
      if m.isDone then ([], m) else ([.finish (m.snapshot elapsed)], { m with isDone := true })

/-- What the observer hears when the stream is given up. -/
def drop (m : Meter) (elapsed : Duration) : List Progress.Event :=
  if m.isDone then [] else [.abandon (m.snapshot elapsed)]

end Meter

/-!
## A stream under observation

A stream that plays a script, one item for each look at it, and has ended once the script is over.
An observer hears what goes by, and what becomes of the stream in the end.
-/

structure ObservedStream where
  meter : Meter
  /-- What the next looks at the stream give. -/
  script : List Polled
  deriving DecidableEq, Repr

namespace ObservedStream

/-- A stream of a URL, and what the observer hears about it at once. -/
def start (url : String) (total : Option Nat) (script : List Polled) :
    Progress.Event × ObservedStream :=
  let (event, meter) := Meter.start url total
  (event, { meter, script })

def next (s : ObservedStream) : Polled := s.script.headD .ended

/-- One look at the stream, with what the observer hears. -/
def poll (s : ObservedStream) (elapsed : Duration) :
    Polled × List Progress.Event × ObservedStream :=
  let (events, meter) := s.meter.pass elapsed s.next
  (s.next, events, { meter, script := s.script.tail })

/-- The stream after one look at each of these times. -/
def after (s : ObservedStream) : List Duration → ObservedStream
  | [] => s
  | elapsed :: times => ((s.poll elapsed).2.2).after times

/-- What the observer hears when the stream is given up. -/
def drop (s : ObservedStream) (elapsed : Duration) : List Progress.Event := s.meter.drop elapsed

end ObservedStream

end ArtifactCache
