import ArtifactCache.Log
import ArtifactCache.Progress.Stream

/-!
# Who hears of a transfer

Two observers: a bar on the screen, and lines in the log.
-/

namespace ArtifactCache

/-!
## The progress bar

What a bar shows: how long it is, how far it is filled, what it is named, and whether it is
finished.  There is no bar before the first transfer starts.
-/

structure Bar where
  /-- The position at which the bar is full, if it is known. -/
  length : Option Nat
  position : Nat
  message : List Char
  isFinished : Bool
  deriving DecidableEq, Repr

namespace Bar

def label (url : List Char) : List Char := (url.reverse.takeWhile (· != '/')).reverse

def start (url : String) (total : Option Nat) : Bar where
  length := total
  position := 0
  message := label url.toList
  isFinished := false

/-- The bar after an event; a bar that finishes is full if its length is known. -/
def hear (bar : Option Bar) : Progress.Event → Option Bar
  | .start url total => some (start url total)
  | .update p => bar.map fun b => { b with position := p.bytes }
  | .finish p => bar.map fun b => { b with position := b.length.getD p.bytes, isFinished := true }
  | .abandon p => bar.map fun b => { b with position := p.bytes, isFinished := true }

end Bar

/-!
## Progress as log lines

An observer that logs a line when a transfer starts, finishes and is abandoned, and in between a
line for an update if the last line of either kind is not too recent.
-/

/-- What a reporter keeps in mind. -/
structure Reporter where
  interval : Duration := .ofMillis 500
  url : String := ""
  /-- The instant of the latest start or reported update. -/
  lastReport : Option Duration := none
  deriving DecidableEq, Repr

namespace Reporter

/-- How much has arrived, out of how much, how fast, and for how long it will go on. -/
def describe (p : Progress) : String :=
  let share :=
    match p.total, p.percentage? with
    | some total, some percentage =>
        sizeText p.bytes ++ "/" ++ sizeText total ++ " (" ++
          String.ofList (percentage.fixedChars 0) ++ "%)"
    | _, _ => sizeText p.bytes
  let rate :=
    match p.rate? with
    | some rate => ", " ++ sizeText (min rate.floor (Text.wordBound - 1)) ++ "/s"
    | none => ""
  let left :=
    match p.remaining? with
    | some span => ", " ++ toString span.seconds ++ "s left"
    | none => ""
  share ++ rate ++ left

/-- An update is due if nothing was reported yet or the interval has passed since. -/
def isDue (r : Reporter) (now : Duration) : Bool :=
  match r.lastReport with
  | none => true
  | some last => r.interval.nanos ≤ now.nanos - last.nanos

/-- What the reporter logs about an event at an instant. -/
def hear (r : Reporter) (now : Duration) : Progress.Event → Log × Reporter
  | .start url total =>
      let size :=
        match total with
        | some total => sizeText total
        | none => "(size unknown)"
      ([.info (url ++ ": receiving " ++ size)], { r with url, lastReport := some now })
  | .update p =>
      if r.isDue now then
        ([.info (r.url ++ ": " ++ describe p)], { r with lastReport := some now })
      else ([], r)
  | .finish p =>
      ([.info (r.url ++ ": complete, " ++ sizeText p.bytes ++ " in " ++
          String.ofList (p.elapsed.inSeconds.fixedChars 1) ++ "s")], r)
  | .abandon p => ([.warn (r.url ++ ": transfer stopped after " ++ sizeText p.bytes)], r)

/-- The log about several events, each with its instant. -/
def hearAll (r : Reporter) : List (Duration × Progress.Event) → Log × Reporter
  | [] => ([], r)
  | (now, event) :: rest =>
      let (log, r) := r.hear now event
      let (more, r) := r.hearAll rest
      (log ++ more, r)

end Reporter

end ArtifactCache
