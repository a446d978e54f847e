import ArtifactCache.Text

/-!
# Log records

Records of a log, which of them are shown, and the lines in which they tell chains of causes.
-/

namespace ArtifactCache

/-!
## Records

A log is the list of its records, oldest first.  Each has a level and a text.
-/

namespace Log

inductive Level where
  | trace
  | debug
  | info
  | warn
  | error
  deriving DecidableEq, Repr

def Level.text : Level → String
  | .trace => "TRACE"
  | .debug => "DEBUG"
  | .info => "INFO"
  | .warn => "WARN"
  | .error => "ERROR"

def Level.rank : Level → Nat
  | .trace => 0
  | .debug => 1
  | .info => 2
  | .warn => 3
  | .error => 4

structure Record where
  level : Level
  text : String
  deriving DecidableEq, Repr

/-- The name under which all records are published. -/
def target : String := "stowage_fetch"

end Log

abbrev Log := List Log.Record

namespace Log

def Record.debug (text : String) : Record := ⟨.debug, text⟩

def Record.info (text : String) : Record := ⟨.info, text⟩

def Record.warn (text : String) : Record := ⟨.warn, text⟩

/-- Whether a record of this level has a text with this part. -/
def contains (log : Log) (level : Level) (part : String) : Bool :=
  log.any fun record => record.level == level && Text.contains record.text.toList part.toList

end Log

/-!
## Which records are shown

A filter is written as directives between commas.  A directive is a level, the beginning of a target
with a level behind an equals sign, or the beginning of a target alone, which lets everything
through.  A level is a name or a number.  Of the directives that are about a target the longest
counts; without one nothing is shown.
-/

/-- A level is shown from some rank on; a filter with no threshold shows nothing. -/
abbrev Threshold := Option Nat

structure Directive where
  target : List Char := []
  threshold : Threshold
  deriving DecidableEq, Repr

abbrev LogFilter := List Directive

namespace LogFilter

def thresholdNames : List (String × Threshold) :=
  [("off", none), ("error", some 4), ("warn", some 3), ("info", some 2), ("debug", some 1),
    ("trace", some 0)]

/-- The thresholds with numbers, counted from zero. -/
def numberedThresholds : List Threshold := [none, some 4, some 3, some 2, some 1, some 0]

def threshold? (s : List Char) : Option Threshold :=
  match Text.readWord? s with
  | some n => numberedThresholds[n]?
  | none => thresholdNames.lookup (String.ofList (s.map Char.toLower))

/-- What a directive can begin with; beyond ASCII that is everything. -/
def canBegin (c : Char) : Bool := c.isAlphanum || c == '_' || c == '-' || c == ':' || '\x7f' < c

def plainDirective (s : List Char) : Directive :=
  match threshold? s with
  | some threshold => { threshold }
  | none => { target := s, threshold := some 0 }

/-- The directive that a text describes.  Blanks around a target with a level are not allowed. -/
def directive? (s : List Char) : Option Directive :=
  if !(Text.trimStart s).head?.any canBegin || s.contains '[' then none
  else
    match s.dropWhile (· != '=') with
    | [] => some (plainDirective s)
    | _ :: level =>
        let target := s.takeWhile (· != '=')
        if target.head?.any Text.isBlank then none
        else if level.isEmpty then some { target, threshold := some 0 }
        else (threshold? level).map fun threshold => { target, threshold }

/-- The filter that a text describes; an empty one shows errors only. -/
def parse? (s : List Char) : Option LogFilter :=
  let parts := (s.splitOn ',').filter (!·.isEmpty)
  if parts.isEmpty then some [{ threshold := some 4 }] else parts.mapM directive?

def longest? (target : List Char) (filter : LogFilter) : Option Directive :=
  (filter.filter (·.target.isPrefixOf target)).foldl
    (fun best d =>
      match best with
      | some b => if b.target.length ≤ d.target.length then some d else best
      | none => some d)
    none

def shows (filter : LogFilter) (target : List Char) (level : Log.Level) : Bool :=
  match (filter.longest? target).bind (·.threshold) with
  | some least => least ≤ level.rank
  | none => false

end LogFilter

/-!
## Chains of causes

An error may have a cause, which may have a cause of its own, and so on.  Such a chain is told in
one line: the outermost text, and behind it the text of each cause that is not yet part of the line.
-/

namespace CauseLine

/-- A cause's text behind what is told already, unless it is part of that. -/
def extend (told cause : List Char) : List Char :=
  if Text.contains told cause then told else told ++ ':' :: ' ' :: cause

/-- The line that tells a text and its causes. -/
def line (outermost : List Char) (causes : List (List Char)) : List Char :=
  causes.foldl extend outermost

def ofTexts : List String → String
  | [] => ""
  | outermost :: causes => String.ofList (line outermost.toList (causes.map (·.toList)))

theorem extend_prefix (told cause : List Char) : told <+: extend told cause := by
  unfold extend
  split
  · exact List.prefix_rfl
  · exact List.prefix_append _ _

theorem infix_extend (told cause : List Char) : cause <:+: extend told cause := by
  unfold extend
  split
  · next h => exact Text.contains_iff.1 h
  · exact ⟨told ++ [':', ' '], [], by simp⟩

end CauseLine

end ArtifactCache
