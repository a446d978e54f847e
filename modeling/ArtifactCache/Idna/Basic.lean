import ArtifactCache.Idna.CompositionTable
import ArtifactCache.Idna.MappingTable
import ArtifactCache.Idna.PropertyTables
import ArtifactCache.Idna.Punycode

/-!
# Internationalised domain names

The processing of UTS 46 that turns a domain name of any script into ASCII labels: map the
characters, normalize, check every label, and encode the labels that are not ASCII.  Deviation
characters are kept, hyphens are allowed anywhere, and lengths are not limited.  Some ASCII
characters are forbidden in every domain name.
-/

namespace ArtifactCache.Idna

/-!
## Properties of code points in runs

A table of a property is a text of runs: a capital letter, then numbers to the base 36 with commas
between them, the first of which is the length of the run.  Looking up a code point walks along the
runs.
-/

structure Run where
  kind : Char
  length : Nat
  numbers : List Nat
  deriving DecidableEq, Repr

namespace Run

def digitValue (c : Char) : Nat := if c.isDigit then c.toNat - 48 else c.toNat - 87

def numberOf (digits : List Char) : Nat := digits.foldl (fun n c => 36 * n + digitValue c) 0

/-- The run of a letter and its numbers. -/
def ofNumbers (kind : Char) : List Nat → Run
  | [] => { kind, length := 0, numbers := [] }
  | length :: numbers => { kind, length, numbers }

/-- A reader's position inside a table: the runs so far, newest first, then the letter, the numbers,
newest first, and the digits, newest first, of the run at hand. -/
structure Cursor where
  done : List Run := []
  kind : Char := 'Z'
  numbers : List Nat := []
  digits : List Char := []

namespace Cursor

def closeNumber (c : Cursor) : Cursor :=
  { c with numbers := numberOf c.digits.reverse :: c.numbers, digits := [] }

def closeRun (c : Cursor) : List Run :=
  if c.digits.isEmpty && c.numbers.isEmpty then c.done
  else ofNumbers c.kind c.closeNumber.numbers.reverse :: c.done

def step (c : Cursor) (x : Char) : Cursor :=
  if x.isUpper then { done := c.closeRun, kind := x }
  else if x = ',' then c.closeNumber
  else { c with digits := x :: c.digits }

end Cursor

def parse (table : String) : List Run :=
  (table.toList.foldl Cursor.step {}).closeRun.reverse

/-- The run that holds the position `n`, and the distance of `n` from the run's beginning. -/
def find? : List Run → Nat → Option (Run × Nat)
  | [], _ => none
  | run :: rest, n => if n < run.length then some (run, n) else find? rest (n - run.length)

end Run

/-!
## Mapping the characters of a domain name

Before a domain name is looked at further, each of its characters is kept, dropped, replaced or
refused.  ASCII characters are kept, capital letters apart, which become small ones.
-/

inductive Mapped where
  | kept
  | dropped
  | replaced (cs : List Char)
  | refused
  deriving DecidableEq, Repr

def mappingRuns : List Run := Run.parse mappingText

/-- What becomes of the code point `n`, which is `offset` after the beginning of its run. -/
def Mapped.ofRun (n : Nat) : Run × Nat → Mapped
  | (run, offset) =>
      match run.kind, run.numbers with
      | 'V', _ => .kept
      | 'I', _ => .dropped
      | 'A', _ => if offset % 2 = 0 then .replaced [Char.ofNat (n + 1)] else .kept
      | 'U', distance :: _ => .replaced [Char.ofNat (n + distance)]
      | 'D', distance :: _ => .replaced [Char.ofNat (n - distance)]
      | 'M', codes => .replaced (codes.map Char.ofNat)
      | _, _ => .refused

def Mapped.ofChar (c : Char) : Mapped :=
  if c.toNat < 128 then
    if c.isUpper then .replaced [c.toLower] else .kept
  else
    match Run.find? mappingRuns (c.toNat - 128) with
    | some found => .ofRun c.toNat found
    | none => .refused

/-- The characters that a whole name is mapped to, unless one of them is refused. -/
def mapChars? : List Char → Option (List Char)
  | [] => some []
  | c :: rest =>
      match Mapped.ofChar c with
      | .kept => (mapChars? rest).map (c :: ·)
      | .dropped => mapChars? rest
      | .replaced cs => (mapChars? rest).map (cs ++ ·)
      | .refused => none

/-!
## Canonical composition

The normalization form NFC: take every composite apart, put the marks behind each base into the
order of their combining classes, and put together again what makes a composite.  Only composites
that can be put together again are taken apart, since the mapping of domain names replaces all
others beforehand.
-/

def combiningClassRuns : List Run := Run.parse combiningClassText

def combiningClass (c : Char) : Nat :=
  if c.toNat < 128 then 0
  else
    match Run.find? combiningClassRuns c.toNat with
    | some (run, _) => run.numbers.headD 0
    | none => 0

structure Composite where
  whole : Nat
  first : Nat
  second : Nat
  deriving DecidableEq, Repr

/-- The composites of a table whose runs give the distance to the composite before. -/
def Composite.ofRuns (previous : Nat) : List Run → List Composite
  | [] => []
  | run :: rest =>
      let whole := previous + run.length
      ⟨whole, run.numbers.getD 0 0, run.numbers.getD 1 0⟩ :: ofRuns whole rest

def composites : List Composite := Composite.ofRuns 0 (Run.parse compositesText)

namespace Hangul

def syllableBase : Nat := 0xAC00
def leadBase : Nat := 0x1100
def vowelBase : Nat := 0x1161
def tailBase : Nat := 0x11A7

def parts? (n : Nat) : Option (List Nat) :=
  if syllableBase ≤ n ∧ n < syllableBase + 19 * 21 * 28 then
    let k := n - syllableBase
    let pair := [leadBase + k / (21 * 28), vowelBase + k % (21 * 28) / 28]
    some (if k % 28 = 0 then pair else pair ++ [tailBase + k % 28])
  else none

/-- The syllable of a lead and a vowel, or of an open syllable and a tail. -/
def join? (a b : Nat) : Option Nat :=
  if leadBase ≤ a ∧ a < leadBase + 19 ∧ vowelBase ≤ b ∧ b < vowelBase + 21 then
    some (syllableBase + ((a - leadBase) * 21 + (b - vowelBase)) * 28)
  else if syllableBase ≤ a ∧ a < syllableBase + 19 * 21 * 28 ∧ (a - syllableBase) % 28 = 0 ∧
      tailBase < b ∧ b < tailBase + 28 then
    some (a + (b - tailBase))
  else none

end Hangul

/-- The full decomposition of a code point; no chain of composites is longer than `fuel`. -/
def decompose : Nat → Nat → List Nat
  | 0, n => [n]
  | fuel + 1, n =>
      match Hangul.parts? n with
      | some parts => parts
      | none =>
          match composites.find? (·.whole == n) with
          | some c => decompose fuel c.first ++ [c.second]
          | none => [n]

/-- Put a mark with its combining class behind the marks of no greater class. -/
def insertMark (c : Nat × Char) : List (Nat × Char) → List (Nat × Char)
  | [] => [c]
  | d :: rest => if d.1 ≤ c.1 then d :: insertMark c rest else c :: d :: rest

/-- Sort the marks of each base by combining class; marks of one class keep their order. -/
def orderMarks (marks : List (Nat × Char)) : List Char → List Char
  | [] => marks.map Prod.snd
  | c :: rest =>
      if combiningClass c = 0 then marks.map Prod.snd ++ c :: orderMarks [] rest
      else orderMarks (insertMark (combiningClass c, c) marks) rest

def compose? (a b : Char) : Option Char :=
  match Hangul.join? a.toNat b.toNat with
  | some n => some (Char.ofNat n)
  | none =>
      (composites.find? fun c => c.first == a.toNat && c.second == b.toNat).map
        fun c => Char.ofNat c.whole

/-- Put characters together behind the base `base`, whose marks that stay are `kept`, newest
first. -/
def composeFrom (base : Char) (kept : List Char) : List Char → List Char
  | [] => base :: kept.reverse
  | c :: rest =>
      let blocked :=
        match kept.head? with
        | some k => combiningClass k == 0 || combiningClass c ≤ combiningClass k
        | none => false
      match (if blocked then none else compose? base c) with
      | some whole => composeFrom whole kept rest
      | none =>
          if combiningClass c = 0 then base :: kept.reverse ++ composeFrom c [] rest
          else composeFrom base (c :: kept) rest

/-- Put together what makes a composite; marks before the first base stay as they are. -/
def compose : List Char → List Char
  | [] => []
  | c :: rest => if combiningClass c = 0 then composeFrom c [] rest else c :: compose rest

def normalize (s : List Char) : List Char :=
  if s.all (·.toNat < 128) then s
  else compose (orderMarks [] (s.flatMap fun c => (decompose 4 c.toNat).map Char.ofNat))

/-! ## Internationalised domain names -/

/-- ASCII characters that no domain name has: controls, and those that separate the parts of a
URL. -/
def isForbidden (c : Char) : Bool :=
  c.toNat ≤ 0x20 || c.toNat == 0x7F || " #%/:<>?@[\\]^|".toList.contains c

def splitLabels (s : List Char) : List (List Char) := s.splitOn '.'

def joinLabels (labels : List (List Char)) : List Char := ['.'].intercalate labels

/-! ### Bidirectional text -/

def bidiClassRuns : List Run := Run.parse bidiClassText

/-- The bidirectional class of a character, as a letter of the table. -/
def bidiClass (c : Char) : Char :=
  match Run.find? bidiClassRuns c.toNat with
  | some (run, _) => run.kind
  | none => 'X'

/-- A class that makes a whole domain name bidirectional. -/
def isRightToLeft (k : Char) : Bool := k == 'R' || k == 'A' || k == 'N'

/-- The last class but for nonspacing marks. -/
def lastClass? (classes : List Char) : Option Char := classes.reverse.find? (· != 'M')

/-- The rule of RFC 5893 for a label of a bidirectional domain name, on its classes. -/
def bidiRule (classes : List Char) : Bool :=
  match classes.head? with
  | none => true
  | some 'L' =>
      classes.all ("LESCTOBM".toList.contains ·) &&
        (lastClass? classes).any ("LE".toList.contains ·)
  | some first =>
      (first == 'R' || first == 'A') && classes.all ("RANESCTOBM".toList.contains ·) &&
        (lastClass? classes).any ("RAEN".toList.contains ·) &&
        !(classes.contains 'E' && classes.contains 'N')

/-! ### Labels -/

def markRuns : List Run := Run.parse markText

def isMark (c : Char) : Bool :=
  match Run.find? markRuns c.toNat with
  | some (run, _) => run.kind == 'M'
  | none => false

def joiningTypeRuns : List Run := Run.parse joiningTypeText

def joiningType (c : Char) : Char :=
  match Run.find? joiningTypeRuns c.toNat with
  | some (run, _) => run.kind
  | none => 'U'

/-- The first joining type that is not transparent. -/
def nextJoining? (s : List Char) : Option Char := (s.map joiningType).find? (· != 'T')

/-- Every joiner stands behind a virama, or is a non-joiner between characters that would join;
`before` is the text in front, last character first. -/
def joinersAllowed (before : List Char) : List Char → Bool
  | [] => true
  | c :: rest =>
      let behindVirama := before.head?.any (combiningClass · == 9)
      let allowed :=
        if c.toNat = 0x200D then behindVirama
        else if c.toNat = 0x200C then
          behindVirama ||
            ((nextJoining? before).any ("LD".toList.contains ·) &&
              (nextJoining? rest).any ("RD".toList.contains ·))
        else true
      allowed && joinersAllowed (c :: before) rest

/-- A label with a character beyond ASCII may be encoded: it is what mapping and normalizing leaves,
begins with no mark, and has joiners only where they are allowed. -/
def labelAllowed (label : List Char) : Bool :=
  label.all (fun c => Mapped.ofChar c == .kept) && normalize label == label &&
    !label.head?.any isMark && joinersAllowed [] label

def encodedMark : List Char := "xn--".toList

def isAscii (s : List Char) : Bool := s.all (·.toNat < 128)

/-- What the encoded label behind its mark stands for; only a text beyond ASCII may be encoded. -/
def decodeLabel? (encoded : List Char) : Option (List Char) :=
  (Punycode.decode? encoded).filter fun label => !isAscii label && labelAllowed label

/-- The label that a normalized label stands for, if it is valid. -/
def readLabel? (label : List Char) : Option (List Char) :=
  if encodedMark.isPrefixOf label then decodeLabel? (label.drop encodedMark.length)
  else if isAscii label then some label
  else if labelAllowed label then some label
  else none

def writeLabel (label : List Char) : List Char :=
  if isAscii label then label else encodedMark ++ Punycode.encode label

/-- The bidirectional rule for all labels of a name; names without right-to-left text are free of
it. -/
def bidiAllowed (labels : List (List Char)) : Bool :=
  if labels.all isAscii then true
  else
    let classes := labels.map (·.map bidiClass)
    !classes.any (·.any isRightToLeft) || classes.all bidiRule

/-- The name in ASCII, or nothing if it is not a domain name. -/
def toAscii? (name : List Char) : Option (List Char) := do
  let mapped ← mapChars? name
  let labels ← (splitLabels (normalize mapped)).mapM readLabel?
  let ascii := joinLabels (labels.map writeLabel)
  if bidiAllowed labels && !ascii.any isForbidden then some ascii else none

end ArtifactCache.Idna
