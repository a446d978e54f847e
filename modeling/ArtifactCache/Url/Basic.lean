import ArtifactCache.Url.Host

/-!
# URLs

The parts of an absolute URL, its printed form, and the segments that its path is read as.
-/

namespace ArtifactCache

/-!
## The parts of a URL

The parts of an absolute URL and its printed form.  A path is a list of segments, each of which is
printed behind a slash, or a text of its own for a URL that has no hierarchy.
-/

namespace Url

inductive Path where
  | segments (parts : List (List Char))
  | text (whole : List Char)
  deriving DecidableEq, Repr

namespace Path

def chars : Path → List Char
  | .segments parts => parts.flatMap ('/' :: ·)
  | .text whole => whole

def lastSegment? : Path → Option (List Char)
  | .segments parts => parts.getLast?
  | .text _ => none

end Path

end Url

/-- An absolute URL; every part is in its encoded form. -/
structure Url where
  scheme : List Char
  username : List Char := []
  /-- A password is not empty. -/
  password : Option (List Char) := none
  /-- The host, if the URL has an authority. -/
  host : Option Url.Host := none
  /-- The port, unless it is the scheme's own. -/
  port : Option Nat := none
  path : Url.Path
  query : Option (List Char) := none
  fragment : Option (List Char) := none
  deriving DecidableEq, Repr

namespace Url

def userinfoChars (u : Url) : List Char :=
  let password := match u.password with
    | some p => ':' :: p
    | none => []
  let both := u.username ++ password
  if both.isEmpty then [] else both ++ ['@']

def portChars (u : Url) : List Char :=
  match u.port with
  | some n => ':' :: (toString n).toList
  | none => []

/-- The authority and the slashes in front of it; a path that would be taken for an authority has
`/.` in front instead. -/
def authorityChars (u : Url) : List Char :=
  match u.host with
  | some host => '/' :: '/' :: u.userinfoChars ++ host.chars ++ u.portChars
  | none => if ['/', '/'].isPrefixOf u.path.chars then ['/', '.'] else []

def queryChars (u : Url) : List Char :=
  match u.query with
  | some q => '?' :: q
  | none => []

def fragmentChars (u : Url) : List Char :=
  match u.fragment with
  | some f => '#' :: f
  | none => []

def chars (u : Url) : List Char :=
  u.scheme ++ ':' :: u.authorityChars ++ u.path.chars ++ u.queryChars ++ u.fragmentChars

def text (u : Url) : String := String.ofList u.chars

def schemeText (u : Url) : String := String.ofList u.scheme

instance : ToString Url := ⟨text⟩

/-- A URL whose resource can be asked for over HTTP. -/
def IsHttp (u : Url) : Prop := u.scheme = "http".toList ∨ u.scheme = "https".toList

instance (u : Url) : Decidable u.IsHttp := inferInstanceAs (Decidable (_ ∨ _))

end Url

/-!
## Reading the segments of a path

The text of a path is cut at its slashes.  A segment `.` stands for the directory that it is in and
a segment `..` for the one above; the other segments are kept in their encoded form.  A segment that
has the form of a drive letter is never left by `..`, and as the first segment of a file URL it is
written with a colon.
-/

namespace Url

/-- How the path of a URL is read, which depends on the scheme. -/
structure PathStyle where
  /-- A backslash is a slash. -/
  backslash : Bool
  /-- The first segment may be a drive letter. -/
  drives : Bool
  deriving DecidableEq, Repr

namespace PathStyle

def special : PathStyle := ⟨true, false⟩
def file : PathStyle := ⟨true, true⟩
def other : PathStyle := ⟨false, false⟩

def isSlash (style : PathStyle) (c : Char) : Bool := c == '/' || (style.backslash && c == '\\')

end PathStyle

def isSingleDot (s : List Char) : Bool :=
  s.map Char.toLower ∈ [".".toList, "%2e".toList]

/-- Two dots, each of which may be encoded. -/
def isDoubleDot (s : List Char) : Bool :=
  s.map Char.toLower ∈ ["..".toList, ".%2e".toList, "%2e.".toList, "%2e%2e".toList]

/-- A letter, and a colon or a bar. -/
def isDriveLetter : List Char → Bool
  | [c, d] => c.isAlpha && (d == ':' || d == '|')
  | _ => false

/-- A segment that `..` does not leave. -/
def staysUnderDots : List Char → Bool
  | [c, d] => isDriveLetter [c, d]
  | c :: d :: e :: _ => isDriveLetter [c, d] && e == '\\'
  | _ => false

/-- The segments in front of the one at hand, last one first. -/
abbrev Trail := List (List Char)

def Trail.leave : Trail → Trail
  | [] => []
  | segment :: rest => if staysUnderDots segment then segment :: rest else rest

/-- A segment as it is written behind a trail. -/
def writtenSegment (style : PathStyle) (trail : Trail) (segment : List Char) : List Char :=
  if style.drives && trail.isEmpty && isDriveLetter segment then segment.take 1 ++ [':']
  else segment

/-- The segments of a path behind a trail, from the texts between its slashes. -/
def segmentsFrom (style : PathStyle) (trail : Trail) : List (List Char) → List (List Char)
  | [] => trail.reverse
  | [last] =>
      let segment := percentEncode .path last
      if isDoubleDot segment then ([] :: trail.leave).reverse
      else if isSingleDot segment then ([] :: trail).reverse
      else (writtenSegment style trail segment :: trail).reverse
  | part :: rest =>
      let segment := percentEncode .path part
      if isDoubleDot segment then segmentsFrom style trail.leave rest
      else if isSingleDot segment then segmentsFrom style trail rest
      else segmentsFrom style (writtenSegment style trail segment :: trail) rest

def pathParts (style : PathStyle) (s : List Char) : List (List Char) := s.splitOnP style.isSlash

/-- The segments of a path whose first slash was read already. -/
def readSegments (style : PathStyle) (s : List Char) : List (List Char) :=
  segmentsFrom style [] (pathParts style s)

/-- A file's path begins with one slash, however many were written. -/
def dropEmptyRoots (segments : List (List Char)) : List (List Char) :=
  match segments.dropWhile (·.isEmpty) with
  | [] => [[]]
  | rest => rest

/-- Whether reading a path replaces a drive letter at its root, which a file URL does not combine
with a host. -/
def rootDrive (style : PathStyle) (trail : Trail) : List (List Char) → Bool
  | [] => false
  | part :: rest =>
      let segment := percentEncode .path part
      if isDoubleDot segment then rootDrive style trail.leave rest
      else if isSingleDot segment then rootDrive style trail rest
      else (style.drives && trail.isEmpty && isDriveLetter segment) ||
        rootDrive style (segment :: trail) rest

end Url

end ArtifactCache
