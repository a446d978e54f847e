/-!
# Paths

A path is a text in which slashes separate names.  Empty parts and the part `.` do not count when a
path is taken apart, but what is left of a path keeps its spelling.
-/

namespace ArtifactCache

/-- The number of bytes that a text takes up. -/
def byteCount (chars : List Char) : Nat := chars.foldl (fun n c => n + c.utf8Size) 0

structure Path where
  chars : List Char
  deriving DecidableEq, Repr

namespace Path

def ofString (s : String) : Path := ⟨s.toList⟩

def text (p : Path) : String := String.ofList p.chars

instance : ToString Path := ⟨text⟩

def here : Path := ⟨['.']⟩

def isEmpty (p : Path) : Bool := p.chars.isEmpty

def isAbsolute (p : Path) : Bool := p.chars.head? == some '/'

def size (p : Path) : Nat := byteCount p.chars

/-- A path inside of `p`, or the other path alone if that is absolute. -/
def join (p q : Path) : Path :=
  if q.isAbsolute then q
  else if p.isEmpty || p.chars.getLast? == some '/' then ⟨p.chars ++ q.chars⟩
  else ⟨p.chars ++ '/' :: q.chars⟩

/-- What a path begins with before its names: the root, or the directory at hand. -/
def start (p : Path) : List Char :=
  match p.chars with
  | '/' :: _ => ['/']
  | ['.'] => ['.']
  | '.' :: '/' :: _ => ['.']
  | _ => []

/-- A part of a path that names nothing. -/
def isIdle (part : List Char) : Bool := part.isEmpty || part == ['.']

/-- The parts behind the start, last one first, without idle ones in front. -/
def partsFromEnd (p : Path) : List (List Char) :=
  ((p.chars.drop p.start.length).splitOn '/').reverse.dropWhile isIdle

/-- The name at the end; `..` is no name. -/
def fileName? (p : Path) : Option (List Char) :=
  match p.partsFromEnd with
  | part :: _ => if part = ['.', '.'] then none else some part
  | [] => none

/-- The paths above, from the parts of a path, last one first: each is what is left when one part
more is taken away. -/
def above (start : List Char) : List (List Char) → List Path
  | [] => if start = ['.'] then [⟨[]⟩] else []
  | part :: rest =>
      if isIdle part then above start rest
      else ⟨start ++ ['/'].intercalate (rest.dropWhile isIdle).reverse⟩ :: above start rest

def ancestors (p : Path) : List Path := above p.start p.partsFromEnd

/-- The path without its last part, unless it is empty or the root. -/
def parent? (p : Path) : Option Path := p.ancestors.head?

end Path

end ArtifactCache
