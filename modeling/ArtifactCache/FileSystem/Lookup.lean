import ArtifactCache.FileSystem.Basic
import ArtifactCache.IoError

/-!
# Finding what a path names

A path is walked name by name from the root or from the directory at hand.  A symbolic link on the
way is replaced by the path that it holds, up to forty times.  A slash at the end asks for a
directory, as the part `.` does.  The last name can also be left unresolved: that is the slot in
which an entry is made, moved or removed.
-/

namespace ArtifactCache

/-- The longest name of an entry, in bytes. -/
def longestName : Nat := 255

/-- A path of this many bytes is too long. -/
def pathLimit : Nat := 4096

/-- The number of symbolic links that one path may lead through. -/
def linkLimit : Nat := 40

def isTooLong (name : Name) : Bool := longestName < byteCount name

inductive Step where
  | stay
  | up
  | enter (name : Name)
  deriving DecidableEq, Repr

def Step.ofPart (part : List Char) : Step :=
  if part = ['.'] then .stay else if part = ['.', '.'] then .up else .enter part

namespace Path

def parts (p : Path) : List (List Char) := (p.chars.splitOn '/').filter (!·.isEmpty)

def endsInSlash (p : Path) : Bool := p.chars.getLast? == some '/'

def steps (p : Path) : List Step :=
  p.parts.map Step.ofPart ++ if p.endsInSlash then [.stay] else []

end Path

namespace FileSystem

/-- Where a path begins, seen from a directory. -/
def origin (dir : Location) (p : Path) : Location := if p.isAbsolute then [] else dir

/-- How far one gets without following a link. -/
inductive Walk where
  | arrived (l : Location)
  | failed (cause : IoError)
  /-- A link in the directory `dir`, and the steps behind it. -/
  | link (dir : Location) (target : Path) (rest : List Step)

/-- Walk from a location to the end of the way or to the first link. -/
def walk (fs : FileSystem) : Location → List Step → Walk
  | l, [] => .arrived l
  | l, step :: rest =>
      match fs.get? l with
      | none => .failed .noEntry
      | some .directory =>
          match step with
          | .stay => walk fs l rest
          | .up => walk fs l.tail rest
          | .enter name =>
              if isTooLong name then .failed .nameTooLong
              else
                match fs.get? (name :: l) with
                | none => .failed .noEntry
                | some (.link target) => .link l target rest
                | some _ => walk fs (name :: l) rest
      | some _ => .failed .notDirectory

/-- Walk to the end of the way, through at most `links` links. -/
def follow (fs : FileSystem) (links : Nat) (l : Location) (steps : List Step) :
    Except IoError Location :=
  match fs.walk l steps with
  | .arrived l => .ok l
  | .failed cause => .error cause
  | .link dir target rest =>
      match links with
      | 0 => .error .tooManyLinks
      | links + 1 => follow fs links (origin dir target) (target.steps ++ rest)

/-- A path that can name anything at all. -/
def checkPath (p : Path) : Except IoError Unit :=
  if p.chars.contains '\x00' then .error .nulInPath
  else if p.isEmpty then .error .noEntry
  else if pathLimit ≤ p.size then .error .nameTooLong
  else .ok ()

/-- The location of what a path names, through all links. -/
def locate (fs : FileSystem) (p : Path) : Except IoError Location := do
  checkPath p
  fs.follow linkLimit (origin fs.here p) p.steps

/-- The location of the directory that some steps lead to. -/
def directoryAt (fs : FileSystem) (dir : Location) (steps : List Step) :
    Except IoError Location := do
  let l ← fs.follow linkLimit dir steps
  match fs.get? l with
  | some .directory => .ok l
  | some _ => .error .notDirectory
  | none => .error .noEntry

/-- What the last part of a path says. -/
inductive Slot where
  /-- A name in the directory `dir`, which may have a slash behind it. -/
  | entry (dir : Location) (name : Name) (slash : Bool)
  | stay
  | up
  | root

/-- The directory of the last part of a path, through all links, and that part. -/
def slot (fs : FileSystem) (p : Path) : Except IoError Slot := do
  checkPath p
  match p.parts.getLast? with
  | none => .ok .root
  | some last =>
      let dir ← fs.directoryAt (origin fs.here p) (p.parts.dropLast.map Step.ofPart)
      match Step.ofPart last with
      | .stay => .ok .stay
      | .up => .ok .up
      | .enter name => .ok (.entry dir name p.endsInSlash)

def entry? (fs : FileSystem) (dir : Location) (name : Name) : Except IoError (Option Node) :=
  if isTooLong name then .error .nameTooLong else .ok (fs.get? (name :: dir))

/-- The location of what a path names, where a link at its end is not followed. -/
def locateEntry (fs : FileSystem) (p : Path) : Except IoError Location := do
  match ← fs.slot p with
  | .entry dir name false =>
      match ← fs.entry? dir name with
      | some _ => .ok (name :: dir)
      | none => .error .noEntry
  | _ => fs.locate p

end FileSystem

end ArtifactCache
