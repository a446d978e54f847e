import ArtifactCache.Error
import ArtifactCache.FileSystem.Lookup

/-!
# Operations on a tree

Reading, making, moving and removing what paths name.  An operation that fails leaves the tree as
it was; only those on many entries can fail when they have done something already, and give the
tree as they leave it.
-/

namespace ArtifactCache.FileSystem

/-- What a path names, through all links. -/
def nodeAt (fs : FileSystem) (p : Path) : Except IoError Node := do
  let l ← fs.locate p
  match fs.get? l with
  | some node => .ok node
  | none => .error .noEntry

def readFile (fs : FileSystem) (p : Path) : Except IoError (List UInt8) := do
  match ← fs.nodeAt p with
  | .file content => .ok content
  | .directory => .error .isDirectory
  | .link _ | .device => .ok []

def isDirectory (fs : FileSystem) (p : Path) : Bool :=
  match fs.nodeAt p with
  | .ok .directory => true
  | _ => false

/-- Make an entry where nothing is, not even a link; the second part is its location. -/
def create (fs : FileSystem) (p : Path) (node : Node) : Except IoError (FileSystem × Location) := do
  match ← fs.slot p with
  | .entry dir name _ =>
      match ← fs.entry? dir name with
      | some _ => .error .alreadyThere
      | none => .ok (fs.put (name :: dir) node, name :: dir)
  | _ => .error .alreadyThere

/-- Move what is no directory to another name, in place of whatever but a directory is there. -/
def rename (fs : FileSystem) (source target : Path) : Except IoError FileSystem := do
  let sourceSlot ← fs.slot source
  let targetSlot ← fs.slot target
  match sourceSlot, targetSlot with
  | .entry dir name slash, .entry dir' name' slash' =>
      let old ← fs.entry? dir name
      let new ← fs.entry? dir' name'
      match old, new with
      | none, _ => .error .noEntry
      | some node, new =>
          if slash || slash' then .error .notDirectory
          else if node = .directory || new = some .directory then .error .isDirectory
          else .ok ((fs.erase (name :: dir)).put (name' :: dir') node)
  | _, _ => .error .busy

def removeFile (fs : FileSystem) (p : Path) : Except IoError FileSystem := do
  match ← fs.slot p with
  | .entry dir name slash =>
      match ← fs.entry? dir name with
      | none => .error .noEntry
      | some .directory => .error .isDirectory
      | some _ => if slash then .error .notDirectory else .ok (fs.erase (name :: dir))
  | _ => .error .isDirectory

def hasNothingBelow (fs : FileSystem) (l : Location) : Bool :=
  !fs.nodes.any fun entry => isBelow l entry.1

def removeEmpty (fs : FileSystem) (p : Path) : Except IoError FileSystem := do
  match ← fs.slot p with
  | .entry dir name _ =>
      match ← fs.entry? dir name with
      | none => .error .noEntry
      | some .directory =>
          if fs.hasNothingBelow (name :: dir) then .ok (fs.erase (name :: dir))
          else .error .notEmpty
      | some _ => .error .notDirectory
  | .stay => .error .invalidArgument
  | .up => .error .notEmpty
  | .root => .error .busy

/-- Remove what a path names, with everything below it; a link is not followed.  What has gone
away already in between is no error. -/
def removeAll (fs : FileSystem) (p : Path) : Except IoError Unit × FileSystem :=
  match fs.locateEntry p with
  | .error cause => (.error cause, fs)
  | .ok l =>
      match fs.get? l with
      | some .directory =>
          match (fs.clear l).removeEmpty p with
          | .ok rest => (.ok (), rest)
          | .error cause => (if cause.isNotFound then .ok () else .error cause, fs.clear l)
      | _ =>
          match fs.removeFile p with
          | .ok rest => (.ok (), rest)
          | .error cause => (.error cause, fs)

/-- Make a directory, unless that is one already. -/
def ensureDirectory (fs : FileSystem) (p : Path) : Except IoError FileSystem :=
  match fs.create p .directory with
  | .ok (fs, _) => .ok fs
  | .error cause => if fs.isDirectory p then .ok fs else .error cause

/-- Make a directory once those above it, nearest first, are made as far as they are missing. -/
def createBelow (fs : FileSystem) (p : Path) : List Path → Except IoError Unit × FileSystem
  | [] =>
      match fs.ensureDirectory p with
      | .ok fs => (.ok (), fs)
      | .error cause => (.error cause, fs)
  | parent :: above =>
      match fs.ensureDirectory p with
      | .ok fs => (.ok (), fs)
      | .error cause =>
          if !cause.isNotFound then (.error cause, fs)
          else
            match createBelow fs parent above with
            | (.error cause, fs) => (.error cause, fs)
            | (.ok (), fs) =>
                match fs.ensureDirectory p with
                | .ok fs => (.ok (), fs)
                | .error cause => (.error cause, fs)

/-- Make a directory with those above it; the directory at hand is always there. -/
def createDirectories (fs : FileSystem) (p : Path) : Except IoError Unit × FileSystem :=
  if p.isEmpty then (.ok (), fs) else fs.createBelow p (p.ancestors.filter (!·.isEmpty))

/-!
## Files in a cache

The questions and changes that a cache needs: how large the file at a path is, what its digest is,
and that nothing be there any more.  That nothing is at a path is an answer and no error.
-/

/-- The size of the file at a path, or nothing if nothing is there. -/
def fileSize? (fs : FileSystem) (p : Path) : Except FileError (Option Nat) :=
  match fs.nodeAt p with
  | .ok (.file content) => .ok (some content.length)
  | .ok _ => .error (.notAFile p)
  | .error cause => if cause.isNotFound then .ok none else .error (.stat p cause)

def digestOf (fs : FileSystem) (p : Path) : Except HashError Digest :=
  match fs.readFile p with
  | .ok content => .ok (.ofContent content)
  | .error cause => .error (.read p.text cause)

/-- Remove whatever is at a path, but not what a link there leads to. -/
def removeAny (fs : FileSystem) (p : Path) : Except FileError Unit × FileSystem :=
  match fs.locateEntry p with
  | .error cause => (if cause.isNotFound then .ok () else .error (.stat p cause), fs)
  | .ok _ =>
      match fs.removeAll p with
      | (.ok (), fs) => (.ok (), fs)
      | (.error cause, fs) => (if cause.isNotFound then .ok () else .error (.remove p cause), fs)

end ArtifactCache.FileSystem
