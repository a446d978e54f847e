import ArtifactCache.FileSystem.Operations

/-!
# Changes from outside

What others do to a tree: they put files, directories and links at paths, and remove what is there.
An edit that is not possible changes nothing.
-/

namespace ArtifactCache.FileSystem

/-- A change to a tree that names what it is about by a path. -/
inductive Edit where
  /-- Content for a file, which is made or replaced. -/
  | file (path : Path) (content : List UInt8)
  | directory (path : Path)
  | link (path target : Path)
  /-- Whatever is at the path goes. -/
  | remove (path : Path)
  deriving DecidableEq, Repr

/-- Where a file is written to, through the links that may stand at the end of the way. -/
def writeLocation? (fs : FileSystem) (links : Nat) (dir : Location) (p : Path) : Option Location :=
  match p.parts.getLast? with
  | none => none
  | some last =>
      match fs.directoryAt (origin dir p) (p.parts.dropLast.map Step.ofPart) with
      | .error _ => none
      | .ok dir =>
          match fs.entry? dir last with
          | .ok (some (.link target)) =>
              match links with
              | 0 => none
              | links + 1 => writeLocation? fs links dir target
          | .ok (some .directory) | .error _ => none
          | .ok _ => some (last :: dir)

/-- The tree with the directories above a path. -/
def withParents (fs : FileSystem) (p : Path) : FileSystem :=
  match p.parent? with
  | some parent => (fs.createDirectories parent).2
  | none => fs

def edit (fs : FileSystem) : Edit → FileSystem
  | .file p content =>
      let fs := fs.withParents p
      match fs.writeLocation? linkLimit fs.here p with
      | some l => fs.put l (.file content)
      | none => fs
  | .directory p => (fs.createDirectories p).2
  | .link p target =>
      let fs := fs.withParents p
      match fs.create p (.link target) with
      | .ok (fs, _) => fs
      | .error _ => fs
  | .remove p => (fs.removeAll p).2

def editAll (fs : FileSystem) (edits : List Edit) : FileSystem := edits.foldl edit fs

/-- The entries below the directory at hand, each with the names that lead to it from there. -/
def listing (fs : FileSystem) : List (List Name × Node) :=
  fs.nodes.filterMap fun (l, node) =>
    if isBelow fs.here l then some ((l.take (l.length - fs.here.length)).reverse, node) else none

end ArtifactCache.FileSystem
