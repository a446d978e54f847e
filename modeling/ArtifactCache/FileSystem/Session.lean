import ArtifactCache.Error
import ArtifactCache.FileSystem.Operations

/-!
# Replacing files

A file is replaced at once, by one that has been written beside it; and any number of such
replacements can be under way at a time.
-/

namespace ArtifactCache

/-!
## Replacing a file

New content for a path is written to a file of its own beside it, and takes the place of what is
there in one move, once it is complete.  So the path holds what it held before or the whole new
content at any time.  The names of such files hold the number of the process and a count, which
keeps them apart.
-/

/-- A tree of files, and what the names of replacements are made from. -/
structure Storage where
  files : FileSystem
  process : Nat
  /-- How many replacements have been named so far. -/
  named : Nat := 0
  deriving DecidableEq, Repr

/-- A file that waits to take the place of another. -/
structure Replacement where
  path : Path
  destination : Path
  /-- Where the open file is, whatever becomes of the path. -/
  location : Location
  deriving DecidableEq, Repr

namespace Replacement

def fileName (destination : Name) (process count : Nat) : Name :=
  '.' :: destination ++ '.' :: Nat.toDigits 10 process ++ '-' :: Nat.toDigits 10 count ++
    ".part".toList

/-- The directory of a path; that of a lone name is the one at hand. -/
def directory (destination : Path) : Path :=
  (destination.parent?.filter (!·.isEmpty)).getD .here

def pathBeside (destination : Path) (name : Name) : Path := (directory destination).join ⟨name⟩

/-- Make an empty replacement beside its destination. -/
def create (s : Storage) (destination : Path) : Except FileError Replacement × Storage :=
  match destination.fileName? with
  | none => (.error (.noName destination), s)
  | some name =>
      let path := pathBeside destination (fileName name s.process s.named)
      let s := { s with named := s.named + 1 }
      match s.files.create path (.file []) with
      | .ok (files, location) => (.ok { path, destination, location }, { s with files })
      | .error cause => (.error (.write path cause), s)

def write (r : Replacement) (fs : FileSystem) (bytes : List UInt8) : FileSystem :=
  fs.append r.location bytes

def discard (r : Replacement) (fs : FileSystem) : FileSystem :=
  match fs.removeFile r.path with
  | .ok rest => rest
  | .error _ => fs

/-- Let a replacement take its place; one that cannot is given up. -/
def commit (r : Replacement) (fs : FileSystem) : Except FileError Path × FileSystem :=
  match fs.rename r.path r.destination with
  | .ok files => (.ok r.destination, files)
  | .error cause => (.error (.rename r.path r.destination cause), r.discard fs)

end Replacement

/-!
## Several replacements at a time

A session holds any number of replacements, each under a label, and makes, writes, commits and drops
them in any order.  Committing and dropping end a replacement, whether they succeed or not.
-/

structure Session where
  storage : Storage
  live : List (String × Replacement) := []
  deriving DecidableEq, Repr

namespace Session

inductive Action where
  | create (label : String) (destination : Path)
  | write (label : String) (bytes : List UInt8)
  | commit (label : String)
  | drop (label : String)
  deriving DecidableEq, Repr

inductive Reply where
  | created (path : Path)
  | done
  | committed (path : Path)
  | refused (error : FileError)
  | unknown
  deriving DecidableEq, Repr

def get? (s : Session) (label : String) : Option Replacement := s.live.lookup label

def forget (s : Session) (label : String) : Session :=
  { s with live := s.live.filter (·.1 != label) }

def withFiles (s : Session) (files : FileSystem) : Session :=
  { s with storage := { s.storage with files } }

/-- A new replacement takes a label over from an older one, which is given up. -/
def create (s : Session) (label : String) (destination : Path) : Reply × Session :=
  match Replacement.create s.storage destination with
  | (.error e, storage) => (.refused e, { s with storage })
  | (.ok r, storage) =>
      let storage :=
        match s.get? label with
        | some older => { storage with files := older.discard storage.files }
        | none => storage
      (.created r.path, { storage, live := (label, r) :: (s.forget label).live })

/-- One action.  An open file could outlive the replacement that it was made for; here it is given
up together with it, so nothing can be written to what has been committed or dropped. -/
def step (s : Session) : Action → Reply × Session
  | .create label destination => s.create label destination
  | .write label bytes =>
      match s.get? label with
      | none => (.unknown, s)
      | some r => (.done, s.withFiles (r.write s.storage.files bytes))
  | .commit label =>
      match s.get? label with
      | none => (.unknown, s)
      | some r =>
          match r.commit s.storage.files with
          | (.ok path, files) => (.committed path, (s.forget label).withFiles files)
          | (.error e, files) => (.refused e, (s.forget label).withFiles files)
  | .drop label =>
      match s.get? label with
      | none => (.unknown, s)
      | some r => (.done, (s.forget label).withFiles (r.discard s.storage.files))

def run (s : Session) (actions : List Action) : Session :=
  actions.foldl (fun s a => (s.step a).2) s

end Session

end ArtifactCache
