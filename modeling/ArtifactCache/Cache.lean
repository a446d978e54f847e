import ArtifactCache.Error
import ArtifactCache.FileSystem.Operations
import ArtifactCache.Http.Server
import ArtifactCache.Url.Parse

/-!
# Artifacts in a cache

Where the artifact of a URL is kept, what copy of it is there, and whether that copy is still good.
-/

namespace ArtifactCache

/-!
## Where an artifact is kept

An artifact is kept in the cache directory under the last segment of its URL's path; host, query and
fragment do not matter.  A segment that is empty or stands for a directory is no name for a file.
-/

/-- The URL that a text stands for, or the error that a user sees. -/
def readUrl (raw : String) : Except DownloadError Url :=
  (Url.parse raw).mapError fun e => .invalidUrl raw e.message

/-- Only artifacts behind HTTP can be asked for. -/
def requireHttp (url : Url) : Except DownloadError Unit :=
  if url.IsHttp then .ok () else .error (.notHttp url.text url.schemeText)

/-- A segment that can name a file. -/
def IsFileName (segment : List Char) : Prop :=
  segment ≠ [] ∧ segment ≠ ['.'] ∧ segment ≠ ['.', '.']

instance (segment : List Char) : Decidable (IsFileName segment) :=
  inferInstanceAs (Decidable (_ ∧ _))

/-- The name under which the artifact behind a URL is kept. -/
def Url.fileName? (url : Url) : Option (List Char) := url.path.lastSegment?.filter IsFileName

/-- The path under which the artifact behind a URL is kept. -/
def artifactPath (cacheDir : Path) (url : Url) : Except DownloadError Path :=
  match url.fileName? with
  | some name => .ok (cacheDir.join ⟨name⟩)
  | none => .error (.noFileName url.text)

/-! ## Copies in the cache -/

/-- A copy of an artifact. -/
structure CachedCopy where
  path : Path
  size : Nat
  /-- A spelling of the digest of the content. -/
  hash : String
  deriving DecidableEq, Repr

/-- The copy at a path, if there is one. -/
def FileSystem.copyAt? (files : FileSystem) (path : Path) :
    Except DownloadError (Option CachedCopy) := do
  match ← (files.fileSize? path).mapError .file with
  | none => .ok none
  | some size =>
      let digest ← (files.digestOf path).mapError .hash
      .ok (some { path, size, hash := digest.text })

/-!
## Whether a copy is still good

A copy is kept when the server cannot be asked, when the digests agree, or when only the lengths can
be compared and agree.  Otherwise it is purged.
-/

/-- Why a copy is kept. -/
inductive Ground where
  /-- The digests agree. -/
  | sameDigest
  /-- The lengths agree. -/
  | sameLength
  /-- The server could not be asked. -/
  | unreachable
  deriving DecidableEq, Repr

/-- What is to become of a copy. -/
inductive Verdict where
  | keep (ground : Ground)
  | purge
  deriving DecidableEq, Repr

namespace Verdict

/-- The verdict by the lengths alone. -/
def byLength (copy : CachedCopy) (announced : Announcement) : Verdict :=
  if announced.lengthBytes? = some copy.size then .keep .sameLength else .purge

/-- The verdict by what the server says.  A digest that disagrees leaves it to the lengths, unless
digests are to be taken strictly. -/
def byAnnouncement (copy : CachedCopy) (announced : Announcement) (strict : Bool) : Verdict :=
  match announced.digest? with
  | none => byLength copy announced
  | some digest =>
      if Digest.ofText? copy.hash = some digest then .keep .sameDigest
      else if strict then .purge
      else byLength copy announced

/-- The verdict on a copy; nothing is announced when the server could not be asked. -/
def on (copy : CachedCopy) (announced : Option Announcement) (strict : Bool) : Verdict :=
  match announced with
  | none => .keep .unreachable
  | some announced => byAnnouncement copy announced strict

end Verdict

/-- How an artifact came to be in the cache. -/
inductive Provenance where
  /-- There was no copy. -/
  | fetched
  /-- There was a copy, which was kept. -/
  | kept (ground : Ground)
  /-- There was a copy, which was purged. -/
  | refetched
  deriving DecidableEq, Repr

namespace Provenance

def all : List Provenance :=
  [.fetched, .kept .sameDigest, .kept .sameLength, .kept .unreachable, .refetched]

/-- A copy was used as it was. -/
def isHit : Provenance → Bool
  | .kept _ => true
  | .fetched | .refetched => false

def text : Provenance → String
  | .fetched => "fetched"
  | .kept .sameDigest => "cached (hash verified)"
  | .kept .sameLength => "cached (length matched)"
  | .kept .unreachable => "cached (offline)"
  | .refetched => "refetched"

theorem mem_all (p : Provenance) : p ∈ all := by
  cases p with
  | fetched => simp [all]
  | kept ground => cases ground <;> simp [all]
  | refetched => simp [all]

end Provenance

end ArtifactCache
