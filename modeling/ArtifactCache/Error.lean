import ArtifactCache.Digest.Basic
import ArtifactCache.Duration
import ArtifactCache.IoError
import ArtifactCache.Path

/-!
# Errors

What can go wrong with a file, with a digest and with a download, with the texts shown for it.
-/

namespace ArtifactCache

/-!
## Errors of file operations

What can go wrong with a file, with the text shown for it.
-/

inductive FileError where
  /-- It could not be found out what `path` is. -/
  | stat (path : Path) (cause : IoError)
  | notAFile (path : Path)
  | remove (path : Path) (cause : IoError)
  | write (path : Path) (cause : IoError)
  | rename (source target : Path) (cause : IoError)
  /-- The path ends in no name that a file could have. -/
  | noName (path : Path)
  deriving DecidableEq, Repr

namespace FileError

def message : FileError → String
  | .stat path cause => "failed to stat " ++ path.text ++ ": " ++ cause.message
  | .notAFile path => path.text ++ " is not a regular file"
  | .remove path cause => "failed to remove " ++ path.text ++ ": " ++ cause.message
  | .write path cause => "failed to write " ++ path.text ++ ": " ++ cause.message
  | .rename source target cause =>
      "failed to rename " ++ source.text ++ " to " ++ target.text ++ ": " ++ cause.message
  | .noName path => path.text ++ " does not name a file"

def cause? : FileError → Option IoError
  | .stat _ cause | .remove _ cause | .write _ cause | .rename _ _ cause => some cause
  | .notAFile _ | .noName _ => none

def causes (e : FileError) : List String := (e.cause?.map (·.message)).toList

end FileError

/-!
## Errors of hashing

What can go wrong between some bytes and their digest, with the text shown for it.
-/

inductive HashError where
  | read (path : String) (cause : IoError)
  | source (cause : IoError)
  /-- A text that is no digest, as it was given. -/
  | invalidDigest (raw : String)
  deriving DecidableEq, Repr

namespace HashError

def message : HashError → String
  | .read path cause => "failed to hash " ++ path ++ ": " ++ cause.message
  | .source cause => cause.message
  | .invalidDigest raw => "invalid hex digest: " ++ raw

/-- The texts of the causes below the message; an error that is only passed on has none. -/
def causes : HashError → List String
  | .read _ cause => [cause.message]
  | .source _ => []
  | .invalidDigest _ => []

end HashError

/-- The digest that a text spells, or the text itself as an error. -/
def Digest.parse (raw : String) : Except HashError Digest :=
  match Digest.ofText? raw with
  | some d => .ok d
  | none => .error (.invalidDigest raw)

theorem Digest.parse_eq_ok_iff {raw : String} {d : Digest} :
    Digest.parse raw = .ok d ↔ Digest.ofText? raw = some d := by
  unfold Digest.parse
  split <;> simp_all

/-!
## Errors of a download

Everything that can end a download without a file, with the text shown for it.  Two of these
errors say that the server could not be asked about the artifact; all others are final.
-/

/-- The two phases of a download that wait for a server. -/
inductive Phase where
  | enquiry
  | transfer
  deriving DecidableEq, Repr

def Phase.text : Phase → String
  | .enquiry => "metadata probe"
  | .transfer => "transfer"

inductive DownloadError where
  | file (error : FileError)
  | hash (error : HashError)
  | invalidUrl (url reason : String)
  | noFileName (url : String)
  | notHttp (url scheme : String)
  /-- The server could not be asked about the artifact. -/
  | enquiry (url reason : String)
  | request (url reason : String)
  /-- The server answered with a status that is no success. -/
  | status (url : String) (code : Nat) (reason : String)
  /-- The artifact broke off on its way. -/
  | transfer (url reason : String)
  | write (path : Path) (cause : IoError)
  /-- A server took longer than it may. -/
  | timeout (url : String) (phase : Phase) (limit : Duration)
  | noTransport (reason : String)
  /-- Something that went on in the background came to no end. -/
  | aborted (reason : String)
  deriving DecidableEq, Repr

namespace DownloadError

def message : DownloadError → String
  | .file error => error.message
  | .hash error => error.message
  | .invalidUrl url reason => "invalid URL " ++ url ++ ": " ++ reason
  | .noFileName url => "URL " ++ url ++ " has no file name to cache under"
  | .notHttp url _ => "cannot obtain content info for non HTTP URL: (" ++ url ++ ")"
  | .enquiry url reason => "cannot obtain file info of " ++ url ++ ": " ++ reason
  | .request url reason => "couldn't download " ++ url ++ ": " ++ reason
  | .status url code reason =>
      "couldn't download " ++ url ++ ": " ++ toString code ++ " " ++ reason
  | .transfer url reason => "transfer of " ++ url ++ " failed: " ++ reason
  | .write path cause => "failed to write " ++ path.text ++ ": " ++ cause.message
  | .timeout url phase limit => phase.text ++ " of " ++ url ++ " timed out after " ++ limit.text
  | .noTransport reason => "HTTP client initialization failed: " ++ reason
  | .aborted reason => "background task failed: " ++ reason

def causes : DownloadError → List String
  | .file error => error.causes
  | .hash error => error.causes
  | .write _ cause => [cause.message]
  | _ => []

/-- The server could not be asked about the artifact, which says nothing against a copy of it. -/
def isUnreachable : DownloadError → Bool
  | .enquiry _ _ => true
  | .timeout _ phase _ => phase == .enquiry
  | _ => false

end DownloadError

end ArtifactCache
