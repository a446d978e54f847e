import ArtifactCache.CommandLine.Parse
import ArtifactCache.Download.Retriever
import ArtifactCache.Log

/-!
# A run of the command line

A run makes sure that the cache directory exists and downloads into it.  It prints the path of the
artifact, or it fails with a report of what was tried and of the causes below it.
-/

namespace ArtifactCache.CommandLine

def programName : String := "stowage"

def versionText : String := programName ++ " 0.1.0\n"

structure Environment where
  /-- The directory of the user, if it is known. -/
  home : Option Path := none
  /-- The cache directory to use unless the arguments name one. -/
  cacheDir : Option String := none
  logFilter : Option String := none
  deriving DecidableEq, Repr

def defaultCacheDir (home : Path) : Path :=
  (home.join (.ofString ".cache")).join (.ofString programName)

/-- Why a run failed: what it tried, and the causes, outermost first. -/
structure Failure where
  attempt : String
  causes : List String
  deriving DecidableEq, Repr

namespace Failure

/-- A text whose further lines are moved to the right. -/
def indent (margin : List Char) (s : List Char) : List Char :=
  s.flatMap fun c => if c = '\n' then '\n' :: margin else [c]

def numbered (n : Nat) (cause : String) : List Char :=
  let digits := Nat.toDigits 10 n
  List.replicate (5 - digits.length) ' ' ++ digits ++ [':', ' '] ++
    indent (List.replicate 7 ' ') cause.toList

/-- Causes below an attempt; several are numbered. -/
def causeChars : List String → List (List Char)
  | [] => []
  | [cause] => [List.replicate 4 ' ' ++ indent (List.replicate 4 ' ') cause.toList]
  | causes => causes.zipIdx.map fun (cause, n) => numbered n cause

def report (f : Failure) : String :=
  let below := causeChars f.causes
  let heading := if below.isEmpty then [] else [[], "Caused by:".toList]
  String.ofList (['\n'].intercalate
    (("Error: " ++ f.attempt).toList :: (heading ++ below)))

end Failure

inductive Exit where
  /-- The text goes to standard output. -/
  | success (output : String)
  | failure (f : Failure)
  | misuse (error : UsageError)
  /-- The server never answers. -/
  | stuck
  deriving DecidableEq, Repr

def Exit.code : Exit → Nat
  | .success _ => 0
  | .failure _ | .stuck => 1
  | .misuse _ => 2

structure Finished where
  exit : Exit
  storage : Storage
  log : Log := []

def logFilterOf (setting : Option String) (verbose : Bool) : LogFilter :=
  let standard : LogFilter := [{ threshold := some (if verbose then 1 else 2) }]
  (setting.bind fun s => LogFilter.parse? s.toList).getD standard

def shown (filter : LogFilter) (log : Log) : Log :=
  log.filter fun record => filter.shows Log.target.toList record.level

namespace Arguments

/-- The cache directory of a run, if it can be told. -/
def cacheDirIn? (a : Arguments) (env : Environment) : Option Path :=
  a.cacheDir <|> env.home.map defaultCacheDir

def request (a : Arguments) (cacheDir : Path) : Request where
  cacheDir
  url := a.url
  showsProgress := a.progress

/-- Progress is shown as a bar, which is drawn from the events. -/
def retriever (a : Arguments) (server : Server) : Retriever where
  server
  policy := a.policy
  observer := .recorder

/-- Download what the arguments ask for into a cache directory, which is made if need be. -/
def runIn (a : Arguments) (dir : Path) (env : Environment) (server : Server) (storage : Storage) :
    Finished :=
  match storage.files.createDirectories dir with
  | (.error cause, files) =>
      { exit := .failure ⟨"failed to create cache directory " ++ dir.text, [cause.message]⟩
        storage := { storage with files } }
  | (.ok (), files) =>
      let r := (a.retriever server).retrieve (a.request dir) { storage with files }
      let exit := match r.ending with
        | .done (path, _) => .success (path.text ++ "\n")
        | .failed e => .failure ⟨"failed to fetch " ++ a.url, e.message :: e.causes⟩
        | .stuck => .stuck
      { exit
        storage := r.storage
        log := shown (logFilterOf env.logFilter a.verbose)
          (Notice.fullLog (some .recorder) r.notices) }

/-- Download what the arguments ask for, unless there is no place for it. -/
def run (a : Arguments) (env : Environment) (server : Server) (storage : Storage) : Finished :=
  match a.cacheDirIn? env with
  | some dir => a.runIn dir env server storage
  | none =>
      { exit := .failure ⟨"cannot determine home directory; pass --cache-dir", []⟩, storage }

end Arguments

/-- The lines of the help text about the options. -/
def helpLines (env : Environment) : List String :=
  ["Fetch an artifact into a local cache, reusing it while it is still valid", "",
    "Usage: stowage [OPTIONS] <URL>", "", "Arguments:",
    "  <URL>  URL of the artifact (http or https)", "", "Options:",
    "  -d, --cache-dir <DIR>          Cache directory; created if missing " ++
      "[default: ~/.cache/stowage] [env: STOWAGE_CACHE_DIR=" ++ env.cacheDir.getD "" ++ "]",
    "  -p, --progress                 Show a progress bar while downloading",
    "      --probe-timeout <SECS>     " ++
      "Give up on the metadata probe after SECS and use the cached copy",
    "      --transfer-timeout <SECS>  Abort the download after SECS",
    "      --connect-timeout <SECS>   TCP connect timeout in seconds",
    "      --strict-hash              " ++
      "Refetch when the server's checksum differs, even if the length matches",
    "      --checksum-header <NAME>   " ++
      "Response header carrying the SHA-256 of the artifact [default: X-Checksum-Sha256]",
    "  -v, --verbose                  Log debug output",
    "  -h, --help                     Print help",
    "  -V, --version                  Print version"]

def helpText (env : Environment) : String :=
  String.join ((helpLines env).map fun line => line ++ "\n")

def run (args : List String) (env : Environment) (server : Server) (storage : Storage) : Finished :=
  match parse args env.cacheDir with
  | .ok a => a.run env server storage
  | .error .help => { exit := .success (helpText env), storage }
  | .error .version => { exit := .success versionText, storage }
  | .error (.misuse e) => { exit := .misuse e, storage }

end ArtifactCache.CommandLine
