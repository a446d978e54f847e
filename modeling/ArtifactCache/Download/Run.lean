import ArtifactCache.Duration
import ArtifactCache.Error
import ArtifactCache.FileSystem.Session
import ArtifactCache.Http.Server
import ArtifactCache.Path
import ArtifactCache.Progress.Bar

/-!
# Runs

What is asked of a run, and what comes of it.
-/

namespace ArtifactCache

/-! ## What is asked for -/

/-- How long to wait for a server in each phase; without a limit, for as long as it takes. -/
structure Limits where
  enquiry : Option Duration := none
  transfer : Option Duration := none
  deriving DecidableEq, Repr

structure Policy where
  limits : Limits := {}
  checksumHeader : String := Announcement.checksumHeader
  /-- A digest that disagrees is not outweighed by a length that agrees. -/
  strict : Bool := false
  deriving DecidableEq, Repr

structure Request where
  cacheDir : Path
  url : String
  showsProgress : Bool := false
  deriving DecidableEq, Repr

/-!
## What comes of a run

A run ends with a value or an error, or it waits for ever.  Apart from that there is what it leaves
behind: the tree of files, the requests that it made, and all that it told on the way.
-/

/-- How something ends that may also never end. -/
inductive Ending (α : Type) where
  | done (value : α)
  | failed (error : DownloadError)
  /-- It waits for something that never comes, and is given up. -/
  | stuck
  deriving DecidableEq, Repr

def Ending.map {α β : Type} (f : α → β) : Ending α → Ending β
  | .done value => .done (f value)
  | .failed error => .failed error
  | .stuck => .stuck

/-- What a run tells on the way. -/
inductive Notice where
  | log (record : Log.Record)
  /-- An event for the observer, and the instant at which it happens. -/
  | progress (instant : Duration) (event : Progress.Event)
  deriving DecidableEq, Repr

/-- Who hears about progress. -/
inductive Observer where
  /-- Progress is kept event by event. -/
  | recorder
  /-- Progress goes to the log, in lines that are not too frequent. -/
  | reporter
  deriving DecidableEq, Repr

namespace Notice

def events (notices : List Notice) : List Progress.Event :=
  notices.filterMap fun
    | .progress _ event => some event
    | .log _ => none

/-- The log of a reporter that hears some notices. -/
def reportLog (r : Reporter) : List Notice → Log
  | [] => []
  | .log record :: rest => record :: reportLog r rest
  | .progress instant event :: rest =>
      let (lines, r) := r.hear instant event
      lines ++ reportLog r rest

def records (notices : List Notice) : Log :=
  notices.filterMap fun
    | .log record => some record
    | .progress _ _ => none

def fullLog (observer : Option Observer) (notices : List Notice) : Log :=
  match observer with
  | some .reporter => reportLog {} notices
  | _ => records notices

end Notice

structure Run (α : Type) where
  ending : Ending α
  storage : Storage
  requests : Requests := {}
  notices : List Notice := []

namespace Run

def fail {α : Type} (error : DownloadError) (storage : Storage) : Run α :=
  { ending := .failed error, storage }

def map {α β : Type} (f : α → β) (r : Run α) : Run β :=
  { ending := r.ending.map f, storage := r.storage, requests := r.requests, notices := r.notices }

def after {α : Type} (requests : Requests) (notices : List Notice) (r : Run α) : Run α :=
  { r with
    requests := ⟨requests.heads + r.requests.heads, requests.gets + r.requests.gets⟩
    notices := notices ++ r.notices }

def files {α : Type} (r : Run α) : FileSystem := r.storage.files

end Run

end ArtifactCache
