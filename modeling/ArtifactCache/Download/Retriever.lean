import ArtifactCache.Cache
import ArtifactCache.Download.Courier
import ArtifactCache.Download.Run

/-!
# Making an artifact available

A retrieval leaves an artifact in the cache and says where.  If there is a copy the server is asked
about the artifact first, and the copy is kept when it is still good or when nothing can be found
out; otherwise, and if there is no copy, the artifact is fetched.
-/

namespace ArtifactCache

structure Retriever where
  server : Server
  policy : Policy := {}
  /-- Who hears about progress, if it is to be shown. -/
  observer : Observer := .reporter

namespace Retriever

def observerOf (r : Retriever) (request : Request) : Option Observer :=
  if request.showsProgress then some r.observer else none

def enquirer (r : Retriever) : Enquirer where
  server := r.server
  checksumHeader := r.policy.checksumHeader
  limit := r.policy.limits.enquiry

def courier (r : Retriever) (request : Request) : Courier where
  server := r.server
  observer := r.observerOf request
  limit := r.policy.limits.transfer

/-! ## What is logged on the way -/

def copyText (copy : CachedCopy) : String :=
  "local file: hash: " ++ copy.hash ++ " length: " ++ toString copy.size

def announcedText (a : Announcement) : String :=
  "remote file: hash: " ++ a.hashText?.getD "" ++ " length: " ++ a.lengthText?.getD ""

def unreachableText (e : DownloadError) : String :=
  "metadata probe failed: " ++ CauseLine.ofTexts (e.message :: e.causes)

def keepText (url : Url) : Ground → String
  | .sameDigest => "matched hash of " ++ url.text ++ ", using cached copy"
  | .sameLength =>
      "matched content length of " ++ url.text ++ ", using cached copy without hash verification"
  | .unreachable => "cannot obtain file info of " ++ url.text ++ ", using cached copy"

def purgeText (url : Url) (path : Path) : String :=
  "cached copy of " ++ url.text ++ " is stale, removing " ++ path.text

/-! ## The steps of a retrieval -/

/-- Remove a copy and fetch the artifact anew. -/
def refetch (r : Retriever) (request : Request) (url : Url) (path : Path) (storage : Storage) :
    Run (Path × Provenance) :=
  match storage.files.removeAny path with
  | (.error e, files) => .fail (.file e) { storage with files }
  | (.ok (), files) =>
      ((r.courier request).deliver url path { storage with files }).map fun path =>
        (path, .refetched)

/-- Keep a copy or fetch the artifact anew, as the verdict says. -/
def execute (r : Retriever) (request : Request) (url : Url) (path : Path) (storage : Storage) :
    Verdict → Run (Path × Provenance)
  | .keep ground =>
      { ending := .done (path, .kept ground)
        storage
        notices := [.log (.info (keepText url ground))] }
  | .purge => (r.refetch request url path storage).after {} [.log (.info (purgeText url path))]

def revalidate (r : Retriever) (request : Request) (url : Url) (copy : CachedCopy)
    (storage : Storage) : Run (Path × Provenance) :=
  let (answer, requests) := r.enquirer.enquire url
  let judged (announced : Option Announcement) : Run (Path × Provenance) :=
    r.execute request url copy.path storage (.on copy announced r.policy.strict)
  match answer with
  | .done a => (judged (some a)).after requests [.log (.debug (announcedText a))]
  | .failed e =>
      if e.isUnreachable then (judged none).after requests [.log (.debug (unreachableText e))]
      else { ending := .failed e, storage, requests }
  | .stuck => { ending := .stuck, storage, requests }

def obtain (r : Retriever) (request : Request) (url : Url) (path : Path) (storage : Storage) :
    Run (Path × Provenance) :=
  match storage.files.copyAt? path with
  | .error e => .fail e storage
  | .ok none => ((r.courier request).deliver url path storage).map fun path => (path, .fetched)
  | .ok (some copy) =>
      (r.revalidate request url copy storage).after {} [.log (.debug (copyText copy))]

/-- The URL of a request, and the path of its artifact. -/
def place (request : Request) : Except DownloadError (Url × Path) := do
  let url ← readUrl request.url
  let path ← artifactPath request.cacheDir url
  .ok (url, path)

/-- Make the artifact of a request available, and say where and how. -/
def retrieve (r : Retriever) (request : Request) (storage : Storage) : Run (Path × Provenance) :=
  match place request with
  | .error e => .fail e storage
  | .ok (url, path) => r.obtain request url path storage

end Retriever

end ArtifactCache
