import ArtifactCache.Cache
import ArtifactCache.Download.Run
import ArtifactCache.Http.Server
import ArtifactCache.Log

/-!
# Asking about an artifact and getting it

The two requests that a server gets, each within its limit.
-/

namespace ArtifactCache

/-!
## Asking about an artifact

One request for the headers, within its limit.  Any status is as good as another.
-/

structure Enquirer where
  server : Server
  checksumHeader : String := Announcement.checksumHeader
  limit : Option Duration := none

namespace Enquirer

def ask (e : Enquirer) (url : Url) : Ending Announcement :=
  match (e.server.head url).resolve e.limit 0 with
  | .answered _ (.ok answer) => .done (.ofAnswer e.checksumHeader answer)
  | .answered _ (.error causes) => .failed (.enquiry url.text (CauseLine.ofTexts causes))
  | .expired limit => .failed (.timeout url.text .enquiry limit)
  | .stuck => .stuck

/-- Ask about an artifact, unless its URL is not one of HTTP. -/
def enquire (e : Enquirer) (url : Url) : Ending Announcement × Requests :=
  match requireHttp url with
  | .error error => (.failed error, {})
  | .ok () => (e.ask url, { heads := 1 })

end Enquirer

/-!
## Getting an artifact

One request for the body, whose pieces are written to a replacement as they arrive.  When the body
has ended the replacement takes its place; if anything goes wrong before, or nothing comes any more,
it is given up and the destination is left alone.  One limit covers all of the waiting.
-/

structure Courier where
  server : Server
  /-- Who hears about progress. -/
  observer : Option Observer := none
  /-- The limit from the request to the end of the body. -/
  limit : Option Duration := none

/-- What a transfer into a replacement leaves behind; the value is the number of bytes. -/
structure Transfer where
  ending : Ending Nat
  files : FileSystem
  notices : List Notice := []

def Transfer.after (notices : List Notice) (t : Transfer) : Transfer :=
  { t with notices := notices ++ t.notices }

structure Arrival where
  url : String
  limit : Option Duration
  replacement : Replacement
  began : Nat
  bodyEnd : Wait Unit

namespace Arrival

def elapsed (a : Arrival) (now : Nat) : Duration := .ofMillis (now - a.began)

/-- What the observer hears when something goes by, if there is one. -/
def notice (a : Arrival) (now : Nat) (seen : Polled) :
    Option Meter → List Notice × Option Meter
  | none => ([], none)
  | some meter =>
      let (events, meter) := meter.pass (a.elapsed now) seen
      (events.map (.progress (.ofMillis now)), some meter)

/-- What the observer hears when the body is given up, if there is one. -/
def giveUp (a : Arrival) (now : Nat) : Option Meter → List Notice
  | none => []
  | some meter => (meter.drop (a.elapsed now)).map (.progress (.ofMillis now))

/-- A body that the limit cuts off. -/
def expire (a : Arrival) (limit : Duration) (meter : Option Meter) (files : FileSystem) :
    Transfer where
  ending := .failed (.timeout a.url .transfer limit)
  files
  notices := a.giveUp limit.deadline meter

/-- A body that is waited for in vain, until the whole run is given up. -/
def hang (a : Arrival) (now : Nat) (meter : Option Meter) (files : FileSystem) : Transfer where
  ending := .stuck
  files
  notices := a.giveUp now meter

/-- Write the pieces of a body as they come, until it ends or breaks off. -/
def receive (a : Arrival) (now written : Nat) (meter : Option Meter) (files : FileSystem) :
    List (Wait Chunk) → Transfer
  | [] =>
      match a.bodyEnd.resolve a.limit now with
      | .answered now () =>
          { ending := .done written, files, notices := (a.notice now .ended meter).1 }
      | .expired limit => a.expire limit meter files
      | .stuck => a.hang now meter files
  | chunk :: rest =>
      match chunk.resolve a.limit now with
      | .answered now (.ok bytes) =>
          let (notices, meter) := a.notice now (.data bytes) meter
          (receive a now (written + bytes.length) meter (a.replacement.write files bytes)
            rest).after notices
      | .answered now (.error causes) =>
          { ending := .failed (.transfer a.url (CauseLine.ofTexts causes))
            files
            notices := (a.notice now (.failure causes) meter).1 }
      | .expired limit => a.expire limit meter files
      | .stuck => a.hang now meter files

end Arrival

namespace Courier

/-- The body of an answer on its way into a replacement. -/
def arrival (c : Courier) (url : Url) (replacement : Replacement) (now : Nat)
    (answer : GetAnswer) : Arrival where
  url := url.text
  limit := c.limit
  replacement
  began := now
  bodyEnd := answer.bodyEnd

/-- The body of an answer, and the news that it begins. -/
def accept (c : Courier) (url : Url) (replacement : Replacement) (files : FileSystem) (now : Nat)
    (answer : GetAnswer) : Transfer :=
  let arrival := c.arrival url replacement now answer
  match c.observer with
  | none => arrival.receive now 0 none files answer.body
  | some _ =>
      let (event, meter) := Meter.start url.text answer.contentLength
      (arrival.receive now 0 (some meter) files answer.body).after
        [.progress (.ofMillis now) event]

/-- The request for a body, and the transfer of the body if there is one. -/
def transfer (c : Courier) (url : Url) (replacement : Replacement) (files : FileSystem) :
    Transfer :=
  match (c.server.get url).resolve c.limit 0 with
  | .answered now (.ok answer) =>
      if answer.isSuccess then c.accept url replacement files now answer
      else { ending := .failed (.status url.text answer.status answer.reason), files }
  | .answered _ (.error causes) =>
      { ending := .failed (.request url.text (CauseLine.ofTexts causes)), files }
  | .expired limit => { ending := .failed (.timeout url.text .transfer limit), files }
  | .stuck => { ending := .stuck, files }

def startText (url : Url) : String := "downloading " ++ url.text

def storedText (url : Url) (bytes : Nat) (path : Path) : String :=
  "stored " ++ toString bytes ++ " bytes of " ++ url.text ++ " at " ++ path.text

/-- What becomes of a replacement after the transfer into it. -/
def settle (url : Url) (replacement : Replacement) (storage : Storage) (t : Transfer) : Run Path :=
  match t.ending with
  | .done written =>
      match replacement.commit t.files with
      | (.ok path, files) =>
          { ending := .done path
            storage := { storage with files }
            notices := t.notices ++ [.log (.debug (storedText url written path))] }
      | (.error e, files) =>
          { ending := .failed (.file e), storage := { storage with files }, notices := t.notices }
  | .failed e =>
      { ending := .failed e
        storage := { storage with files := replacement.discard t.files }
        notices := t.notices }
  | .stuck =>
      { ending := .stuck
        storage := { storage with files := replacement.discard t.files }
        notices := t.notices }

/-- Get the artifact behind a URL and put it at a path. -/
def deliver (c : Courier) (url : Url) (destination : Path) (storage : Storage) : Run Path :=
  match requireHttp url with
  | .error e => .fail e storage
  | .ok () =>
      match Replacement.create storage destination with
      | (.error e, storage) => .fail (.file e) storage
      | (.ok replacement, storage) =>
          (settle url replacement storage (c.transfer url replacement storage.files)).after
            { gets := 1 } [.log (.info (startText url))]

end Courier

end ArtifactCache
