import ArtifactCache.Http.Server

/-!
# A scripted server

A server that is told beforehand how to answer for each URL.  It keeps a route for every URL that an
instruction was about, with one reply for each kind of request: some instructions replace the whole
route, others one reply of it.  Whatever no instruction is about cannot be reached.  The server
counts the requests that it gets.
-/

namespace ArtifactCache

namespace Scripted

inductive HeadReply where
  | respond (answer : HeadAnswer)
  | fail (reason : String)
  | hang
  deriving DecidableEq, Repr

inductive GetReply where
  /-- The whole content, in pieces. -/
  | content (bytes : List UInt8)
  | status (code : Nat)
  /-- The beginning of a body, and then a failure. -/
  | broken (beginning : List UInt8)
  | fail (reason : String)
  | hang
  deriving DecidableEq, Repr

/-- How the two kinds of requests for a URL are answered. -/
structure Route where
  head : HeadReply
  get : GetReply
  deriving DecidableEq, Repr

inductive Instruction where
  | serve (url : String) (content : List UInt8)
  /-- As `serve`, with the digest of the content among the headers. -/
  | serveWithDigest (url : String) (content : List UInt8)
  | announce (url : String) (answer : HeadAnswer)
  | refuseHead (url : String)
  | status (url : String) (code : Nat)
  /-- The beginning of a body, and then a failure. -/
  | breakOff (url : String) (beginning : List UInt8)
  | refuseGet (url : String)
  | neverAnswer (url : String)
  deriving DecidableEq, Repr

def lengthOf (content : List UInt8) : String × String :=
  (Announcement.lengthHeader, toString content.length)

def digestOf (content : List UInt8) : String × String :=
  (Announcement.checksumHeader, (Digest.ofContent content).text)

/-! ## Routes -/

/-- A server and the requests that it has got. -/
structure Client where
  /-- The routes, the last one given for a URL first. -/
  routes : List (String × Route) := []
  requests : Requests := {}
  deriving DecidableEq, Repr

namespace Client

def noRoute : String := "no route to host"

def put (c : Client) (url : String) (route : Route) : Client :=
  { c with routes := (url, route) :: c.routes }

/-- Change the route for a URL, which is one to nowhere if there was none. -/
def change (c : Client) (url : String) (f : Route → Route) : Client :=
  c.put url (f ((c.routes.lookup url).getD ⟨.fail noRoute, .fail noRoute⟩))

def follow (c : Client) : Instruction → Client
  | .serve url content =>
      c.put url ⟨.respond (.ofHeaders 200 [lengthOf content]), .content content⟩
  | .serveWithDigest url content =>
      c.put url
        ⟨.respond (.ofHeaders 200 [digestOf content, lengthOf content]), .content content⟩
  | .announce url answer => c.change url fun route => { route with head := .respond answer }
  | .refuseHead url => c.change url fun route => { route with head := .fail "connection refused" }
  | .status url code => c.change url fun _ => ⟨.respond { status := code }, .status code⟩
  | .breakOff url beginning => c.change url fun route => { route with get := .broken beginning }
  | .refuseGet url => c.change url fun route => { route with get := .fail "connection refused" }
  | .neverAnswer url => c.change url fun _ => ⟨.hang, .hang⟩

end Client

/-! ## Answers -/

def failed {α : Type} (reason : String) : Wait (Except Causes α) := .now (.error [reason])

def answered {α : Type} (answer : α) : Wait (Except Causes α) := .now (.ok answer)

/-- The number of bytes in a piece of a body, except for the last. -/
def pieceSize : Nat := 4

def pieces (content : List UInt8) : List (List UInt8) :=
  if _h : content = [] then []
  else content.take pieceSize :: pieces (content.drop pieceSize)
  termination_by content.length
  decreasing_by
    have := List.length_pos_iff.2 _h
    simp only [List.length_drop, pieceSize]
    omega

def whole (content : List UInt8) : GetAnswer where
  status := 200
  reason := "OK"
  contentLength := some content.length
  body := (pieces content).map answered

def cutShort (beginning : List UInt8) : GetAnswer where
  status := 200
  reason := "OK"
  contentLength := none
  body := [answered beginning, failed "connection reset by peer"]

def bare (code : Nat) : GetAnswer where
  status := code
  reason := ""
  contentLength := some 0
  body := []

def HeadReply.wait : HeadReply → Wait (Except Causes HeadAnswer)
  | .respond answer => answered answer
  | .fail reason => failed reason
  | .hang => .never

def GetReply.wait : GetReply → Wait (Except Causes GetAnswer)
  | .content bytes => answered (whole bytes)
  | .status code => answered (bare code)
  | .broken beginning => answered (cutShort beginning)
  | .fail reason => failed reason
  | .hang => .never

namespace Client

/-- Ask about a URL; the request counts whatever comes of it. -/
def head (c : Client) (url : Url) : Wait (Except Causes HeadAnswer) × Client :=
  let reply := match c.routes.lookup url.text with
    | some route => route.head
    | none => .fail noRoute
  (reply.wait, { c with requests := { c.requests with heads := c.requests.heads + 1 } })

def get (c : Client) (url : Url) : Wait (Except Causes GetAnswer) × Client :=
  let reply := match c.routes.lookup url.text with
    | some route => route.get
    | none => .fail noRoute
  (reply.wait, { c with requests := { c.requests with gets := c.requests.gets + 1 } })

end Client

/-- The server that has followed all instructions. -/
def server (script : List Instruction) : Server :=
  let c := script.foldl Client.follow {}
  { head := fun url => (c.head url).1, get := fun url => (c.get url).1 }

end Scripted

end ArtifactCache
