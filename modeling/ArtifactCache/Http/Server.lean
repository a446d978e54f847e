import ArtifactCache.Digest.Basic
import ArtifactCache.Duration
import ArtifactCache.Text
import ArtifactCache.Url.Basic

/-!
# Servers

How a server is asked, and what its headers say about an artifact.
-/

namespace ArtifactCache

/-!
## Asking a server

A server is asked about an artifact (`HEAD`) or for it (`GET`).  An answer has a status and headers,
or a status and a body that arrives piece by piece; instead of an answer or of a piece there can be
a failure, which is a chain of causes.  Header names do not distinguish letter case.
-/

/-- The texts of a failure and its causes, outermost first. -/
abbrev Causes := List String

/-- A header name in the form in which it is stored. -/
def headerKey (name : String) : String := String.ofList (name.toList.map Char.toLower)

structure HeadAnswer where
  status : Nat
  /-- Names and values, in the order in which they came. -/
  headers : List (String × String) := []
  deriving DecidableEq, Repr

namespace HeadAnswer

def addHeader (a : HeadAnswer) (name value : String) : HeadAnswer :=
  { a with headers := a.headers ++ [(headerKey name, value)] }

def ofHeaders (status : Nat) (headers : List (String × String)) : HeadAnswer :=
  headers.foldl (fun a header => a.addHeader header.1 header.2) { status }

def header? (a : HeadAnswer) (name : String) : Option String :=
  (a.headers.find? fun header => headerKey header.1 == headerKey name).map (·.2)

end HeadAnswer

/-- A piece of a body, or the failure that takes its place. -/
abbrev Chunk := Except Causes (List UInt8)

structure GetAnswer where
  status : Nat
  reason : String
  /-- The size of the body that the server gave beforehand. -/
  contentLength : Option Nat
  body : List (Wait Chunk)
  /-- How long it takes after the last piece until the body ends. -/
  bodyEnd : Wait Unit := .now ()

def GetAnswer.isSuccess (a : GetAnswer) : Bool := 200 ≤ a.status && a.status < 300

structure Server where
  head : Url → Wait (Except Causes HeadAnswer)
  get : Url → Wait (Except Causes GetAnswer)

/-- A server whose answer is the same failure whatever it is asked. -/
def Server.failing (causes : Causes) : Server where
  head _ := .now (.error causes)
  get _ := .now (.error causes)

structure Requests where
  heads : Nat := 0
  gets : Nat := 0
  deriving DecidableEq, Repr

/-!
## What a server says about an artifact

Two headers count: one with a digest, whose name can be chosen, and the one with the length.  Either
may be missing, and what is malformed counts for nothing.
-/

/-- What a server says about an artifact. -/
structure Announcement where
  digest? : Option Digest := none
  /-- The length as the server wrote it, without blanks around; it is not empty. -/
  length? : Option (List Char) := none
  deriving DecidableEq

namespace Announcement

/-- The announcement with these values of the two headers.  A digest that is malformed counts as
missing, and so does a blank length. -/
def ofValues (hash length : Option String) : Announcement where
  digest? := hash.bind Digest.ofText?
  length? := (length.map fun s => Text.trim s.toList).filter (!·.isEmpty)

def hashText? (a : Announcement) : Option String := a.digest?.map (·.text)

def lengthText? (a : Announcement) : Option String := a.length?.map String.ofList

/-- The length as a number, if it is the numeral of a 64-bit word. -/
def lengthBytes? (a : Announcement) : Option Nat := a.length?.bind Text.readWord?

/-- The name of the header with the length. -/
def lengthHeader : String := "Content-Length"

/-- The name of the header with the digest, unless another one is chosen. -/
def checksumHeader : String := "X-Checksum-Sha256"

/-- The announcement in an answer. -/
def ofAnswer (checksumHeader : String) (answer : HeadAnswer) : Announcement :=
  ofValues (answer.header? checksumHeader) (answer.header? lengthHeader)

end Announcement

end ArtifactCache
