import ArtifactCache.Digest.Sha256
import ArtifactCache.Text

/-!
# Digests and their spellings

A digest is 32 bytes.  Servers publish it as 64 hexadecimal digits of either case, with an
optional scheme `sha256:` before them and blanks around both; every other text is refused.  The
canonical text has lower-case digits only, and is itself a spelling of its digest.
-/

namespace ArtifactCache

/-- The 32 bytes of a SHA-256 digest. -/
structure Digest where
  bytes : List UInt8
  length_bytes : bytes.length = 32
  deriving DecidableEq

namespace Digest

def ofContent (content : List UInt8) : Digest :=
  ⟨Sha256.digest content, Sha256.length_digest content⟩

/-- The canonical spelling: 64 lower-case hexadecimal digits. -/
def chars (d : Digest) : List Char := Text.Hex.encode d.bytes

def text (d : Digest) : String := String.ofList d.chars

instance : ToString Digest := ⟨text⟩

def scheme : List Char := "sha256:".toList

/-- The text after one `sha256:` of any ASCII case, or the whole text if it does not begin so. -/
def dropScheme (s : List Char) : List Char :=
  if (s.take scheme.length).map Char.toLower = scheme then s.drop scheme.length else s

def bareDigits (s : List Char) : List Char := Text.trim (dropScheme (Text.trim s))

def ofBytes? (bytes : List UInt8) : Option Digest :=
  if h : bytes.length = 32 then some ⟨bytes, h⟩ else none

def ofChars? (s : List Char) : Option Digest := (Text.Hex.decode? (bareDigits s)).bind ofBytes?

def ofText? (s : String) : Option Digest := ofChars? s.toList

/-- Both texts spell one digest; a malformed text matches nothing, not even itself. -/
def textsMatch (s t : String) : Bool :=
  match ofText? s, ofText? t with
  | some d, some e => d == e
  | _, _ => false

theorem textsMatch_iff {s t : String} :
    textsMatch s t = true ↔ ∃ d, ofText? s = some d ∧ ofText? t = some d := by
  unfold textsMatch
  cases ofText? s with
  | none => simp
  | some d =>
      cases ofText? t with
      | none => simp
      | some e =>
          simp only [beq_iff_eq, Option.some.injEq]
          exact ⟨fun h => ⟨d, rfl, h.symm⟩, fun ⟨_, hd, he⟩ => hd.trans he.symm⟩

theorem ofBytes?_bytes (d : Digest) : ofBytes? d.bytes = some d := by
  simp [ofBytes?, d.length_bytes]

end Digest

end ArtifactCache
