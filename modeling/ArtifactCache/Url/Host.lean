import ArtifactCache.Idna.Basic
import ArtifactCache.Text

/-!
# Hosts

What stands between a scheme and a path: a domain name or an address, or a text that is taken as it
is.
-/

namespace ArtifactCache.Url

/-! ## Why a text is no URL -/

inductive ParseError where
  | emptyHost
  | invalidDomain
  | invalidPort
  | invalidIpv4
  | invalidIpv6
  | invalidHostCharacter
  | relativeWithoutBase
  deriving DecidableEq, Repr

def ParseError.message : ParseError → String
  | .emptyHost => "empty host"
  | .invalidDomain => "invalid international domain name"
  | .invalidPort => "invalid port number"
  | .invalidIpv4 => "invalid IPv4 address"
  | .invalidIpv6 => "invalid IPv6 address"
  | .invalidHostCharacter => "invalid domain character"
  | .relativeWithoutBase => "relative URL without a base"

/-!
## Percent-encoding

Each part of a URL has its own set of ASCII characters that may not stand in it.  Those, and all
characters beyond ASCII, are written as `%` and two hexadecimal digits for each byte of their UTF-8
form; what is encoded already stays as it is.
-/

/-- A set of ASCII characters that have to be encoded. -/
abbrev EncodeSet := Char → Bool

namespace EncodeSet

def controls : EncodeSet := fun c => c.toNat < 0x20 || c.toNat == 0x7F

def fragment : EncodeSet := fun c => controls c || " \"<>`".toList.contains c

def path : EncodeSet := fun c => fragment c || "#?\x7b\x7d".toList.contains c

def userinfo : EncodeSet := fun c => path c || "/:;=@[\\]^|".toList.contains c

def query : EncodeSet := fun c => controls c || " \"#<>".toList.contains c

/-- The set for the query of a scheme that is known by name. -/
def specialQuery : EncodeSet := fun c => query c || c == '\''

end EncodeSet

def upperHexDigit (n : Nat) : Char := if n < 10 then Char.ofNat (48 + n) else Char.ofNat (55 + n)

def encodedByte (b : UInt8) : List Char :=
  ['%', upperHexDigit (b.toNat / 16), upperHexDigit (b.toNat % 16)]

def encodedChar (c : Char) : List Char := (String.utf8EncodeChar c).flatMap encodedByte

/-- The text with every character of the set, and all beyond ASCII, encoded. -/
def percentEncode (set : EncodeSet) (s : List Char) : List Char :=
  s.flatMap fun c => if set c || 128 ≤ c.toNat then encodedChar c else [c]

/-- The bytes that a text stands for; a `%` without two hexadecimal digits stands for itself. -/
def percentDecode : List Char → List UInt8
  | [] => []
  | '%' :: hi :: lo :: rest =>
      match Text.Hex.value? hi, Text.Hex.value? lo with
      | some h, some l => UInt8.ofNat (16 * h + l) :: percentDecode rest
      | _, _ => String.utf8EncodeChar '%' ++ percentDecode (hi :: lo :: rest)
  | c :: rest => String.utf8EncodeChar c ++ percentDecode rest
  termination_by s => s.length

/-- The text that is left when everything is decoded, unless that is not UTF-8. -/
def percentDecodeText? (s : List Char) : Option (List Char) :=
  if s.contains '%' then (String.fromUTF8? ⟨(percentDecode s).toArray⟩).map (·.toList) else some s

/-!
## IPv4 addresses

A host whose last label is a number is an address of one to four numbers, each decimal, octal or
hexadecimal; the last one fills all the bytes that the others leave.  An address is printed as four
decimal bytes.
-/

structure Ipv4 where
  value : Nat
  value_lt : value < UInt32.size
  deriving DecidableEq, Repr

namespace Ipv4

def isOctalDigit (c : Char) : Bool := '0' ≤ c && c ≤ '7'

def digitsValue (base : Nat) (s : List Char) : Nat :=
  s.foldl (fun n c => base * n + (Text.Hex.value? c).getD 0) 0

/-- The value of a number with the prefix `0x` or `0`, or in decimal; a prefix alone is zero. -/
def number? (s : List Char) : Option Nat :=
  match s with
  | [] => none
  | '0' :: 'x' :: digits | '0' :: 'X' :: digits =>
      if digits.all Text.Hex.isDigit then some (digitsValue 16 digits) else none
  | '0' :: d :: digits =>
      if (d :: digits).all isOctalDigit then some (digitsValue 8 (d :: digits)) else none
  | digits => if digits.all Text.isDigit then some (digitsValue 10 digits) else none

/-- The labels of a name; one empty label at the end does not count. -/
def labels (name : List Char) : List (List Char) :=
  let parts := name.splitOn '.'
  if parts.length > 1 && parts.getLast? == some [] then parts.dropLast else parts

/-- Whether a name has to be an address. -/
def endsInNumber (name : List Char) : Bool :=
  match (labels name).getLast? with
  | none => false
  | some last => (!last.isEmpty && last.all Text.isDigit) || (number? last).isSome

/-- The number with these bytes, the last entry filling what is left. -/
def combine? : Nat → List Nat → Option Nat
  | _, [] => none
  | room, [last] => if last < Nat.pow 256 room then some last else none
  | room, n :: rest =>
      if n < 256 then (combine? (room - 1) rest).map (n * Nat.pow 256 (room - 1) + ·) else none

def ofValue? (n : Nat) : Option Ipv4 := if h : n < UInt32.size then some ⟨n, h⟩ else none

def parse (name : List Char) : Except ParseError Ipv4 :=
  let parts := labels name
  let address := do
    let numbers ← parts.mapM number?
    let value ← if parts.length ≤ 4 then combine? 4 numbers else none
    ofValue? value
  match address with
  | some a => .ok a
  | none => .error .invalidIpv4

def bytes (a : Ipv4) : List Nat :=
  [a.value >>> 24, (a.value >>> 16) % 256, (a.value >>> 8) % 256, a.value % 256]

def chars (a : Ipv4) : List Char := ['.'].intercalate (a.bytes.map fun n => (toString n).toList)

end Ipv4

/-!
## IPv6 addresses

Eight groups of up to four hexadecimal digits; `::` stands for at least one group of zeros, and the
last two groups may be written as an IPv4 address.  An address is printed with the first longest
run of two or more zero groups as `::`.
-/

/-- An address of eight 16-bit groups. -/
structure Ipv6 where
  groups : List Nat
  length_groups : groups.length = 8
  deriving DecidableEq, Repr

namespace Ipv6

/-- A group of one to four hexadecimal digits. -/
def group? (s : List Char) : Option Nat :=
  if !s.isEmpty && s.length ≤ 4 && s.all Text.Hex.isDigit then
    some (s.foldl (fun n c => 16 * n + (Text.Hex.value? c).getD 0) 0)
  else none

def byte? (s : List Char) : Option Nat :=
  if s.head? == some '0' && s.length > 1 then none
  else (Text.readDigits? s).filter (· < 256)

/-- The two groups that are written as an IPv4 address. -/
def dotted? (s : List Char) : Option (List Nat) :=
  match (s.splitOn '.').mapM byte? with
  | some [a, b, c, d] => some [256 * a + b, 256 * c + d]
  | _ => none

/-- Groups between colons; the last may be dotted if `ending` says that the address ends here. -/
def groups? (ending : Bool) : List (List Char) → Option (List Nat)
  | [] => some []
  | [last] => if ending && last.contains '.' then dotted? last else (group? last).map ([·])
  | part :: rest => do
      let n ← group? part
      let ns ← groups? ending rest
      some (n :: ns)

/-- The groups of one side of `::`. -/
def side? (ending : Bool) (s : List Char) : Option (List Nat) :=
  if s.isEmpty then some [] else groups? ending (s.splitOn ':')

/-- The text before the first `::` and the text after it. -/
def splitGap : List Char → Option (List Char × List Char)
  | ':' :: ':' :: rest => some ([], rest)
  | c :: rest => (splitGap rest).map fun (before, after) => (c :: before, after)
  | [] => none

def ofGroups? (groups : List Nat) : Option Ipv6 :=
  if h : groups.length = 8 then some ⟨groups, h⟩ else none

def parse? (s : List Char) : Option Ipv6 :=
  match splitGap s with
  | none => (side? true s).bind ofGroups?
  | some (before, after) => do
      let left ← side? false before
      let right ← side? true after
      if left.length + right.length ≤ 7 then
        ofGroups? (left ++ List.replicate (8 - (left.length + right.length)) 0 ++ right)
      else none

def parse (s : List Char) : Except ParseError Ipv6 :=
  match parse? s with
  | some a => .ok a
  | none => .error .invalidIpv6

/-- The number of zeros that a list begins with. -/
def zeros (ns : List Nat) : Nat := (ns.takeWhile (· == 0)).length

/-- The place and the length of the first longest run of zeros, counting places from `i`. -/
def longestZeros (i : Nat) : List Nat → Nat × Nat
  | [] => (i, 0)
  | n :: rest =>
      let (place, length) := longestZeros (i + 1) rest
      if zeros (n :: rest) ≥ length then (i, zeros (n :: rest)) else (place, length)

def groupChars (n : Nat) : List Char := Nat.toDigits 16 n

def joined (groups : List Nat) : List Char := [':'].intercalate (groups.map groupChars)

def chars (a : Ipv6) : List Char :=
  let (place, length) := longestZeros 0 a.groups
  let inner :=
    if length < 2 then joined a.groups
    else joined (a.groups.take place) ++ [':', ':'] ++ joined (a.groups.drop (place + length))
  '[' :: inner ++ [']']

end Ipv6

/-!
## Hosts by their scheme

A scheme that is known by name has a host that is a domain name or an address; any other scheme has
a host that is taken as it is, or an IPv6 address.
-/

inductive Host where
  | domain (name : List Char)
  | ipv4 (address : Ipv4)
  | ipv6 (address : Ipv6)
  /-- A host of a scheme that is not known by name; it may be empty. -/
  | verbatim (text : List Char)
  deriving DecidableEq, Repr

namespace Host

def chars : Host → List Char
  | .domain name => name
  | .ipv4 address => address.chars
  | .ipv6 address => address.chars
  | .verbatim text => text

/-- An address between square brackets. -/
def parseBracketed (s : List Char) : Except ParseError Host :=
  if s.getLast? = some ']' then (Ipv6.parse (s.drop 1).dropLast).map .ipv6 else .error .invalidIpv6

/-- A domain name or an address. -/
def parse (s : List Char) : Except ParseError Host :=
  if s.head? = some '[' then parseBracketed s
  else
    match (percentDecodeText? s).bind Idna.toAscii? with
    | none => .error .invalidDomain
    | some name =>
        if name.isEmpty then .error .emptyHost
        else if Ipv4.endsInNumber name then (Ipv4.parse name).map .ipv4
        else .ok (.domain name)

/-- Characters that no host has when it is taken as it is. -/
def isRefused (c : Char) : Bool :=
  c.toNat == 0 || c == '\t' || c == '\n' || c == '\r' || " #/:<>?@[\\]^|".toList.contains c

/-- A host that is taken as it is, or an address between square brackets. -/
def parseVerbatim (s : List Char) : Except ParseError Host :=
  if s.head? = some '[' then parseBracketed s
  else if s.any isRefused then .error .invalidHostCharacter
  else .ok (.verbatim (percentEncode .controls s))

end Host

end ArtifactCache.Url
