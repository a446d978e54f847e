import ArtifactCache.Url.Basic

/-!
# Reading a URL

An absolute URL is read part by part: its scheme up to the first colon, its fragment and query from
their marks on, and in what is left its authority and its path, where the scheme decides how.
Blanks and controls at the ends do not count, nor do tabs and line ends anywhere.
-/

namespace ArtifactCache.Url

/-- How the part behind the scheme is read. -/
inductive SchemeKind where
  /-- A scheme that is known by name and has a host. -/
  | special
  | file
  | other
  deriving DecidableEq, Repr

/-- The schemes with a host that are known by name, and their own ports. -/
def specialPorts : List (List Char × Nat) :=
  [("http".toList, 80), ("https".toList, 443), ("ws".toList, 80), ("wss".toList, 443),
    ("ftp".toList, 21)]

def SchemeKind.ofScheme (scheme : List Char) : SchemeKind :=
  if scheme = "file".toList then .file
  else if (specialPorts.lookup scheme).isSome then .special
  else .other

def SchemeKind.pathStyle : SchemeKind → PathStyle
  | .special => .special
  | .file => .file
  | .other => .other

def isControlOrSpace (c : Char) : Bool := c.toNat ≤ 0x20

def isTabOrLineEnd (c : Char) : Bool := c == '\t' || c == '\n' || c == '\r'

/-- The text without the characters that do not count. -/
def relevant (s : List Char) : List Char :=
  let trimmed := ((s.dropWhile isControlOrSpace).reverse.dropWhile isControlOrSpace).reverse
  trimmed.filter (!isTabOrLineEnd ·)

def isSchemeChar (c : Char) : Bool := c.isAlphanum || c == '+' || c == '-' || c == '.'

/-- The scheme in lower case, and the text behind its colon. -/
def splitScheme? (s : List Char) : Option (List Char × List Char) :=
  let scheme := s.takeWhile isSchemeChar
  match scheme, s.dropWhile isSchemeChar with
  | c :: _, ':' :: rest => if c.isAlpha then some (scheme.map Char.toLower, rest) else none
  | _, _ => none

/-- The text before the first `mark`, and the text after it if there is one. -/
def splitAtMark (mark : Char) (s : List Char) : List Char × Option (List Char) :=
  match s.dropWhile (· != mark) with
  | [] => (s, none)
  | _ :: rest => (s.takeWhile (· != mark), some rest)

/-- What the scheme is followed by: the text before query and fragment, and those in their encoded
forms. -/
structure Body where
  text : List Char
  query : Option (List Char)
  fragment : Option (List Char)

def Body.ofText (kind : SchemeKind) (s : List Char) : Body :=
  let (front, fragment) := splitAtMark '#' s
  let (text, query) := splitAtMark '?' front
  let querySet := if kind = .other then EncodeSet.query else EncodeSet.specialQuery
  { text
    query := query.map (percentEncode querySet)
    fragment := fragment.map (percentEncode .fragment) }

/-- Whether anything follows the text. -/
def Body.hasMore (b : Body) : Bool := b.query.isSome || b.fragment.isSome

/-! ## Authority -/

/-- The text before the last `@`, and the text after it. -/
def splitUserinfo (s : List Char) : Option (List Char × List Char) :=
  match s.reverse.dropWhile (· != '@') with
  | [] => none
  | _ :: front => some (front.reverse, (s.reverse.takeWhile (· != '@')).reverse)

/-- A username and a password, which is absent when it would be empty. -/
def readUserinfo (s : List Char) : List Char × Option (List Char) :=
  let (username, password) := splitAtMark ':' s
  (percentEncode .userinfo username,
    (password.filter (!·.isEmpty)).map (percentEncode .userinfo))

/-- The text before the first colon outside of brackets, and the rest. -/
def splitPort (inside : Bool) : List Char → List Char × List Char
  | [] => ([], [])
  | c :: rest =>
      if c = ':' ∧ !inside then ([], c :: rest)
      else
        let inside := if c = '[' then true else if c = ']' then false else inside
        let (host, port) := splitPort inside rest
        (c :: host, port)

/-- A port below 65536, and what follows it; only a backslash may follow. -/
def readPort (s : List Char) : Except ParseError (Option Nat × List Char) :=
  let digits := s.takeWhile Text.isDigit
  let rest := s.dropWhile Text.isDigit
  if 65536 ≤ Text.digitsValue digits then .error .invalidPort
  else
    match rest with
    | [] | '\\' :: _ => .ok (if digits.isEmpty then none else some (Text.digitsValue digits), rest)
    | _ => .error .invalidPort

/-- A host with the parts around it, and the text that follows. -/
structure Authority where
  username : List Char
  password : Option (List Char)
  host : Host
  port : Option Nat
  rest : List Char

/-- A host that is not empty, unless the scheme allows that and nothing else stands beside it. -/
def readHost (kind : SchemeKind) (s port : List Char) (hasUser : Bool) :
    Except ParseError Host := do
  if kind = .other then
    let host ← Host.parseVerbatim s
    if s.isEmpty && (hasUser || !port.isEmpty) then .error .emptyHost else .ok host
  else if s.isEmpty then .error .emptyHost
  else Host.parse s

/-- The authority of a URL with this scheme; `follows` says that something comes behind it. -/
def readAuthority (kind : SchemeKind) (scheme s : List Char) (follows : Bool) :
    Except ParseError Authority := do
  let (user, hostPort) := (splitUserinfo s).getD ([], s)
  if (splitUserinfo s).isSome && user.isEmpty && hostPort.isEmpty && follows then
    .error .emptyHost
  else
    let (username, password) := readUserinfo user
    let (hostText, portText) := splitPort false hostPort
    let host ← readHost kind hostText portText (!username.isEmpty || password.isSome)
    let (port, rest) ← readPort (portText.drop 1)
    .ok { username, password, host, rest,
          port := port.filter fun n => specialPorts.lookup scheme != some n }

/-! ## The three kinds of URL -/

/-- The segments behind an authority, from a text that is empty or begins with a slash. -/
def readPathAfter (kind : SchemeKind) (s : List Char) : List (List Char) :=
  match kind, s with
  | .other, [] => []
  | _, [] => readSegments kind.pathStyle []
  | _, c :: rest =>
      readSegments kind.pathStyle (if kind.pathStyle.isSlash c then rest else c :: rest)

def readWithAuthority (kind : SchemeKind) (scheme s : List Char) (b : Body) :
    Except ParseError Url := do
  let authority := s.takeWhile (!kind.pathStyle.isSlash ·)
  let path := s.dropWhile (!kind.pathStyle.isSlash ·)
  let a ← readAuthority kind scheme authority (!path.isEmpty || b.hasMore)
  .ok { scheme
        username := a.username
        password := a.password
        host := some a.host
        port := a.port
        path := .segments (readPathAfter kind (a.rest ++ path))
        query := b.query
        fragment := b.fragment }

def readOther (scheme : List Char) (b : Body) : Except ParseError Url :=
  match b.text with
  | '/' :: '/' :: rest => readWithAuthority .other scheme rest b
  | '/' :: rest =>
      .ok { scheme, path := .segments (readSegments .other rest), query := b.query,
            fragment := b.fragment }
  | text =>
      .ok { scheme, path := .text (percentEncode .controls text), query := b.query,
            fragment := b.fragment }

/-- The host of a file URL, if it is not this machine. -/
def readFileHost (s : List Char) : Except ParseError (Option Host) :=
  if s.isEmpty then .ok none
  else (Host.parse s).map fun host => if host = .domain "localhost".toList then none else some host

def fileUrl (host : Host) (segments : List (List Char)) (b : Body) : Url :=
  { scheme := "file".toList
    host := some host
    path := .segments (dropEmptyRoots segments)
    query := b.query
    fragment := b.fragment }

/-- A file URL behind two slashes. -/
def readFileAuthority (s : List Char) (b : Body) : Except ParseError Url := do
  let hostText := s.takeWhile (!PathStyle.file.isSlash ·)
  let path := s.dropWhile (!PathStyle.file.isSlash ·)
  if isDriveLetter hostText then .ok (fileUrl (.verbatim []) (readSegments .file s) b)
  else
    match ← readFileHost hostText with
    | none => .ok (fileUrl (.verbatim []) (readSegments .file path) b)
    | some host =>
        let host :=
          if rootDrive .file [] (pathParts .file (path.drop 1)) then .verbatim [] else host
        .ok (fileUrl host (readSegments .file (path.drop 1)) b)

def readFile (b : Body) : Except ParseError Url :=
  let isSlash := PathStyle.file.isSlash
  match b.text with
  | [] => .ok (fileUrl (.verbatim []) (readSegments .file []) b)
  | [c] => .ok (fileUrl (.verbatim []) (readSegments .file (if isSlash c then [] else [c])) b)
  | c :: d :: rest =>
      if isSlash c && isSlash d then readFileAuthority rest b
      else if isSlash c then .ok (fileUrl (.verbatim []) (readSegments .file (d :: rest)) b)
      else .ok (fileUrl (.verbatim []) (readSegments .file (c :: d :: rest)) b)

def parseChars (s : List Char) : Except ParseError Url :=
  match splitScheme? (relevant s) with
  | none => .error .relativeWithoutBase
  | some (scheme, rest) =>
      let kind := SchemeKind.ofScheme scheme
      let b := Body.ofText kind rest
      match kind with
      | .special =>
          readWithAuthority .special scheme (b.text.dropWhile PathStyle.special.isSlash) b
      | .file => readFile b
      | .other => readOther scheme b

def parse (s : String) : Except ParseError Url := parseChars s.toList

end ArtifactCache.Url
