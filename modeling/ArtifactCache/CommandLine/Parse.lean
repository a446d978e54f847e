import ArtifactCache.Download.Run
import ArtifactCache.Text

/-!
# Reading the arguments

The arguments are read one by one.  An option that takes a value has it behind an equals sign, right
behind its letter, or as the next argument unless that looks like an option itself; its value is
looked at when the next option or the URL is taken up, or at the end.  Behind `--` there are no
options any more.  The cache directory may also come from the environment.
-/

namespace ArtifactCache.CommandLine

/-!
## The options of the command line

The options are switches, or take a value.  Each has a long name and some have a letter.
-/

inductive Switch where
  | progress
  | strictHash
  | verbose
  | help
  | version
  deriving DecidableEq, Repr

inductive ValueOption where
  | cacheDir
  | probeTimeout
  | transferTimeout
  | connectTimeout
  | checksumHeader
  deriving DecidableEq, Repr

inductive NamedOption where
  | switch (s : Switch)
  | value (v : ValueOption)
  deriving DecidableEq, Repr

def longNames : List (String × NamedOption) :=
  [("cache-dir", .value .cacheDir), ("progress", .switch .progress),
    ("probe-timeout", .value .probeTimeout), ("transfer-timeout", .value .transferTimeout),
    ("connect-timeout", .value .connectTimeout), ("strict-hash", .switch .strictHash),
    ("checksum-header", .value .checksumHeader), ("verbose", .switch .verbose),
    ("help", .switch .help), ("version", .switch .version)]

def letters : List (Char × NamedOption) :=
  [('d', .value .cacheDir), ('p', .switch .progress), ('v', .switch .verbose),
    ('h', .switch .help), ('V', .switch .version)]

structure Arguments where
  url : String
  cacheDir : Option Path := none
  progress : Bool := false
  probeTimeout : Option Nat := none
  transferTimeout : Option Nat := none
  connectTimeout : Option Nat := none
  strictHash : Bool := false
  checksumHeader : String := ({} : Policy).checksumHeader
  verbose : Bool := false
  deriving DecidableEq, Repr

/-! ## Reading the arguments -/

inductive UsageError where
  | unknownArgument
  /-- A value is missing or empty. -/
  | invalidValue
  /-- A value is no number of the right size. -/
  | valueValidation
  | missingRequiredArgument
  /-- An option is given twice. -/
  | argumentConflict
  /-- A switch is given a value. -/
  | tooManyValues
  deriving DecidableEq, Repr

def UsageError.message : UsageError → String
  | .unknownArgument => "unexpected argument"
  | .invalidValue => "a value is required for an option"
  | .valueValidation => "invalid value for an option"
  | .missingRequiredArgument => "the URL is missing"
  | .argumentConflict => "an option cannot be used multiple times"
  | .tooManyValues => "an option takes no value"

/-- Why nothing is downloaded. -/
inductive Stop where
  | help
  | version
  | misuse (error : UsageError)
  deriving DecidableEq, Repr

structure Draft where
  url : Option String := none
  cacheDir : Option Path := none
  progress : Bool := false
  probeTimeout : Option Nat := none
  transferTimeout : Option Nat := none
  connectTimeout : Option Nat := none
  strictHash : Bool := false
  checksumHeader : Option String := none
  verbose : Bool := false
  deriving DecidableEq, Repr

namespace Draft

def readSeconds (v : List Char) : Except Stop Nat :=
  match Text.readWord? v with
  | some n => .ok n
  | none => .error (.misuse .valueValidation)

/-- A path is not empty. -/
def readPath (v : List Char) : Except Stop Path :=
  if v.isEmpty then .error (.misuse .invalidValue) else .ok ⟨v⟩

/-- Refuses what is there already. -/
def once {α β : Type} (old : Option α) (next : Except Stop β) : Except Stop β :=
  if old.isSome then .error (.misuse .argumentConflict) else next

def set (d : Draft) (option : ValueOption) (v : List Char) : Except Stop Draft :=
  match option with
  | .cacheDir => once d.cacheDir ((readPath v).map fun p => { d with cacheDir := some p })
  | .probeTimeout =>
      once d.probeTimeout ((readSeconds v).map fun n => { d with probeTimeout := some n })
  | .transferTimeout =>
      once d.transferTimeout ((readSeconds v).map fun n => { d with transferTimeout := some n })
  | .connectTimeout =>
      once d.connectTimeout ((readSeconds v).map fun n => { d with connectTimeout := some n })
  | .checksumHeader =>
      once d.checksumHeader (.ok { d with checksumHeader := some (String.ofList v) })

def turnOn (d : Draft) : Switch → Except Stop Draft
  | .progress =>
      if d.progress then .error (.misuse .argumentConflict) else .ok { d with progress := true }
  | .strictHash =>
      if d.strictHash then .error (.misuse .argumentConflict) else .ok { d with strictHash := true }
  | .verbose =>
      if d.verbose then .error (.misuse .argumentConflict) else .ok { d with verbose := true }
  | .help => .error .help
  | .version => .error .version

/-- The cache directory of the environment counts if the arguments name none. -/
def withEnvironment (d : Draft) (cacheDir : Option String) : Except Stop Draft :=
  match cacheDir with
  | none => .ok d
  | some dir => if d.cacheDir.isSome then .ok d else d.set .cacheDir dir.toList

/-- The arguments that a draft amounts to, which need a URL. -/
def finish (d : Draft) : Except Stop Arguments :=
  match d.url with
  | none => .error (.misuse .missingRequiredArgument)
  | some url =>
      .ok
        { url
          cacheDir := d.cacheDir
          progress := d.progress
          probeTimeout := d.probeTimeout
          transferTimeout := d.transferTimeout
          connectTimeout := d.connectTimeout
          strictHash := d.strictHash
          checksumHeader := d.checksumHeader.getD ({} : Policy).checksumHeader
          verbose := d.verbose }

end Draft

/-- An option whose value is not looked at yet, or not there yet. -/
structure Pending where
  option : ValueOption
  value : Option (List Char)
  deriving DecidableEq, Repr

structure Reader where
  draft : Draft := {}
  pending : Option Pending := none
  /-- Only the URL can follow. -/
  onlyUrl : Bool := false
  deriving DecidableEq, Repr

namespace Reader

/-- Take up the value that is pending. -/
def settle (r : Reader) : Except Stop Reader :=
  match r.pending with
  | none => .ok r
  | some ⟨_, none⟩ => .error (.misuse .invalidValue)
  | some ⟨option, some v⟩ =>
      (r.draft.set option v).map fun d => { r with draft := d, pending := none }

def turnOn (r : Reader) (s : Switch) : Except Stop Reader := do
  let r ← r.settle
  let d ← r.draft.turnOn s
  .ok { r with draft := d }

/-- A value option, with its value if that is attached. -/
def takeOption (r : Reader) (option : ValueOption) (attached : Option (List Char)) :
    Except Stop Reader := do
  let r ← r.settle
  match attached with
  | none => .ok { r with pending := some ⟨option, none⟩ }
  | some v =>
      let d ← r.draft.set option v
      .ok { r with draft := d }

/-- A long name, with what follows the equals sign if there is one. -/
def takeLong (r : Reader) (name : List Char) (attached : Option (List Char)) :
    Except Stop Reader :=
  match longNames.lookup (String.ofList name), attached with
  | none, _ => .error (.misuse .unknownArgument)
  | some (.switch _), some _ => .error (.misuse .tooManyValues)
  | some (.switch s), none => r.turnOn s
  | some (.value option), attached => r.takeOption option attached

/-- What follows a letter as its value; an equals sign in front does not count. -/
def attachedTo : List Char → Option (List Char)
  | [] => none
  | '=' :: v => some v
  | v => some v

/-- Letters behind one hyphen. -/
def takeLetters (r : Reader) : List Char → Except Stop Reader
  | [] => .ok r
  | c :: rest =>
      match letters.lookup c with
      | none => .error (.misuse .unknownArgument)
      | some (.switch s) => do
          let r ← r.turnOn s
          takeLetters r rest
      | some (.value option) => r.takeOption option (attachedTo rest)

/-- An argument that is no option; there is one URL. -/
def takeUrl (r : Reader) (arg : List Char) : Except Stop Reader :=
  if r.draft.url.isSome then .error (.misuse .unknownArgument)
  else do
    let r ← r.settle
    .ok { r with draft := { r.draft with url := some (String.ofList arg) } }

/-- An argument that is no option, but may be the value of one. -/
def takePlain (r : Reader) (arg : List Char) : Except Stop Reader :=
  match r.pending with
  | some ⟨option, none⟩ => .ok { r with pending := some ⟨option, some arg⟩ }
  | _ => r.takeUrl arg

/-- The text before the first equals sign, and the text after it. -/
def splitEquals (s : List Char) : List Char × Option (List Char) :=
  match s.dropWhile (· != '=') with
  | [] => (s, none)
  | _ :: v => (s.takeWhile (· != '='), some v)

def take (r : Reader) (arg : List Char) : Except Stop Reader :=
  if r.onlyUrl then r.takeUrl arg
  else
    match arg with
    | ['-', '-'] => .ok { r with onlyUrl := true }
    | '-' :: '-' :: rest => r.takeLong (splitEquals rest).1 (splitEquals rest).2
    | '-' :: c :: rest => r.takeLetters (c :: rest)
    | arg => r.takePlain arg

def takeAll (r : Reader) : List (List Char) → Except Stop Reader
  | [] => .ok r
  | arg :: rest => do
      let r ← r.take arg
      takeAll r rest

end Reader

/-- The arguments of a run, and the cache directory that the environment names. -/
def parse (args : List String) (cacheDir : Option String) : Except Stop Arguments := do
  let r ← ({} : Reader).takeAll (args.map (·.toList))
  let r ← r.settle
  let d ← r.draft.withEnvironment cacheDir
  d.finish

namespace Arguments

def policy (a : Arguments) : Policy where
  limits :=
    { enquiry := a.probeTimeout.map Duration.ofSeconds
      transfer := a.transferTimeout.map Duration.ofSeconds }
  checksumHeader := a.checksumHeader
  strict := a.strictHash

end Arguments

end ArtifactCache.CommandLine
