/-!
# Input and output errors

An error of reading or writing is a code of the operating system, or a kind with or without a text
of its own.  Only two questions about it matter to the rest: whether it says that nothing is there,
and whether it says that the call was interrupted.
-/

namespace ArtifactCache

/-- The kinds of error that need no code of the operating system. -/
inductive IoKind where
  | notFound
  | permissionDenied
  | unexpectedEnd
  | interrupted
  | connectionReset
  | invalidInput
  | other
  deriving DecidableEq, Repr

def IoKind.text : IoKind → String
  | .notFound => "entity not found"
  | .permissionDenied => "permission denied"
  | .unexpectedEnd => "unexpected end of file"
  | .interrupted => "operation interrupted"
  | .connectionReset => "connection reset"
  | .invalidInput => "invalid input parameter"
  | .other => "other error"

inductive IoError where
  | os (code : Nat)
  /-- A kind without a text of its own. -/
  | plain (kind : IoKind)
  /-- A kind and the text to show for it. -/
  | custom (kind : IoKind) (text : String)
  deriving DecidableEq, Repr

namespace IoError

/-- The texts of the operating system's codes, from zero on; a code without a text has none here. -/
def osTexts : List String :=
     ["Success", "Operation not permitted", "No such file or directory", "No such process",
      "Interrupted system call", "Input/output error", "No such device or address",
      "Argument list too long", "Exec format error", "Bad file descriptor", "No child processes",
      "Resource temporarily unavailable", "Cannot allocate memory", "Permission denied",
      "Bad address", "Block device required", "Device or resource busy", "File exists",
      "Invalid cross-device link", "No such device", "Not a directory", "Is a directory",
      "Invalid argument", "Too many open files in system", "Too many open files",
      "Inappropriate ioctl for device", "Text file busy", "File too large",
      "No space left on device", "Illegal seek", "Read-only file system", "Too many links",
      "Broken pipe", "Numerical argument out of domain", "Numerical result out of range",
      "Resource deadlock avoided", "File name too long", "No locks available",
      "Function not implemented", "Directory not empty", "Too many levels of symbolic links", "",
      "No message of desired type", "Identifier removed", "Channel number out of range",
      "Level 2 not synchronized", "Level 3 halted", "Level 3 reset", "Link number out of range",
      "Protocol driver not attached", "No CSI structure available", "Level 2 halted",
      "Invalid exchange", "Invalid request descriptor", "Exchange full", "No anode",
      "Invalid request code", "Invalid slot", "", "Bad font file format", "Device not a stream",
      "No data available", "Timer expired", "Out of streams resources",
      "Machine is not on the network", "Package not installed", "Object is remote",
      "Link has been severed", "Advertise error", "Srmount error", "Communication error on send",
      "Protocol error", "Multihop attempted", "RFS specific error", "Bad message",
      "Value too large for defined data type", "Name not unique on network",
      "File descriptor in bad state", "Remote address changed",
      "Can not access a needed shared library", "Accessing a corrupted shared library",
      ".lib section in a.out corrupted", "Attempting to link in too many shared libraries",
      "Cannot exec a shared library directly",
      "Invalid or incomplete multibyte or wide character",
      "Interrupted system call should be restarted", "Streams pipe error", "Too many users",
      "Socket operation on non-socket", "Destination address required", "Message too long",
      "Protocol wrong type for socket", "Protocol not available", "Protocol not supported",
      "Socket type not supported", "Operation not supported", "Protocol family not supported",
      "Address family not supported by protocol", "Address already in use",
      "Cannot assign requested address", "Network is down", "Network is unreachable",
      "Network dropped connection on reset", "Software caused connection abort",
      "Connection reset by peer", "No buffer space available",
      "Transport endpoint is already connected", "Transport endpoint is not connected",
      "Cannot send after transport endpoint shutdown", "Too many references: cannot splice",
      "Connection timed out", "Connection refused", "Host is down", "No route to host",
      "Operation already in progress", "Operation now in progress", "Stale file handle",
      "Structure needs cleaning", "Not a XENIX named type file", "No XENIX semaphores available",
      "Is a named type file", "Remote I/O error", "Disk quota exceeded", "No medium found",
      "Wrong medium type", "Operation canceled", "Required key not available", "Key has expired",
      "Key has been revoked", "Key was rejected by service", "Owner died",
      "State not recoverable", "Operation not possible due to RF-kill",
      "Memory page has hardware error"]

def osText (code : Nat) : String :=
  match osTexts.getD code "" with
  | "" => "Unknown error " ++ toString code
  | text => text

def message : IoError → String
  | .os code => osText code ++ " (os error " ++ toString code ++ ")"
  | .plain kind => kind.text
  | .custom _ text => text

/-- A code of the operating system that has a kind. -/
def kindOfCode? (code : Nat) : Option IoKind :=
  if code = 2 then some .notFound
  else if code = 1 ∨ code = 13 then some .permissionDenied
  else if code = 4 then some .interrupted
  else if code = 104 then some .connectionReset
  else if code = 22 then some .invalidInput
  else none

def kind? : IoError → Option IoKind
  | .os code => kindOfCode? code
  | .plain kind => some kind
  | .custom kind _ => some kind

def isNotFound (e : IoError) : Bool := e.kind? == some .notFound

def isInterrupted (e : IoError) : Bool := e.kind? == some .interrupted

/-! The codes that path resolution and the file operations give. -/

def noEntry : IoError := .os 2
def busy : IoError := .os 16
def alreadyThere : IoError := .os 17
def notDirectory : IoError := .os 20
def isDirectory : IoError := .os 21
def invalidArgument : IoError := .os 22
def nameTooLong : IoError := .os 36
def notEmpty : IoError := .os 39
def tooManyLinks : IoError := .os 40

/-- A path that holds a NUL cannot be handed to the operating system. -/
def nulInPath : IoError := .custom .invalidInput "file name contained an unexpected NUL byte"

end IoError

end ArtifactCache
