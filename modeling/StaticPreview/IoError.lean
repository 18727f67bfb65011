/-
# StaticPreview.IoError -- failures of the operating system

A failure is a numbered one of the operating system, a kind of failure without a
number, or one that is told in words.  `IoError.message` is its text.
-/
import StaticPreview.Text.Decimal

namespace StaticPreview

/-- Kinds of failures that can arise without a number. -/
inductive IoError.Kind where
  | addrInUse
  | addrNotAvailable
  | alreadyExists
  | brokenPipe
  | connectionAborted
  | connectionRefused
  | connectionReset
  | interrupted
  | invalidData
  | invalidInput
  | isADirectory
  | notADirectory
  | notConnected
  | notFound
  | other
  | outOfMemory
  | permissionDenied
  | timedOut
  | unexpectedEnd
  | unsupported
  | wouldBlock
  | writeZero
  | hostUnreachable
  | networkUnreachable
  | networkDown
  | directoryNotEmpty
  | readOnlyFilesystem
  | staleHandle
  | storageFull
  | notSeekable
  | quotaExceeded
  | fileTooLarge
  | resourceBusy
  | executableBusy
  | deadlock
  | tooManyLinks
  | crossesDevices
  | invalidFilename
  | argumentsTooLong
  deriving DecidableEq, Repr

/-- A failure of an operation on files or sockets. -/
inductive IoError where
  /-- A failure that the operating system numbers. -/
  | code (number : Nat)
  /-- A failure of which only the kind is known. -/
  | kind (kind : IoError.Kind)
  /-- A failure told in words. -/
  | text (message : String)
  deriving DecidableEq, Repr

namespace IoError

/-- The descriptions of the kinds. -/
def Kind.descriptions : List (Kind × String) := [
  (.addrInUse, "address in use"),
  (.addrNotAvailable, "address not available"),
  (.alreadyExists, "entity already exists"),
  (.brokenPipe, "broken pipe"),
  (.connectionAborted, "connection aborted"),
  (.connectionRefused, "connection refused"),
  (.connectionReset, "connection reset"),
  (.interrupted, "operation interrupted"),
  (.invalidData, "invalid data"),
  (.invalidInput, "invalid input parameter"),
  (.isADirectory, "is a directory"),
  (.notADirectory, "not a directory"),
  (.notConnected, "not connected"),
  (.notFound, "entity not found"),
  (.other, "other error"),
  (.outOfMemory, "out of memory"),
  (.permissionDenied, "permission denied"),
  (.timedOut, "timed out"),
  (.unexpectedEnd, "unexpected end of file"),
  (.unsupported, "unsupported"),
  (.wouldBlock, "operation would block"),
  (.writeZero, "write zero"),
  (.hostUnreachable, "host unreachable"),
  (.networkUnreachable, "network unreachable"),
  (.networkDown, "network down"),
  (.directoryNotEmpty, "directory not empty"),
  (.readOnlyFilesystem, "read-only filesystem or storage medium"),
  (.staleHandle, "stale network file handle"),
  (.storageFull, "no storage space"),
  (.notSeekable, "seek on unseekable file"),
  (.quotaExceeded, "quota exceeded"),
  (.fileTooLarge, "file too large"),
  (.resourceBusy, "resource busy"),
  (.executableBusy, "executable file busy"),
  (.deadlock, "deadlock"),
  (.tooManyLinks, "too many links"),
  (.crossesDevices, "cross-device link or rename"),
  (.invalidFilename, "invalid filename"),
  (.argumentsTooLong, "argument list too long")]

/-- The description of a kind. -/
def Kind.description (k : Kind) : String := (Kind.descriptions.lookup k).getD ""

/-- The names of the numbered failures, from number 1 on. -/
def codeNames : List String := [
  "Operation not permitted", "No such file or directory", "No such process",
  "Interrupted system call", "Input/output error", "No such device or address",
  "Argument list too long", "Exec format error", "Bad file descriptor", "No child processes",
  "Resource temporarily unavailable", "Cannot allocate memory", "Permission denied",
  "Bad address", "Block device required", "Device or resource busy", "File exists",
  "Invalid cross-device link", "No such device", "Not a directory", "Is a directory",
  "Invalid argument", "Too many open files in system", "Too many open files",
  "Inappropriate ioctl for device", "Text file busy", "File too large",
  "No space left on device", "Illegal seek", "Read-only file system", "Too many links",
  "Broken pipe", "Numerical argument out of domain", "Numerical result out of range",
  "Resource deadlock avoided", "File name too long", "No locks available",
  "Function not implemented", "Directory not empty", "Too many levels of symbolic links",
  "Unknown error 41", "No message of desired type", "Identifier removed",
  "Channel number out of range", "Level 2 not synchronized", "Level 3 halted", "Level 3 reset",
  "Link number out of range", "Protocol driver not attached", "No CSI structure available",
  "Level 2 halted", "Invalid exchange", "Invalid request descriptor", "Exchange full",
  "No anode", "Invalid request code", "Invalid slot", "Unknown error 58", "Bad font file format",
  "Device not a stream", "No data available", "Timer expired", "Out of streams resources",
  "Machine is not on the network", "Package not installed", "Object is remote",
  "Link has been severed", "Advertise error", "Srmount error", "Communication error on send",
  "Protocol error", "Multihop attempted", "RFS specific error", "Bad message",
  "Value too large for defined data type", "Name not unique on network",
  "File descriptor in bad state", "Remote address changed",
  "Can not access a needed shared library", "Accessing a corrupted shared library",
  ".lib section in a.out corrupted", "Attempting to link in too many shared libraries",
  "Cannot exec a shared library directly", "Invalid or incomplete multibyte or wide character",
  "Interrupted system call should be restarted", "Streams pipe error", "Too many users",
  "Socket operation on non-socket", "Destination address required", "Message too long",
  "Protocol wrong type for socket", "Protocol not available", "Protocol not supported",
  "Socket type not supported", "Operation not supported", "Protocol family not supported",
  "Address family not supported by protocol", "Address already in use",
  "Cannot assign requested address", "Network is down", "Network is unreachable",
  "Network dropped connection on reset", "Software caused connection abort",
  "Connection reset by peer", "No buffer space available",
  "Transport endpoint is already connected", "Transport endpoint is not connected",
  "Cannot send after transport endpoint shutdown", "Too many references: cannot splice",
  "Connection timed out", "Connection refused", "Host is down", "No route to host",
  "Operation already in progress", "Operation now in progress", "Stale file handle",
  "Structure needs cleaning", "Not a XENIX named type file", "No XENIX semaphores available",
  "Is a named type file", "Remote I/O error", "Disk quota exceeded", "No medium found",
  "Wrong medium type", "Operation canceled", "Required key not available", "Key has expired",
  "Key has been revoked", "Key was rejected by service", "Owner died", "State not recoverable",
  "Operation not possible due to RF-kill", "Memory page has hardware error"]

/-- The name of a numbered failure. -/
def codeName (number : Nat) : String :=
  if number = 0 then "Success"
  else
    (codeNames[number - 1]?).getD
      ("Unknown error " ++ String.ofList (Text.Decimal.digits number))

/-- The text of a failure. -/
def message : IoError → String
  | .code number =>
      codeName number ++ " (os error " ++ String.ofList (Text.Decimal.digits number) ++ ")"
  | .kind k => k.description
  | .text s => s

/-- Whether a failure says that an address is taken. -/
def isAddrInUse : IoError → Bool
  | .code number => number == 98
  | .kind k => k == .addrInUse
  | .text _ => false

/-! The failures that operations on files can have. -/

/-- No entry of that name. -/
def noEntry : IoError := .code 2

/-- The device behind the entry is missing. -/
def noDevice : IoError := .code 6

/-- The permission is missing. -/
def noPermission : IoError := .code 13

/-- The entry is in use. -/
def busy : IoError := .code 16

/-- The entry exists already. -/
def exists_ : IoError := .code 17

/-- The entry is not a directory. -/
def notDirectory : IoError := .code 20

/-- The entry is a directory. -/
def isDirectory : IoError := .code 21

/-- The operation makes no sense on what it was asked for. -/
def invalid : IoError := .code 22

/-- A name or a path is too long. -/
def nameTooLong : IoError := .code 36

/-- The directory is not empty. -/
def notEmpty : IoError := .code 39

/-- Too many links were followed. -/
def tooManyLinks : IoError := .code 40

/-- A path holds a zero byte. -/
def zeroInPath : IoError := .text "file name contained an unexpected NUL byte"

end IoError

end StaticPreview
