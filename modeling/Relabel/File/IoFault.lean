import Relabel.Text.Utf8

/-!
# What goes wrong below

A request to the operating system that fails gives an error number. `SystemError` is that number with its
wording, the one of the system's own table. `IoFault` adds the failures that do not come from the system
itself: a path that cannot be passed to it, a directory whose entries cannot be read, and failures that
carry only a text.
-/

namespace Relabel

/-- The number of a failed request to the operating system. -/
structure SystemError where
  code : Int
  deriving DecidableEq, Repr

namespace SystemError

/-! ## The numbers that path resolution and file access give -/

/-- Nothing has the name. -/
def notFound : SystemError := ⟨2⟩
/-- The user may not do that. -/
def denied : SystemError := ⟨13⟩
/-- The name is taken. -/
def taken : SystemError := ⟨17⟩
/-- A directory must stand there. -/
def notDirectory : SystemError := ⟨20⟩
/-- A directory stands there. -/
def isDirectory : SystemError := ⟨21⟩
/-- A name or a path is too long. -/
def nameTooLong : SystemError := ⟨36⟩
/-- More symbolic links than may be followed. -/
def tooManyLinks : SystemError := ⟨40⟩

/-! ## Wording -/

/-- The wordings of the numbers from zero on; a number without a wording has an empty one. -/
def texts : List String :=
  ["Success", "Operation not permitted", "No such file or directory", "No such process",
    "Interrupted system call", "Input/output error", "No such device or address",
    "Argument list too long", "Exec format error", "Bad file descriptor", "No child processes",
    "Resource temporarily unavailable", "Cannot allocate memory", "Permission denied",
    "Bad address", "Block device required", "Device or resource busy", "File exists",
    "Invalid cross-device link", "No such device", "Not a directory", "Is a directory",
    "Invalid argument", "Too many open files in system", "Too many open files",
    "Inappropriate ioctl for device", "Text file busy", "File too large", "No space left on device",
    "Illegal seek", "Read-only file system", "Too many links", "Broken pipe",
    "Numerical argument out of domain", "Numerical result out of range",
    "Resource deadlock avoided", "File name too long", "No locks available",
    "Function not implemented", "Directory not empty", "Too many levels of symbolic links", "",
    "No message of desired type", "Identifier removed", "Channel number out of range",
    "Level 2 not synchronized", "Level 3 halted", "Level 3 reset", "Link number out of range",
    "Protocol driver not attached", "No CSI structure available", "Level 2 halted",
    "Invalid exchange", "Invalid request descriptor", "Exchange full", "No anode",
    "Invalid request code", "Invalid slot", "", "Bad font file format", "Device not a stream",
    "No data available", "Timer expired", "Out of streams resources",
    "Machine is not on the network", "Package not installed", "Object is remote",
    "Link has been severed", "Advertise error", "Srmount error", "Communication error on send",
    "Protocol error", "Multihop attempted", "RFS specific error", "Bad message",
    "Value too large for defined data type", "Name not unique on network",
    "File descriptor in bad state", "Remote address changed",
    "Can not access a needed shared library", "Accessing a corrupted shared library",
    ".lib section in a.out corrupted", "Attempting to link in too many shared libraries",
    "Cannot exec a shared library directly", "Invalid or incomplete multibyte or wide character",
    "Interrupted system call should be restarted", "Streams pipe error", "Too many users",
    "Socket operation on non-socket", "Destination address required", "Message too long",
    "Protocol wrong type for socket", "Protocol not available", "Protocol not supported",
    "Socket type not supported", "Operation not supported", "Protocol family not supported",
    "Address family not supported by protocol", "Address already in use",
    "Cannot assign requested address", "Network is down", "Network is unreachable",
    "Network dropped connection on reset", "Software caused connection abort",
    "Connection reset by peer", "No buffer space available",
    "Transport endpoint is already connected", "Transport endpoint is not connected",
    "Cannot send after transport endpoint shutdown", "Too many references: cannot splice",
    "Connection timed out", "Connection refused", "Host is down", "No route to host",
    "Operation already in progress", "Operation now in progress", "Stale file handle",
    "Structure needs cleaning", "Not a XENIX named type file", "No XENIX semaphores available",
    "Is a named type file", "Remote I/O error", "Disk quota exceeded", "No medium found",
    "Wrong medium type", "Operation canceled", "Required key not available", "Key has expired",
    "Key has been revoked", "Key was rejected by service", "Owner died", "State not recoverable",
    "Operation not possible due to RF-kill", "Memory page has hardware error"]

/-- The wording of an error number. -/
def text (error : SystemError) : String :=
  let known := if error.code < 0 then "" else texts.getD error.code.toNat ""
  if known.isEmpty then "Unknown error " ++ toString error.code else known

/-- The wording of an error with its number. -/
def message (error : SystemError) : String :=
  error.text ++ " (os error " ++ toString error.code ++ ")"

end SystemError

/-- A failure of input or output. -/
inductive IoFault where
  /-- The operating system refused a request. -/
  | system (error : SystemError)
  /-- A path holds a zero byte, which ends a path for the operating system. -/
  | zeroByteInPath
  /-- The entries of the directory at `shown` could not be read. -/
  | unreadableDirectory (shown : String) (error : SystemError)
  /-- A failure that carries only a text. -/
  | other (text : String)
  deriving DecidableEq, Repr

/-- The wording of a failure of input or output. -/
def IoFault.message : IoFault → String
  | .system error => error.message
  | .zeroByteInPath => "file name contained an unexpected NUL byte"
  | .unreadableDirectory shown error =>
    "IO error for operation on " ++ shown ++ ": " ++ error.message
  | .other text => text

end Relabel
