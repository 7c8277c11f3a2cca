namespace SyslogRelay

/-- Kinds of input/output error. -/
inductive ErrorKind
  | wouldBlock
  | timedOut
  | interrupted
  | outOfMemory
  | permissionDenied
  | connectionRefused
  | connectionReset
  | connectionAborted
  | addrNotAvailable
  | addrInUse
  | notConnected
  | brokenPipe
  | notFound
  | alreadyExists
  | invalidInput
  | invalidData
  | unexpectedEof
  | unsupported
  | hostUnreachable
  | networkUnreachable
  | networkDown
  | resourceBusy
  | other
  | uncategorized
  deriving DecidableEq, Repr, Inhabited

namespace ErrorKind

/-- Lower-case description of the kind. -/
def description : ErrorKind → String
  | wouldBlock => "operation would block"
  | timedOut => "timed out"
  | interrupted => "operation interrupted"
  | outOfMemory => "out of memory"
  | permissionDenied => "permission denied"
  | connectionRefused => "connection refused"
  | connectionReset => "connection reset"
  | connectionAborted => "connection aborted"
  | addrNotAvailable => "address not available"
  | addrInUse => "address in use"
  | notConnected => "not connected"
  | brokenPipe => "broken pipe"
  | notFound => "entity not found"
  | alreadyExists => "entity already exists"
  | invalidInput => "invalid input parameter"
  | invalidData => "invalid data"
  | unexpectedEof => "unexpected end of file"
  | unsupported => "unsupported"
  | hostUnreachable => "host unreachable"
  | networkUnreachable => "network unreachable"
  | networkDown => "network down"
  | resourceBusy => "resource busy"
  | other => "other error"
  | uncategorized => "uncategorized error"

/-- Name of the kind. -/
def name : ErrorKind → String
  | wouldBlock => "WouldBlock"
  | timedOut => "TimedOut"
  | interrupted => "Interrupted"
  | outOfMemory => "OutOfMemory"
  | permissionDenied => "PermissionDenied"
  | connectionRefused => "ConnectionRefused"
  | connectionReset => "ConnectionReset"
  | connectionAborted => "ConnectionAborted"
  | addrNotAvailable => "AddrNotAvailable"
  | addrInUse => "AddrInUse"
  | notConnected => "NotConnected"
  | brokenPipe => "BrokenPipe"
  | notFound => "NotFound"
  | alreadyExists => "AlreadyExists"
  | invalidInput => "InvalidInput"
  | invalidData => "InvalidData"
  | unexpectedEof => "UnexpectedEof"
  | unsupported => "Unsupported"
  | hostUnreachable => "HostUnreachable"
  | networkUnreachable => "NetworkUnreachable"
  | networkDown => "NetworkDown"
  | resourceBusy => "ResourceBusy"
  | other => "Other"
  | uncategorized => "Uncategorized"

def all : List ErrorKind := [wouldBlock, timedOut, interrupted, outOfMemory, permissionDenied, connectionRefused, connectionReset, connectionAborted, addrNotAvailable, addrInUse, notConnected, brokenPipe, notFound, alreadyExists, invalidInput, invalidData, unexpectedEof, unsupported, hostUnreachable, networkUnreachable, networkDown, resourceBusy, other, uncategorized]

def ofName? (s : String) : Option ErrorKind := all.find? (fun k => k.name = s)

end ErrorKind

/-- Messages of the C library for error numbers 0 to 133 (Linux). -/
def errnoTexts : Array String := #[
  "Success", "Operation not permitted", "No such file or directory", "No such process",
  "Interrupted system call", "Input/output error", "No such device or address", "Argument list too long",
  "Exec format error", "Bad file descriptor", "No child processes", "Resource temporarily unavailable",
  "Cannot allocate memory", "Permission denied", "Bad address", "Block device required",
  "Device or resource busy", "File exists", "Invalid cross-device link", "No such device",
  "Not a directory", "Is a directory", "Invalid argument", "Too many open files in system",
  "Too many open files", "Inappropriate ioctl for device", "Text file busy", "File too large",
  "No space left on device", "Illegal seek", "Read-only file system", "Too many links",
  "Broken pipe", "Numerical argument out of domain", "Numerical result out of range", "Resource deadlock avoided",
  "File name too long", "No locks available", "Function not implemented", "Directory not empty",
  "Too many levels of symbolic links", "Unknown error 41", "No message of desired type", "Identifier removed",
  "Channel number out of range", "Level 2 not synchronized", "Level 3 halted", "Level 3 reset",
  "Link number out of range", "Protocol driver not attached", "No CSI structure available", "Level 2 halted",
  "Invalid exchange", "Invalid request descriptor", "Exchange full", "No anode",
  "Invalid request code", "Invalid slot", "Unknown error 58", "Bad font file format",
  "Device not a stream", "No data available", "Timer expired", "Out of streams resources",
  "Machine is not on the network", "Package not installed", "Object is remote", "Link has been severed",
  "Advertise error", "Srmount error", "Communication error on send", "Protocol error",
  "Multihop attempted", "RFS specific error", "Bad message", "Value too large for defined data type",
  "Name not unique on network", "File descriptor in bad state", "Remote address changed", "Can not access a needed shared library",
  "Accessing a corrupted shared library", ".lib section in a.out corrupted", "Attempting to link in too many shared libraries", "Cannot exec a shared library directly",
  "Invalid or incomplete multibyte or wide character", "Interrupted system call should be restarted", "Streams pipe error", "Too many users",
  "Socket operation on non-socket", "Destination address required", "Message too long", "Protocol wrong type for socket",
  "Protocol not available", "Protocol not supported", "Socket type not supported", "Operation not supported",
  "Protocol family not supported", "Address family not supported by protocol", "Address already in use", "Cannot assign requested address",
  "Network is down", "Network is unreachable", "Network dropped connection on reset", "Software caused connection abort",
  "Connection reset by peer", "No buffer space available", "Transport endpoint is already connected", "Transport endpoint is not connected",
  "Cannot send after transport endpoint shutdown", "Too many references: cannot splice", "Connection timed out", "Connection refused",
  "Host is down", "No route to host", "Operation already in progress", "Operation now in progress",
  "Stale file handle", "Structure needs cleaning", "Not a XENIX named type file", "No XENIX semaphores available",
  "Is a named type file", "Remote I/O error", "Disk quota exceeded", "No medium found",
  "Wrong medium type", "Operation canceled", "Required key not available", "Key has expired",
  "Key has been revoked", "Key was rejected by service", "Owner died", "State not recoverable",
  "Operation not possible due to RF-kill", "Memory page has hardware error"]

/-- The C library's message for an error number. -/
def errnoText (code : Int) : String :=
  if h : 0 ≤ code ∧ code.toNat < errnoTexts.size then errnoTexts[code.toNat]
  else "Unknown error " ++ toString code

/-- The kind of error an error number stands for (Linux numbering). -/
def ErrorKind.ofErrno (code : Int) : ErrorKind :=
  match code with
  | 1 | 13 => .permissionDenied
  | 2 => .notFound
  | 4 => .interrupted
  | 11 => .wouldBlock
  | 12 => .outOfMemory
  | 16 => .resourceBusy
  | 17 => .alreadyExists
  | 22 => .invalidInput
  | 32 => .brokenPipe
  | 38 => .unsupported
  | 98 => .addrInUse
  | 99 => .addrNotAvailable
  | 100 => .networkDown
  | 101 => .networkUnreachable
  | 103 => .connectionAborted
  | 104 => .connectionReset
  | 107 => .notConnected
  | 110 => .timedOut
  | 111 => .connectionRefused
  | 113 => .hostUnreachable
  | _ => .uncategorized

/-- An input/output error. -/
inductive IoError
  /-- A raw error number from the operating system. -/
  | os (code : Int)
  /-- An error of a kind, without further text. -/
  | simple (kind : ErrorKind)
  /-- An error of a kind with its own text. -/
  | custom (kind : ErrorKind) (text : String)
  deriving DecidableEq, Repr

namespace IoError

def kind : IoError → ErrorKind
  | os code => ErrorKind.ofErrno code
  | simple k => k
  | custom k _ => k

/-- The text of the error. -/
def message : IoError → String
  | os code => errnoText code ++ " (os error " ++ toString code ++ ")"
  | simple k => k.description
  | custom _ text => text

/-- The raw error number, if the error has one. -/
def rawCode? : IoError → Option Int
  | os code => some code
  | _ => none

end IoError

/-- Whether a failed send is worth repeating. -/
inductive SendErrorClass
  | transient
  | permanent
  deriving DecidableEq, Repr

/-- Would-block, timed-out, interrupted and out-of-memory errors are transient, and
so are the raw errors "no buffer space" (105) and "cannot allocate memory" (12);
every other error is permanent. -/
def classifyError (e : IoError) : SendErrorClass :=
  match e.kind with
  | .wouldBlock | .timedOut | .interrupted | .outOfMemory => .transient
  | _ => if e.rawCode? = some 105 ∨ e.rawCode? = some 12 then .transient else .permanent

/-- The result of sending with retries: the number of retries before success,
or the permanent error that stopped it; with the number of attempts. -/
structure RetryReport where
  attempts : Nat
  outcome : Except IoError Nat

/-- Send until an attempt succeeds or fails permanently. `script` gives the outcome
of each attempt in turn (`none` for success); attempts past its end succeed. -/
def sendWithRetry (script : List (Option IoError)) : RetryReport :=
  go script 0
where
  go : List (Option IoError) → Nat → RetryReport
    | [], retries => ⟨retries + 1, .ok retries⟩
    | none :: _, retries => ⟨retries + 1, .ok retries⟩
    | some e :: rest, retries =>
      match classifyError e with
      | .transient => go rest (retries + 1)
      | .permanent => ⟨retries + 1, .error e⟩

/-- The retry loop over an operation of any kind: `op i` is what call `i` answers.
After `retries` transient failures at most `calls` more calls are allowed. -/
def retryLoop (op : Nat → Option IoError) : (calls retries : Nat) → Option RetryReport
  | 0, _ => none
  | calls + 1, retries =>
    match op retries with
    | none => some ⟨retries + 1, .ok retries⟩
    | some e =>
      match classifyError e with
      | .transient => retryLoop op calls (retries + 1)
      | .permanent => some ⟨retries + 1, .error e⟩

end SyslogRelay
