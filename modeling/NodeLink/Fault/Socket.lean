import NodeLink.Fault.Basic

/-!
# Socket errors as faults

The operating system reports a failed socket operation by an error of one of
many kinds. Only a few kinds matter to a link: a refusal, a timeout, and the
four ways in which an established connection is found to be gone. Every other
kind is unclassified. The text of the error is kept as it is.
-/

set_option autoImplicit false

namespace NodeLink

/-- The kinds of socket error that can be named. -/
inductive SocketErrorKind
  | notFound | permissionDenied | connectionRefused | connectionReset | connectionAborted
  | notConnected | addrInUse | addrNotAvailable | brokenPipe | alreadyExists | wouldBlock
  | invalidInput | invalidData | timedOut | writeZero | interrupted | unsupported
  | unexpectedEof | outOfMemory | other | hostUnreachable | networkUnreachable | networkDown
deriving DecidableEq

namespace SocketErrorKind

/-- Every kind with its name and with the text it has when nothing better is known. -/
def table : List (SocketErrorKind × String × String) := [
  (notFound, "NotFound", "entity not found"),
  (permissionDenied, "PermissionDenied", "permission denied"),
  (connectionRefused, "ConnectionRefused", "connection refused"),
  (connectionReset, "ConnectionReset", "connection reset"),
  (connectionAborted, "ConnectionAborted", "connection aborted"),
  (notConnected, "NotConnected", "not connected"),
  (addrInUse, "AddrInUse", "address in use"),
  (addrNotAvailable, "AddrNotAvailable", "address not available"),
  (brokenPipe, "BrokenPipe", "broken pipe"),
  (alreadyExists, "AlreadyExists", "entity already exists"),
  (wouldBlock, "WouldBlock", "operation would block"),
  (invalidInput, "InvalidInput", "invalid input parameter"),
  (invalidData, "InvalidData", "invalid data"),
  (timedOut, "TimedOut", "timed out"),
  (writeZero, "WriteZero", "write zero"),
  (interrupted, "Interrupted", "operation interrupted"),
  (unsupported, "Unsupported", "unsupported"),
  (unexpectedEof, "UnexpectedEof", "unexpected end of file"),
  (outOfMemory, "OutOfMemory", "out of memory"),
  (other, "Other", "other error"),
  (hostUnreachable, "HostUnreachable", "host unreachable"),
  (networkUnreachable, "NetworkUnreachable", "network unreachable"),
  (networkDown, "NetworkDown", "network down")]

/-- The kind with a given name. -/
def ofName? (name : String) : Option SocketErrorKind :=
  (table.find? (·.2.1 == name)).map (·.1)

/-- The text of a kind on its own. -/
def text (kind : SocketErrorKind) : String :=
  ((table.find? (·.1 == kind)).map (·.2.2)).getD ""

end SocketErrorKind

structure SocketError where
  kind : SocketErrorKind
  /-- What the failure says about itself. -/
  text : String
deriving DecidableEq

namespace SocketError

/-- An error of which only the kind is known. -/
def ofKind (kind : SocketErrorKind) : SocketError := ⟨kind, kind.text⟩

/-- The numbered errors of the operating system, with their kinds and texts. -/
def numbers : List (Nat × SocketErrorKind × String) := [
  (2, .notFound, "No such file or directory"),
  (13, .permissionDenied, "Permission denied"),
  (32, .brokenPipe, "Broken pipe"),
  (98, .addrInUse, "Address already in use"),
  (101, .networkUnreachable, "Network is unreachable"),
  (103, .connectionAborted, "Software caused connection abort"),
  (104, .connectionReset, "Connection reset by peer"),
  (107, .notConnected, "Transport endpoint is not connected"),
  (110, .timedOut, "Connection timed out"),
  (111, .connectionRefused, "Connection refused"),
  (113, .hostUnreachable, "No route to host")]

/-- The error with a given number, which its text repeats. -/
def ofNumber? (number : Nat) : Option SocketError :=
  (numbers.lookup number).map fun e =>
    ⟨e.1, e.2 ++ " (os error " ++ toString number ++ ")"⟩

/-- The fault that a link reports for a socket error. -/
def toFault (e : SocketError) : Fault :=
  match e.kind with
  | .connectionRefused => .connectRefused e.text
  | .timedOut => .connectTimeout e.text
  | .connectionReset | .connectionAborted | .brokenPipe | .notConnected => .channelClosed e.text
  | _ => .uncategorized e.text

/-- A socket error is terminal exactly when its kind is one of the six that are classified. -/
theorem toFault_isTerminal (e : SocketError) :
    e.toFault.isTerminal = [.connectionRefused, .timedOut, .connectionReset, .connectionAborted,
      .brokenPipe, .notConnected].contains e.kind := by
  rcases e with ⟨kind, text⟩
  cases kind <;> rfl

end SocketError

end NodeLink
