/-!
# Input and output errors

An error is one of the operating system, a bare kind, or a kind with a text of its own. A
computation ends with the first error.
-/
namespace PeekRelay

inductive ErrorKind where
  | notFound | permissionDenied | connectionRefused | connectionReset | connectionAborted
  | notConnected | addrInUse | addrNotAvailable | brokenPipe | alreadyExists | wouldBlock
  | invalidInput | invalidData | timedOut | writeZero | interrupted | unsupported
  | unexpectedEof | outOfMemory | other | isADirectory | uncategorized
  deriving DecidableEq, Repr

namespace ErrorKind

def name : ErrorKind → String
  | notFound => "NotFound"
  | permissionDenied => "PermissionDenied"
  | connectionRefused => "ConnectionRefused"
  | connectionReset => "ConnectionReset"
  | connectionAborted => "ConnectionAborted"
  | notConnected => "NotConnected"
  | addrInUse => "AddrInUse"
  | addrNotAvailable => "AddrNotAvailable"
  | brokenPipe => "BrokenPipe"
  | alreadyExists => "AlreadyExists"
  | wouldBlock => "WouldBlock"
  | invalidInput => "InvalidInput"
  | invalidData => "InvalidData"
  | timedOut => "TimedOut"
  | writeZero => "WriteZero"
  | interrupted => "Interrupted"
  | unsupported => "Unsupported"
  | unexpectedEof => "UnexpectedEof"
  | outOfMemory => "OutOfMemory"
  | other => "Other"
  | isADirectory => "IsADirectory"
  | uncategorized => "Uncategorized"

def description : ErrorKind → String
  | notFound => "entity not found"
  | permissionDenied => "permission denied"
  | connectionRefused => "connection refused"
  | connectionReset => "connection reset"
  | connectionAborted => "connection aborted"
  | notConnected => "not connected"
  | addrInUse => "address in use"
  | addrNotAvailable => "address not available"
  | brokenPipe => "broken pipe"
  | alreadyExists => "entity already exists"
  | wouldBlock => "operation would block"
  | invalidInput => "invalid input parameter"
  | invalidData => "invalid data"
  | timedOut => "timed out"
  | writeZero => "write zero"
  | interrupted => "operation interrupted"
  | unsupported => "unsupported"
  | unexpectedEof => "unexpected end of file"
  | outOfMemory => "out of memory"
  | other => "other error"
  | isADirectory => "is a directory"
  | uncategorized => "uncategorized error"

def all : List ErrorKind :=
  [notFound, permissionDenied, connectionRefused, connectionReset, connectionAborted, notConnected,
    addrInUse, addrNotAvailable, brokenPipe, alreadyExists, wouldBlock, invalidInput, invalidData,
    timedOut, writeZero, interrupted, unsupported, unexpectedEof, outOfMemory, other, isADirectory,
    uncategorized]

def ofName? (s : String) : Option ErrorKind := all.find? fun k => k.name == s

end ErrorKind

inductive IoError where
  | os (code : Int)
  | bare (kind : ErrorKind)
  | custom (kind : ErrorKind) (text : String)
  deriving DecidableEq, Repr

namespace IoError

/-- The operating system's errors that have a kind of their own. -/
def system (code : Int) : ErrorKind × String :=
  match code with
  | 0 => (.uncategorized, "Success")
  | 1 => (.permissionDenied, "Operation not permitted")
  | 2 => (.notFound, "No such file or directory")
  | 4 => (.interrupted, "Interrupted system call")
  | 11 => (.wouldBlock, "Resource temporarily unavailable")
  | 13 => (.permissionDenied, "Permission denied")
  | 17 => (.alreadyExists, "File exists")
  | 21 => (.isADirectory, "Is a directory")
  | 22 => (.invalidInput, "Invalid argument")
  | 32 => (.brokenPipe, "Broken pipe")
  | 98 => (.addrInUse, "Address already in use")
  | 99 => (.addrNotAvailable, "Cannot assign requested address")
  | 103 => (.connectionAborted, "Software caused connection abort")
  | 104 => (.connectionReset, "Connection reset by peer")
  | 107 => (.notConnected, "Transport endpoint is not connected")
  | 110 => (.timedOut, "Connection timed out")
  | 111 => (.connectionRefused, "Connection refused")
  | n => (.uncategorized, "Unknown error " ++ toString n)

def kind : IoError → ErrorKind
  | os code => (system code).1
  | bare kind => kind
  | custom kind _ => kind

def message : IoError → String
  | os code => (system code).2 ++ " (os error " ++ toString code ++ ")"
  | bare kind => kind.description
  | custom _ text => text

def code? : IoError → Option Int
  | os code => some code
  | _ => none

def isInterrupted (e : IoError) : Bool := e.kind = .interrupted

end IoError

section Bind

variable {ε α β : Type} (f : α → Except ε β)

@[simp] theorem ok_bind (a : α) : (.ok a >>= f : Except ε β) = f a := rfl

@[simp] theorem error_bind (e : ε) : (.error e >>= f : Except ε β) = .error e := rfl

theorem bind_eq_ok {x : Except ε α} {b : β} (h : (x >>= f) = .ok b) :
    ∃ a, x = .ok a ∧ f a = .ok b := by
  cases x with
  | error e => cases h
  | ok a => exact ⟨a, rfl, h⟩

end Bind

end PeekRelay
