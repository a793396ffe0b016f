import PeekRelay.IoError
import PeekRelay.Time.Rfc3339
import PeekRelay.Timeline
import PeekRelay.Uuid
/-!
# Snapshots

What is kept of a failed read is when it failed, the kind and text of its error, and the call stack.
A snapshot holds all that is known about one connection at one point in time.
-/
namespace PeekRelay

structure FailureTrace where
  capturedAt : Instant
  kind : String
  message : String
  backtrace : String
  deriving DecidableEq

namespace FailureTrace

def capture (e : IoError) (now : Instant) (callStack : String) : FailureTrace :=
  ⟨now, e.kind.name, e.message, callStack⟩

/-- A trace is empty if it has neither a message nor a call stack, whatever its kind. -/
def isEmpty (t : FailureTrace) : Bool := t.message.isEmpty && t.backtrace.isEmpty

def text (t : FailureTrace) : String :=
  "read failed at " ++ Rfc3339.textWithOffset t.capturedAt ++ " (" ++ t.kind ++ "): " ++
    t.message ++ "\n" ++ t.backtrace

end FailureTrace

structure Snapshot where
  connectionId : Uuid
  sniffing : Bool
  copying : Bool
  sniffCount : UInt64
  readCopy : Bytes
  writeCopy : Bytes
  timeline : Timeline
  failure : Option FailureTrace
  deriving DecidableEq

end PeekRelay
