import PeekRelay.Snapshot.Writer
import PeekRelay.SocketAddress
import PeekRelay.Text.Quoted
import PeekRelay.Time.Instant
/-!
# Events of a connection

What a connection reports to the log while it is sniffed and relayed. An event holds the values that
its record shows and nothing else, so equal events have equal records.
-/
namespace PeekRelay

inductive Level where
  | error | warn | info | debug | trace
  deriving DecidableEq, Repr

def Level.name : Level → String
  | error => "ERROR"
  | warn => "WARN"
  | info => "INFO"
  | debug => "DEBUG"
  | trace => "TRACE"

inductive Event where
  | wrapped
  | sniffed (counter size : Nat) (payload : Option Bytes)
  | sniffingStopped (reads : Nat)
  | copyingStopped (read written : Nat)
  | replayStalled (waiting : Nat)
  | replayDrained
  | failureCaptured (kind : ErrorKind)
  | accepted (client : SocketAddress)
  | connected (target : String)
  | opened (client : SocketAddress) (count : Nat)
  | leading (payload : Bytes)
  | sniffFailed (cause : IoError)
  | handedOffEarly (client : SocketAddress) (wanted timeout : Nat)
  | diagnosed (snapshot : Snapshot)
  | relayed (toTarget toClient : Nat)
  | failed (reason : String)
  deriving DecidableEq

namespace Event

def level : Event → Level
  | wrapped | sniffingStopped _ | copyingStopped _ _ | replayDrained | accepted _ | connected _
  | leading _ => .debug
  | sniffed _ _ _ | opened _ _ | relayed _ _ => .info
  | replayStalled _ | sniffFailed _ | handedOffEarly _ _ _ => .warn
  | failureCaptured _ => .trace
  | diagnosed _ | failed _ => .error

def diagnosticsHeading : String := "Connection diagnostics: "

def message : Event → String
  | wrapped => "wrapping connection for sniffing"
  | sniffed counter size payload =>
    "sniffed some data: counter=" ++ toString counter ++ ", read_size=" ++ toString size ++
      match payload with
      | none => ""
      | some bs => ", sniffed_data=\"" ++ Escaped.text bs ++ "\""
  | sniffingStopped reads => "sniffing stopped after " ++ toString reads ++ " sniff reads"
  | copyingStopped read written =>
    "mirroring stopped, releasing " ++ toString read ++ " read / " ++ toString written ++
      " written bytes"
  | replayStalled waiting =>
    "replay buffer returned no data with " ++ toString waiting ++ " bytes pending"
  | replayDrained => "replay buffer drained and released"
  | failureCaptured kind => "capturing failure trace for " ++ kind.name
  | accepted client => "accepted connection from " ++ client.toString
  | connected target => "Connected to upstream " ++ target
  | opened client count =>
    client.toString ++ " opened with " ++ toString count ++ " leading bytes"
  | leading payload => "leading bytes: \"" ++ Escaped.text payload ++ "\""
  | sniffFailed cause => "Read failed while sniffing: " ++ cause.message
  | handedOffEarly client wanted timeout =>
    client.toString ++ " sent fewer than " ++ toString wanted ++ " bytes within " ++
      Span.text timeout ++ ", handing off anyway"
  | diagnosed snapshot => diagnosticsHeading ++ snapshot.text
  | relayed toTarget toClient =>
    "Relay finished: " ++ toString toTarget ++ " bytes to upstream, " ++ toString toClient ++
      " bytes to client"
  | failed reason => "Session failed: " ++ reason

def heading (level : Level) (connection : Uuid) : String :=
  level.name ++ " [" ++ connection.toString ++ "] "

/-- The record of an event, under the identifier of its connection. -/
def record (connection : Uuid) (e : Event) : String := heading e.level connection ++ e.message

end Event

end PeekRelay
