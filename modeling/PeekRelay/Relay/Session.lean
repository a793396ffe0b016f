import PeekRelay.Relay.Pump
import PeekRelay.ServiceError
import PeekRelay.Tap.Sniff
/-!
# Relay sessions

A session sniffs the leading bytes of a client, hands the connection off, and then copies between
client and target, its upstream, in both directions. A client that is too slow is handed off with
whatever was sniffed. The target receives all that the client sends, the sniffed bytes included.
-/
namespace PeekRelay

structure RelaySettings where
  sniffBytes : Nat
  /-- In milliseconds. -/
  sniffTimeout : Nat
  keepCopies : Bool
  deriving DecidableEq, Repr

/-- The bytes that went to the target and to the client, or why the session failed. -/
abbrev RelayEnd := Outcome (Except NetworkError (Nat × Nat))

inductive RelayStage (κ : Type) where
  | fresh
  | sniffing (s : Sniff) (deadline : Nat)
  | copying (state : κ)
  | over (result : RelayEnd)

/-- A session between a client and a target, its upstream. -/
structure Relay (σ υ : Type) (copier : Copier := .pumps) where
  client : Tap σ
  target : υ
  clientAddress : SocketAddress
  settings : RelaySettings
  stage : RelayStage copier.State := .fresh

namespace Relay

variable {σ υ : Type} [ByteStream σ] [ByteStream υ] {copier : Copier} (env : Surroundings)

private def settle {α : Type} (t : Tap σ) (reply : Reply υ α) : α × Tap σ × υ :=
  (reply.answer, { t with monitor := t.monitor.heedAll reply.stops }, reply.next)

def toTarget : Route (Tap σ × υ) where
  read buffer state :=
    let (answer, t) := state.1.pollRead env buffer
    (answer, t, state.2)
  write data state := settle state.1 (ByteStream.pollWrite state.2 data)
  flush state := settle state.1 (ByteStream.pollFlush state.2)
  shutdown state := settle state.1 (ByteStream.pollShutdown state.2)

def toClient : Route (Tap σ × υ) where
  read buffer state :=
    let reply := ByteStream.pollRead state.2 buffer
    let answer := match reply.answer with
      | .pending => .pending
      | .ready (.error e) => .ready (.error e)
      | .ready (.ok fill) => .ready (.ok (buffer.put fill))
    settle state.1 { stops := reply.stops, answer, next := reply.next }
  write data state :=
    let (answer, t) := state.1.pollWrite env data
    (answer, t, state.2)
  flush state :=
    let (answer, t) := state.1.pollFlush
    (answer, t, state.2)
  shutdown state :=
    let (answer, t) := state.1.pollShutdown
    (answer, t, state.2)

def note (r : Relay σ υ copier) (e : Event) : Relay σ υ copier :=
  { r with client := r.client.recording fun recorder => recorder.note e }

def finish (r : Relay σ υ copier) (result : RelayEnd) : Relay σ υ copier :=
  { r with stage := .over result }

/-- Ends the session with an error, after a report of all that is known about the client. -/
def fail (r : Relay σ υ copier) (e : IoError) : Relay σ υ copier :=
  ({ r with client := { r.client with monitor := r.client.monitor.dump } }).finish
    (.returned (.error (.relay e)))

/-- Ends the sniffing: from here on the client is read from its first byte. -/
def handOff (r : Relay σ υ copier) : Relay σ υ copier :=
  let t := r.client.heed .sniffing
  let t := if r.settings.keepCopies then t else t.heed .copying
  { r with client := t, stage := .copying copier.start }

/-- Polls the copy. An error in either direction ends the session. -/
def pollCopy (budget : Nat) (copying : copier.State) (r : Relay σ υ copier) :
    Relay σ υ copier × Bool :=
  match copier.poll (toTarget env) (toClient env) budget copying (r.client, r.target) with
  | (turn, copying, client, target) =>
    let r := { r with client, target }
    match turn with
    | .waits again => ({ r with stage := .copying copying }, again)
    | .finished toTarget toClient =>
      ((r.note (.relayed toTarget toClient)).finish (.returned (.ok (toTarget, toClient))), false)
    | .failed e => (r.fail e, false)
    | .panicked => (r.finish .panicked, false)

/-- Polls the sniff; a sniff that is pending at the deadline is dropped. -/
def pollSniff (now : Nat) (s : Sniff) (deadline : Nat) (r : Relay σ υ copier) : Relay σ υ copier :=
  match r.client.resumeSniff env s with
  | (.ready (.ok bytes), _, client) =>
    let r := ({ r with client }).note (.opened r.clientAddress bytes.length)
    (r.note (.leading bytes)).handOff
  | (.ready (.error e), _, client) => (({ r with client }).note (.sniffFailed e)).fail e
  | (.pending, s, client) =>
    let r := { r with client, stage := .sniffing s deadline }
    if deadline ≤ now then
      let wanted := r.settings.sniffBytes
      (r.note (.handedOffEarly r.clientAddress wanted r.settings.sniffTimeout)).handOff
    else r

def begin (now : Nat) (r : Relay σ υ copier) : Relay σ υ copier :=
  match r.client.beginSniff r.settings.sniffBytes with
  | .panicked => r.finish .panicked
  | .returned (.error e) => (r.note (.sniffFailed e)).fail e
  | .returned (.ok s) => { r with stage := .sniffing s (now + r.settings.sniffTimeout) }

def advance (now : Nat) (r : Relay σ υ copier) : Relay σ υ copier :=
  match r.stage with
  | .sniffing s deadline => r.pollSniff env now s deadline
  | _ => r

/-- The part of a poll up to the handoff. -/
def lead (now : Nat) (r : Relay σ υ copier) : Relay σ υ copier :=
  match r.stage with
  | .fresh => (r.begin now).advance env now
  | _ => r.advance env now

/-- Polls a session at a time. The flag says whether it wants to be polled again at once. -/
def poll (now budget : Nat) (r : Relay σ υ copier) : Relay σ υ copier × Bool :=
  let r := r.lead env now
  match r.stage with
  | .copying copying => r.pollCopy env budget copying
  | _ => (r, false)

end Relay

end PeekRelay
