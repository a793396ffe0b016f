import PeekRelay.Notice
import PeekRelay.Tap
/-!
# Listeners

A listener accepts connections, taps each one under an identifier of its own, and passes it on as a
session. It ends when nobody takes sessions any more.
-/
namespace PeekRelay

/-- An accepted connection on its way to whoever handles it. -/
structure Session (σ : Type) where
  client : Tap σ
  clientAddress : SocketAddress

def Session.id {σ : Type} (s : Session σ) : Uuid := s.client.monitor.id

/-- A client that connects: its stream and its address. -/
abbrev Arrival (σ : Type) := Result (σ × SocketAddress)

structure Listener where
  settings : SniffSettings
  /-- Whether sessions are still taken. -/
  isOpen : Bool := true

namespace Listener

variable {σ : Type}

def bind (address : String) (settings : SniffSettings) (bound : Result SocketAddress) :
    Except NetworkError Listener × Notice :=
  match bound with
  | .ok _ => (.ok { settings }, .listening address)
  | .error e => (.error (.bind e), .bindFailed address e)

def tap (settings : SniffSettings) (id : Uuid) (stream : σ) (address : SocketAddress) :
    Session σ where
  client := (Tap.wrap stream id settings).recording fun r =>
    { r with log := .accepted address :: r.log }
  clientAddress := address

def accept (l : Listener) (id : Uuid) (arrival : Arrival σ) : Except NetworkError (Session σ) :=
  match arrival with
  | .error e => .error (.accept e)
  | .ok (stream, address) =>
    if l.isOpen then .ok (tap l.settings id stream address) else .error .channelClosed

/-- Accepts all that arrives. A connection that could not be accepted is reported and does not end
the listening; the result is the error that does, if there is one. -/
def listen (l : Listener) : List (Uuid × Arrival σ) →
    List (Session σ) × List Notice × Option NetworkError
  | [] => ([], [], none)
  | (id, arrival) :: rest =>
    match l.accept id arrival with
    | .ok session =>
      let (sessions, notices, ending) := l.listen rest
      (session :: sessions, notices, ending)
    | .error (.accept e) =>
      let (sessions, notices, ending) := l.listen rest
      (sessions, .acceptFailed e :: notices, ending)
    | .error e => ([], [], some e)

end Listener

end PeekRelay
