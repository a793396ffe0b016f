import PeekRelay.CommandLine
import PeekRelay.Controller
import PeekRelay.Echo
import PeekRelay.SocketAddress.Reader
import PeekRelay.Tap.Whole
/-!
# Machines

A machine on which clients, the service and targets run together. What it lets its programs do
decides how far a trial of the service gets: a trial whose client cannot connect panics.
-/
namespace PeekRelay

structure Machine where
  /-- Whether programs on the machine can connect to each other. -/
  connects : Bool

structure Hearing where
  sniffed : Bytes
  all : Bytes
  monitor : Monitor

structure TimeoutChange where
  result : Result Unit
  read : Option Nat
  write : Option Nat

/-- What a blocking connection gave to its reader, and what its client got. -/
structure Exchange where
  timeouts : List TimeoutChange
  sniff : Result Bytes
  all : Bytes
  reply : Bytes
  monitor : Monitor

/-- What came of a session between a client and an echoing target. -/
structure SessionEnd where
  result : Except NetworkError Unit
  reply : Bytes
  monitor : Monitor

namespace Machine

private def loopback (service : UInt16) : SocketAddress := .v4 ⟨127, 0, 0, 1⟩ service

private def lookUp (a : HostAddress) : Option SocketAddress :=
  if a.host = "localhost" then some (loopback a.service) else none

def bind (text : String) : Result SocketAddress := do
  let address ← SocketAddress.resolve lookUp text
  if address.isLocal then pure address else throw (.os 99)

def client (data : Bytes) : Script where
  reads := [{ act := .data data }]
  localAddress := .ok (loopback 8443)
  peerAddress := .ok (loopback 40000)

private def session (settings : SniffSettings) (data : Bytes) : Session Script :=
  Listener.tap settings .zero (client data) (loopback 40000)

/-- A client connects, and its session is sniffed, handed off and read to the end. -/
def accept (m : Machine) (env : Surroundings) (l : Listener) (data : Bytes) (wanted : Nat) :
    Outcome (Except NetworkError Hearing) :=
  if !m.connects then .panicked
  else match l.accept .zero (.ok (client data, loopback 40000)) with
    | .error e => .returned (.error e)
    | .ok s =>
      match s.client.sniff env wanted [] with
      | (.done (.ok sniffed), t) =>
        let t := t.heed .sniffing
        match t.drain env t.attempts 8192 with
        | (some (.returned d), t) => .returned (.ok ⟨sniffed, d.data, t.monitor⟩)
        | _ => .panicked
      | _ => .panicked

private def setTimeout (s : Script) (direction : Direction) (ms : Option Nat) :
    TimeoutChange × Script :=
  let (result, s) := match direction with
    | .read => s.setReadTimeout ms
    | .write => s.setWriteTimeout ms
  (⟨result, s.readTimeout, s.writeTimeout⟩, s)

private def setTimeouts (s : Script) : List (Direction × Option Nat) → List TimeoutChange × Script
  | [] => ([], s)
  | (direction, ms) :: rest =>
    let (change, s) := setTimeout s direction ms
    let (changes, s) := setTimeouts s rest
    (change :: changes, s)

/-- A blocking connection: timeouts are set, the first bytes are sniffed, all is read, and a reply
is written. -/
def exchange (m : Machine) (env : Surroundings) (settings : SniffSettings)
    (timeouts : List (Direction × Option Nat)) (data : Bytes) (wanted : Nat) (reply : Bytes) :
    Outcome Exchange :=
  if !m.connects then .panicked
  else
    let (changes, s) := setTimeouts (client data) timeouts
    let t := Tap.wrap s .zero settings
    match t.readExact env t.attempts wanted [] with
    | (some (.returned sniff), t) =>
      let t := t.heed .sniffing
      match t.drain env t.attempts 8192 with
      | (some (.returned d), t) =>
        match t.writeAll env t.attempts reply with
        | (some (.returned (.ok ())), t) =>
          .returned ⟨changes, sniff, d.data, t.inner.written, t.monitor⟩
        | _ => .panicked
      | _ => .panicked
    | _ => .panicked

private def finish (env : Surroundings) :
    Nat → Relay Script Echo → Option (RelayEnd × Relay Script Echo)
  | 0, _ => none
  | polls + 1, r =>
    let (r, _) := r.poll env 0 128
    match r.stage with
    | .over result => some (result, r)
    | _ => finish env polls r

/-- A session with a client that sends data and ends, and with an echoing target, if it is there. -/
def relay (m : Machine) (env : Surroundings) (settings : SniffSettings) (relay : RelaySettings)
    (data : Bytes) (target : Result Echo) : Outcome SessionEnd :=
  if !m.connects then .panicked
  else match (session settings data).toRelay "127.0.0.1:443" relay target with
    | .error (e, t) => .returned ⟨.error e, t.inner.written, t.monitor⟩
    | .ok r =>
      match finish env (data.length + 8) r with
      | some (.returned result, r) =>
        .returned ⟨result.map fun _ => (), r.client.inner.written, r.client.monitor⟩
      | _ => .panicked

def serve (m : Machine) (env : Surroundings) (c : Config) (clients : List Bytes) :
    Outcome (List Bytes) :=
  let replies := clients.mapM fun data =>
    match m.relay env c.sniffer c.relaySettings data (.ok {}) with
    | .returned ending => some ending.reply
    | .panicked => none
  match replies with
  | some replies => .returned replies
  | none => .panicked

def control (c : Config) : Except ControllerError Listener × Notice :=
  let (result, notice) := Listener.bind c.listenAddress c.sniffer (bind c.listenAddress)
  (result.mapError ControllerError.network, notice)

/-- Starts the service, and yields its reports; the flag says whether it serves clients then. -/
def start (a : Arguments) (file : FileContent) : Bool × List Notice :=
  match a.prepare file with
  | (none, notices) => (false, notices)
  | (some c, notices) =>
    match control c with
    | (.ok _, notice) => (true, notices ++ [notice])
    | (.error e, notice) => (false, notices ++ [notice, .stopped e])

end Machine

end PeekRelay
