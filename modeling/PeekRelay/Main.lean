import PeekRelay.CommandLine
import PeekRelay.Controller
import PeekRelay.SocketAddress.Reader
import PeekRelay.Wire
import Std.Async.DNS
import Std.Async.TCP
import Std.Async.Timer
/-!
# The program

Sockets, files, clocks and the log around the service. Each session is polled between two visits to
its sockets.
-/
namespace PeekRelay.Program

open Std.Async

abbrev Socket := TCP.Socket.Client

def systemError (code : UInt32) : IoError := .os code.toInt32.toInt.natAbs

def ioError (e : IO.Error) : IoError :=
  match e with
  | .alreadyExists _ code _ | .noFileOrDirectory _ code _ | .invalidArgument _ code _
  | .permissionDenied _ code _ | .resourceExhausted _ code _ | .inappropriateType _ code _
  | .noSuchThing _ code _ => systemError code
  | .otherError code _ | .resourceBusy code _ | .resourceVanished code _
  | .unsupportedOperation code _ | .hardwareFault code _ | .unsatisfiedConstraints code _
  | .illegalOperation code _ | .protocolError code _ | .timeExpired code _ => systemError code
  | .interrupted _ code _ => systemError code
  | .unexpectedEof => .bare .unexpectedEof
  | .userError text => .custom .other text

def attempt {α : Type} (action : Async α) : Async (Result α) := do
  try
    pure (.ok (← action))
  catch e => pure (.error (ioError e))

/-! ## Addresses -/

def toNet : SocketAddress → Std.Net.SocketAddress
  | .v4 ip service => .v4 ⟨⟨#v[ip.a, ip.b, ip.c, ip.d]⟩, service⟩
  | .v6 ip _ service =>
    .v6 ⟨⟨⟨ip.groups.toArray, by simp [ip.size]⟩⟩, service⟩

def ofIp (service : UInt16) : Std.Net.IPAddr → SocketAddress
  | .v4 ip => .v4 ⟨ip.octets[0], ip.octets[1], ip.octets[2], ip.octets[3]⟩ service
  | .v6 ip => .v6 ⟨ip.segments.toList, by simp⟩ 0 service

def ofNet : Std.Net.SocketAddress → SocketAddress
  | .v4 a => ofIp a.port (.v4 a.addr)
  | .v6 a => ofIp a.port (.v6 a.addr)

/-- The address that a text names, with the help of the system where a name has to be looked up. -/
def resolve (text : String) : Async (Result SocketAddress) := do
  let found ← match HostAddress.ofString text with
    | .ok a =>
      if (SocketAddress.ofNumericHost? a).isSome then pure none
      else
        match ← attempt (DNS.getAddrInfo a.host "") with
        | .ok ips => pure (ips[0]?.map (ofIp a.service))
        | .error _ => pure none
    | .error _ => pure none
  pure (SocketAddress.resolve (fun _ => found) text)

/-! ## The log -/

def instant : IO Instant := do
  let now ← Std.Time.Timestamp.now
  let since := now.toNanosecondsSinceUnixEpoch.val
  pure ((Instant.ofUnix? (since / 1000000000) (since % 1000000000).toNat).getD .epoch)

def isShown : Level → Bool
  | .error | .warn | .info => true
  | _ => false

def print (level : Level) (text : String) : IO Unit := do
  if isShown level then
    let now ← instant
    let stamp := Rfc3339.text { now with nanos := 0, fraction := .inl (by decide) }
    let name := String.ofList (level.name.toList.rightpad 5 ' ')
    IO.eprintln ("[" ++ stamp ++ " " ++ name ++ "] " ++ text)

def notice (n : Notice) : IO Unit := print n.level n.message

def events (id : Uuid) (es : List Event) : IO Unit := do
  for e in es do
    print e.level ("[" ++ id.toString ++ "] " ++ e.message)

/-! ## Sessions -/

def surroundings : IO Surroundings := do
  let now ← instant
  pure
    { now := fun _ => now
      callStack := fun _ => "0: relay"
      callStack_nonempty := fun _ => by decide }

def randomId : IO Uuid := do
  let bytes := (← IO.getRandomBytes 16).toList
  let bytes := bytes.modify 6 (fun b => b &&& 0x0f ||| 0x40)
  pure ((Uuid.ofBytes? (bytes.modify 8 fun b => b &&& 0x3f ||| 0x80)).getD .zero)

def send (socket : Socket) (before w : Wire) : Async Wire := do
  let w ← if w.leaving = [] then pure w else
    match ← attempt (socket.send ⟨w.leaving.toArray⟩) with
    | .ok () => pure { w with leaving := [] }
    | .error e => pure { w with leaving := [], failure := some e }
  if w.closing && !before.closing then
    discard (attempt socket.shutdown)
  pure w

inductive Arrived where
  | atClient (data : Option ByteArray)
  | atTarget (data : Option ByteArray)
  | alarm

def take (w : Wire) : Option ByteArray → Wire
  | some data => { w with arrived := w.arrived ++ data.toList }
  | none => { w with ended := true }

def wantsMore (w : Wire) : Bool := w.arrived = [] && !w.ended && w.failure.isNone

abbrev Running := Relay Wire Wire

def deadline? (r : Running) : Option Nat :=
  match r.stage with
  | .sniffing _ deadline => some deadline
  | _ => none

/-- Waits until something arrives or the sniffing has lasted long enough. -/
def wait (client target : Socket) (now : Nat) (r : Running) : Async Running := do
  let alarm ← match deadline? r with
    | none => pure none
    | some deadline => some <$> Selector.sleep (.ofInt (deadline - now))
  let ofClient : Array (Selectable Arrived) :=
    if wantsMore r.client.inner then
      #[.case (client.recvSelector 8192) fun data => pure (.atClient data)]
    else #[]
  let ofTarget : Array (Selectable Arrived) :=
    if wantsMore r.target && alarm.isNone then
      #[.case (target.recvSelector 8192) fun data => pure (.atTarget data)]
    else #[]
  let ofAlarm : Array (Selectable Arrived) :=
    match alarm with
    | none => #[]
    | some alarm => #[.case alarm fun _ => pure .alarm]
  match ← attempt (Selectable.one (ofClient ++ ofTarget ++ ofAlarm)) with
  | .ok (.atClient data) =>
    pure { r with client := { r.client with inner := take r.client.inner data } }
  | .ok (.atTarget data) => pure { r with target := take r.target data }
  | .ok .alarm => pure r
  | .error e =>
    pure { r with client := { r.client with inner := { r.client.inner with failure := some e } } }

/-- Polls a session to its end. -/
partial def run (client target : Socket) (start : Nat) (r : Running) :
    Async (RelayEnd × Running) := do
  let now := (← IO.monoMsNow) - start
  let logged := r.client.monitor.log.length
  let (polled, again) := r.poll (← surroundings) now 128
  events r.client.monitor.id (polled.client.monitor.log.drop logged)
  let busy := polled.client.inner.leaving ≠ [] || polled.target.leaving ≠ []
  let inner ← send client r.client.inner polled.client.inner
  let wire ← send target r.target polled.target
  let r : Running := { polled with client := { polled.client with inner }, target := wire }
  match r.stage with
  | .over result => pure (result, r)
  | _ =>
    if again || busy then run client target start r
    else run client target start (← wait client target now r)

def connect (text : String) : Async (Result Socket) := do
  match ← resolve text with
  | .error e => pure (.error e)
  | .ok address => attempt do
    let target ← TCP.Socket.Client.mk
    target.connect (toNet address)
    pure target

def handle (c : Config) (socket : Socket) (s : Session Wire) : Async Unit := do
  events s.id s.client.monitor.log
  let logged := s.client.monitor.log.length
  let connected ← connect c.targetAddress
  let wired := connected.map fun _ => ({} : Wire)
  match s.toRelay c.targetAddress c.relaySettings wired, connected with
  | .ok r, .ok target =>
    events s.id (r.client.monitor.log.drop logged)
    let (result, r) ← run socket target (← IO.monoMsNow) r
    match result with
    | .returned (.error e) =>
      events s.id ((Session.report r.client e).monitor.log.drop r.client.monitor.log.length)
    | _ => pure ()
  | .error (e, t), _ => events s.id ((Session.report t e).monitor.log.drop logged)
  | _, _ => pure ()

/-! ## The service -/

partial def accept (c : Config) (l : Listener) (server : TCP.Socket.Server) : Async Unit := do
  match ← attempt server.accept with
  | .error e => notice (.acceptFailed e)
  | .ok socket =>
    match l.accept (← randomId) (.ok (({} : Wire), ofNet (← socket.getPeerName))) with
    | .ok session => background (handle c socket session)
    | .error e => notice (.stopped (.network e))
  accept c l server

def serve (c : Config) : Async UInt32 := do
  let server ← TCP.Socket.Server.mk
  let bound ← match ← resolve c.listenAddress with
    | .error e => pure (.error e)
    | .ok address => attempt do
      server.bind (toNet address)
      server.listen 1024
      pure address
  let (result, report) := Listener.bind c.listenAddress c.sniffer bound
  notice report
  match result with
  | .error e =>
    notice (.stopped (.network e))
    pure 1
  | .ok l =>
    accept c l server
    pure 0

def readFile (path : String) : IO FileContent := do
  try
    pure (.bytes (← IO.FS.readBinFile path).toList)
  catch
    | .noFileOrDirectory .. => pure .absent
    | _ => pure .directory

def start (a : Arguments) : IO UInt32 := do
  let (config, notices) := a.prepare (← readFile a.configFile)
  for n in notices do
    notice n
  match config with
  | none => pure 1
  | some c => (serve c).block

end PeekRelay.Program

open PeekRelay in
def main (words : List String) : IO UInt32 := do
  let environment : Overrides := {
    listenAddress := ← IO.getEnv CommandLine.listenVariable
    targetAddress := ← IO.getEnv CommandLine.targetVariable }
  match CommandLine.read environment words with
  | .help =>
    IO.print CommandLine.helpText
    pure 0
  | .version =>
    IO.print CommandLine.versionText
    pure 0
  | .misuse =>
    IO.eprint CommandLine.usageText
    pure 2
  | .serve a => Program.start a
