import PeekRelay.Recorder
/-!
# Monitors

The part of a wrapped connection that its handles share. It outlives the connection: a handle can
stop sniffing and copying from anywhere, and can ask for diagnostics at any time.
-/
namespace PeekRelay

structure SniffSettings where
  /-- Whether to mirror the connection. -/
  copying : Bool := true
  showPayload : Bool := true
  /-- Whether to go on mirroring after the handoff. -/
  keepCopies : Bool := false
  deriving DecidableEq, Repr

structure Monitor where
  sniffing : Bool := true
  showPayload : Bool
  recorder : Recorder
  deriving DecidableEq

/-- What a handle can ask for: to stop the sniffing, or the copying, which is the mirroring. -/
inductive Stop where
  | sniffing | copying
  deriving DecidableEq, Repr

namespace Monitor

def new (id : Uuid) (settings : SniffSettings) : Monitor :=
  { showPayload := settings.showPayload, recorder := .new id settings.copying }

def id (m : Monitor) : Uuid := m.recorder.id

def log (m : Monitor) : List Event := m.recorder.log

def note (m : Monitor) (e : Event) : Monitor := { m with recorder := m.recorder.note e }

/-- Only the first stop is reported. -/
def stopSniffing (m : Monitor) : Monitor :=
  if m.sniffing then { m.note (.sniffingStopped m.recorder.sniffCount) with sniffing := false }
  else m

def stopCopying (m : Monitor) : Monitor := { m with recorder := m.recorder.stopCopying }

def heed (m : Monitor) : Stop → Monitor
  | .sniffing => m.stopSniffing
  | .copying => m.stopCopying

def heedAll (m : Monitor) (stops : List Stop) : Monitor := stops.foldl heed m

def snapshot (m : Monitor) : Snapshot := m.recorder.snapshot m.sniffing

def dump (m : Monitor) : Monitor := m.note (.diagnosed m.snapshot)

end Monitor

/-- What can be asked about a connection, also about one that is gone or never was. -/
structure Diagnostics where
  readCopy : Bytes := []
  writeCopy : Bytes := []
  failure : Option FailureTrace := none
  sniffCount : Nat := 0
  timeline : Timeline := {}
  snapshot : Option Snapshot := none
  deriving DecidableEq

namespace Diagnostics

def ofMonitor (m : Monitor) : Diagnostics where
  readCopy := m.recorder.copies.read
  writeCopy := m.recorder.copies.written
  failure := m.recorder.failure
  sniffCount := m.recorder.sniffCount
  timeline := m.recorder.timeline
  snapshot := some m.snapshot

/-- An absent connection has nothing to tell. -/
def ofOption (m : Option Monitor) : Diagnostics := (m.map ofMonitor).getD {}

end Diagnostics

end PeekRelay
