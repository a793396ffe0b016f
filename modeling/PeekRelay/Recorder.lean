import PeekRelay.Event
/-!
# Recorders

The diagnostic record of one connection: copies of the bytes that went through it, the times of its
operations, its last failed read, a count of its sniffing reads, and its log. The copies are its
read mirror and its write mirror; copying, the mirroring of the connection, can be stopped for good
at any time. A copy is appended in two steps, and stopping takes two as well, since other threads
may run in between.
-/
namespace PeekRelay

/-- What a recorder learns from outside: the time at each look at the clock, and the call stack that
was active then. -/
structure Surroundings where
  now : Nat → Instant
  callStack : Nat → String
  callStack_nonempty : ∀ n, callStack n ≠ ""

/-- The read mirror and the write mirror. -/
structure Copies where
  stopped : Bool
  read : Bytes := []
  written : Bytes := []
  deriving DecidableEq, Repr

namespace Copies

def append (c : Copies) (direction : Direction) (bs : Bytes) : Copies :=
  if c.stopped then c
  else match direction with
    | .read => { c with read := c.read ++ bs }
    | .write => { c with written := c.written ++ bs }

def released : Copies := { stopped := true }

end Copies

structure Recorder where
  id : Uuid
  copying : Bool
  copies : Copies
  timeline : Timeline := {}
  failure : Option FailureTrace := none
  /-- One for each sniffing read that succeeded. A counter of 64 bits begins again only after 2⁶⁴ of
  them, which no connection lives to see; a snapshot shows the count that wide. -/
  sniffCount : Nat := 0
  looks : Nat := 0
  log : List Event := []
  deriving DecidableEq

namespace Recorder

/-- A new recorder; without copying it never holds payload. -/
def new (id : Uuid) (copying : Bool) : Recorder :=
  { id, copying, copies := { stopped := !copying } }

def note (r : Recorder) (e : Event) : Recorder := { r with log := r.log ++ [e] }

/-- The second step of a copy, under the lock: the bytes are kept unless a stop came in between. -/
def append (r : Recorder) (direction : Direction) (bs : Bytes) : Recorder :=
  { r with copies := r.copies.append direction bs }

def keep (r : Recorder) (direction : Direction) (bs : Bytes) : Recorder :=
  if r.copying then r.append direction bs else r

/-- The first step of a stop, without the lock. -/
def clearFlag (r : Recorder) : Recorder := { r with copying := false }

/-- The second step of a stop, under the lock. -/
def releaseCopies (r : Recorder) : Recorder :=
  let r := if r.copies.stopped then r
    else r.note (.copyingStopped r.copies.read.length r.copies.written.length)
  { r with copies := .released }

def stopCopying (r : Recorder) : Recorder := r.clearFlag.releaseCopies

def started (env : Surroundings) (r : Recorder) (direction : Direction) : Recorder :=
  { r with timeline := r.timeline.started direction (env.now r.looks), looks := r.looks + 1 }

def finished (env : Surroundings) (r : Recorder) (direction : Direction) : Recorder :=
  { r with timeline := r.timeline.finished direction (env.now r.looks), looks := r.looks + 1 }

/-- Keeps the context of a failed read in place of any earlier one. -/
def recordFailure (env : Surroundings) (r : Recorder) (e : IoError) : Recorder :=
  { r.note (.failureCaptured e.kind) with
    failure := some (.capture e (env.now r.looks) (env.callStack r.looks))
    looks := r.looks + 1 }

/-- Counts one sniffing read, and yields the count before it. -/
def nextSniff (r : Recorder) : Nat × Recorder :=
  (r.sniffCount, { r with sniffCount := r.sniffCount + 1 })

def snapshot (r : Recorder) (sniffing : Bool) : Snapshot where
  connectionId := r.id
  sniffing := sniffing
  copying := !r.copies.stopped
  sniffCount := UInt64.ofNat r.sniffCount
  readCopy := r.copies.read
  writeCopy := r.copies.written
  timeline := r.timeline
  failure := r.failure

end Recorder

end PeekRelay
