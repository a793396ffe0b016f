import PeekRelay.Script
import PeekRelay.Tap.Sniff
/-!
# Whole reads and writes

Loops of calls: filling a buffer, writing all of a text, reading to the end, and polling until
ready. A loop makes a limited number of attempts, and yields nothing if they do not suffice; a
script comes to its end, so on a script only so many are needed.
-/
namespace PeekRelay

/-- What came out of reading to the end: the bytes of each read that gave some, latest first, and
the error that ended it, if one did. -/
structure Drain where
  chunks : List Bytes := []
  failure : Option IoError := none
  deriving DecidableEq, Repr

namespace Drain

def data (d : Drain) : Bytes := d.chunks.reverse.flatten

def sizes (d : Drain) : List Nat := d.chunks.reverse.map List.length

def reads (d : Drain) : Nat := d.chunks.length

def collect {s : Type} (readOnce : s → Option (Outcome (Result Bytes)) × s) :
    Nat → List Bytes → s → Option (Outcome Drain) × s
  | 0, _, state => (none, state)
  | attempts + 1, chunks, state =>
    match readOnce state with
    | (none, state) => (none, state)
    | (some .panicked, state) => (some .panicked, state)
    | (some (.returned (.error e)), state) => (some (.returned ⟨chunks, some e⟩), state)
    | (some (.returned (.ok [])), state) => (some (.returned ⟨chunks, none⟩), state)
    | (some (.returned (.ok bs)), state) => collect readOnce attempts (bs :: chunks) state

end Drain

namespace Tap

variable {σ : Type} [ByteStream σ] (env : Surroundings)

/-- Fills a buffer. Interrupted reads are made again; an early end is an error. -/
def readExact (attempts room : Nat) (got : Bytes) (t : Tap σ) :
    Option (Outcome (Result Bytes)) × Tap σ :=
  if got.length < room then
    match attempts with
    | 0 => (none, t)
    | attempts + 1 =>
      match t.read env (room - got.length) with
      | (.panicked, t) => (some .panicked, t)
      | (.returned (.error e), t) =>
        if e.isInterrupted then readExact attempts room got t
        else (some (.returned (.error e)), t)
      | (.returned (.ok []), t) =>
        (some (.returned (.error (.custom .unexpectedEof "failed to fill whole buffer"))), t)
      | (.returned (.ok bs), t) => readExact attempts room (got ++ bs) t
  else (some (.returned (.ok got)), t)

/-- Writes all of the data. Interrupted writes are made again; a write of nothing is an error, and
so is one that claims more than it was offered, which panics. -/
def writeAll (attempts : Nat) (data : Bytes) (t : Tap σ) : Option (Outcome (Result Unit)) × Tap σ :=
  if data = [] then (some (.returned (.ok ())), t)
  else
    match attempts with
    | 0 => (none, t)
    | attempts + 1 =>
      match t.write env data with
      | (.error e, t) =>
        if e.isInterrupted then writeAll attempts data t else (some (.returned (.error e)), t)
      | (.ok 0, t) =>
        (some (.returned (.error (.custom .writeZero "failed to write whole buffer"))), t)
      | (.ok n, t) =>
        if n ≤ data.length then writeAll attempts (data.drop n) t else (some .panicked, t)

def drain (attempts room : Nat) (t : Tap σ) : Option (Outcome Drain) × Tap σ :=
  Drain.collect (fun t =>
    let (outcome, t) := t.read env room
    (some outcome, t)) attempts [] t

def readWhenReady (room : Nat) : Nat → Tap σ → Option (Outcome (Result Bytes)) × Tap σ
  | 0, t => (none, t)
  | attempts + 1, t =>
    match t.pollRead env { room } with
    | (.pending, t) => readWhenReady room attempts t
    | (.ready (.error e), t) => (some (.returned (.error e)), t)
    | (.ready (.ok buffer), t) => (some (.returned (.ok buffer.filled)), t)

def drainWhenReady (attempts room : Nat) (t : Tap σ) : Option (Outcome Drain) × Tap σ :=
  Drain.collect (readWhenReady env room attempts) attempts [] t

/-- Reads the wrapped stream itself, past the queue and the copies. -/
def readInner (room : Nat) (t : Tap σ) : Outcome (Result Bytes) × Tap σ :=
  let reply := ByteStream.read t.inner room
  let t := t.settle reply
  match reply.answer with
  | .ok (.tooMany _) => (.panicked, t)
  | .ok (.fits fill) => (.returned (.ok fill.val), t)
  | .error e => (.returned (.error e), t)

def drainInner (attempts room : Nat) (t : Tap σ) : Option (Outcome Drain) × Tap σ :=
  Drain.collect (fun t =>
    let (outcome, t) := t.readInner room
    (some outcome, t)) attempts [] t

end Tap

/-- A clock that moves on by one second at each look. -/
def Surroundings.ticking : Surroundings where
  now n := (Instant.ofUnix? n 0).getD .epoch
  callStack _ := "0: read"
  callStack_nonempty _ := by decide

/-- More attempts than this no loop of calls on a tapped script makes. -/
def Tap.attempts (t : Tap Script) : Nat := t.inner.reach + t.replayPending + 2

end PeekRelay
