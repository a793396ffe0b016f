import PeekRelay.ByteStream
/-!
# Copying in both directions

A session does not depend on how its two directions are copied: that is left to a copier, which
knows the streams only by their calls. Here is one made of two pumps. A pump copies one direction
through a buffer: it reads what fits, writes until the buffer is empty, and at the end of the input
flushes and shuts down the output. It is polled, and works in steps that make one call each, apart
from a read or a flush after a call that is pending.
-/
namespace PeekRelay

/-- The calls that copy one direction, on the state they share with the other one. -/
structure Route (s : Type) where
  read : ReadBuffer → s → Poll (Result ReadBuffer) × s
  write : Bytes → s → Poll (Result Nat) × s
  flush : s → Poll (Result Unit) × s
  shutdown : s → Poll (Result Unit) × s

inductive CopyTurn where
  /-- The flag says whether the copy wants to be polled again at once. -/
  | waits (again : Bool)
  | finished (toTarget toClient : Nat)
  | failed (e : IoError)
  | panicked
  deriving DecidableEq, Repr

/-- What is polled to copy in both directions. -/
structure Copier where
  State : Type
  start : State
  poll {s : Type} (toTarget toClient : Route s) (budget : Nat) : State → s → CopyTurn × State × s

inductive Pump.Phase where
  | running | closing | done
  deriving DecidableEq, Repr

structure Pump where
  /-- What the buffer holds, with the bytes that were written already. -/
  buffer : Bytes := []
  /-- How many bytes at the front of the buffer were written. -/
  start : Nat := 0
  /-- Whether the end of the input was seen. -/
  ended : Bool := false
  /-- Whether something was written since the last flush. -/
  unflushed : Bool := false
  copied : Nat := 0
  phase : Pump.Phase := .running
  deriving DecidableEq, Repr

namespace Pump

inductive Turn where
  | waits
  | spent
  | finished
  | failed (e : IoError)
  | panicked
  deriving DecidableEq, Repr

inductive Stage where
  | fill | empty | finish | close
  deriving DecidableEq, Repr

inductive Move where
  | next (stage : Stage)
  | stop (turn : Turn)
  deriving DecidableEq, Repr

def size : Nat := 8192

def writeZero : IoError := .custom .writeZero "write zero byte into writer"

def unwritten (p : Pump) : Bytes := p.buffer.drop p.start

def takesMore (p : Pump) : Bool := p.buffer.length < size && !p.ended

def readBuffer (p : Pump) : ReadBuffer := { filled := p.buffer, room := size - p.buffer.length }

/-- The buffer after a read; a read of nothing is the end. -/
def refilled (p : Pump) (b : ReadBuffer) : Pump :=
  { p with buffer := b.filled, ended := p.buffer.length = b.filled.length }

def wrote (p : Pump) (n : Nat) : Pump :=
  { p with start := p.start + n, copied := p.copied + n, unflushed := true }

def cleared (p : Pump) : Pump := { p with buffer := [], start := 0 }

variable {s : Type} (retries : IoError → Bool) (route : Route s)

/-- Reads what fits. Whether a call that failed is made again is up to `retries`. -/
def fill (p : Pump) (state : s) : Move × Pump × s :=
  if p.takesMore then
    match route.read p.readBuffer state with
    | (.ready (.ok b), state) => (.next .empty, p.refilled b, state)
    | (.ready (.error e), state) =>
      (if retries e then .next .fill else .stop (.failed e), p, state)
    | (.pending, state) =>
      if p.unwritten ≠ [] then (.next .empty, p, state)
      else if p.unflushed then
        match route.flush state with
        | (.ready (.ok ()), state) => (.stop .waits, { p with unflushed := false }, state)
        | (.ready (.error e), state) => (.stop (.failed e), p, state)
        | (.pending, state) => (.stop .waits, p, state)
      else (.stop .waits, p, state)
  else (.next .empty, p, state)

/-- After a write that is pending, the buffer is filled up once before the pump waits. -/
def topUp (p : Pump) (state : s) : Move × Pump × s :=
  if p.takesMore then
    match route.read p.readBuffer state with
    | (.ready (.ok b), state) => (.stop .waits, p.refilled b, state)
    | (.ready (.error e), state) => (.stop (.failed e), p, state)
    | (.pending, state) => (.stop .waits, p, state)
  else (.stop .waits, p, state)

def empty (p : Pump) (state : s) : Move × Pump × s :=
  if p.unwritten = [] then (.next (if p.ended then .finish else .fill), p.cleared, state)
  else
    match route.write p.unwritten state with
    | (.ready (.ok n), state) =>
      if n = 0 then (.stop (.failed writeZero), p, state)
      else if n ≤ p.unwritten.length then (.next .empty, p.wrote n, state)
      else (.stop .panicked, p, state)
    | (.ready (.error e), state) =>
      (if retries e then .next .empty else .stop (.failed e), p, state)
    | (.pending, state) => p.topUp route state

def finish (p : Pump) (state : s) : Move × Pump × s :=
  match route.flush state with
  | (.ready (.ok ()), state) => (.next .close, { p with phase := .closing }, state)
  | (.ready (.error e), state) => (.stop (.failed e), p, state)
  | (.pending, state) => (.stop .waits, p, state)

def close (p : Pump) (state : s) : Move × Pump × s :=
  match route.shutdown state with
  | (.ready (.ok ()), state) => (.stop .finished, { p with phase := .done }, state)
  | (.ready (.error e), state) => (.stop (.failed e), p, state)
  | (.pending, state) => (.stop .waits, p, state)

def step : Stage → Pump → s → Move × Pump × s
  | .fill, p, state => p.fill retries route state
  | .empty, p, state => p.empty retries route state
  | .finish, p, state => p.finish route state
  | .close, p, state => p.close route state

/-- Steps until one of them stops. A pump whose budget is spent wants to be polled again. -/
def run : Nat → Stage → Pump → s → Turn × Pump × s
  | 0, _, p, state => (.spent, p, state)
  | budget + 1, stage, p, state =>
    match step retries route stage p state with
    | (.stop turn, p, state) => (turn, p, state)
    | (.next stage, p, state) => run budget stage p state

/-- A poll starts by reading, whatever it was that the last poll waited for. -/
def poll (budget : Nat) (p : Pump) (state : s) : Turn × Pump × s :=
  match p.phase with
  | .running => run retries route budget .fill p state
  | .closing => run retries route budget .close p state
  | .done => (.finished, p, state)

def Turn.join (up down : Pump) (turn turn' : Turn) : CopyTurn :=
  if turn = .finished ∧ turn' = .finished then .finished up.copied down.copied
  else .waits (turn = .spent || turn' = .spent)

def pollSecond (budget : Nat) (up : Pump) (turn : Turn) (down : Pump) (state : s) :
    CopyTurn × (Pump × Pump) × s :=
  match down.poll retries route budget state with
  | (.failed e, down, state) => (.failed e, (up, down), state)
  | (.panicked, down, state) => (.panicked, (up, down), state)
  | (turn', down, state) => (turn.join up down turn', (up, down), state)

/-- Polls both pumps, the one to the target first. An error in one ends the copy. -/
def pollBoth (toTarget toClient : Route s) (budget : Nat) (pumps : Pump × Pump) (state : s) :
    CopyTurn × (Pump × Pump) × s :=
  match pumps.1.poll retries toTarget budget state with
  | (.failed e, up, state) => (.failed e, (up, pumps.2), state)
  | (.panicked, up, state) => (.panicked, (up, pumps.2), state)
  | (turn, up, state) => pollSecond retries toClient budget up turn pumps.2 state

/-- The copier made of two pumps. -/
abbrev copier : Copier where
  State := Pump × Pump
  start := ({}, {})
  poll := pollBoth retries

end Pump

/-- The copier of the service makes calls again that were interrupted. -/
abbrev Copier.pumps : Copier := Pump.copier IoError.isInterrupted

end PeekRelay
