import PeekRelay.Bytes
/-!
# Replay queues

Bytes read ahead, to be handed out again from the front. A queue is a row of stored bytes with a
cursor behind the last byte handed out.
-/
namespace PeekRelay

structure ReplayQueue where
  stored : Bytes := []
  cursor : Nat := 0
  deriving DecidableEq, Repr

namespace ReplayQueue

def append (q : ReplayQueue) (bs : Bytes) : ReplayQueue := { q with stored := q.stored ++ bs }

def hasRemaining (q : ReplayQueue) : Bool := q.cursor < q.stored.length

def remaining (q : ReplayQueue) : Nat := q.stored.length - q.cursor

def waiting (q : ReplayQueue) : Bytes := q.stored.drop (min q.cursor q.stored.length)

/-- Hands out as many bytes as a buffer with room for `room` takes. -/
def copyInto (q : ReplayQueue) (room : Nat) : Bytes × ReplayQueue :=
  if room = 0 ∨ q.hasRemaining = false then ([], q)
  else
    let handed := q.waiting.upTo room
    (handed, { q with cursor := q.cursor + handed.length })

/-- Passes over at most `n` bytes, and says over how many. -/
def consume (q : ReplayQueue) (n : Nat) : Nat × ReplayQueue :=
  let passed := min n q.remaining
  (passed, { q with cursor := q.cursor + passed })

/-- Gives the storage back, which only a queue without waiting bytes may do. -/
def release (q : ReplayQueue) (_ : q.hasRemaining = false) : ReplayQueue := {}

def release? (q : ReplayQueue) : Option ReplayQueue :=
  if h : q.hasRemaining = false then some (q.release h) else none

/-- Whether the queue holds storage: bytes that were handed out keep theirs until it is released. -/
def isAllocated (q : ReplayQueue) : Bool := !q.stored.isEmpty

def intoRemaining (q : ReplayQueue) : Bytes :=
  if q.cursor = 0 then q.stored else q.stored.drop (min q.cursor q.stored.length)

end ReplayQueue

end PeekRelay
