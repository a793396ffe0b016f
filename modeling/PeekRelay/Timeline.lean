import PeekRelay.Time.Instant
/-!
# Timelines

When a connection first read and wrote, and when its last read and its last write began and ended.
-/
namespace PeekRelay

inductive Direction where
  | read | write
  deriving DecidableEq, Repr

def Direction.name : Direction → String
  | read => "Read"
  | write => "Write"

structure Timeline where
  firstReadAt : Option Instant := none
  firstWriteAt : Option Instant := none
  lastReadStart : Option Instant := none
  lastReadEnd : Option Instant := none
  lastWriteStart : Option Instant := none
  lastWriteEnd : Option Instant := none
  deriving DecidableEq

namespace Timeline

instance : Inhabited Timeline := ⟨{}⟩

/-- The first start of a direction is kept for good, the last one follows every start. -/
def started (t : Timeline) (direction : Direction) (at_ : Instant) : Timeline :=
  match direction with
  | .read => { t with firstReadAt := some (t.firstReadAt.getD at_), lastReadStart := some at_ }
  | .write => { t with firstWriteAt := some (t.firstWriteAt.getD at_), lastWriteStart := some at_ }

def finished (t : Timeline) (direction : Direction) (at_ : Instant) : Timeline :=
  match direction with
  | .read => { t with lastReadEnd := some at_ }
  | .write => { t with lastWriteEnd := some at_ }

def fields (t : Timeline) : List (String × Option Instant) :=
  [("first_read_at", t.firstReadAt), ("first_write_at", t.firstWriteAt),
    ("last_read_start", t.lastReadStart), ("last_read_end", t.lastReadEnd),
    ("last_write_start", t.lastWriteStart), ("last_write_end", t.lastWriteEnd)]

def stamps (t : Timeline) : List String :=
  ([("first_read_at", t.firstReadAt), ("first_write_at", t.firstWriteAt),
    ("last_read_end", t.lastReadEnd), ("last_read_start", t.lastReadStart),
    ("last_write_end", t.lastWriteEnd), ("last_write_start", t.lastWriteStart)].filter
      fun f => f.2.isSome).map Prod.fst

def changedSince (t earlier : Timeline) : List String :=
  ((t.fields.zip earlier.fields).filter fun p => p.1.2 ≠ p.2.2).map fun p => p.1.1

end Timeline

end PeekRelay
