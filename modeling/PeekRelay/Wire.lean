import PeekRelay.ByteStream
/-!
# Wires

A stream over a socket, seen from between two visits to the socket: what has arrived and was not
read, and what was written and has not left.
-/
namespace PeekRelay

structure Wire where
  arrived : Bytes := []
  failure : Option IoError := none
  ended : Bool := false
  leaving : Bytes := []
  closing : Bool := false
  deriving DecidableEq, Repr

namespace Wire

def wouldBlock : IoError := .bare .wouldBlock

def pollRead (w : Wire) (room : Nat) : Reply Wire (Poll (Result (Fill room))) :=
  if w.arrived ≠ [] then
    { answer := .ready (.ok ⟨w.arrived.take room, List.length_take_le ..⟩)
      next := { w with arrived := w.arrived.drop room } }
  else match w.failure with
    | some e => { answer := .ready (.error e), next := { w with failure := none } }
    | none =>
      if w.ended then { answer := .ready (.ok ⟨[], Nat.zero_le _⟩), next := w }
      else { answer := .pending, next := w }

/-- A wire takes the next bytes when the last ones have left. -/
def pollWrite (w : Wire) (data : Bytes) : Reply Wire (Poll (Result Nat)) :=
  if w.leaving = [] then { answer := .ready (.ok data.length), next := { w with leaving := data } }
  else { answer := .pending, next := w }

def pollFlush (w : Wire) : Reply Wire (Poll (Result Unit)) :=
  { answer := if w.leaving = [] then .ready (.ok ()) else .pending, next := w }

def pollShutdown (w : Wire) : Reply Wire (Poll (Result Unit)) :=
  if w.leaving = [] then { answer := .ready (.ok ()), next := { w with closing := true } }
  else { answer := .pending, next := w }

def atOnce {α : Type} (r : Reply Wire (Poll (Result α))) : Reply Wire (Result α) where
  answer := match r.answer with
    | .ready result => result
    | .pending => .error wouldBlock
  next := r.next

instance : ByteStream Wire where
  read w room :=
    let r := atOnce (w.pollRead room)
    { answer := r.answer.map Claim.fits, next := r.next }
  pollRead w buffer := w.pollRead buffer.room
  write w data := atOnce (w.pollWrite data)
  pollWrite := pollWrite
  writeVectored w slices := atOnce (w.pollWrite slices.flatten)
  pollWriteVectored w slices := w.pollWrite slices.flatten
  isVectored _ := true
  flush w := atOnce w.pollFlush
  pollFlush := pollFlush
  pollShutdown := pollShutdown

end Wire

end PeekRelay
