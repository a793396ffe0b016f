import PeekRelay.ByteStream
/-!
# Echoes

A target that gives back all it was sent, in upper case, and ends when the other side does.
-/
namespace PeekRelay

structure Echo where
  received : Bytes := []
  given : Nat := 0
  ended : Bool := false
  deriving DecidableEq, Repr

namespace Echo

def waiting (e : Echo) : Bytes := e.received.toUpper.drop e.given

private def fill (e : Echo) (room : Nat) : Fill room × Echo :=
  (⟨e.waiting.take room, List.length_take_le ..⟩,
    { e with given := e.given + min room e.waiting.length })

private def take (e : Echo) (data : Bytes) : Echo := { e with received := e.received ++ data }

instance : ByteStream Echo where
  read e room :=
    let (fill, e) := e.fill room
    { answer := .ok (.fits fill), next := e }
  pollRead e buffer :=
    if e.waiting = [] && !e.ended then { answer := .pending, next := e }
    else
      let (fill, e) := e.fill buffer.room
      { answer := .ready (.ok fill), next := e }
  write e data := { answer := .ok data.length, next := e.take data }
  pollWrite e data := { answer := .ready (.ok data.length), next := e.take data }
  writeVectored e slices := { answer := .ok slices.flatten.length, next := e.take slices.flatten }
  pollWriteVectored e slices :=
    { answer := .ready (.ok slices.flatten.length), next := e.take slices.flatten }
  isVectored _ := true
  flush e := { answer := .ok (), next := e }
  pollFlush e := { answer := .ready (.ok ()), next := e }
  pollShutdown e := { answer := .ready (.ok ()), next := { e with ended := true } }

end Echo

end PeekRelay
