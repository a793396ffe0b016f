import PeekRelay.IoError
import PeekRelay.Monitor
/-!
# Byte streams

A duplex stream of bytes, read and written by blocking calls or by polls. While a call runs, other
parts of the program may use a handle; the reply lists the stops they asked for.
-/
namespace PeekRelay

inductive Poll (α : Type) where
  | pending
  | ready (a : α)
  deriving DecidableEq, Repr

/-- A call that panics leaves its stream as it was at that point. -/
inductive Outcome (α : Type) where
  | returned (a : α)
  | panicked
  deriving DecidableEq, Repr

/-- Bytes that a read puts into a buffer with room for `room`. -/
abbrev Fill (room : Nat) := { bs : Bytes // bs.length ≤ room }

/-- The count that a blocking read claims to have put into its buffer. -/
inductive Claim (room : Nat) where
  | fits (bytes : Fill room)
  | tooMany (excess : Nat)

/-- The buffer of a polled read: what it holds already, and how much more fits. -/
structure ReadBuffer where
  filled : Bytes := []
  room : Nat
  deriving DecidableEq, Repr

def ReadBuffer.put (b : ReadBuffer) (fill : Fill b.room) : ReadBuffer :=
  { filled := b.filled ++ fill.val, room := b.room - fill.val.length }

structure Reply (σ α : Type) where
  stops : List Stop := []
  answer : α
  next : σ

abbrev Result (α : Type) := Except IoError α

class ByteStream (σ : Type) where
  read : σ → (room : Nat) → Reply σ (Result (Claim room))
  pollRead : σ → (buffer : ReadBuffer) → Reply σ (Poll (Result (Fill buffer.room)))
  write : σ → Bytes → Reply σ (Result Nat)
  pollWrite : σ → Bytes → Reply σ (Poll (Result Nat))
  writeVectored : σ → List Bytes → Reply σ (Result Nat)
  pollWriteVectored : σ → List Bytes → Reply σ (Poll (Result Nat))
  isVectored : σ → Bool
  flush : σ → Reply σ (Result Unit)
  pollFlush : σ → Reply σ (Poll (Result Unit))
  pollShutdown : σ → Reply σ (Poll (Result Unit))

end PeekRelay
