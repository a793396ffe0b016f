/-!
# Bytes

Payload travels as plain lists of bytes. A slice carries the proof that it lies inside its list.
-/
namespace PeekRelay

abbrev Bytes := List UInt8

namespace Bytes

/-- The first `n` bytes of a list that has at least `n`. -/
def slice (bs : Bytes) (n : Nat) (_ : n ≤ bs.length) : Bytes := bs.take n

/-- The first bytes of the list, at most `n` of them. -/
def upTo (bs : Bytes) (n : Nat) : Bytes := bs.slice (min n bs.length) (Nat.min_le_right ..)

theorem upTo_eq_take (bs : Bytes) (n : Nat) : bs.upTo n = bs.take n := by
  rcases Nat.le_total n bs.length with h | h
  · simp [upTo, slice, Nat.min_eq_left h]
  · simp [upTo, slice, Nat.min_eq_right h, List.take_of_length_le h]

theorem length_upTo (bs : Bytes) (n : Nat) : (bs.upTo n).length = min n bs.length := by
  simp [upTo_eq_take]

def toUpper (bs : Bytes) : Bytes :=
  bs.map fun b => if 97 ≤ b && b ≤ 122 then b - 32 else b

end Bytes

end PeekRelay
