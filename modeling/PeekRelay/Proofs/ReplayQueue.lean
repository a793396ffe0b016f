import Mathlib.Data.List.Forall2
import PeekRelay.ReplayQueue
/-!
# Replay queues hand out their bytes in order

What waits in a queue is a list: an append extends it at the back, and bytes are handed out from its
front. The cursor is of no other consequence as long as it stands inside the stored bytes.
-/
namespace PeekRelay.ReplayQueue

/-- The cursor stands inside the stored bytes. -/
def InBounds (q : ReplayQueue) : Prop := q.cursor ≤ q.stored.length

theorem inBounds_empty : InBounds {} := Nat.le_refl _

theorem waiting_eq_drop (q : ReplayQueue) : q.waiting = q.stored.drop q.cursor :=
  List.drop_eq_drop_min.symm

@[simp] theorem length_waiting (q : ReplayQueue) : q.waiting.length = q.remaining := by
  rw [waiting_eq_drop, List.length_drop, remaining]

theorem hasRemaining_eq_false_iff (q : ReplayQueue) : q.hasRemaining = false ↔ q.waiting = [] := by
  rw [waiting_eq_drop, List.drop_eq_nil_iff, hasRemaining, decide_eq_false_iff_not, Nat.not_lt]

@[simp] theorem intoRemaining_eq_waiting (q : ReplayQueue) : q.intoRemaining = q.waiting := by
  unfold intoRemaining
  split
  · next h => rw [waiting_eq_drop, h, List.drop_zero]
  · rfl

section Append

variable {q : ReplayQueue}

theorem waiting_append (h : q.InBounds) (bs : Bytes) :
    (q.append bs).waiting = q.waiting ++ bs := by
  rw [waiting_eq_drop, waiting_eq_drop, append, List.drop_append_of_le_length h]

theorem InBounds.append (h : q.InBounds) (bs : Bytes) : (q.append bs).InBounds := by
  have hlen : q.stored.length ≤ (q.stored ++ bs).length := by simp
  exact Nat.le_trans h hlen

theorem remaining_le_append (q : ReplayQueue) (bs : Bytes) :
    q.remaining ≤ (q.append bs).remaining := by
  simp only [remaining, ReplayQueue.append, List.length_append]
  omega

@[simp] theorem append_nil (q : ReplayQueue) : q.append [] = q := by
  simp [ReplayQueue.append]

end Append

section HandOut

variable (q : ReplayQueue) (room : Nat)

def advance (q : ReplayQueue) (room : Nat) : ReplayQueue :=
  { q with cursor := q.cursor + min room q.waiting.length }

theorem waiting_advance : (q.advance room).waiting = q.waiting.drop room := by
  rw [waiting_eq_drop, advance, ← List.drop_drop, ← waiting_eq_drop]
  exact List.drop_eq_drop_min.symm

theorem InBounds.advance {q : ReplayQueue} (h : q.InBounds) : (q.advance room).InBounds := by
  have hlen : q.waiting.length = q.stored.length - q.cursor := length_waiting q
  unfold InBounds at *
  change q.cursor + min room q.waiting.length ≤ q.stored.length
  omega

@[simp] theorem advance_upTo : q.advance (q.waiting.upTo room).length = q.advance room := by
  rw [advance, Bytes.length_upTo, Nat.min_assoc, Nat.min_self]
  rfl

theorem copyInto_fst : (q.copyInto room).1 = q.waiting.take room := by
  unfold copyInto
  split
  · next h =>
    rcases h with rfl | h
    · rfl
    · rw [(hasRemaining_eq_false_iff q).mp h, List.take_nil]
  · exact Bytes.upTo_eq_take _ _

theorem copyInto_snd : (q.copyInto room).2 = q.advance room := by
  unfold copyInto
  split
  · next h =>
    have hnone : min room q.waiting.length = 0 := by
      rcases h with rfl | h
      · exact Nat.zero_min _
      · rw [(hasRemaining_eq_false_iff q).mp h]
        exact Nat.min_zero _
    rw [advance, hnone]
    rfl
  · rw [advance, ← Bytes.length_upTo]

theorem consume_snd : (q.consume room).2 = q.advance room := by
  rw [consume, advance, length_waiting]

end HandOut

section Released

variable (q : ReplayQueue)

@[simp] theorem waiting_ite_released :
    (if q.hasRemaining then q else {}).waiting = q.waiting := by
  cases h : q.hasRemaining with
  | false => exact ((q.hasRemaining_eq_false_iff).mp h).symm
  | true => rfl

theorem InBounds.ite_released {q : ReplayQueue} (h : q.InBounds) :
    (if q.hasRemaining then q else {}).InBounds := by
  split
  · exact h
  · exact inBounds_empty

end Released

section Alike

variable {ρ : UInt8 → UInt8 → Prop} {q q' : ReplayQueue}

/-- Two queues are the same, apart from the bytes that they hold. -/
structure Alike (ρ : UInt8 → UInt8 → Prop) (q q' : ReplayQueue) : Prop where
  stored : List.Forall₂ ρ q.stored q'.stored
  cursor : q.cursor = q'.cursor

namespace Alike

theorem empty : Alike ρ {} {} := ⟨.nil, rfl⟩

theorem append (h : q.Alike ρ q') {bs bs' : Bytes} (hbytes : List.Forall₂ ρ bs bs') :
    (q.append bs).Alike ρ (q'.append bs') :=
  ⟨List.rel_append h.stored hbytes, h.cursor⟩

theorem remaining_eq (h : q.Alike ρ q') : q.remaining = q'.remaining := by
  rw [remaining, remaining, h.stored.length_eq, h.cursor]

theorem hasRemaining_eq (h : q.Alike ρ q') : q.hasRemaining = q'.hasRemaining := by
  rw [hasRemaining, hasRemaining, h.stored.length_eq, h.cursor]

theorem waiting (h : q.Alike ρ q') : List.Forall₂ ρ q.waiting q'.waiting := by
  rw [waiting_eq_drop, waiting_eq_drop, h.cursor]
  exact List.forall₂_drop _ h.stored

theorem advance (h : q.Alike ρ q') (room : Nat) : (q.advance room).Alike ρ (q'.advance room) := by
  refine ⟨h.stored, ?_⟩
  change q.cursor + min room q.waiting.length = q'.cursor + min room q'.waiting.length
  rw [h.cursor, h.waiting.length_eq]

end Alike

end Alike

end PeekRelay.ReplayQueue
