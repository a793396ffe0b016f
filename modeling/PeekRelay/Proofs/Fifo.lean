import PeekRelay.Proofs.Tap.Checked
/-!
# Replay queues are first in, first out

Whatever is asked of a replay queue, and in whatever order, it answers as the plain list of the
bytes that wait in it would. The cursor never leaves the stored bytes, so what keeps it inside never
has anything to do.
-/
namespace PeekRelay

inductive QueueOp where
  | append (bs : Bytes)
  | copyInto (room : Nat)
  | consume (n : Nat)
  | release
  deriving DecidableEq, Repr

inductive QueueAnswer where
  | done
  | handed (bs : Bytes)
  | passed (n : Nat)
  deriving DecidableEq, Repr

/-- Asks one thing after the other, and goes on after a panic. -/
def QueueOp.run {s : Type} (step : s → QueueOp → Outcome QueueAnswer × s) :
    List QueueOp → s → List (Outcome QueueAnswer) × s
  | [], state => ([], state)
  | op :: ops, state =>
    let rest := run step ops (step state op).2
    ((step state op).1 :: rest.1, rest.2)

def ReplayQueue.step (q : ReplayQueue) : QueueOp → Outcome QueueAnswer × ReplayQueue
  | .append bs => (.returned .done, q.append bs)
  | .copyInto room => (.returned (.handed (q.copyInto room).1), (q.copyInto room).2)
  | .consume n => (.returned (.passed (q.consume n).1), (q.consume n).2)
  | .release =>
    match q.release? with
    | some released => (.returned .done, released)
    | none => (.panicked, q)

/-- A queue of bytes as nothing but the list of its bytes. It may be released when it is empty. -/
def Fifo.step (bs : Bytes) : QueueOp → Outcome QueueAnswer × Bytes
  | .append more => (.returned .done, bs ++ more)
  | .copyInto room =>
    (.returned (.handed (bs.take (min room bs.length))), bs.drop (min room bs.length))
  | .consume n => (.returned (.passed (min n bs.length)), bs.drop (min n bs.length))
  | .release => (if bs = [] then .returned .done else .panicked, bs)

namespace ReplayQueue

private theorem step_of_panicked {q : ReplayQueue} {op : QueueOp} (h : (q.step op).1 = .panicked) :
    (q.step op).2 = q := by
  cases op with
  | release =>
    unfold step at h ⊢
    cases hreleased : q.release? with
    | some released =>
      rw [hreleased] at h
      cases h
    | none => rfl
  | _ => cases h

/-- A queue in order that holds these bytes. -/
structure Holds (q : ReplayQueue) (bs : Bytes) : Prop where
  inBounds : q.InBounds
  waiting : q.waiting = bs

namespace Holds

variable {q : ReplayQueue} {bs : Bytes}

private theorem empty : Holds {} [] := ⟨inBounds_empty, rfl⟩

private theorem remaining_eq (h : q.Holds bs) : q.remaining = bs.length := by
  rw [← h.waiting, length_waiting]

private theorem hasRemaining_iff (h : q.Holds bs) : q.hasRemaining = true ↔ bs ≠ [] := by
  rw [← Bool.not_eq_false, hasRemaining_eq_false_iff, h.waiting]

private theorem append (h : q.Holds bs) (more : Bytes) : (q.append more).Holds (bs ++ more) :=
  ⟨h.inBounds.append more, by rw [waiting_append h.inBounds, h.waiting]⟩

private theorem advance (h : q.Holds bs) (n : Nat) :
    (q.advance n).Holds (bs.drop (min n bs.length)) := by
  refine ⟨h.inBounds.advance n, ?_⟩
  rw [waiting_advance, h.waiting, ← List.drop_eq_drop_min]

private theorem release? (h : q.Holds bs) : q.release? = if bs = [] then some {} else none := by
  have hempty : q.hasRemaining = false ↔ bs = [] := by
    rw [hasRemaining_eq_false_iff, h.waiting]
  unfold ReplayQueue.release?
  by_cases hnone : bs = []
  · rw [dif_pos (hempty.mpr hnone), if_pos hnone]
    rfl
  · rw [dif_neg (mt hempty.mp hnone), if_neg hnone]

private theorem step (h : q.Holds bs) (op : QueueOp) : (q.step op).1 = (Fifo.step bs op).1 ∧
    (q.step op).2.Holds (Fifo.step bs op).2 := by
  cases op with
  | append more => exact ⟨rfl, h.append more⟩
  | copyInto room =>
    have hhanded : (q.copyInto room).1 = bs.take (min room bs.length) := by
      rw [copyInto_fst, h.waiting, ← List.take_eq_take_min]
    rw [ReplayQueue.step, Fifo.step, hhanded, copyInto_snd]
    exact ⟨rfl, h.advance room⟩
  | consume n =>
    have hpassed : (q.consume n).1 = min n bs.length := by
      rw [consume, h.remaining_eq]
    rw [ReplayQueue.step, Fifo.step, hpassed, consume_snd]
    exact ⟨rfl, h.advance n⟩
  | release =>
    by_cases hnone : bs = []
    · subst hnone
      rw [ReplayQueue.step, h.release?]
      exact ⟨rfl, empty⟩
    · rw [ReplayQueue.step, h.release?, if_neg hnone]
      exact ⟨(if_neg hnone).symm, h⟩

private theorem run (h : q.Holds bs) (ops : List QueueOp) :
    (QueueOp.run ReplayQueue.step ops q).1 = (QueueOp.run Fifo.step ops bs).1 ∧
      (QueueOp.run ReplayQueue.step ops q).2.Holds (QueueOp.run Fifo.step ops bs).2 := by
  induction ops generalizing q bs with
  | nil => exact ⟨rfl, h⟩
  | cons op ops ih =>
    obtain ⟨hanswer, hnext⟩ := h.step op
    obtain ⟨hanswers, hlast⟩ := ih hnext
    exact ⟨congrArg₂ List.cons hanswer hanswers, hlast⟩

private theorem panicked_iff (h : q.Holds bs) (op : QueueOp) :
    (q.step op).1 = .panicked ↔ op = .release ∧ bs ≠ [] := by
  rw [(h.step op).1]
  cases op with
  | release => by_cases hnone : bs = [] <;> simp [Fifo.step, hnone]
  | _ => simp [Fifo.step]

private theorem unguarded (h : q.Holds bs) : q.stored.behind q.cursor = .ok bs ∧
    Panic.less q.stored.length q.cursor = .ok bs.length := by
  refine ⟨?_, ?_⟩
  · rw [Bytes.behind_eq h.inBounds, ← waiting_eq_drop, h.waiting]
  · have hbounds : q.cursor ≤ q.stored.length := h.inBounds
    rw [Panic.less, if_pos hbounds, ← h.remaining_eq, remaining]

end Holds

/-- Whatever is asked of a new queue, in whatever order, it answers as a list of bytes does that is
extended at its end and taken from at its front. After each request, all views of the queue show
this list, and the cursor stands inside the stored bytes: so neither cutting the list off behind the
cursor nor counting it needs a guard. Nothing panics but a release of a queue in which bytes wait,
which leaves the queue as it was. -/
theorem fifo_refined (ops : List QueueOp) :
    let (answers, q) := QueueOp.run step ops {}
    let (answers', bs) := QueueOp.run Fifo.step ops []
    answers = answers' ∧ q.waiting = bs ∧ q.intoRemaining = bs ∧ q.remaining = bs.length ∧
      (q.hasRemaining = true ↔ bs ≠ []) ∧ q.cursor ≤ q.stored.length ∧
      q.stored.behind q.cursor = .ok bs ∧
      Panic.less q.stored.length q.cursor = .ok bs.length ∧
      (∀ op, (q.step op).1 = .panicked ↔ op = .release ∧ bs ≠ []) ∧
      ∀ op, (q.step op).1 = .panicked → (q.step op).2 = q := by
  obtain ⟨hanswers, hholds⟩ := Holds.empty.run ops
  obtain ⟨hcut, hcount⟩ := hholds.unguarded
  refine ⟨hanswers, hholds.waiting, ?_, hholds.remaining_eq, hholds.hasRemaining_iff,
    hholds.inBounds, hcut, hcount, hholds.panicked_iff, fun _ => step_of_panicked⟩
  rw [intoRemaining_eq_waiting]
  exact hholds.waiting

/-- Bytes are appended behind a prefix that was handed out, and a release comes too early. -/
example : QueueOp.run step [.append [1, 2, 3], .copyInto 2, .append [4], .release, .consume 9,
    .release] {} = ([.returned .done, .returned (.handed [1, 2]), .returned .done, .panicked,
      .returned (.passed 2), .returned .done], {}) := by decide

end ReplayQueue

end PeekRelay
