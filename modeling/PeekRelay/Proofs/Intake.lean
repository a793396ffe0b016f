import PeekRelay.Proofs.Call
/-!
# Reading with given capacities

A reader makes one read after the other, each into a buffer with room, until a read finds the end of
the input or fails, or until it runs out of buffers. It reads from anything on which calls can be
made, and where two such things answer alike it brings the same home.
-/
namespace PeekRelay

structure Intake where
  call : Call
  isRead : call.isRead = true
  roomy : 0 < call.room

inductive Closing where
  | ended
  | failed (e : IoError)
  | panicked
  deriving DecidableEq, Repr

namespace Upshot

/-- A read that finds nothing tells its reader that the input has ended. -/
def closing? : Upshot → Option Closing
  | moved [] => some .ended
  | failed e => some (.failed e)
  | panicked => some .panicked
  | _ => none

def waits : Upshot → Nat
  | pending => 1
  | _ => 0

private theorem bytes_of_closing {u : Upshot} {closing : Closing} (h : u.closing? = some closing) :
    u.bytes = [] := by
  rcases u with _ | _ | e | _ | ⟨b, bs⟩
  · cases h
  · rfl
  · rfl
  · rfl
  · cases h

private theorem length_of_open {u : Upshot} (h : u.closing? = none) :
    1 ≤ u.bytes.length + u.waits := by
  rcases u with _ | _ | e | _ | ⟨b, bs⟩
  · exact Nat.le_refl _
  · cases h
  · cases h
  · cases h
  · exact Nat.le_add_left ..

theorem closing?_moved {bs : Bytes} (h : bs ≠ []) : (moved bs).closing? = none := by
  cases bs with
  | nil => exact absurd rfl h
  | cons b bs => rfl

end Upshot

namespace Intake

def rooms : List Intake → Nat
  | [] => 0
  | i :: rest => i.call.room + rooms rest

@[simp] theorem rooms_nil : rooms [] = 0 := rfl

@[simp] theorem rooms_cons (i : Intake) (rest : List Intake) :
    rooms (i :: rest) = i.call.room + rooms rest := rfl

theorem take_ne_nil (i : Intake) {bs : Bytes} (h : bs ≠ []) : bs.take i.call.room ≠ [] := by
  intro hnone
  rcases List.take_eq_nil_iff.mp hnone with hroom | hbs
  · exact absurd hroom (Nat.ne_of_gt i.roomy)
  · exact h hbs

end Intake

/-- What a reader brought home, and what it read from. Without a closing, the buffers ran out before
the input did. -/
structure Haul (s : Type) where
  bytes : Bytes := []
  closing : Option Closing := none
  waits : Nat := 0
  source : s

namespace Haul

variable {s s' : Type}

def map (f : s → s') (h : Haul s) : Haul s' := { h with source := f h.source }

def behind (bs : Bytes) (h : Haul s) : Haul s := { h with bytes := bs ++ h.bytes }

theorem map_behind (f : s → s') (bs : Bytes) (h : Haul s) :
    (h.behind bs).map f = (h.map f).behind bs := rfl

theorem behind_behind (front bs : Bytes) (h : Haul s) :
    (h.behind bs).behind front = h.behind (front ++ bs) := by
  rw [behind, behind, behind, List.append_assoc]

end Haul

section Gather

variable {s : Type} (make : (c : Call) → s → c.Response × s)

/-- Reads until a read finds the end of the input or fails. -/
def gather : List Intake → s → Haul s
  | [], state => { source := state }
  | intake :: rest, state =>
    let next := (make intake.call state).2
    let upshot := intake.call.outcome (make intake.call state).1
    match upshot.closing? with
    | some closing => { closing, source := next }
    | none =>
      let haul := gather rest next
      { haul with bytes := upshot.bytes ++ haul.bytes, waits := upshot.waits + haul.waits }

def makeAll (intakes : List Intake) (state : s) : s :=
  intakes.foldl (fun state i => (make i.call state).2) state

section Cons

variable {make} {i : Intake} {state : s}

private theorem gather_closed (rest : List Intake) {closing : Closing}
    (h : (i.call.outcome (make i.call state).1).closing? = some closing) :
    gather make (i :: rest) state = { closing, source := (make i.call state).2 } := by
  rw [gather, h]

theorem gather_open (rest : List Intake)
    (h : (i.call.outcome (make i.call state).1).closing? = none) :
    gather make (i :: rest) state =
      let haul := gather make rest (make i.call state).2
      { haul with
        bytes := (i.call.outcome (make i.call state).1).bytes ++ haul.bytes
        waits := (i.call.outcome (make i.call state).1).waits + haul.waits } := by
  rw [gather, h]

end Cons

variable (intakes : List Intake) (state : s)

/-- A reader that is not told of an end uses all its buffers, and each brings a byte or a wait. -/
theorem gather_unclosed (h : (gather make intakes state).closing = none) :
    (gather make intakes state).source = makeAll make intakes state ∧
      intakes.length ≤ (gather make intakes state).bytes.length +
        (gather make intakes state).waits := by
  induction intakes generalizing state with
  | nil => exact ⟨rfl, Nat.le_refl _⟩
  | cons i rest ih =>
    cases hfirst : (i.call.outcome (make i.call state).1).closing? with
    | some closing =>
      rw [gather_closed rest hfirst] at h
      cases h
    | none =>
      rw [gather_open rest hfirst] at h ⊢
      obtain ⟨hsource, hlength⟩ := ih _ h
      have hone := Upshot.length_of_open hfirst
      refine ⟨hsource, ?_⟩
      simp only [List.length_cons, List.length_append]
      omega

theorem gather_last {closing : Closing} (h : (gather make intakes state).closing = some closing) :
    ∃ past i, past ++ [i] <+: intakes ∧
      (gather make intakes state).source = (make i.call (makeAll make past state)).2 ∧
      (i.call.outcome (make i.call (makeAll make past state)).1).closing? = some closing := by
  induction intakes generalizing state with
  | nil => cases h
  | cons i rest ih =>
    cases hfirst : (i.call.outcome (make i.call state).1).closing? with
    | some closing' =>
      rw [gather_closed rest hfirst] at h ⊢
      cases h
      exact ⟨[], i, ⟨rest, rfl⟩, rfl, hfirst⟩
    | none =>
      rw [gather_open rest hfirst] at h ⊢
      obtain ⟨past, last, hmade, hsource, hclosing⟩ := ih _ h
      exact ⟨i :: past, last, List.cons_prefix_cons.mpr ⟨rfl, hmade⟩, hsource, hclosing⟩

/-- A reader makes the first of its reads, one after the other, and no others. -/
theorem gather_source : ∃ made, made <+: intakes ∧
    (gather make intakes state).source = makeAll make made state := by
  cases h : (gather make intakes state).closing with
  | none => exact ⟨intakes, List.prefix_rfl, (gather_unclosed make intakes state h).1⟩
  | some closing =>
    obtain ⟨past, i, hmade, hsource, -⟩ := gather_last make intakes state h
    refine ⟨past ++ [i], hmade, ?_⟩
    rw [hsource, makeAll, makeAll, List.foldl_append]
    rfl

section Kept

variable {make} {P : s → Prop} (hkept : ∀ (i : Intake) state, P state → P (make i.call state).2)

include hkept

theorem makeAll_keeps {state : s} (h : P state) : P (makeAll make intakes state) := by
  induction intakes generalizing state with
  | nil => exact h
  | cons i rest ih => exact ih (hkept i state h)

/-- A running total of what the reads move has grown by what the reader brings home. -/
theorem gather_total {total : s → Bytes}
    (htotal : ∀ (i : Intake) state, P state →
      total (make i.call state).2 = total state ++ (i.call.outcome (make i.call state).1).bytes)
    {state : s} (h : P state) : total (gather make intakes state).source =
      total state ++ (gather make intakes state).bytes := by
  induction intakes generalizing state with
  | nil => exact (List.append_nil _).symm
  | cons i rest ih =>
    have hone := htotal i state h
    cases hfirst : (i.call.outcome (make i.call state).1).closing? with
    | some closing =>
      rw [Upshot.bytes_of_closing hfirst] at hone
      rw [gather_closed rest hfirst]
      exact hone
    | none =>
      rw [gather_open rest hfirst]
      refine (ih (hkept i state h)).trans ?_
      rw [hone, List.append_assoc]

theorem gather_map {s' : Type} {make' : (c : Call) → s' → c.Response × s'} (f : s → s')
    (hmake : ∀ (i : Intake) state, P state →
      make' i.call (f state) = ((make i.call state).1, f (make i.call state).2))
    {state : s} (h : P state) :
    gather make' intakes (f state) = (gather make intakes state).map f := by
  induction intakes generalizing state with
  | nil => rfl
  | cons i rest ih =>
    have hrest := ih (hkept i state h)
    rw [gather, hmake i state h, gather, hrest]
    cases (i.call.outcome (make i.call state).1).closing? <;> rfl

end Kept

end Gather

end PeekRelay
