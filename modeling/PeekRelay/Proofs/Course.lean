import Mathlib.Data.List.Induction
import PeekRelay.Proofs.Trace
/-!
# Courses

A sniff is polled and stopped like the tap that it is taken from, so every run comes to a course of
calls and stops. The course passes through all states of the run, those inside of a sniff included.
-/
namespace PeekRelay

/-- What happens to a tap in one step: a call is made on it, or a handle stops something. -/
inductive Move where
  | call (c : Call)
  | stop (stop : Stop)

namespace Tap

variable {σ : Type} [ByteStream σ] (env : Surroundings)

def move (t : Tap σ) : Move → Tap σ
  | .call c => (c.onTap env t).2
  | .stop stop => t.heed stop

def follow (t : Tap σ) (moves : List Move) : Tap σ := moves.foldl (Tap.move env) t

/-- The stops made in one step: through a handle, or while the stream was asked. -/
def stopsIn (t : Tap σ) : Move → List Stop
  | .call c => if c.isReplayed t then [] else (c.ask t.inner).stops
  | .stop stop => [stop]

def along {α : Type} (f : Tap σ → Move → List α) (t : Tap σ) : List Move → List α
  | [] => []
  | m :: moves => f t m ++ (t.move env m).along f moves

def stopsAlong (t : Tap σ) : List Move → List Stop
  | [] => []
  | m :: moves => t.stopsIn m ++ (t.move env m).stopsAlong moves

end Tap

/-- A tap with the moves that led to it. -/
structure Course (σ : Type) where
  tap : Tap σ
  moves : List Move := []

namespace Course

variable {σ : Type} [ByteStream σ] (env : Surroundings)

def move (c : Course σ) (m : Move) : Course σ where
  tap := c.tap.move env m
  moves := c.moves ++ [m]

def sniffSource : Sniff.Source (Course σ) where
  isSniffing c := c.tap.monitor.sniffing
  pollRead buffer c := ((c.tap.pollRead env buffer).1, c.move env (.call (.pollRead buffer)))
  heed stop c := c.move env (.stop stop)

def perform (c : Course σ) : Op → Course σ
  | .call call => c.move env (.call call)
  | .stop stop => c.move env (.stop stop)
  | .sniff wanted pauses => (Sniff.run (sniffSource env) wanted pauses c).2

def after (c : Course σ) (ops : List Op) : Course σ := ops.foldl (perform env) c

end Course

def Tap.course {σ : Type} [ByteStream σ] (env : Surroundings) (t : Tap σ) (ops : List Op) :
    List Move := (Course.after env ⟨t, []⟩ ops).moves

namespace Tap

variable {σ : Type} [ByteStream σ] (env : Surroundings) (t : Tap σ)

private theorem follow_append (past later : List Move) :
    t.follow env (past ++ later) = (t.follow env past).follow env later := List.foldl_append

theorem follow_concat (past : List Move) (m : Move) :
    t.follow env (past ++ [m]) = (t.follow env past).move env m := follow_append env t past [m]

section Along

variable {α : Type} (f : Tap σ → Move → List α)

theorem along_append (past later : List Move) : t.along env f (past ++ later) =
    t.along env f past ++ (t.follow env past).along env f later := by
  induction past generalizing t with
  | nil => rfl
  | cons m past ih =>
    rw [List.cons_append, along, along, ih, List.append_assoc]
    rfl

theorem along_concat (past : List Move) (m : Move) :
    t.along env f (past ++ [m]) = t.along env f past ++ f (t.follow env past) m := by
  rw [along_append, along, along, List.append_nil]

private theorem stopsAlong_eq_along (moves : List Move) :
    t.stopsAlong env moves = t.along env stopsIn moves := by
  induction moves generalizing t with
  | nil => rfl
  | cons m moves ih => rw [stopsAlong, along, ih]

theorem stopsAlong_concat (past : List Move) (m : Move) :
    t.stopsAlong env (past ++ [m]) = t.stopsAlong env past ++ (t.follow env past).stopsIn m := by
  simp only [stopsAlong_eq_along, along_concat]

end Along

/-- What holds at the start and is kept by every move holds all along a course. -/
theorem follow_induction {P : List Move → Tap σ → Prop} (start : P [] t)
    (step : ∀ past m, P past (t.follow env past) →
      P (past ++ [m]) ((t.follow env past).move env m)) (moves : List Move) :
    P moves (t.follow env moves) := by
  induction moves using List.reverseRecOn with
  | nil => exact start
  | append_singleton past m ih =>
    rw [follow_concat]
    exact step past m ih

section Runs

private def Led (c : Course σ) : Prop := c.tap = t.follow env c.moves

private theorem led_move {c : Course σ} (h : Led env t c) (m : Move) :
    Led env t (c.move env m) := by
  change c.tap.move env m = t.follow env (c.moves ++ [m])
  rw [follow_concat, ← h]

private theorem led_after {c : Course σ} (h : Led env t c) (ops : List Op) :
    Led env t (c.after env ops) := by
  induction ops generalizing c with
  | nil => exact h
  | cons op ops ih =>
    apply ih
    cases op with
    | call call => exact led_move env t h (.call call)
    | stop stop => exact led_move env t h (.stop stop)
    | sniff wanted pauses =>
      exact Sniff.run_keeps (P := Led env t)
        (fun buffer c hc => led_move env t hc (.call (.pollRead buffer)))
        (fun stop c hc => led_move env t hc (.stop stop)) wanted pauses c h

private def coursing : Sniff.Source.Map (Course.sniffSource (σ := σ) env)
    (Tap.sniffSource (σ := σ) env) where
  toFun c := c.tap
  isSniffing _ := rfl
  pollRead _ _ := rfl
  heed _ _ := rfl

private theorem tap_after (c : Course σ) (ops : List Op) :
    (c.after env ops).tap = c.tap.after env ops := by
  induction ops generalizing c with
  | nil => rfl
  | cons op ops ih =>
    change ((c.perform env op).after env ops).tap = (c.tap.perform env op).after env ops
    rw [ih]
    cases op with
    | call call => rfl
    | stop stop => rfl
    | sniff wanted pauses =>
      exact congrArg (fun ending => Tap.after env (Prod.snd ending) ops)
        (Sniff.run_map (coursing env) wanted pauses c).symm

/-- A run is its course. -/
theorem after_eq_follow (ops : List Op) :
    t.after env ops = t.follow env (t.course env ops) := by
  have hstart : Led env t ⟨t, []⟩ := rfl
  have hled := led_after env t hstart ops
  rw [← tap_after env ⟨t, []⟩ ops]
  exact hled

end Runs

section Forget

variable (t : Tap (Logged σ))

private theorem move_forget (m : Move) : (t.move env m).forget = t.forget.move env m := by
  cases m with
  | call c => exact (congrArg Prod.snd (c.onTap_forget env t)).symm
  | stop stop => rfl

private theorem follow_forget (moves : List Move) :
    (t.follow env moves).forget = t.forget.follow env moves := by
  induction moves generalizing t with
  | nil => rfl
  | cons m moves ih =>
    change ((t.move env m).follow env moves).forget = _
    rw [ih, move_forget]
    rfl

theorem follow_course_forget (s : σ) (id : Uuid) (settings : SniffSettings) (ops : List Op) :
    ((wrap (⟨s, []⟩ : Logged σ) id settings).follow env
        ((wrap s id settings).course env ops)).forget =
      (wrap s id settings).after env ops := by
  rw [follow_forget, after_eq_follow]
  rfl

end Forget

end Tap

end PeekRelay
