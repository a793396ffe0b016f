import PeekRelay.Proofs.Logged
import PeekRelay.Proofs.Sniff
/-!
# Taps without the log

A tap of a logged stream behaves as a tap of the stream itself: the log is never read, so it can be
forgotten at any time.
-/
namespace PeekRelay

variable {σ : Type}

/-- The tap of the stream itself, without its log. -/
def Tap.forget (t : Tap (Logged σ)) : Tap σ :=
  { inner := t.inner.stream, replay := t.replay, monitor := t.monitor }

def Reply.forget {α : Type} (reply : Reply (Logged σ) α) : Reply σ α :=
  { stops := reply.stops, answer := reply.answer, next := reply.next.stream }

@[simp] theorem Reply.forget_answer {α : Type} (reply : Reply (Logged σ) α) :
    reply.forget.answer = reply.answer := rfl

namespace Tap

section Forget

variable (t : Tap (Logged σ))

@[simp] theorem forget_inner : t.forget.inner = t.inner.stream := rfl

@[simp] theorem forget_replay : t.forget.replay = t.replay := rfl

@[simp] theorem forget_monitor : t.forget.monitor = t.monitor := rfl

@[simp] theorem servesReplay_forget (sniffing : Bool) :
    t.forget.servesReplay sniffing = t.servesReplay sniffing := rfl

@[simp] theorem recording_forget (f : Recorder → Recorder) :
    t.forget.recording f = (t.recording f).forget := rfl

@[simp] theorem settle_forget {α : Type} (reply : Reply (Logged σ) α) :
    t.forget.settle reply.forget = (t.settle reply).forget := rfl

@[simp] private theorem recordRead_forget (sniffing : Bool) (bs : Bytes) :
    t.forget.recordRead sniffing bs = (t.recordRead sniffing bs).forget := by
  cases sniffing <;> rfl

@[simp] theorem recordWrite_forget (data : Bytes) (written : Nat) :
    t.forget.recordWrite data written = (t.recordWrite data written).forget := rfl

@[simp] private theorem recordVectored_forget (slices : List Bytes) (left : Nat) :
    t.forget.recordVectored slices left = (t.recordVectored slices left).forget := by
  induction slices generalizing t left with
  | nil => rfl
  | cons data rest ih =>
    by_cases hleft : left = 0
    · rw [recordVectored, recordVectored, if_pos hleft, if_pos hleft]
    · rw [recordVectored, recordVectored, if_neg hleft, if_neg hleft]
      exact ih (t.recordWrite data (min left data.length)) (left - min left data.length)

@[simp] private theorem afterReplay_forget (copied room : Nat) :
    t.forget.afterReplay copied room = (t.afterReplay copied room).forget := by
  by_cases hstalled : copied = 0 ∧ 0 < room <;> cases hwaits : t.replay.hasRemaining <;>
    simp [afterReplay, forget, recording, hstalled, hwaits]

theorem mk_stream (s : Logged σ) (q : ReplayQueue) (m : Monitor) :
    Tap.mk s.stream q m = (Tap.mk s q m).forget := rfl

end Forget

end Tap

section Calls

variable [ByteStream σ] (env : Surroundings)

theorem Call.ask_stream (c : Call) (s : Logged σ) : c.ask s.stream = (c.ask s).forget := by
  cases c <;> rfl

/-- A call on a tap answers alike whether or not the stream keeps a log. -/
theorem Call.onTap_forget (c : Call) (t : Tap (Logged σ)) :
    c.onTap env t.forget = ((c.onTap env t).1, (c.onTap env t).2.forget) := by
  have hask := c.ask_stream t.inner
  cases c with
  | read room =>
    simp only [ask] at hask
    cases hserves : t.servesReplay t.monitor.sniffing with
    | true => simp [onTap, Tap.read, hserves, Tap.mk_stream]
    | false =>
      rcases hanswer : (ByteStream.read t.inner room).answer with e | claim | excess <;>
        simp [onTap, Tap.read, hserves, hask, hanswer]
  | pollRead buffer =>
    simp only [ask] at hask
    cases hserves : t.servesReplay t.monitor.sniffing with
    | true => simp [onTap, Tap.pollRead, hserves, Tap.mk_stream]
    | false =>
      rcases hanswer : (ByteStream.pollRead t.inner buffer).answer with _ | e | fill <;>
        simp [onTap, Tap.pollRead, hserves, hask, hanswer]
  | write data =>
    simp only [ask] at hask
    rcases hanswer : (ByteStream.write t.inner data).answer with e | written <;>
      simp [onTap, Tap.write, hask, hanswer]
  | pollWrite data =>
    simp only [ask] at hask
    rcases hanswer : (ByteStream.pollWrite t.inner data).answer with _ | e | written <;>
      simp [onTap, Tap.pollWrite, hask, hanswer]
  | writeVectored slices =>
    simp only [ask] at hask
    rcases hanswer : (ByteStream.writeVectored t.inner slices).answer with e | written <;>
      simp [onTap, Tap.writeVectored, hask, hanswer]
  | pollWriteVectored slices =>
    simp only [ask] at hask
    rcases hanswer : (ByteStream.pollWriteVectored t.inner slices).answer with _ | e | written <;>
      simp [onTap, Tap.pollWriteVectored, hask, hanswer]
  | flush => rfl
  | pollFlush => rfl
  | pollShutdown => rfl

def Tap.forgetting : Sniff.Source.Map (Tap.sniffSource (σ := Logged σ) env)
    (Tap.sniffSource (σ := σ) env) where
  toFun := Tap.forget
  isSniffing _ := rfl
  pollRead buffer t := Call.onTap_forget env (.pollRead buffer) t
  heed _ _ := rfl

end Calls

end PeekRelay
