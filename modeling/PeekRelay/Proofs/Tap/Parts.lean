import PeekRelay.Proofs.ReplayQueue
import PeekRelay.Tap
/-!
# The parts of a tap

What the bookkeeping of a tap does to each of its parts, and what it leaves alone: the recorder
never touches the stream, the queue or the sniffing flag, and only a stop clears that flag.
-/
namespace PeekRelay

namespace Copies

variable (c : Copies) (direction : Direction)

@[simp] private theorem append_nil : c.append direction [] = c := by
  cases direction <;> simp [append]

private theorem append_append (bs cs : Bytes) :
    (c.append direction bs).append direction cs = c.append direction (bs ++ cs) := by
  cases hstopped : c.stopped <;> cases direction <;> simp [append, hstopped]

end Copies

namespace Recorder

variable (r : Recorder) (direction : Direction)

@[simp] theorem keep_nil : r.keep direction [] = r := by
  simp [keep, append]

private theorem keep_keep (bs cs : Bytes) :
    (r.keep direction bs).keep direction cs = r.keep direction (bs ++ cs) := by
  cases hcopying : r.copying <;> simp [keep, append, hcopying, Copies.append_append]

def keepMoved (bs : Bytes) : Option Direction → Recorder
  | some direction => r.keep direction bs
  | none => r

@[simp] theorem keep_id (bs : Bytes) : (r.keep direction bs).id = r.id := by
  unfold keep
  split <;> rfl

@[simp] theorem keep_copying (bs : Bytes) : (r.keep direction bs).copying = r.copying := by
  unfold keep
  split <;> rfl

@[simp] theorem keep_sniffCount (bs : Bytes) :
    (r.keep direction bs).sniffCount = r.sniffCount := by
  unfold keep
  split <;> rfl

@[simp] theorem keep_log (bs : Bytes) : (r.keep direction bs).log = r.log := by
  unfold keep
  split <;> rfl

/-- A recorder that gave up its copies or not, and that reported something. -/
def halted (r : Recorder) (released : Bool) (es : List Event) : Recorder :=
  { r with
    copying := r.copying && !released
    copies := if released then .released else r.copies
    log := r.log ++ es }

end Recorder

namespace Monitor

variable (m : Monitor)

theorem heed_sniffing (stop : Stop) :
    (m.heed stop).sniffing = (m.sniffing && !decide (Stop.sniffing = stop)) := by
  cases stop with
  | sniffing =>
    change m.stopSniffing.sniffing = _
    unfold stopSniffing
    split
    · simp
    · next h => simp [h]
  | copying => simp [heed, stopCopying]

theorem heedAll_sniffing (stops : List Stop) :
    (m.heedAll stops).sniffing = (m.sniffing && !decide (Stop.sniffing ∈ stops)) := by
  induction stops generalizing m with
  | nil => simp [heedAll]
  | cons stop stops ih =>
    change ((m.heed stop).heedAll stops).sniffing = _
    rw [ih, heed_sniffing, Bool.and_assoc]
    simp [Bool.decide_or]

def notice : Stop → List Event
  | .sniffing => if m.sniffing then [.sniffingStopped m.recorder.sniffCount] else []
  | .copying =>
    if m.recorder.copies.stopped then []
    else [.copyingStopped m.recorder.copies.read.length m.recorder.copies.written.length]

def notices (m : Monitor) : List Stop → List Event
  | [] => []
  | stop :: stops => m.notice stop ++ (m.heed stop).notices stops

theorem forall_notices {P : Event → Prop} (hsniffing : ∀ reads, P (.sniffingStopped reads))
    (hcopying : ∀ read written, P (.copyingStopped read written)) (stops : List Stop) :
    ∀ e ∈ m.notices stops, P e := by
  have hone (m : Monitor) (stop : Stop) : ∀ e ∈ m.notice stop, P e := by
    intro e he
    unfold notice at he
    split at he <;> split at he
    · exact List.mem_singleton.mp he ▸ hsniffing _
    · exact absurd he List.not_mem_nil
    · exact absurd he List.not_mem_nil
    · exact List.mem_singleton.mp he ▸ hcopying _ _
  induction stops generalizing m with
  | nil => exact fun e he => absurd he List.not_mem_nil
  | cons stop stops ih =>
    intro e he
    rcases List.mem_append.mp he with he | he
    · exact hone m stop e he
    · exact ih (m.heed stop) e he

theorem heed_recorder (stop : Stop) : (m.heed stop).recorder =
    m.recorder.halted (decide (Stop.copying = stop)) (m.notice stop) := by
  cases stop with
  | sniffing =>
    by_cases h : m.sniffing <;>
      simp [heed, stopSniffing, h, notice, note, Recorder.note, Recorder.halted]
  | copying =>
    by_cases h : m.recorder.copies.stopped <;>
      simp [heed, stopCopying, Recorder.stopCopying, Recorder.clearFlag, Recorder.releaseCopies, h,
        notice, Recorder.note, Recorder.halted]

@[simp] private theorem heed_showPayload (stop : Stop) :
    (m.heed stop).showPayload = m.showPayload := by
  cases stop with
  | sniffing => by_cases h : m.sniffing <;> simp [heed, stopSniffing, h, note]
  | copying => rfl

@[simp] theorem heedAll_showPayload (stops : List Stop) :
    (m.heedAll stops).showPayload = m.showPayload := by
  induction stops generalizing m with
  | nil => rfl
  | cons stop stops ih => exact (ih (m.heed stop)).trans (m.heed_showPayload stop)

theorem heedAll_recorder (stops : List Stop) : (m.heedAll stops).recorder =
    m.recorder.halted (decide (Stop.copying ∈ stops)) (m.notices stops) := by
  induction stops generalizing m with
  | nil => simp [heedAll, Recorder.halted, notices]
  | cons stop stops ih =>
    change ((m.heed stop).heedAll stops).recorder = _
    rw [ih, heed_recorder]
    cases stop <;> simp [Recorder.halted, notices]

private theorem heed_started (env : Surroundings) (direction : Direction) (stop : Stop) :
    ({ m with recorder := m.recorder.started env direction }).heed stop =
      { m.heed stop with recorder := (m.heed stop).recorder.started env direction } := by
  cases stop with
  | sniffing =>
    by_cases h : m.sniffing <;> simp [heed, stopSniffing, h, note, Recorder.note, Recorder.started]
  | copying =>
    by_cases h : m.recorder.copies.stopped <;>
      simp [heed, stopCopying, Recorder.stopCopying, Recorder.clearFlag, Recorder.releaseCopies, h,
        Recorder.note, Recorder.started]

theorem heedAll_started (env : Surroundings) (direction : Direction) (stops : List Stop) :
    ({ m with recorder := m.recorder.started env direction }).heedAll stops =
      { m.heedAll stops with
        recorder := (m.heedAll stops).recorder.started env direction } := by
  induction stops generalizing m with
  | nil => rfl
  | cons stop stops ih =>
    change (Monitor.heed _ stop).heedAll stops = _
    rw [heed_started, ih]
    rfl

end Monitor

namespace Tap

variable {σ : Type}

section Frames

variable (t : Tap σ)

@[simp] theorem recording_inner (f : Recorder → Recorder) : (t.recording f).inner = t.inner := rfl

@[simp] theorem recording_replay (f : Recorder → Recorder) :
    (t.recording f).replay = t.replay := rfl

@[simp] theorem recording_sniffing (f : Recorder → Recorder) :
    (t.recording f).monitor.sniffing = t.monitor.sniffing := rfl

@[simp] theorem recording_servesReplay (f : Recorder → Recorder) (sniffing : Bool) :
    (t.recording f).servesReplay sniffing = t.servesReplay sniffing := rfl

theorem heed_sniffing (stop : Stop) :
    (t.heed stop).monitor.sniffing = (t.monitor.sniffing && !decide (Stop.sniffing = stop)) :=
  t.monitor.heed_sniffing stop

theorem sniffing_of_heed {stop : Stop} (h : (t.heed stop).monitor.sniffing = true) :
    t.monitor.sniffing = true := by
  rw [heed_sniffing] at h
  exact (Bool.and_eq_true_iff.mp h).1

variable {α : Type} (reply : Reply σ α)

@[simp] theorem settle_sniffing : (t.settle reply).monitor.sniffing =
    (t.monitor.sniffing && !decide (Stop.sniffing ∈ reply.stops)) :=
  t.monitor.heedAll_sniffing reply.stops

theorem settle_recorder : (t.settle reply).monitor.recorder =
    t.monitor.recorder.halted (decide (Stop.copying ∈ reply.stops))
      (t.monitor.notices reply.stops) :=
  t.monitor.heedAll_recorder reply.stops

@[simp] theorem settle_showPayload :
    (t.settle reply).monitor.showPayload = t.monitor.showPayload :=
  t.monitor.heedAll_showPayload reply.stops

@[simp] theorem settle_sniffCount :
    (t.settle reply).monitor.recorder.sniffCount = t.monitor.recorder.sniffCount := by
  rw [settle_recorder]
  rfl

theorem settle_log : (t.settle reply).monitor.recorder.log =
    t.monitor.recorder.log ++ t.monitor.notices reply.stops := by
  rw [settle_recorder]
  rfl

end Frames

section Records

variable (t : Tap σ)

@[simp] private theorem recording_recording (f g : Recorder → Recorder) :
    (t.recording f).recording g = t.recording fun r => g (f r) := rfl

/-- A vectored write is copied as one write of all its slices. -/
theorem recordVectored_eq_keep (slices : List Bytes) (written : Nat) :
    t.recordVectored slices written =
      t.recording fun r => r.keep .write (slices.flatten.take written) := by
  induction slices generalizing t written with
  | nil =>
    simp only [recordVectored, List.flatten_nil, List.take_nil, Recorder.keep_nil]
    rfl
  | cons data rest ih =>
    rw [recordVectored]
    by_cases hnone : written = 0
    · simp only [hnone, if_true, List.take_zero, Recorder.keep_nil]
      rfl
    · have htaken : data.upTo (min written data.length) = data.take written := by
        rw [Bytes.upTo_eq_take, ← List.take_eq_take_min]
      have hleft : written - min written data.length = written - data.length := by omega
      rw [if_neg hnone, ih, recordWrite, htaken, hleft, recording_recording, List.flatten_cons,
        List.take_append]
      congr 1
      funext r
      exact r.keep_keep .write _ _

end Records

section Replay

/-- The queue is released if nothing waits in it any more. -/
def shed (t : Tap σ) : Tap σ :=
  if t.replay.hasRemaining then t
  else ({ t with replay := {} }).recording fun r => r.note .replayDrained

variable (t : Tap σ)

/-- A read from the queue hands out bytes, so it is never reported as stalled. -/
theorem afterReplay_eq_shed {copied room : Nat} (h : copied = 0 → room = 0) :
    t.afterReplay copied room = t.shed := by
  have hstalled : ¬(copied = 0 ∧ 0 < room) := by omega
  rw [afterReplay, if_neg hstalled, shed]
  by_cases hwaits : t.replay.hasRemaining = true
  · rw [dif_neg (by simp [hwaits]), if_pos hwaits]
  · rw [dif_pos (Bool.eq_false_iff.mpr hwaits), if_neg hwaits]
    rfl

theorem shed_log : t.shed.monitor.recorder.log =
    t.monitor.recorder.log ++ if t.replay.hasRemaining then [] else [.replayDrained] := by
  unfold shed
  split
  · exact (List.append_nil _).symm
  · rfl

@[simp] theorem shed_copying : t.shed.monitor.recorder.copying = t.monitor.recorder.copying := by
  unfold shed
  split <;> rfl

@[simp] theorem shed_copies : t.shed.monitor.recorder.copies = t.monitor.recorder.copies := by
  unfold shed
  split <;> rfl

@[simp] theorem shed_failure : t.shed.monitor.recorder.failure = t.monitor.recorder.failure := by
  unfold shed
  split <;> rfl

@[simp] theorem shed_sniffCount :
    t.shed.monitor.recorder.sniffCount = t.monitor.recorder.sniffCount := by
  unfold shed
  split <;> rfl

@[simp] theorem shed_inner : t.shed.inner = t.inner := by
  unfold shed
  split <;> rfl

@[simp] theorem shed_sniffing : t.shed.monitor.sniffing = t.monitor.sniffing := by
  unfold shed
  split <;> rfl

@[simp] theorem shed_replay :
    t.shed.replay = if t.replay.hasRemaining then t.replay else {} := by
  unfold shed
  split <;> rfl

end Replay

end Tap

end PeekRelay
