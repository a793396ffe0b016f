import PeekRelay.Proofs.Call
import PeekRelay.Proofs.Tap.Parts
/-!
# Calls on a tap

A tap either serves a read from its queue and leaves the stream alone, or forwards the call to the
stream as it is; the two cases are told apart here, and said in full. What becomes of a tap when it
forwards a call depends on no more than the direction of the call, the flag that it was entered
with, and what the answer of the stream comes to.
-/
namespace PeekRelay

namespace Tap

variable {σ : Type} (env : Surroundings) (t : Tap σ)

/-- The clock is looked at when a call is entered that moves bytes. -/
def entered (c : Call) : Tap σ :=
  match c.direction? with
  | some direction => t.recording fun r => r.started env direction
  | none => t

def recordMoved (sniffing : Bool) (bs : Bytes) : Direction → Tap σ
  | .read => t.recordRead sniffing bs
  | .write => t.recording fun r => r.keep .write bs

def recordFailed (e : IoError) : Direction → Tap σ
  | .read => t.recording fun r => r.recordFailure env e
  | .write => t

/-- What is recorded at the end of a call that was entered with this flag. -/
def concluded (c : Call) (sniffing : Bool) (u : Upshot) : Tap σ :=
  match c.direction?, u with
  | some direction, .moved bs =>
    (t.recordMoved sniffing bs direction).recording fun r => r.finished env direction
  | some direction, .failed e =>
    (t.recordFailed env e direction).recording fun r => r.finished env direction
  | _, _ => t

section Parts

variable (c : Call) (sniffing : Bool) (u : Upshot)

@[simp] private theorem entered_inner : (t.entered env c).inner = t.inner := by
  cases c <;> rfl

@[simp] private theorem entered_replay : (t.entered env c).replay = t.replay := by
  cases c <;> rfl

@[simp] theorem entered_sniffing : (t.entered env c).monitor.sniffing = t.monitor.sniffing := by
  cases c <;> rfl

@[simp] private theorem concluded_inner : (t.concluded env c sniffing u).inner = t.inner := by
  cases u <;> cases c <;> cases sniffing <;> rfl

@[simp] private theorem concluded_sniffing :
    (t.concluded env c sniffing u).monitor.sniffing = t.monitor.sniffing := by
  cases u <;> cases c <;> cases sniffing <;> rfl

private theorem concluded_replay : (t.concluded env c sniffing u).replay =
    if sniffing && c.isRead then t.replay.append u.bytes else t.replay := by
  cases u <;> cases c <;> cases sniffing <;> simp [concluded, Call.direction?, recordMoved,
    recordFailed, recordRead, Call.isRead, Upshot.bytes]

end Parts

/-- It makes no difference whether the clock is looked at before the stream is asked or after. -/
theorem settle_entered {α : Type} (c : Call) (reply : Reply σ α) :
    (t.entered env c).settle reply = (t.settle reply).entered env c := by
  unfold entered
  cases c.direction? with
  | none => rfl
  | some direction =>
    exact congrArg (Tap.mk reply.next t.replay)
      (t.monitor.heedAll_started env direction reply.stops)

section Records

variable (c : Call) (sniffing : Bool) (u : Upshot)

@[simp] theorem entered_showPayload :
    (t.entered env c).monitor.showPayload = t.monitor.showPayload := by
  cases c <;> rfl

@[simp] theorem entered_copying :
    (t.entered env c).monitor.recorder.copying = t.monitor.recorder.copying := by
  cases c <;> rfl

@[simp] theorem entered_copies :
    (t.entered env c).monitor.recorder.copies = t.monitor.recorder.copies := by
  cases c <;> rfl

@[simp] theorem entered_sniffCount :
    (t.entered env c).monitor.recorder.sniffCount = t.monitor.recorder.sniffCount := by
  cases c <;> rfl

@[simp] theorem entered_log :
    (t.entered env c).monitor.recorder.log = t.monitor.recorder.log := by
  cases c <;> rfl

@[simp] theorem entered_failure :
    (t.entered env c).monitor.recorder.failure = t.monitor.recorder.failure := by
  cases c <;> rfl

theorem concluded_copying : (t.concluded env c sniffing u).monitor.recorder.copying =
    (t.monitor.recorder.keepMoved u.bytes c.direction?).copying := by
  unfold concluded
  rcases c.direction? with _ | direction
  · rfl
  · cases u with
    | moved bs => cases direction <;> cases sniffing <;> rfl
    | failed e => cases direction <;> simp [Recorder.keepMoved] <;> rfl
    | pending | panicked => simp [Recorder.keepMoved]

theorem concluded_copies : (t.concluded env c sniffing u).monitor.recorder.copies =
    (t.monitor.recorder.keepMoved u.bytes c.direction?).copies := by
  unfold concluded
  rcases c.direction? with _ | direction
  · rfl
  · cases u with
    | moved bs => cases direction <;> cases sniffing <;> rfl
    | failed e => cases direction <;> simp [Recorder.keepMoved, Upshot.bytes] <;> rfl
    | pending | panicked => simp [Recorder.keepMoved, Upshot.bytes]

theorem concluded_sniffCount : (t.concluded env c sniffing u).monitor.recorder.sniffCount =
    t.monitor.recorder.sniffCount + (c.sniffed? sniffing u).toList.length := by
  rw [Call.sniffed?, Call.isRead_eq]
  unfold concluded
  rcases c.direction? with _ | direction
  · simp
  · cases u with
    | moved bs =>
      cases direction <;> cases sniffing <;>
        simp [recordMoved, recordRead, recording, Recorder.finished, recorder, Recorder.nextSniff,
          Recorder.note]
    | failed e => cases direction <;> simp <;> rfl
    | pending | panicked => simp

def reports : List Event :=
  match c.direction?, u with
  | some .read, .moved bs =>
    if sniffing then [.sniffed t.monitor.recorder.sniffCount bs.length
      (if t.monitor.showPayload then some bs else none)]
    else []
  | some .read, .failed e => [.failureCaptured e.kind]
  | _, _ => []

theorem forall_reports {P : Event → Prop}
    (hsniffed : ∀ counter size payload, P (.sniffed counter size payload))
    (hfailed : ∀ kind, P (.failureCaptured kind)) : ∀ e ∈ t.reports c sniffing u, P e := by
  intro e he
  unfold reports at he
  split at he
  · split at he
    · exact List.mem_singleton.mp he ▸ hsniffed _ _ _
    · exact absurd he List.not_mem_nil
  · exact List.mem_singleton.mp he ▸ hfailed _
  · exact absurd he List.not_mem_nil

theorem concluded_log : (t.concluded env c sniffing u).monitor.recorder.log =
    t.monitor.recorder.log ++ t.reports c sniffing u := by
  unfold concluded reports
  rcases c.direction? with _ | direction
  · simp
  · cases u with
    | moved bs =>
      have hkept := t.monitor.recorder.keep_log direction bs
      cases direction with
      | read =>
        cases sniffing with
        | true =>
          have hcount := t.monitor.recorder.keep_sniffCount .read bs
          change (t.monitor.recorder.keep .read bs).log ++
            [.sniffed (t.monitor.recorder.keep .read bs).sniffCount bs.length _] = _
          rw [hkept, hcount]
          rfl
        | false => exact hkept.trans (List.append_nil _).symm
      | write => exact hkept.trans (List.append_nil _).symm
    | failed e =>
      cases direction with
      | read => rfl
      | write => exact (List.append_nil _).symm
    | pending | panicked => cases direction <;> exact (List.append_nil _).symm

end Records

end Tap

namespace Call

section Replayed

variable {σ : Type} {c : Call} {t : Tap σ}

def isReplayed (c : Call) (t : Tap σ) : Bool := c.isRead && t.servesReplay t.monitor.sniffing

theorem sniffing_of_isReplayed (h : c.isReplayed t = true) :
    t.monitor.sniffing = false := by
  obtain ⟨-, hserves⟩ := Bool.and_eq_true_iff.mp h
  exact Bool.not_eq_true' _ ▸ (Bool.and_eq_true_iff.mp hserves).1

theorem isReplayed_of_sniffing (h : t.monitor.sniffing = true) : c.isReplayed t = false := by
  rw [isReplayed, Tap.servesReplay, h, Bool.not_true, Bool.false_and, Bool.and_false]

theorem isRead_of_isReplayed (h : c.isReplayed t = true) :
    c.isRead = true := (Bool.and_eq_true_iff.mp h).1

theorem waiting_of_isReplayed (h : c.isReplayed t = true) : t.replay.waiting ≠ [] := by
  obtain ⟨-, hserves⟩ := Bool.and_eq_true_iff.mp h
  have hremaining : t.replay.hasRemaining = true := (Bool.and_eq_true_iff.mp hserves).2
  intro hnone
  rw [(t.replay.hasRemaining_eq_false_iff).mpr hnone] at hremaining
  cases hremaining

theorem waiting_of_not_isReplayed (h : c.isReplayed t = false) (hread : c.isRead = true)
    (hstopped : t.monitor.sniffing = false) : t.replay.waiting = [] := by
  rw [isReplayed, Tap.servesReplay, hread, hstopped] at h
  exact (t.replay.hasRemaining_eq_false_iff).mp h

end Replayed

section OnTap

variable {σ : Type} [ByteStream σ] (env : Surroundings)

def onTap : (c : Call) → Tap σ → c.Response × Tap σ
  | read room, t => t.read env room
  | pollRead buffer, t => t.pollRead env buffer
  | write data, t => t.write env data
  | pollWrite data, t => t.pollWrite env data
  | writeVectored slices, t => t.writeVectored env slices
  | pollWriteVectored slices, t => t.pollWriteVectored env slices
  | flush, t => t.flush
  | pollFlush, t => t.pollFlush
  | pollShutdown, t => t.pollShutdown

/-- The whole of a call that is not served from the queue. -/
theorem onTap_eq_forward (c : Call) (t : Tap σ) (h : c.isReplayed t = false) :
    c.onTap env t = (c.respond (c.ask t.inner).answer,
      ((t.entered env c).settle (c.ask t.inner)).concluded env c t.monitor.sniffing
        (c.upshot (c.ask t.inner).answer)) := by
  cases c with
  | read room =>
    have hserves : t.servesReplay t.monitor.sniffing = false := h
    rcases hanswer : (ByteStream.read t.inner room).answer with e | fill | excess <;>
      simp [onTap, Tap.read, hserves, hanswer, ask, respond, upshot, Tap.entered, Tap.concluded,
        direction?, Tap.recordMoved, Tap.recordFailed]
  | pollRead buffer =>
    have hserves : t.servesReplay t.monitor.sniffing = false := h
    rcases hanswer : (ByteStream.pollRead t.inner buffer).answer with _ | e | fill <;>
      simp [onTap, Tap.pollRead, hserves, hanswer, ask, respond, upshot, Tap.entered,
        Tap.concluded, direction?, Tap.recordMoved, Tap.recordFailed]
  | write data =>
    rcases hanswer : (ByteStream.write t.inner data).answer with e | n <;>
      simp [onTap, Tap.write, hanswer, ask, respond, upshot, Tap.entered, Tap.concluded,
        direction?, Tap.recordMoved, Tap.recordFailed, Tap.recordWrite, Bytes.upTo_eq_take]
  | pollWrite data =>
    rcases hanswer : (ByteStream.pollWrite t.inner data).answer with _ | e | n <;>
      simp [onTap, Tap.pollWrite, hanswer, ask, respond, upshot, Tap.entered, Tap.concluded,
        direction?, Tap.recordMoved, Tap.recordFailed, Tap.recordWrite, Bytes.upTo_eq_take]
  | writeVectored slices =>
    rcases hanswer : (ByteStream.writeVectored t.inner slices).answer with e | n <;>
      simp [onTap, Tap.writeVectored, hanswer, ask, respond, upshot, Tap.entered, Tap.concluded,
        direction?, Tap.recordMoved, Tap.recordFailed, Tap.recordVectored_eq_keep]
  | pollWriteVectored slices =>
    rcases hanswer : (ByteStream.pollWriteVectored t.inner slices).answer with _ | e | n <;>
      simp [onTap, Tap.pollWriteVectored, hanswer, ask, respond, upshot, Tap.entered,
        Tap.concluded, direction?, Tap.recordMoved, Tap.recordFailed, Tap.recordVectored_eq_keep]
  | flush | pollFlush | pollShutdown => rfl

/-- The whole of a read that is served from the queue, apart from its response. -/
theorem onTap_eq_replay (c : Call) (t : Tap σ) (h : c.isReplayed t = true) :
    (c.onTap env t).2 =
      (({ t.entered env c with replay := t.replay.advance c.room }).shed).recording fun r =>
        r.finished env .read := by
  obtain ⟨hread, hserves⟩ := Bool.and_eq_true_iff.mp h
  have hwaits : 0 < t.replay.waiting.length :=
    List.length_pos_iff.mpr (waiting_of_isReplayed h)
  cases c with
  | read room =>
    have hhanded : (t.replay.copyInto room).1.length = 0 → room = 0 := by
      rw [ReplayQueue.copyInto_fst, List.length_take]
      omega
    simp [onTap, Tap.read, hserves, Tap.afterReplay_eq_shed _ hhanded, ReplayQueue.copyInto_snd,
      Tap.entered, direction?, Call.room]
  | pollRead buffer =>
    have hhanded : (t.replay.waiting.upTo buffer.room).length = 0 → buffer.room = 0 := by
      rw [Bytes.length_upTo]
      omega
    simp [onTap, Tap.pollRead, hserves, Tap.afterReplay_eq_shed _ hhanded, ReplayQueue.consume_snd,
      Tap.entered, direction?, Call.room]
  | _ => cases hread

/-- A call that reaches the stream: the caller gets what the stream answered, and a read that was
entered while sniffing adds what it delivered to the queue. -/
structure Forwarded (c : Call) (t : Tap σ) : Prop where
  response : (c.onTap env t).1 = c.respond (c.ask t.inner).answer
  inner : (c.onTap env t).2.inner = (c.ask t.inner).next
  replay : (c.onTap env t).2.replay =
    if t.monitor.sniffing then t.replay.append (c.delivered (c.ask t.inner).answer) else t.replay
  sniffing : (c.onTap env t).2.monitor.sniffing =
    (t.monitor.sniffing && !decide (Stop.sniffing ∈ (c.ask t.inner).stops))

/-- A call that is served from the queue: the caller gets the front of what waits, and the stream
does not notice. -/
structure Replayed (c : Call) (t : Tap σ) : Prop where
  handed : c.handed (c.onTap env t).1 = t.replay.waiting.take c.room
  inner : (c.onTap env t).2.inner = t.inner
  waiting : (c.onTap env t).2.replay.waiting = t.replay.waiting.drop c.room
  inBounds : t.replay.InBounds → (c.onTap env t).2.replay.InBounds
  sniffing : (c.onTap env t).2.monitor.sniffing = t.monitor.sniffing

theorem onTap_forwarded (c : Call) (t : Tap σ) (h : c.isReplayed t = false) :
    c.Forwarded env t := by
  have hcall := c.onTap_eq_forward env t h
  constructor
  case response => rw [hcall]
  case inner =>
    rw [hcall]
    exact Tap.concluded_inner ..
  case replay =>
    rw [hcall]
    refine (Tap.concluded_replay ..).trans ?_
    change (if _ then (t.entered env c).replay.append _ else (t.entered env c).replay) = _
    rw [Tap.entered_replay]
    rw [delivered_eq, isRead_eq]
    by_cases hread : c.direction? = some .read <;> simp [hread]
  case sniffing =>
    rw [hcall]
    simp

theorem read_replayed (t : Tap σ) (room : Nat) (h : t.servesReplay t.monitor.sniffing = true) :
    (t.read env room).1 = .returned (.ok (t.replay.waiting.take room)) := by
  simp [Tap.read, h, ReplayQueue.copyInto_fst]

theorem pollRead_replayed (t : Tap σ) (buffer : ReadBuffer)
    (h : t.servesReplay t.monitor.sniffing = true) : (t.pollRead env buffer).1 =
      .ready (.ok (buffer.put ⟨t.replay.waiting.take buffer.room, List.length_take_le ..⟩)) := by
  simp [Tap.pollRead, h, Bytes.upTo_eq_take]

theorem pollRead_ready (t : Tap σ) (buffer : ReadBuffer) {b : ReadBuffer}
    (h : (t.pollRead env buffer).1 = .ready (.ok b)) :
    ∃ fill : Fill buffer.room, b = buffer.put fill := by
  cases hserves : t.servesReplay t.monitor.sniffing with
  | false =>
    have hresponse : (t.pollRead env buffer).1 = _ :=
      ((pollRead buffer).onTap_forwarded env t hserves).response
    obtain ⟨fill, -, hb⟩ := respond_ready (hresponse.symm.trans h)
    exact ⟨fill, hb⟩
  | true =>
    rw [pollRead_replayed env t buffer hserves] at h
    cases h
    exact ⟨_, rfl⟩

theorem outcome_replayed (c : Call) (t : Tap σ) (h : c.isReplayed t = true) :
    c.outcome (c.onTap env t).1 = .moved (t.replay.waiting.take c.room) := by
  obtain ⟨hread, hserves⟩ := Bool.and_eq_true_iff.mp h
  cases c with
  | read room => simp [onTap, read_replayed env t room hserves, outcome, Call.room]
  | pollRead buffer =>
    simp [onTap, pollRead_replayed env t buffer hserves, outcome, Call.room, ReadBuffer.put]
  | _ => cases hread

theorem onTap_replayed (c : Call) (t : Tap σ) (h : c.isReplayed t = true) : c.Replayed env t := by
  have hcall := c.onTap_eq_replay env t h
  constructor
  case handed =>
    rw [c.handed_of_isRead (isRead_of_isReplayed h), c.outcome_replayed env t h]
    rfl
  case inner => simp [hcall]
  case waiting => simp [hcall, ReplayQueue.waiting_advance]
  case inBounds =>
    intro hbounds
    simpa [hcall] using (hbounds.advance c.room).ite_released
  case sniffing => simp [hcall]

theorem sniffing_of_onTap {c : Call} {t : Tap σ}
    (h : (c.onTap env t).2.monitor.sniffing = true) : t.monitor.sniffing = true := by
  cases hreplayed : c.isReplayed t with
  | false =>
    rw [(c.onTap_forwarded env t hreplayed).sniffing] at h
    exact (Bool.and_eq_true_iff.mp h).1
  | true => exact (c.onTap_replayed env t hreplayed).sniffing.symm.trans h

theorem onTap_stopped {c : Call} {t : Tap σ} (h : t.monitor.sniffing = false) :
    (c.onTap env t).2.monitor.sniffing = false := by
  refine Bool.eq_false_iff.mpr ?_
  intro hstill
  rw [sniffing_of_onTap env hstill] at h
  cases h

end OnTap

end Call

end PeekRelay
