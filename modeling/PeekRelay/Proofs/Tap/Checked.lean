import PeekRelay.Proofs.Tap.Calls
/-!
# Calls with every bound checked

The calls of a tap once more, as computations that panic where a slice is cut out of bounds, a
buffer is overfilled, a subtraction goes below zero, a cursor leaves its row, or a queue is given
back that still holds bytes. One check can fail: a blocking read cuts out of its buffer what the
stream claims to have put there. Apart from it, the computations do what the calls do.
-/
namespace PeekRelay

inductive Panic where
  | outOfBounds | noRoom | underflow | overflow | unmet
  deriving DecidableEq, Repr

/-- A computation that works on a state, up to the first check that fails. -/
abbrev Checked (s α : Type) := ExceptT Panic (StateM s) α

namespace Checked

variable {s α β : Type}

/-- What a computation comes to, and the state that it leaves, also where a check fails. -/
def execute (x : Checked s α) (state : s) : Except Panic α × s := StateT.run (ExceptT.run x) state

def check (result : Except Panic α) : Checked s α := ExceptT.mk (pure result)

variable (state : s)

@[simp] theorem execute_pure (a : α) : (pure a : Checked s α).execute state = (.ok a, state) := rfl

@[simp] theorem execute_check (result : Except Panic α) :
    (check result : Checked s α).execute state = (result, state) := rfl

@[simp] theorem execute_get : (get : Checked s s).execute state = (.ok state, state) := rfl

@[simp] theorem execute_set (next : s) :
    (set next : Checked s PUnit).execute state = (.ok (), next) := rfl

@[simp] theorem execute_modify (f : s → s) :
    (modify f : Checked s PUnit).execute state = (.ok (), f state) := rfl

@[simp] theorem execute_bind (x : Checked s α) (f : α → Checked s β) : (x >>= f).execute state =
    match x.execute state with
    | (.ok a, next) => (f a).execute next
    | (.error p, next) => (.error p, next) := by
  change ((ExceptT.bindCont f) (x.execute state).1).run (x.execute state).2 = _
  rcases x.execute state with ⟨_ | _, _⟩ <;> rfl

@[simp] theorem execute_map (f : α → β) (x : Checked s α) : (f <$> x).execute state =
    match x.execute state with
    | (.ok a, next) => (.ok (f a), next)
    | (.error p, next) => (.error p, next) := by
  rw [← bind_pure_comp]
  exact execute_bind state x (pure ∘ f)

end Checked

open Checked (check)

section Checks

def Bytes.first (bs : Bytes) (n : Nat) : Except Panic Bytes :=
  if h : n ≤ bs.length then .ok (bs.slice n h) else .error .outOfBounds

def Bytes.behind (bs : Bytes) (n : Nat) : Except Panic Bytes :=
  if n ≤ bs.length then .ok (bs.drop n) else .error .outOfBounds

private theorem Bytes.first_eq {bs : Bytes} {n : Nat} (h : n ≤ bs.length) :
    bs.first n = .ok (bs.take n) := dif_pos h

theorem Bytes.behind_eq {bs : Bytes} {n : Nat} (h : n ≤ bs.length) :
    bs.behind n = .ok (bs.drop n) := if_pos h

def Panic.unless (holds : Prop) [Decidable holds] (p : Panic) : Except Panic Unit :=
  if holds then .ok () else .error p

def Panic.less (a b : Nat) : Except Panic Nat := if b ≤ a then .ok (a - b) else .error .underflow

def ReadBuffer.putAll (b : ReadBuffer) (bs : Bytes) : Except Panic ReadBuffer :=
  if h : bs.length ≤ b.room then .ok (b.put ⟨bs, h⟩) else .error .noRoom

private theorem ReadBuffer.putAll_eq {b : ReadBuffer} {bs : Bytes} (h : bs.length ≤ b.room) :
    b.putAll bs = .ok (b.put ⟨bs, h⟩) := dif_pos h

private theorem ReadBuffer.behind_put (b : ReadBuffer) (fill : Fill b.room) :
    (b.put fill).filled.behind b.filled.length = .ok fill.val := by
  have hinside : b.filled.length ≤ (b.put fill).filled.length := by
    rw [put, List.length_append]
    exact Nat.le_add_right ..
  rw [Bytes.behind_eq hinside, put, List.drop_left]

def Claim.count {room : Nat} : Claim room → Nat
  | fits bytes => bytes.val.length
  | tooMany excess => room + excess + 1

/-- The buffer of a blocking read after it. What stands behind the claimed bytes does not matter. -/
def Claim.buffer {room : Nat} : Claim room → Bytes
  | fits bytes => bytes.val ++ List.replicate (room - bytes.val.length) 0
  | tooMany _ => List.replicate room 0

private theorem Claim.length_buffer {room : Nat} (claim : Claim room) :
    claim.buffer.length = room := by
  cases claim with
  | fits bytes =>
    have hfits : bytes.val.length ≤ room := bytes.property
    rw [buffer, List.length_append, List.length_replicate]
    omega
  | tooMany excess => exact List.length_replicate

private theorem Claim.first_buffer {room : Nat} (bytes : Fill room) :
    (fits bytes).buffer.first (fits bytes).count = .ok bytes.val := by
  have hinside : (fits bytes).count ≤ (fits bytes).buffer.length := by
    rw [length_buffer]
    exact bytes.property
  rw [Bytes.first_eq hinside, count, buffer, List.take_left]

end Checks

namespace ReplayQueue

variable (q : ReplayQueue) (room n : Nat)

def waitingChecked : Except Panic Bytes := q.stored.behind (min q.cursor q.stored.length)

/-- Moves the cursor on. It may not even leave the stored bytes, of which there are no more than a
count can tell. -/
def pass : Except Panic ReplayQueue :=
  if q.cursor + n ≤ q.stored.length then .ok { q with cursor := q.cursor + n }
  else .error .overflow

def copyIntoChecked : Except Panic (Bytes × ReplayQueue) :=
  if room = 0 ∨ q.hasRemaining = false then .ok ([], q)
  else do
    let available ← q.waitingChecked
    let count := min available.length room
    Panic.unless (count ≤ room) .outOfBounds
    let handed ← available.first count
    return (handed, ← q.pass count)

def consumeChecked : Except Panic (Nat × ReplayQueue) := do
  let passed := min n q.remaining
  return (passed, ← q.pass passed)

def releaseChecked : Except Panic ReplayQueue :=
  match q.release? with
  | some released => .ok released
  | none => .error .unmet

variable {q}

private theorem waitingChecked_eq (q : ReplayQueue) : q.waitingChecked = .ok q.waiting :=
  Bytes.behind_eq (Nat.min_le_right ..)

private theorem pass_eq (h : q.InBounds) (hn : n ≤ q.remaining) :
    q.pass n = .ok { q with cursor := q.cursor + n } := by
  have hinside : q.cursor + n ≤ q.stored.length := by
    unfold InBounds remaining at *
    omega
  exact if_pos hinside

private theorem copyIntoChecked_eq (h : q.InBounds) :
    q.copyIntoChecked room = .ok (q.copyInto room) := by
  unfold copyIntoChecked copyInto
  split
  · rfl
  · have hcount : min q.waiting.length room = (q.waiting.upTo room).length := by
      rw [Bytes.length_upTo, Nat.min_comm]
    have hroom : min q.waiting.length room ≤ room := Nat.min_le_right ..
    have hwaits : min q.waiting.length room ≤ q.waiting.length := Nat.min_le_left ..
    have hremaining : min q.waiting.length room ≤ q.remaining := q.length_waiting ▸ hwaits
    have hhanded : q.waiting.take (min q.waiting.length room) = q.waiting.upTo room := by
      rw [Bytes.upTo_eq_take, Nat.min_comm, ← List.take_eq_take_min]
    simp only [waitingChecked_eq, Panic.unless, if_pos hroom, Bytes.first_eq hwaits,
      pass_eq _ h hremaining, hhanded, ok_bind]
    rw [hcount]
    rfl

private theorem consumeChecked_eq (h : q.InBounds) : q.consumeChecked n = .ok (q.consume n) := by
  simp only [consumeChecked, pass_eq _ h (Nat.min_le_right ..)]
  rfl

private theorem releaseChecked_eq (h : q.hasRemaining = false) :
    q.releaseChecked = .ok (q.release h) := by
  simp [releaseChecked, release?, h]

end ReplayQueue

namespace Tap

variable {σ : Type}

def afterReplayChecked (copied room : Nat) : Checked (Tap σ) Unit := do
  if copied = 0 ∧ 0 < room then
    modify fun t => t.recording fun r => r.note (.replayStalled t.replay.remaining)
  let t ← get
  if t.replay.hasRemaining = false then
    let replay ← check t.replay.releaseChecked
    set { t with replay }
    modify fun t => t.recording fun r => r.note .replayDrained

def recordWriteChecked (data : Bytes) (written : Nat) : Checked (Tap σ) Unit := do
  let taken ← check (data.first (min written data.length))
  modify fun t => t.recording fun r => r.keep .write taken

def recordVectoredChecked : List Bytes → Nat → Checked (Tap σ) Unit
  | [], _ => return
  | data :: rest, left => do
    if left ≠ 0 then
      let taken := min left data.length
      recordWriteChecked data taken
      recordVectoredChecked rest (← check (Panic.less left taken))

section Records

variable (t : Tap σ)

private theorem execute_afterReplay (copied room : Nat) :
    (afterReplayChecked copied room).execute t = (.ok (), t.afterReplay copied room) := by
  unfold afterReplayChecked afterReplay
  by_cases hstalled : copied = 0 ∧ 0 < room <;> cases hwaits : t.replay.hasRemaining <;>
    simp [hstalled, hwaits, ReplayQueue.releaseChecked_eq]

private theorem execute_recordWrite (data : Bytes) (written : Nat) :
    (recordWriteChecked data written).execute t = (.ok (), t.recordWrite data written) := by
  have hinside : min written data.length ≤ data.length := Nat.min_le_right ..
  simp [recordWriteChecked, Bytes.first_eq hinside, recordWrite, Bytes.upTo, Bytes.slice]

private theorem execute_recordVectored (slices : List Bytes) (left : Nat) :
    (recordVectoredChecked slices left).execute t = (.ok (), t.recordVectored slices left) := by
  induction slices generalizing t left with
  | nil => rfl
  | cons data rest ih =>
    have hless : Panic.less left (min left data.length) = .ok (left - min left data.length) :=
      if_pos (Nat.min_le_left ..)
    rw [recordVectoredChecked, recordVectored]
    by_cases hnone : left = 0
    · simp [hnone]
    · simp [hnone, execute_recordWrite, hless, ih]

end Records

section Calls

variable [ByteStream σ] (env : Surroundings)

def readChecked (room : Nat) : Checked (Tap σ) (Result Bytes) := do
  modify fun t => t.recording fun r => r.started env .read
  let t ← get
  let sniffing := t.monitor.sniffing
  if t.servesReplay sniffing then
    let (bs, replay) ← check (t.replay.copyIntoChecked room)
    set { t with replay }
    afterReplayChecked bs.length room
    modify fun t => t.recording fun r => r.finished env .read
    return .ok bs
  else
    let reply := ByteStream.read t.inner room
    set (t.settle reply)
    match reply.answer with
    | .ok claim =>
      let bs ← check (claim.buffer.first claim.count)
      modify fun t => (t.recordRead sniffing bs).recording fun r => r.finished env .read
      return .ok bs
    | .error e =>
      modify fun t => t.recording fun r => (r.recordFailure env e).finished env .read
      return .error e

def pollReadChecked (buffer : ReadBuffer) : Checked (Tap σ) (Poll (Result ReadBuffer)) := do
  modify fun t => t.recording fun r => r.started env .read
  let t ← get
  let sniffing := t.monitor.sniffing
  if t.servesReplay sniffing then
    let available ← check t.replay.waitingChecked
    let count := min available.length buffer.room
    let bs ← check (available.first count)
    let filled ← check (buffer.putAll bs)
    let (_, replay) ← check (t.replay.consumeChecked count)
    set { t with replay }
    afterReplayChecked count buffer.room
    modify fun t => t.recording fun r => r.finished env .read
    return .ready (.ok filled)
  else
    let reply := ByteStream.pollRead t.inner buffer
    set (t.settle reply)
    match reply.answer with
    | .pending => return .pending
    | .ready (.ok fill) =>
      let after := buffer.put fill
      let bs ← check (after.filled.behind buffer.filled.length)
      modify fun t => (t.recordRead sniffing bs).recording fun r => r.finished env .read
      return .ready (.ok after)
    | .ready (.error e) =>
      modify fun t => t.recording fun r => (r.recordFailure env e).finished env .read
      return .ready (.error e)

/-- A blocking write of one slice or of several, which are told apart by how the stream is asked and
by how its claim is recorded. -/
def writeChecked (ask : σ → Reply σ (Result Nat)) (record : Nat → Checked (Tap σ) Unit) :
    Checked (Tap σ) (Result Nat) := do
  modify fun t => t.recording fun r => r.started env .write
  let t ← get
  let reply := ask t.inner
  set (t.settle reply)
  if let .ok written := reply.answer then record written
  modify fun t => t.recording fun r => r.finished env .write
  return reply.answer

def pollWriteChecked (ask : σ → Reply σ (Poll (Result Nat)))
    (record : Nat → Checked (Tap σ) Unit) : Checked (Tap σ) (Poll (Result Nat)) := do
  modify fun t => t.recording fun r => r.started env .write
  let t ← get
  let reply := ask t.inner
  set (t.settle reply)
  match reply.answer with
  | .pending => return .pending
  | .ready result =>
    if let .ok written := result then record written
    modify fun t => t.recording fun r => r.finished env .write
    return .ready result

def passOn {α : Type} (ask : σ → Reply σ α) : Checked (Tap σ) α := do
  let t ← get
  let reply := ask t.inner
  set (t.settle reply)
  return reply.answer

end Calls

end Tap

namespace Call

variable {σ : Type} [ByteStream σ] (env : Surroundings)

/-- Makes the call on a tap, with every bound checked. -/
def checked : (c : Call) → Checked (Tap σ) c.Response
  | read room => Outcome.returned <$> Tap.readChecked env room
  | pollRead buffer => Tap.pollReadChecked env buffer
  | write data => Tap.writeChecked env (ByteStream.write · data) (Tap.recordWriteChecked data)
  | writeVectored slices =>
    Tap.writeChecked env (ByteStream.writeVectored · slices) (Tap.recordVectoredChecked slices)
  | pollWrite data =>
    Tap.pollWriteChecked env (ByteStream.pollWrite · data) (Tap.recordWriteChecked data)
  | pollWriteVectored slices =>
    Tap.pollWriteChecked env (ByteStream.pollWriteVectored · slices)
      (Tap.recordVectoredChecked slices)
  | flush => Tap.passOn ByteStream.flush
  | pollFlush => Tap.passOn ByteStream.pollFlush
  | pollShutdown => Tap.passOn ByteStream.pollShutdown

/-- A blocking read that reaches its stream, which then claims more bytes than were asked for. -/
def Overclaimed : Call → Tap σ → Prop
  | read room, t => (read room).isReplayed t = false ∧
    ∃ claim, (ByteStream.read t.inner room).answer = .ok claim ∧ room < claim.count
  | _, _ => False

section Execute

variable {c : Call} {t : Tap σ}

private theorem execute_replayed (h : t.replay.InBounds) (hreplayed : c.isReplayed t = true) :
    (c.checked env).execute t = (.ok (c.onTap env t).1, (c.onTap env t).2) := by
  obtain ⟨hread, hserves⟩ := Bool.and_eq_true_iff.mp hreplayed
  cases c with
  | read room =>
    simp [checked, onTap, Tap.readChecked, Tap.read, hserves, ReplayQueue.copyIntoChecked_eq, h,
      Tap.execute_afterReplay]
  | pollRead buffer =>
    have hcount : (t.replay.waiting.upTo buffer.room).length =
        min t.replay.remaining buffer.room := by
      rw [Bytes.length_upTo, Nat.min_comm, ReplayQueue.length_waiting]
    have hwaits : min t.replay.remaining buffer.room ≤ t.replay.waiting.length := by
      rw [ReplayQueue.length_waiting]
      exact Nat.min_le_left ..
    have hroom : (t.replay.waiting.upTo buffer.room).length ≤ buffer.room := by
      rw [hcount]
      exact Nat.min_le_right ..
    have hhanded : t.replay.waiting.take (min t.replay.remaining buffer.room) =
        t.replay.waiting.upTo buffer.room := by
      rw [Bytes.upTo_eq_take, ← hcount, Bytes.length_upTo, ← List.take_eq_take_min]
    simp [checked, onTap, Tap.pollReadChecked, Tap.pollRead, hserves,
      ReplayQueue.waitingChecked_eq, Bytes.first_eq hwaits, hhanded, ReadBuffer.putAll_eq hroom,
      ReplayQueue.consumeChecked_eq, h, Tap.execute_afterReplay, hcount]
  | _ => cases hread

private theorem execute_forwarded (hforwarded : c.isReplayed t = false)
    (hclaim : ¬c.Overclaimed t) :
    (c.checked env).execute t = (.ok (c.onTap env t).1, (c.onTap env t).2) := by
  cases c with
  | read room =>
    have hserves : t.servesReplay t.monitor.sniffing = false := hforwarded
    rcases hanswer : (ByteStream.read t.inner room).answer with e | fill | excess
    · simp [checked, onTap, Tap.readChecked, Tap.read, hserves, hanswer]
    · simp [checked, onTap, Tap.readChecked, Tap.read, hserves, hanswer, Claim.first_buffer]
    · have hmore : room < (Claim.tooMany excess : Claim room).count := by
        rw [Claim.count]
        omega
      exact absurd ⟨hforwarded, _, hanswer, hmore⟩ hclaim
  | pollRead buffer =>
    have hserves : t.servesReplay t.monitor.sniffing = false := hforwarded
    rcases hanswer : (ByteStream.pollRead t.inner buffer).answer with _ | e | fill <;>
      simp [checked, onTap, Tap.pollReadChecked, Tap.pollRead, hserves, hanswer,
        ReadBuffer.behind_put]
  | write data =>
    rcases hanswer : (ByteStream.write t.inner data).answer with e | n <;>
      simp [checked, onTap, Tap.writeChecked, Tap.write, hanswer, Tap.execute_recordWrite]
  | writeVectored slices =>
    rcases hanswer : (ByteStream.writeVectored t.inner slices).answer with e | n <;>
      simp [checked, onTap, Tap.writeChecked, Tap.writeVectored, hanswer,
        Tap.execute_recordVectored]
  | pollWrite data =>
    rcases hanswer : (ByteStream.pollWrite t.inner data).answer with _ | e | n <;>
      simp [checked, onTap, Tap.pollWriteChecked, Tap.pollWrite, hanswer, Tap.execute_recordWrite]
  | pollWriteVectored slices =>
    rcases hanswer : (ByteStream.pollWriteVectored t.inner slices).answer with _ | e | n <;>
      simp [checked, onTap, Tap.pollWriteChecked, Tap.pollWriteVectored, hanswer,
        Tap.execute_recordVectored]
  | flush | pollFlush | pollShutdown => rfl

/-- A call that is not overclaimed passes all checks, and does what the call does. -/
theorem execute_checked (h : t.replay.InBounds) (hclaim : ¬c.Overclaimed t) :
    (c.checked env).execute t = (.ok (c.onTap env t).1, (c.onTap env t).2) := by
  cases hreplayed : c.isReplayed t with
  | true => exact execute_replayed env h hreplayed
  | false => exact execute_forwarded env hreplayed hclaim

/-- An overclaimed read panics before it records anything. -/
theorem execute_overclaimed (hclaim : c.Overclaimed t) :
    (c.checked env).execute t =
      (.error .outOfBounds, (t.entered env c).settle (c.ask t.inner)) := by
  cases c with
  | read room =>
    obtain ⟨hforwarded, claim, hanswer, hmore⟩ := hclaim
    have hserves : t.servesReplay t.monitor.sniffing = false := hforwarded
    have hcut : claim.buffer.first claim.count = .error .outOfBounds := by
      refine dif_neg ?_
      rw [Claim.length_buffer]
      omega
    simp [checked, Tap.readChecked, hserves, hanswer, hcut, Tap.entered, direction?, ask]
  | _ => exact hclaim.elim

end Execute

end Call

end PeekRelay
