import PeekRelay.ByteStream
import PeekRelay.ReplayQueue
/-!
# Tapped streams

A tap wraps a byte stream. While it sniffs, bytes read from the stream go to the caller and into a
replay queue. After that, reads are served from the queue until it is empty, and from the stream
again from then on. All that goes through the stream is recorded.
-/
namespace PeekRelay

structure Tap (σ : Type) where
  inner : σ
  replay : ReplayQueue := {}
  monitor : Monitor

namespace Tap

variable {σ : Type}

def wrap (inner : σ) (id : Uuid) (settings : SniffSettings) : Tap σ :=
  { inner, monitor := (Monitor.new id settings).note .wrapped }

def heed (t : Tap σ) (stop : Stop) : Tap σ := { t with monitor := t.monitor.heed stop }

/-- How many sniffed bytes wait to be handed out again. -/
def replayPending (t : Tap σ) : Nat := t.replay.remaining

/-- Unwraps the stream, with the sniffed bytes that were not handed out again. -/
def intoParts (t : Tap σ) : σ × Bytes := (t.inner, t.replay.intoRemaining)

def recorder (t : Tap σ) : Recorder := t.monitor.recorder

def recording (t : Tap σ) (f : Recorder → Recorder) : Tap σ :=
  { t with monitor := { t.monitor with recorder := f t.monitor.recorder } }

/-- Takes in what a call of the stream left behind: the stream, and the stops made meanwhile. -/
def settle {α : Type} (t : Tap σ) (reply : Reply σ α) : Tap σ :=
  { t with inner := reply.next, monitor := t.monitor.heedAll reply.stops }

/-- Whether a read that was entered with this flag is served from the queue. -/
def servesReplay (t : Tap σ) (sniffing : Bool) : Bool := !sniffing && t.replay.hasRemaining

/-- After a read from the queue into a buffer with room for `room`: an empty queue is released. -/
def afterReplay (t : Tap σ) (copied room : Nat) : Tap σ :=
  let t := if copied = 0 ∧ 0 < room then
      t.recording fun r => r.note (.replayStalled t.replay.remaining)
    else t
  if h : t.replay.hasRemaining = false then
    ({ t with replay := t.replay.release h }).recording fun r => r.note .replayDrained
  else t

/-- Records bytes read from the stream. They are sniffed if the flag was set when the read was
entered, whatever it is now. -/
def recordRead (t : Tap σ) (sniffing : Bool) (bs : Bytes) : Tap σ :=
  let t := t.recording fun r => r.keep .read bs
  if sniffing then
    let (counter, r) := t.recorder.nextSniff
    let t := t.recording fun _ =>
      r.note (.sniffed counter bs.length (if t.monitor.showPayload then some bs else none))
    { t with replay := t.replay.append bs }
  else t

/-- Copies the bytes of one slice that the stream took. -/
def recordWrite (t : Tap σ) (data : Bytes) (written : Nat) : Tap σ :=
  t.recording fun r => r.keep .write (data.upTo written)

/-- Copies the bytes that the stream took, slice by slice. -/
def recordVectored (t : Tap σ) : List Bytes → Nat → Tap σ
  | [], _ => t
  | data :: rest, left =>
    if left = 0 then t
    else
      let taken := min left data.length
      (t.recordWrite data taken).recordVectored rest (left - taken)

section Calls

variable [ByteStream σ] (env : Surroundings)

def read (t : Tap σ) (room : Nat) : Outcome (Result Bytes) × Tap σ :=
  let t := t.recording fun r => r.started env .read
  let sniffing := t.monitor.sniffing
  if t.servesReplay sniffing then
    let (bs, replay) := t.replay.copyInto room
    let t := ({ t with replay }).afterReplay bs.length room
    (.returned (.ok bs), t.recording fun r => r.finished env .read)
  else
    let reply := ByteStream.read t.inner room
    let t := t.settle reply
    match reply.answer with
    | .ok (.tooMany _) => (.panicked, t)
    | .ok (.fits fill) =>
      (.returned (.ok fill.val), (t.recordRead sniffing fill.val).recording fun r =>
        r.finished env .read)
    | .error e =>
      (.returned (.error e), t.recording fun r => (r.recordFailure env e).finished env .read)

def pollRead (t : Tap σ) (buffer : ReadBuffer) : Poll (Result ReadBuffer) × Tap σ :=
  let t := t.recording fun r => r.started env .read
  let sniffing := t.monitor.sniffing
  if t.servesReplay sniffing then
    let bs := t.replay.waiting.upTo buffer.room
    have fits : bs.length ≤ buffer.room := by
      simp only [bs, Bytes.length_upTo]
      exact Nat.min_le_left ..
    let t := ({ t with replay := (t.replay.consume bs.length).2 }).afterReplay bs.length buffer.room
    (.ready (.ok (buffer.put ⟨bs, fits⟩)), t.recording fun r => r.finished env .read)
  else
    let reply := ByteStream.pollRead t.inner buffer
    let t := t.settle reply
    match reply.answer with
    | .pending => (.pending, t)
    | .ready (.ok fill) =>
      (.ready (.ok (buffer.put fill)), (t.recordRead sniffing fill.val).recording fun r =>
        r.finished env .read)
    | .ready (.error e) =>
      (.ready (.error e), t.recording fun r => (r.recordFailure env e).finished env .read)

def write (t : Tap σ) (data : Bytes) : Result Nat × Tap σ :=
  let t := t.recording fun r => r.started env .write
  let reply := ByteStream.write t.inner data
  let t := t.settle reply
  let t := match reply.answer with
    | .ok written => t.recordWrite data written
    | .error _ => t
  (reply.answer, t.recording fun r => r.finished env .write)

def writeVectored (t : Tap σ) (slices : List Bytes) : Result Nat × Tap σ :=
  let t := t.recording fun r => r.started env .write
  let reply := ByteStream.writeVectored t.inner slices
  let t := t.settle reply
  let t := match reply.answer with
    | .ok written => t.recordVectored slices written
    | .error _ => t
  (reply.answer, t.recording fun r => r.finished env .write)

def pollWrite (t : Tap σ) (data : Bytes) : Poll (Result Nat) × Tap σ :=
  let t := t.recording fun r => r.started env .write
  let reply := ByteStream.pollWrite t.inner data
  let t := t.settle reply
  match reply.answer with
  | .pending => (.pending, t)
  | .ready (.ok written) =>
    (.ready (.ok written), (t.recordWrite data written).recording fun r => r.finished env .write)
  | .ready (.error e) => (.ready (.error e), t.recording fun r => r.finished env .write)

def pollWriteVectored (t : Tap σ) (slices : List Bytes) : Poll (Result Nat) × Tap σ :=
  let t := t.recording fun r => r.started env .write
  let reply := ByteStream.pollWriteVectored t.inner slices
  let t := t.settle reply
  match reply.answer with
  | .pending => (.pending, t)
  | .ready (.ok written) =>
    (.ready (.ok written), (t.recordVectored slices written).recording fun r =>
      r.finished env .write)
  | .ready (.error e) => (.ready (.error e), t.recording fun r => r.finished env .write)

def isVectored (t : Tap σ) : Bool := ByteStream.isVectored t.inner

def flush (t : Tap σ) : Result Unit × Tap σ :=
  let reply := ByteStream.flush t.inner
  (reply.answer, t.settle reply)

def pollFlush (t : Tap σ) : Poll (Result Unit) × Tap σ :=
  let reply := ByteStream.pollFlush t.inner
  (reply.answer, t.settle reply)

def pollShutdown (t : Tap σ) : Poll (Result Unit) × Tap σ :=
  let reply := ByteStream.pollShutdown t.inner
  (reply.answer, t.settle reply)

end Calls

end Tap

end PeekRelay
