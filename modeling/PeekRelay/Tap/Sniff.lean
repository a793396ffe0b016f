import PeekRelay.Tap
/-!
# Sniffing

A sniff reads until it has as many bytes as wanted or the stream ends, and yields all it read. It is
polled like the reads it is made of, so it can be dropped half way; what it read waits for replay.
-/
namespace PeekRelay

/-- A sniff under way. -/
structure Sniff where
  wanted : Nat
  collected : Bytes := []
  deriving DecidableEq, Repr

inductive SniffEnd where
  | done (result : Result Bytes)
  | cancelled
  | panicked

namespace Sniff

def chunk (s : Sniff) : Nat := max 1 (min s.wanted 4096)

def refusal : IoError := .custom .invalidInput "sniffing already stopped"

/-- How many bytes no buffer can hold. -/
def tooLarge : Nat := Nat.pow 2 63

/-- What a sniff is taken from: the reads it makes, and the requests that handles make meanwhile. -/
structure Source (s : Type) where
  isSniffing : s → Bool
  pollRead : ReadBuffer → s → Poll (Result ReadBuffer) × s
  heed : Stop → s → s

/-- Starts a sniff. Once sniffing was stopped this fails, since the bytes would be lost to the next
reader. -/
def begin (isSniffing : Bool) (wanted : Nat) : Outcome (Result Sniff) :=
  if isSniffing then
    if wanted < tooLarge then .returned (.ok { wanted }) else .panicked
  else .returned (.error refusal)

variable {s : Type} (source : Source s)

/-- Polls a sniff until it is finished or a read is pending. -/
def resume (sniff : Sniff) (state : s) : Poll (Result Bytes) × Sniff × s :=
  if _wants : sniff.collected.length < sniff.wanted then
    match source.pollRead { room := sniff.chunk } state with
    | (.pending, state) => (.pending, sniff, state)
    | (.ready (.error e), state) => (.ready (.error e), sniff, state)
    | (.ready (.ok buffer), state) =>
      if _ended : buffer.filled = [] then (.ready (.ok sniff.collected), sniff, state)
      else resume { sniff with collected := sniff.collected ++ buffer.filled } state
  else (.ready (.ok sniff.collected), sniff, state)
termination_by sniff.wanted - sniff.collected.length
decreasing_by
  have : 0 < buffer.filled.length := List.length_pos_iff.mpr _ended
  simp only [List.length_append]
  omega

/-- Polls a sniff to its end. After each pending poll the next pause says what handles ask for
before the sniff is polled again; the sniff is dropped when no pause is left. -/
def drive (sniff : Sniff) (state : s) : List (List Stop) → SniffEnd × s
  | [] =>
    match sniff.resume source state with
    | (.ready result, _, state) => (.done result, state)
    | (.pending, _, state) => (.cancelled, state)
  | stops :: pauses =>
    match sniff.resume source state with
    | (.ready result, _, state) => (.done result, state)
    | (.pending, sniff, state) =>
      drive sniff (stops.foldl (fun state stop => source.heed stop state) state) pauses

def run (wanted : Nat) (pauses : List (List Stop)) (state : s) : SniffEnd × s :=
  match begin (source.isSniffing state) wanted with
  | .panicked => (.panicked, state)
  | .returned (.error e) => (.done (.error e), state)
  | .returned (.ok sniff) => sniff.drive source state pauses

end Sniff

namespace Tap

variable {σ : Type}

def beginSniff (t : Tap σ) (wanted : Nat) : Outcome (Result Sniff) :=
  Sniff.begin t.monitor.sniffing wanted

variable [ByteStream σ] (env : Surroundings)

def sniffSource : Sniff.Source (Tap σ) where
  isSniffing t := t.monitor.sniffing
  pollRead buffer t := t.pollRead env buffer
  heed stop t := t.heed stop

def resumeSniff (t : Tap σ) (s : Sniff) : Poll (Result Bytes) × Sniff × Tap σ :=
  s.resume (sniffSource env) t

/-- Sniffs to the end. After each pending poll the next interlude says whether to go on, and what to
ask of a handle before. -/
def sniff (t : Tap σ) (wanted : Nat) (interludes : List (Option Stop)) : SniffEnd × Tap σ :=
  Sniff.run (sniffSource env) wanted (interludes.map Option.toList) t

end Tap

end PeekRelay
