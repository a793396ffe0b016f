import PeekRelay.ByteStream
import PeekRelay.SocketAddress
/-!
# Scripted streams

A stream that plays a script: each call takes the next step of its list, and a list that is used up
goes on with plain steps for ever. Data that did not fit into a read stays for the following reads.
-/
namespace PeekRelay

structure Step (α : Type) where
  stop : Option Stop := none
  act : α
  deriving Repr

inductive ReadAct where
  | data (bs : Bytes)
  | fail (e : IoError)
  | pending
  | wait (ms : Nat)
  | tooMany (excess : Nat)
  deriving Repr

inductive WriteAct where
  | accept (limit : Option Nat) (excess : Nat)
  | fail (e : IoError)
  | pending
  deriving Repr

inductive PlainAct where
  | succeed
  | fail (e : IoError)
  | pending
  deriving Repr

structure Script where
  reads : List (Step ReadAct) := []
  writes : List (Step WriteAct) := []
  flushes : List (Step PlainAct) := []
  shutdowns : List (Step PlainAct) := []
  vectored : Bool := false
  localAddress : Result SocketAddress := .error (.bare .notConnected)
  peerAddress : Result SocketAddress := .error (.bare .notConnected)
  readTimeout : Option Nat := none
  writeTimeout : Option Nat := none
  rest : Bytes := []
  written : Bytes := []
  flushCount : Nat := 0
  shutdownCount : Nat := 0
  /-- The present time in milliseconds. -/
  now : Nat := 0
  /-- When the wait that the script stands at is over. -/
  due : Option Nat := none
  /-- Whether a call was pending that wakes its caller at once. -/
  woken : Bool := false

namespace Script

def wouldBlock : IoError := .bare .wouldBlock

private def hooks (stop : Option Stop) : List Stop := stop.toList

private def give (s : Script) (room : Nat) : Fill room × Script :=
  (⟨s.rest.take room, List.length_take_le ..⟩, { s with rest := s.rest.drop room })

private def zeros (room : Nat) : Fill room := ⟨List.replicate room 0, by simp⟩

def read (s : Script) (room : Nat) : Reply Script (Result (Claim room)) :=
  match s.reads with
  | { stop, act := .tooMany excess } :: reads =>
    let claim := match excess with
      | 0 => Claim.fits (zeros room)
      | n + 1 => Claim.tooMany n
    { stops := hooks stop, answer := .ok claim, next := { s with reads } }
  | reads =>
    if s.rest ≠ [] then
      let (fill, s) := s.give room
      { answer := .ok (.fits fill), next := s }
    else match reads with
      | [] => { answer := .ok (.fits (s.give room).1), next := s }
      | { stop, act } :: reads =>
        let s := { s with reads }
        match act with
        | .data rest =>
          let (fill, s) := ({ s with rest }).give room
          { stops := hooks stop, answer := .ok (.fits fill), next := s }
        | .fail e => { stops := hooks stop, answer := .error e, next := s }
        | .pending | .wait _ => { stops := hooks stop, answer := .error wouldBlock, next := s }
        | .tooMany _ =>
          { stops := hooks stop, answer := .ok (.fits (s.give room).1), next := s }

private def play (room : Nat) : List Stop → List (Step ReadAct) → Script →
    Reply Script (Poll (Result (Fill room)))
  | stops, [], s =>
    { stops, answer := .ready (.ok (s.give room).1), next := { s with reads := [] } }
  | stops, { stop, act } :: reads, s =>
    let stops := stops ++ hooks stop
    match act with
    | .data rest =>
      let (fill, s) := ({ s with rest, reads }).give room
      { stops, answer := .ready (.ok fill), next := s }
    | .fail e => { stops, answer := .ready (.error e), next := { s with reads } }
    | .pending => { stops, answer := .pending, next := { s with reads, woken := true } }
    | .wait ms =>
      if ms = 0 then play room stops reads s
      else { stops, answer := .pending, next := { s with reads, due := some (s.now + ms) } }
    | .tooMany _ => { stops, answer := .ready (.ok (s.give room).1), next := { s with reads } }

def pollRead (s : Script) (buffer : ReadBuffer) : Reply Script (Poll (Result (Fill buffer.room))) :=
  if s.rest ≠ [] then
    let (fill, s) := s.give buffer.room
    { answer := .ready (.ok fill), next := s }
  else if s.due.any fun d => s.now < d then { answer := .pending, next := s }
  else play buffer.room [] s.reads { s with due := none }

private def take (s : Script) (data : Bytes) : Reply Script (Poll (Result Nat)) :=
  match s.writes with
  | [] => { answer := .ready (.ok data.length), next := { s with written := s.written ++ data } }
  | { stop, act } :: writes =>
    let s := { s with writes }
    match act with
    | .accept limit excess =>
      let taken := data.take (limit.getD data.length)
      { stops := hooks stop
        answer := .ready (.ok (taken.length + excess))
        next := { s with written := s.written ++ taken } }
    | .fail e => { stops := hooks stop, answer := .ready (.error e), next := s }
    | .pending => { stops := hooks stop, answer := .pending, next := { s with woken := true } }

/-- A blocking call fails where a poll would be pending. -/
private def blocking {α : Type} (r : Reply Script (Poll (Result α))) : Reply Script (Result α) where
  stops := r.stops
  answer := match r.answer with
    | .ready result => result
    | .pending => .error wouldBlock
  next := r.next

/-- What a vectored write offers: all slices, or only the first that is not empty. -/
private def offered (s : Script) (slices : List Bytes) : Bytes :=
  if s.vectored then slices.flatten else (slices.find? (· ≠ [])).getD []

private def plain (act : PlainAct) (stop : Option Stop) (s : Script) :
    Reply Script (Poll (Result Unit)) :=
  match act with
  | .succeed => { stops := hooks stop, answer := .ready (.ok ()), next := s }
  | .fail e => { stops := hooks stop, answer := .ready (.error e), next := s }
  | .pending => { stops := hooks stop, answer := .pending, next := { s with woken := true } }

def pollFlush (s : Script) : Reply Script (Poll (Result Unit)) :=
  let s := { s with flushCount := s.flushCount + 1 }
  match s.flushes with
  | [] => { answer := .ready (.ok ()), next := s }
  | step :: flushes => plain step.act step.stop { s with flushes }

def pollShutdown (s : Script) : Reply Script (Poll (Result Unit)) :=
  let s := { s with shutdownCount := s.shutdownCount + 1 }
  match s.shutdowns with
  | [] => { answer := .ready (.ok ()), next := s }
  | step :: shutdowns => plain step.act step.stop { s with shutdowns }

instance : ByteStream Script where
  read := read
  pollRead := pollRead
  write s data := blocking (s.take data)
  pollWrite := take
  writeVectored s slices := blocking (s.take (s.offered slices))
  pollWriteVectored s slices := s.take (s.offered slices)
  isVectored := vectored
  flush s := blocking s.pollFlush
  pollFlush := pollFlush
  pollShutdown := pollShutdown

/-- A timeout of no duration is refused. -/
private def checkTimeout (ms : Option Nat) : Result Unit :=
  if ms = some 0 then .error (.custom .invalidInput "cannot set a 0 duration timeout") else .ok ()

def setReadTimeout (s : Script) (ms : Option Nat) : Result Unit × Script :=
  match checkTimeout ms with
  | .ok () => (.ok (), { s with readTimeout := ms })
  | .error e => (.error e, s)

def setWriteTimeout (s : Script) (ms : Option Nat) : Result Unit × Script :=
  match checkTimeout ms with
  | .ok () => (.ok (), { s with writeTimeout := ms })
  | .error e => (.error e, s)

private def readSizes (steps : List (Step ReadAct)) : Nat :=
  steps.foldr (fun step total => (match step.act with
    | .data bs => bs.length + 1
    | _ => 1) + total) 0

/-- More calls than this the script does not need to come to its end. -/
def reach (s : Script) : Nat :=
  readSizes s.reads + s.rest.length + s.writes.length + s.flushes.length + s.shutdowns.length + 1

end Script

end PeekRelay
