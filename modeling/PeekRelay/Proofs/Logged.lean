import PeekRelay.Proofs.Tap.Calls
/-!
# Logged streams

A stream that keeps a log of the calls it answers. It answers just as the stream that it is made of,
so its log tells what that stream went through.
-/
namespace PeekRelay

/-- A call with the answer that it got, and the stops that were made meanwhile. -/
structure Answered where
  call : Call
  stops : List Stop
  answer : call.Answer

namespace Answered

def delivered (a : Answered) : Bytes := a.call.delivered a.answer

def accepted (a : Answered) : Bytes := a.call.accepted a.answer

/-- Whether a read into a buffer with room found nothing, which says that the input has ended. -/
def endsInput : Answered → Bool
  | ⟨.read room, _, .ok (.fits fill)⟩ => 0 < room && fill.val.isEmpty
  | ⟨.pollRead buffer, _, .ready (.ok fill)⟩ => 0 < buffer.room && fill.val.isEmpty
  | _ => false

end Answered

namespace Call

variable {σ : Type} [ByteStream σ]

def askAll : List Call → σ → List Answered × σ
  | [], s => ([], s)
  | c :: cs, s =>
    let rest := askAll cs (c.ask s).next
    (⟨c, (c.ask s).stops, (c.ask s).answer⟩ :: rest.1, rest.2)

private theorem askAll_append (cs ds : List Call) (s : σ) : askAll (cs ++ ds) s =
    ((askAll cs s).1 ++ (askAll ds (askAll cs s).2).1, (askAll ds (askAll cs s).2).2) := by
  induction cs generalizing s with
  | nil => rfl
  | cons c cs ih =>
    rw [List.cons_append, askAll, ih]
    rfl

end Call

structure Logged (σ : Type) where
  stream : σ
  log : List Answered := []

namespace Logged

variable {σ : Type}

def delivered (s : Logged σ) : Bytes := s.log.flatMap Answered.delivered

def accepted (s : Logged σ) : Bytes := s.log.flatMap Answered.accepted

/-- The last read, if there was one, found the end of the input. -/
def InputEnded (s : Logged σ) : Prop :=
  ∃ a, (s.log.filter fun a => a.call.isRead).getLast? = some a ∧ a.endsInput = true

variable [ByteStream σ]

def answer (c : Call) (s : Logged σ) : Reply (Logged σ) c.Answer :=
  let reply := c.ask s.stream
  { stops := reply.stops
    answer := reply.answer
    next := { stream := reply.next, log := s.log ++ [⟨c, reply.stops, reply.answer⟩] } }

instance : ByteStream (Logged σ) where
  read s room := s.answer (.read room)
  pollRead s buffer := s.answer (.pollRead buffer)
  write s data := s.answer (.write data)
  pollWrite s data := s.answer (.pollWrite data)
  writeVectored s slices := s.answer (.writeVectored slices)
  pollWriteVectored s slices := s.answer (.pollWriteVectored slices)
  isVectored s := ByteStream.isVectored s.stream
  flush s := s.answer .flush
  pollFlush s := s.answer .pollFlush
  pollShutdown s := s.answer .pollShutdown

private theorem ask_eq_answer (c : Call) (s : Logged σ) : c.ask s = s.answer c := by
  cases c <;> rfl

section Answer

variable (c : Call) (s : Logged σ)

theorem log_next : (c.ask s).next.log =
    s.log ++ [⟨c, (c.ask s).stops, (c.ask s).answer⟩] := by
  rw [ask_eq_answer]
  rfl

theorem delivered_next :
    (c.ask s).next.delivered = s.delivered ++ c.delivered (c.ask s).answer := by
  rw [delivered, log_next, List.flatMap_append, List.flatMap_singleton]
  rfl

theorem accepted_next :
    (c.ask s).next.accepted = s.accepted ++ c.accepted (c.ask s).answer := by
  rw [accepted, log_next, List.flatMap_append, List.flatMap_singleton]
  rfl

theorem InputEnded.ask {s : Logged σ} (h : s.InputEnded) (c : Call) (hc : c.isRead = false) :
    (c.ask s).next.InputEnded := by
  have hsame : ((c.ask s).next.log.filter fun a => a.call.isRead) =
      s.log.filter fun a => a.call.isRead := by
    rw [log_next, List.filter_append, List.filter_cons, hc]
    exact List.append_nil _
  obtain ⟨a, hlast, hends⟩ := h
  exact ⟨a, hsame ▸ hlast, hends⟩

theorem inputEnded_pollRead {s : Logged σ} {buffer : ReadBuffer} {fill : Fill buffer.room}
    (h : ((Call.pollRead buffer).ask s).answer = .ready (.ok fill)) (hroom : 0 < buffer.room)
    (hnone : fill.val = []) : ((Call.pollRead buffer).ask s).next.InputEnded := by
  refine ⟨⟨.pollRead buffer, ((Call.pollRead buffer).ask s).stops, .ready (.ok fill)⟩, ?_, ?_⟩
  · rw [log_next, h, List.filter_append, List.filter_cons_of_pos rfl]
    exact List.getLast?_concat
  · change (decide (0 < buffer.room) && fill.val.isEmpty) = true
    rw [hnone, decide_eq_true hroom]
    rfl

end Answer

/-- The log is what the stream answers to the same calls when nobody keeps a log. -/
def Follows (l : Logged σ) (s : σ) : Prop :=
  Call.askAll (l.log.map Answered.call) s = (l.log, l.stream)

theorem follows_start (s : σ) : Follows ⟨s, []⟩ s := rfl

theorem Follows.ask {l : Logged σ} {s : σ} (h : l.Follows s) (c : Call) :
    (c.ask l).next.Follows s := by
  rw [Follows, log_next, List.map_append, Call.askAll_append, h, ask_eq_answer]
  rfl

end Logged

end PeekRelay
