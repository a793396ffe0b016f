import PeekRelay.Proofs.Intake
import PeekRelay.Proofs.Logged
import PeekRelay.Script
/-!
# Streams that deliver given bytes

A stream may deliver its bytes in any pieces and keep its reader waiting, as long as it does not
fail and does not end too early. A script of data does so.
-/
namespace PeekRelay

/-- What a stream answers that has these bytes to deliver: pieces of them in order, a wait now and
then, and nothing only when all of them are delivered. -/
structure Fed (bs : Bytes) (answers : List Answered) : Prop where
  calm : ∀ a ∈ answers, a.call.isRead = true →
    a.call.upshot a.answer = .pending ∨ ∃ piece, a.call.upshot a.answer = .moved piece
  inOrder : answers.flatMap Answered.delivered <+: bs
  whole : (∃ a ∈ answers, a.endsInput = true) → answers.flatMap Answered.delivered = bs

/-- The stream delivers these bytes, in whatever pieces, and then ends, as long as no calls are made
on it but such. -/
def Feeds {σ : Type} [ByteStream σ] (asked : Call → Prop) (s : σ) (bs : Bytes) : Prop :=
  ∀ calls, (∀ c ∈ calls, asked c) → Fed bs (Call.askAll calls s).1

namespace Answered

variable (a : Answered)

private theorem endsInput_iff : a.endsInput = true ↔
    a.call.isRead = true ∧ 0 < a.call.room ∧ a.call.upshot a.answer = .moved [] := by
  obtain ⟨c, stops, answer⟩ := a
  cases c with
  | read room =>
    rcases answer with e | fill | excess
    · simp [endsInput, Call.upshot]
    · simp [endsInput, Call.upshot, Call.isRead, Call.room]
    · simp [endsInput, Call.upshot]
  | pollRead buffer =>
    rcases answer with _ | e | fill
    · simp [endsInput, Call.upshot]
    · simp [endsInput, Call.upshot]
    · simp [endsInput, Call.upshot, Call.isRead, Call.room]
  | _ => simp [endsInput, Call.isRead]

end Answered

namespace Fed

variable {bs : Bytes} {answers : List Answered}

private theorem nil (bs : Bytes) : Fed bs [] where
  calm _ h := absurd h List.not_mem_nil
  inOrder := List.nil_prefix
  whole := fun ⟨_, h, _⟩ => absurd h List.not_mem_nil

private theorem cons (h : Fed bs answers) {a : Answered} {piece : Bytes}
    (hread : a.call.isRead = true)
    (hmoved : a.call.upshot a.answer = .moved piece)
    (hlast : 0 < a.call.room → piece = [] → bs = []) : Fed (piece ++ bs) (a :: answers) := by
  have hdelivered : a.delivered = piece := by
    rw [Answered.delivered, a.call.delivered_of_isRead _ hread, hmoved]
    rfl
  constructor
  case calm =>
    intro a' ha' hread'
    rcases List.mem_cons.mp ha' with rfl | ha'
    · exact .inr ⟨piece, hmoved⟩
    · exact h.calm a' ha' hread'
  case inOrder =>
    rw [List.flatMap_cons, hdelivered]
    exact (List.prefix_append_right_inj piece).mpr h.inOrder
  case whole =>
    rintro ⟨a', ha', hends⟩
    rw [List.flatMap_cons, hdelivered]
    refine congrArg (piece ++ ·) ?_
    rcases List.mem_cons.mp ha' with rfl | ha'
    · obtain ⟨-, hroom, hnothing⟩ := a'.endsInput_iff.mp hends
      have hnone : bs = [] := hlast hroom (Upshot.moved.inj (hmoved.symm.trans hnothing))
      have horder := h.inOrder
      rw [hnone] at horder ⊢
      exact List.prefix_nil.mp horder
    · exact h.whole ⟨a', ha', hends⟩

/-- A reader of such a stream is told of no other end than that of the input, and only when all is
delivered. -/
theorem of_closing (h : Fed bs answers) {a : Answered} (ha : a ∈ answers)
    (hread : a.call.isRead = true) (hroom : 0 < a.call.room) {closing : Closing}
    (hclosing : (a.call.upshot a.answer).closing? = some closing) :
    closing = .ended ∧ answers.flatMap Answered.delivered = bs := by
  rcases h.calm a ha hread with hpending | ⟨_ | ⟨b, piece⟩, hmoved⟩
  · rw [hpending] at hclosing
    cases hclosing
  · rw [hmoved] at hclosing
    cases hclosing
    exact ⟨rfl, h.whole ⟨a, ha, a.endsInput_iff.mpr ⟨hread, hroom, hmoved⟩⟩⟩
  · rw [hmoved] at hclosing
    cases hclosing

end Fed

def ReadAct.brings : ReadAct → Bytes
  | .data bs => bs
  | _ => []

namespace Script

/-- A script whose reads bring these bytes and nothing else. -/
structure Flows (s : Script) (bs : Bytes) : Prop where
  steps : ∀ step ∈ s.reads, ∃ piece, piece ≠ [] ∧ step.act = .data piece
  due : s.due = none
  left : s.rest ++ s.reads.flatMap (fun step => step.act.brings) = bs

section Ask

variable {s : Script} {c : Call}

private theorem ask_rest (hread : c.isRead = true) (hrest : s.rest ≠ [])
    (hreads : ∀ step ∈ s.reads, ∃ piece, piece ≠ [] ∧ step.act = .data piece) :
    c.upshot (c.ask s).answer = .moved (s.rest.take c.room) ∧
      (c.ask s).next = { s with rest := s.rest.drop c.room } := by
  cases c with
  | read room =>
    have heq : Call.ask (.read room) s =
        ⟨[], .ok (.fits ⟨s.rest.take room, List.length_take_le ..⟩),
          { s with rest := s.rest.drop room }⟩ := by
      change Script.read s room = _
      unfold Script.read
      split
      · next stop excess reads hsteps =>
        obtain ⟨piece, -, hact⟩ := hreads _ (hsteps ▸ List.mem_cons_self)
        cases hact
      · rw [if_pos hrest]
        rfl
    rw [heq]
    exact ⟨rfl, rfl⟩
  | pollRead buffer =>
    have heq : Call.ask (.pollRead buffer) s =
        ⟨[], .ready (.ok ⟨s.rest.take buffer.room, List.length_take_le ..⟩),
          { s with rest := s.rest.drop buffer.room }⟩ := by
      change Script.pollRead s buffer = _
      unfold Script.pollRead
      rw [if_pos hrest]
      rfl
    rw [heq]
    exact ⟨rfl, rfl⟩
  | _ => cases hread

private theorem ask_end (hread : c.isRead = true) (hrest : s.rest = []) (hreads : s.reads = [])
    (hdue : s.due = none) :
    c.upshot (c.ask s).answer = .moved [] ∧ (c.ask s).next = s := by
  obtain ⟨⟩ := s
  subst hrest hreads hdue
  cases c with
  | read room => exact ⟨congrArg Upshot.moved List.take_nil, rfl⟩
  | pollRead buffer => exact ⟨congrArg Upshot.moved List.take_nil, rfl⟩
  | _ => cases hread

private theorem ask_data (hread : c.isRead = true) (hrest : s.rest = []) {stop : Option Stop}
    {piece : Bytes} {reads : List (Step ReadAct)}
    (hreads : s.reads = { stop, act := .data piece } :: reads) (hdue : s.due = none) :
    c.upshot (c.ask s).answer = .moved (piece.take c.room) ∧
      (c.ask s).next = { s with reads, rest := piece.drop c.room } := by
  obtain ⟨⟩ := s
  subst hrest hreads hdue
  cases c with
  | read room => exact ⟨rfl, rfl⟩
  | pollRead buffer => exact ⟨rfl, rfl⟩
  | _ => cases hread

end Ask

namespace Flows

variable {s : Script} {bs : Bytes}

private theorem ask (h : Flows s bs) {c : Call} (hread : c.isRead = true) : ∃ piece rest,
    bs = piece ++ rest ∧ c.upshot (c.ask s).answer = .moved piece ∧ Flows (c.ask s).next rest ∧
      (0 < c.room → piece = [] → rest = []) := by
  have hpiece : ∀ front : Bytes, front ≠ [] → ∀ rest : Bytes,
      0 < c.room → front.take c.room = [] → rest = [] := by
    intro front hfront rest hroom hnone
    rcases List.take_eq_nil_iff.mp hnone with hzero | hempty
    · exact absurd hzero (Nat.ne_of_gt hroom)
    · exact absurd hempty hfront
  by_cases hrest : s.rest = []
  · cases hreads : s.reads with
    | nil =>
      obtain ⟨hmoved, hnext⟩ := ask_end hread hrest hreads h.due
      have hnone : bs = [] := by rw [← h.left, hrest, hreads, List.flatMap_nil, List.append_nil]
      subst hnone
      refine ⟨[], [], rfl, hmoved, ?_, fun _ _ => rfl⟩
      rw [hnext]
      exact h
    | cons step reads =>
      obtain ⟨piece, hne, hact⟩ := h.steps step (hreads ▸ List.mem_cons_self)
      have hstep : s.reads = { stop := step.stop, act := .data piece } :: reads := by
        rw [hreads, ← hact]
      obtain ⟨hmoved, hnext⟩ := ask_data hread hrest hstep h.due
      refine ⟨_, piece.drop c.room ++ reads.flatMap (fun step => step.act.brings), ?_, hmoved, ?_,
        hpiece piece hne _⟩
      · rw [← h.left, hrest, hstep, List.flatMap_cons, List.nil_append, ← List.append_assoc,
          List.take_append_drop]
        rfl
      · rw [hnext]
        exact ⟨fun step' h' => h.steps step' (hreads ▸ List.mem_cons_of_mem _ h'), h.due, rfl⟩
  · obtain ⟨hmoved, hnext⟩ := ask_rest hread hrest h.steps
    refine ⟨_, s.rest.drop c.room ++ s.reads.flatMap (fun step => step.act.brings), ?_, hmoved, ?_,
      hpiece s.rest hrest _⟩
    · rw [← h.left, ← List.append_assoc, List.take_append_drop]
    · rw [hnext]
      exact ⟨h.steps, h.due, rfl⟩

end Flows

theorem feeds {s : Script} {bs : Bytes} (h : Flows s bs) :
    Feeds (fun c => c.isRead = true) s bs := by
  intro calls hreads
  induction calls generalizing s bs with
  | nil => exact .nil bs
  | cons c calls ih =>
    have hread := hreads c List.mem_cons_self
    obtain ⟨piece, rest, rfl, hmoved, hnext, hlast⟩ := h.ask hread
    exact (ih hnext fun c' hc' => hreads c' (List.mem_cons_of_mem _ hc')).cons hread hmoved hlast

end Script

end PeekRelay
