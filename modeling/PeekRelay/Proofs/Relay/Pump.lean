import PeekRelay.Relay.Pump
/-!
# Pumps lose nothing

A ledger says what the reads of a route handed out and what its writes accepted. What a pump holds
unwritten is exactly what lies between the two, after each of its steps.
-/
namespace PeekRelay

/-- What went through one direction of a connection. -/
structure Ledger where
  handed : Bytes := []
  accepted : Bytes := []
  /-- Whether a read found the end of the input. -/
  ended : Bool := false

namespace Ledger

variable (l : Ledger)

def accept (bs : Bytes) : Ledger := { l with accepted := l.accepted ++ bs }

/-- Takes in a read; a read of nothing is the end. -/
def hand (bs : Bytes) : Ledger := { l with handed := l.handed ++ bs, ended := bs.isEmpty }

@[simp] theorem accept_nil : l.accept [] = l := by simp [accept]

end Ledger

/-- The calls of a route keep what its ledger has to do with the state. -/
structure Route.Keeps {s : Type} (route : Route s) (Inv : Ledger → s → Prop) : Prop where
  read : ∀ {l state} (buffer : ReadBuffer), Inv l state → l.ended = false → 0 < buffer.room →
    match route.read buffer state with
    | (.ready (.ok filled), state) => ∃ bs, filled.filled = buffer.filled ++ bs ∧
        Inv (l.hand bs) state
    | (_, state) => Inv l state
  write : ∀ {l state} (data : Bytes), Inv l state →
    match route.write data state with
    | (.ready (.ok n), state) => Inv (l.accept (data.take n)) state
    | (_, state) => Inv l state
  flush : ∀ {l state}, Inv l state → Inv l (route.flush state).2
  shutdown : ∀ {l state}, Inv l state → Inv l (route.shutdown state).2

namespace Pump

/-- What is handed out but not accepted lies in the buffer of the pump. -/
structure Balanced (l : Ledger) (p : Pump) : Prop where
  ended : l.ended = p.ended
  balance : l.accepted ++ p.unwritten = l.handed
  copied : p.copied = l.accepted.length
  inBuffer : p.start ≤ p.buffer.length
  drained : p.phase ≠ .running → p.ended = true ∧ p.unwritten = []

namespace Balanced

variable {l : Ledger} {p : Pump}

theorem start : Balanced {} {} := ⟨rfl, rfl, rfl, Nat.le_refl _, fun h => absurd rfl h⟩

theorem prefix_handed (h : Balanced l p) : l.accepted <+: l.handed := ⟨_, h.balance⟩

private theorem refilled (h : Balanced l p) (hended : p.ended = false) {b : ReadBuffer} {bs : Bytes}
    (hb : b.filled = p.buffer ++ bs) :
    Balanced (l.hand bs) (p.refilled b) := by
  constructor
  case ended =>
    change bs.isEmpty = decide (p.buffer.length = b.filled.length)
    rw [hb, List.length_append]
    cases bs <;> simp
  case balance =>
    change l.accepted ++ b.filled.drop p.start = l.handed ++ bs
    rw [hb, List.drop_append_of_le_length h.inBuffer, ← List.append_assoc]
    exact congrArg (· ++ bs) h.balance
  case copied => exact h.copied
  case inBuffer =>
    change p.start ≤ b.filled.length
    rw [hb, List.length_append]
    exact Nat.le_add_right_of_le h.inBuffer
  case drained =>
    intro hphase
    rw [(h.drained hphase).1] at hended
    cases hended

private theorem wrote (h : Balanced l p) (hsome : p.unwritten ≠ []) {n : Nat}
    (hn : n ≤ p.unwritten.length) :
    Balanced (l.accept (p.unwritten.take n)) (p.wrote n) := by
  have hrest : (p.wrote n).unwritten = p.unwritten.drop n := List.drop_drop.symm
  constructor
  case ended => exact h.ended
  case balance =>
    rw [hrest, Ledger.accept, List.append_assoc, List.take_append_drop]
    exact h.balance
  case copied =>
    change p.copied + n = _
    rw [h.copied, Ledger.accept, List.length_append, List.length_take, Nat.min_eq_left hn]
  case inBuffer =>
    change p.start + n ≤ p.buffer.length
    rw [unwritten, List.length_drop] at hn
    have := h.inBuffer
    omega
  case drained =>
    intro hphase
    exact absurd (h.drained hphase).2 hsome

private theorem cleared (h : Balanced l p) (hnone : p.unwritten = []) : Balanced l p.cleared where
  ended := h.ended
  balance := by
    rw [← h.balance, hnone]
    rfl
  copied := h.copied
  inBuffer := Nat.le_refl _
  drained hphase := ⟨(h.drained hphase).1, rfl⟩

private theorem flushed (h : Balanced l p) : Balanced l { p with unflushed := false } :=
  ⟨h.ended, h.balance, h.copied, h.inBuffer, h.drained⟩

private theorem advanced (h : Balanced l p) (hended : p.ended = true) (hnone : p.unwritten = [])
    (phase : Phase) : Balanced l { p with phase } :=
  ⟨h.ended, h.balance, h.copied, h.inBuffer, fun _ => ⟨hended, hnone⟩⟩

end Balanced

/-- The ledger after a turn of a pump. After a write of more than was offered the pump is out of
balance, but even then nothing else was accepted. -/
def Settled {s : Type} (Inv : Ledger → s → Prop) (turn : Turn) (p : Pump) (state : s) : Prop :=
  ∃ l, Inv l state ∧ match turn with
    | .finished => Balanced l p ∧ p.phase = .done
    | .panicked => l.accepted <+: l.handed
    | _ => Balanced l p

/-- A pump flushes and shuts down only when all is written. -/
def Stage.Allows (stage : Stage) (p : Pump) : Prop :=
  match stage with
  | .fill | .empty => True
  | .finish | .close => p.ended = true ∧ p.unwritten = []

def Kept {s : Type} (Inv : Ledger → s → Prop) : Move × Pump × s → Prop
  | (.next stage, p, state) => ∃ l, Inv l state ∧ Balanced l p ∧ stage.Allows p
  | (.stop turn, p, state) => Settled Inv turn p state

section Steps

variable {s : Type} {route : Route s} {Inv : Ledger → s → Prop} {l : Ledger} {p : Pump} {state : s}
  (retries : IoError → Bool)

private theorem takesMore_eq_true (h : p.takesMore = true) :
    p.ended = false ∧ 0 < p.readBuffer.room := by
  obtain ⟨hlength, hended⟩ := Bool.and_eq_true_iff.mp h
  exact ⟨Bool.not_eq_true' _ ▸ hended, Nat.sub_pos_of_lt (of_decide_eq_true hlength)⟩

variable (hroute : route.Keeps Inv) (hinv : Inv l state) (hbalanced : Balanced l p)

include hroute hinv hbalanced

private theorem waiting_kept : Kept Inv
    (if p.unwritten ≠ [] then (.next .empty, p, state)
    else if p.unflushed then
      match route.flush state with
      | (.ready (.ok ()), state) => (.stop .waits, { p with unflushed := false }, state)
      | (.ready (.error e), state) => (.stop (.failed e), p, state)
      | (.pending, state) => (.stop .waits, p, state)
    else (.stop .waits, p, state)) := by
  -- What was written is flushed before the pump waits for more.
  split
  · exact ⟨l, hinv, hbalanced, trivial⟩
  · split
    · have hflush := hroute.flush hinv
      rcases hcall : route.flush state with ⟨_ | e | _, state'⟩ <;> rw [hcall] at hflush
      · exact ⟨l, hflush, hbalanced⟩
      · exact ⟨l, hflush, hbalanced⟩
      · exact ⟨l, hflush, hbalanced.flushed⟩
    · exact ⟨l, hinv, hbalanced⟩

private theorem fill_kept : Kept Inv (p.fill retries route state) := by
  unfold fill
  split
  · next htakes =>
    obtain ⟨hended, hroom⟩ := takesMore_eq_true htakes
    have hread := hroute.read p.readBuffer hinv (hbalanced.ended.trans hended) hroom
    rcases hcall : route.read p.readBuffer state with ⟨_ | e | b, state'⟩ <;> rw [hcall] at hread
    · exact waiting_kept hroute hread hbalanced
    · dsimp only
      split
      · exact ⟨l, hread, hbalanced, trivial⟩
      · exact ⟨l, hread, hbalanced⟩
    · obtain ⟨bs, hb, hread⟩ := hread
      exact ⟨_, hread, hbalanced.refilled hended hb, trivial⟩
  · exact ⟨l, hinv, hbalanced, trivial⟩

private theorem topUp_kept : Kept Inv (p.topUp route state) := by
  unfold topUp
  split
  · next htakes =>
    obtain ⟨hended, hroom⟩ := takesMore_eq_true htakes
    have hread := hroute.read p.readBuffer hinv (hbalanced.ended.trans hended) hroom
    rcases hcall : route.read p.readBuffer state with ⟨_ | e | b, state'⟩ <;> rw [hcall] at hread
    · exact ⟨l, hread, hbalanced⟩
    · exact ⟨l, hread, hbalanced⟩
    · obtain ⟨bs, hb, hread⟩ := hread
      exact ⟨_, hread, hbalanced.refilled hended hb⟩
  · exact ⟨l, hinv, hbalanced⟩

omit hroute hinv in
private theorem wrote_kept (hsome : p.unwritten ≠ []) {n : Nat} {state' : s}
    (hwrite : Inv (l.accept (p.unwritten.take n)) state') : Kept Inv
    (if n = 0 then (.stop (.failed writeZero), p, state')
    else if n ≤ p.unwritten.length then (.next .empty, p.wrote n, state')
    else (.stop .panicked, p, state')) := by
  split
  · next hzero =>
    have hnothing : l.accept (p.unwritten.take n) = l := by
      rw [hzero, List.take_zero, Ledger.accept_nil]
    exact ⟨l, hnothing ▸ hwrite, hbalanced⟩
  · split
    · next hn => exact ⟨_, hwrite, hbalanced.wrote hsome hn, trivial⟩
    · next hn =>
      refine ⟨_, hwrite, ?_⟩
      rw [List.take_of_length_le (Nat.le_of_not_le hn)]
      exact hbalanced.balance ▸ List.prefix_rfl

private theorem empty_kept : Kept Inv (p.empty retries route state) := by
  unfold empty
  split
  · next hnone =>
    refine ⟨l, hinv, hbalanced.cleared hnone, ?_⟩
    split
    · next hended => exact ⟨hended, rfl⟩
    · trivial
  · next hsome =>
    have hwrite := hroute.write p.unwritten hinv
    rcases hcall : route.write p.unwritten state with ⟨_ | e | n, state'⟩ <;> rw [hcall] at hwrite
    · exact topUp_kept hroute hwrite hbalanced
    · dsimp only
      split
      · exact ⟨l, hwrite, hbalanced, trivial⟩
      · exact ⟨l, hwrite, hbalanced⟩
    · exact wrote_kept hbalanced hsome hwrite

private theorem finish_kept (hended : p.ended = true) (hnone : p.unwritten = []) :
    Kept Inv (p.finish route state) := by
  have hflush := hroute.flush hinv
  unfold finish
  rcases hcall : route.flush state with ⟨_ | e | _, state'⟩ <;> rw [hcall] at hflush
  · exact ⟨l, hflush, hbalanced⟩
  · exact ⟨l, hflush, hbalanced⟩
  · exact ⟨l, hflush, hbalanced.advanced hended hnone .closing, hended, hnone⟩

private theorem close_kept (hended : p.ended = true) (hnone : p.unwritten = []) :
    Kept Inv (p.close route state) := by
  have hshutdown := hroute.shutdown hinv
  unfold close
  rcases hcall : route.shutdown state with ⟨_ | e | _, state'⟩ <;> rw [hcall] at hshutdown
  · exact ⟨l, hshutdown, hbalanced⟩
  · exact ⟨l, hshutdown, hbalanced⟩
  · exact ⟨l, hshutdown, hbalanced.advanced hended hnone .done, rfl⟩

private theorem step_kept (stage : Stage) (hallows : stage.Allows p) :
    Kept Inv (step retries route stage p state) := by
  cases stage with
  | fill => exact fill_kept retries hroute hinv hbalanced
  | empty => exact empty_kept retries hroute hinv hbalanced
  | finish => exact finish_kept hroute hinv hbalanced hallows.1 hallows.2
  | close => exact close_kept hroute hinv hbalanced hallows.1 hallows.2

omit hinv hbalanced in
private theorem run_settled (budget : Nat) (stage : Stage) (p : Pump) (state : s) (l : Ledger)
    (hinv : Inv l state) (hbalanced : Balanced l p) (hallows : stage.Allows p) :
    Settled Inv (run retries route budget stage p state).1
      (run retries route budget stage p state).2.1
      (run retries route budget stage p state).2.2 := by
  induction budget generalizing stage p state l with
  | zero => exact ⟨l, hinv, hbalanced⟩
  | succ budget ih =>
    have hkept := step_kept retries hroute hinv hbalanced stage hallows
    unfold run
    split
    · next heq =>
      rw [heq] at hkept
      exact hkept
    · next heq =>
      rw [heq] at hkept
      obtain ⟨l', hinv', hbalanced', hallows'⟩ := hkept
      exact ih _ _ _ l' hinv' hbalanced' hallows'

omit hinv in
private theorem poll_settled (state : s) (hinv : Inv l state) (budget : Nat) :
    Settled Inv (p.poll retries route budget state).1 (p.poll retries route budget state).2.1
      (p.poll retries route budget state).2.2 := by
  unfold poll
  split
  · exact run_settled retries hroute budget .fill p state l hinv hbalanced trivial
  · next hphase =>
    have hallows : Stage.close.Allows p := hbalanced.drained (by rw [hphase]; decide)
    exact run_settled retries hroute budget .close p state l hinv hbalanced hallows
  · next hphase => exact ⟨l, hinv, hbalanced, hphase⟩

end Steps

section Both

variable {s : Type} {toTarget toClient : Route s} {Inv : Ledger → Ledger → s → Prop}
  {up down : Ledger} {p q : Pump} (state : s) (retries : IoError → Bool)

def BothSettled (Inv : Ledger → Ledger → s → Prop) : CopyTurn × (Pump × Pump) × s → Prop
  | (turn, (p, q), state) => ∃ up down, Inv up down state ∧ match turn with
    | .waits _ => Balanced up p ∧ Balanced down q
    | .finished toTarget toClient => (Balanced up p ∧ p.phase = .done ∧ toTarget = p.copied) ∧
        Balanced down q ∧ q.phase = .done ∧ toClient = q.copied
    | _ => up.accepted <+: up.handed ∧ down.accepted <+: down.handed

private theorem pollSecond_settled (hroute : ∀ up, toClient.Keeps (Inv up)) (budget : Nat)
    (hinv : Inv up down state) (hup : Balanced up p) (hdown : Balanced down q) (turn : Turn)
    (hdone : turn = .finished → p.phase = .done) :
    BothSettled Inv (pollSecond retries toClient budget p turn q state) := by
  have hsettled := poll_settled retries (hroute up) hdown state hinv budget
  unfold pollSecond
  rcases hpoll : q.poll retries toClient budget state with ⟨turn', q', next⟩
  rw [hpoll] at hsettled
  obtain ⟨down', hinv', hturn'⟩ := hsettled
  cases turn' with
  | failed e => exact ⟨up, down', hinv', hup.prefix_handed, hturn'.prefix_handed⟩
  | panicked => exact ⟨up, down', hinv', hup.prefix_handed, hturn'⟩
  | waits | spent =>
    simp only [Turn.join, reduceCtorEq, and_false, if_false]
    exact ⟨up, down', hinv', hup, hturn'⟩
  | finished =>
    by_cases hfinished : turn = .finished
    · simp only [Turn.join, hfinished, and_self, if_true]
      exact ⟨up, down', hinv', ⟨hup, hdone hfinished, rfl⟩, hturn'.1, hturn'.2, rfl⟩
    · simp only [Turn.join, hfinished, false_and, if_false]
      exact ⟨up, down', hinv', hup, hturn'.1⟩

/-- A poll of both pumps keeps both ledgers, and finishes only when all is written on both sides. -/
theorem pollBoth_settled (hroute : ∀ down, toTarget.Keeps (Inv · down))
    (hroute' : ∀ up, toClient.Keeps (Inv up)) (budget : Nat) (hinv : Inv up down state)
    (hup : Balanced up p) (hdown : Balanced down q) :
    BothSettled Inv (pollBoth retries toTarget toClient budget (p, q) state) := by
  have hsettled := poll_settled retries (hroute down) hup state hinv budget
  unfold pollBoth
  rcases hpoll : p.poll retries toTarget budget state with ⟨turn, p', next⟩
  rw [hpoll] at hsettled
  obtain ⟨up', hinv', hturn⟩ := hsettled
  dsimp only
  cases turn with
  | failed e => exact ⟨up', down, hinv', hturn.prefix_handed, hdown.prefix_handed⟩
  | panicked => exact ⟨up', down, hinv', hturn, hdown.prefix_handed⟩
  | waits => exact pollSecond_settled next retries hroute' budget hinv' hturn hdown _ nofun
  | spent => exact pollSecond_settled next retries hroute' budget hinv' hturn hdown _ nofun
  | finished =>
    exact pollSecond_settled next retries hroute' budget hinv' hturn.1 hdown _ fun _ => hturn.2

end Both

end Pump

end PeekRelay
