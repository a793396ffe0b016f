import Mathlib.Data.List.Forall2
import PeekRelay.ByteStream
/-!
# Calls

The nine calls of a byte stream as data. Whichever call it is, it is pending, panics, fails, or
moves bytes in its direction, and these bytes are what the stream delivers or accepts.
-/
namespace PeekRelay

inductive Call where
  | read (room : Nat)
  | pollRead (buffer : ReadBuffer)
  | write (data : Bytes)
  | pollWrite (data : Bytes)
  | writeVectored (slices : List Bytes)
  | pollWriteVectored (slices : List Bytes)
  | flush
  | pollFlush
  | pollShutdown
  deriving DecidableEq, Repr

namespace Call

abbrev Answer : Call → Type
  | read room => Result (Claim room)
  | pollRead buffer => Poll (Result (Fill buffer.room))
  | write _ | writeVectored _ => Result Nat
  | pollWrite _ | pollWriteVectored _ => Poll (Result Nat)
  | flush => Result Unit
  | pollFlush | pollShutdown => Poll (Result Unit)

abbrev Response : Call → Type
  | read _ => Outcome (Result Bytes)
  | pollRead _ => Poll (Result ReadBuffer)
  | write _ | writeVectored _ => Result Nat
  | pollWrite _ | pollWriteVectored _ => Poll (Result Nat)
  | flush => Result Unit
  | pollFlush | pollShutdown => Poll (Result Unit)

/-- What the caller gets out of an answer. A claim of more bytes than the buffer holds is of no use
to anybody who looks for the bytes. -/
def respond : (c : Call) → c.Answer → c.Response
  | read _, .ok (.fits fill) => .returned (.ok fill.val)
  | read _, .ok (.tooMany _) => .panicked
  | read _, .error e => .returned (.error e)
  | pollRead _, .pending => .pending
  | pollRead _, .ready (.error e) => .ready (.error e)
  | pollRead buffer, .ready (.ok fill) => .ready (.ok (buffer.put fill))
  | write _, answer | writeVectored _, answer => answer
  | pollWrite _, answer | pollWriteVectored _, answer => answer
  | flush, answer => answer
  | pollFlush, answer | pollShutdown, answer => answer

def isRead : Call → Bool
  | read _ | pollRead _ => true
  | _ => false

def room : Call → Nat
  | read room => room
  | pollRead buffer => buffer.room
  | _ => 0

/-- The bytes that a stream delivers with its answer. -/
def delivered : (c : Call) → c.Answer → Bytes
  | read _, .ok (.fits fill) => fill.val
  | pollRead _, .ready (.ok fill) => fill.val
  | _, _ => []

/-- The bytes that a stream accepts with its answer. -/
def accepted : (c : Call) → c.Answer → Bytes
  | write data, .ok n => data.take n
  | pollWrite data, .ready (.ok n) => data.take n
  | writeVectored slices, .ok n => slices.flatten.take n
  | pollWriteVectored slices, .ready (.ok n) => slices.flatten.take n
  | _, _ => []

def handed : (c : Call) → c.Response → Bytes
  | read _, .returned (.ok bs) => bs
  | pollRead buffer, .ready (.ok b) => b.filled.drop buffer.filled.length
  | _, _ => []

def direction? : Call → Option Direction
  | read _ | pollRead _ => some .read
  | write _ | pollWrite _ | writeVectored _ | pollWriteVectored _ => some .write
  | flush | pollFlush | pollShutdown => none

theorem delivered_eq_nil (c : Call) (h : c.isRead = false) (answer : c.Answer) :
    c.delivered answer = [] := by
  cases c with
  | read room => cases h
  | pollRead buffer => cases h
  | _ => rfl

theorem accepted_eq_nil (c : Call) (h : c.isRead = true) (answer : c.Answer) :
    c.accepted answer = [] := by
  cases c with
  | read room => rfl
  | pollRead buffer => rfl
  | _ => cases h

theorem handed_eq_nil (c : Call) (h : c.isRead = false) (response : c.Response) :
    c.handed response = [] := by
  cases c with
  | read room => cases h
  | pollRead buffer => cases h
  | _ => rfl

theorem handed_respond (c : Call) (answer : c.Answer) :
    c.handed (c.respond answer) = c.delivered answer := by
  cases c with
  | read room =>
    match answer with
    | .ok (.fits fill) => rfl
    | .ok (.tooMany _) => rfl
    | .error e => rfl
  | pollRead buffer =>
    match answer with
    | .pending => rfl
    | .ready (.error e) => rfl
    | .ready (.ok fill) => exact List.drop_left
  | _ => rfl

theorem respond_ready {buffer b : ReadBuffer} {answer : (pollRead buffer).Answer}
    (h : (pollRead buffer).respond answer = .ready (.ok b)) :
    ∃ fill : Fill buffer.room, answer = .ready (.ok fill) ∧ b = buffer.put fill := by
  rcases answer with _ | e | fill <;> cases h
  exact ⟨fill, rfl, rfl⟩

def ask {σ : Type} [ByteStream σ] : (c : Call) → σ → Reply σ c.Answer
  | read room, s => ByteStream.read s room
  | pollRead buffer, s => ByteStream.pollRead s buffer
  | write data, s => ByteStream.write s data
  | pollWrite data, s => ByteStream.pollWrite s data
  | writeVectored slices, s => ByteStream.writeVectored s slices
  | pollWriteVectored slices, s => ByteStream.pollWriteVectored s slices
  | flush, s => ByteStream.flush s
  | pollFlush, s => ByteStream.pollFlush s
  | pollShutdown, s => ByteStream.pollShutdown s

end Call

/-- What a call comes to, whichever call it is. -/
inductive Upshot where
  | pending
  | panicked
  | failed (e : IoError)
  | moved (bytes : Bytes)

namespace Upshot

@[simp] def moved? : Upshot → Option Bytes
  | moved bs => some bs
  | _ => none

def bytes (u : Upshot) : Bytes := u.moved?.getD []

def error? : Upshot → Option IoError
  | failed e => some e
  | _ => none

end Upshot

namespace Call

/-- What an answer comes to. A write moves the first bytes of what it offers, as many as the stream
says it took. -/
def upshot : (c : Call) → c.Answer → Upshot
  | read _, .ok (.fits fill) => .moved fill.val
  | read _, .ok (.tooMany _) => .panicked
  | pollRead _, .ready (.ok fill) => .moved fill.val
  | write data, .ok n | pollWrite data, .ready (.ok n) => .moved (data.take n)
  | writeVectored slices, .ok n | pollWriteVectored slices, .ready (.ok n) =>
    .moved (slices.flatten.take n)
  | flush, .ok () | pollFlush, .ready (.ok ()) | pollShutdown, .ready (.ok ()) => .moved []
  | read _, .error e | write _, .error e | writeVectored _, .error e | flush, .error e => .failed e
  | pollRead _, .ready (.error e) | pollWrite _, .ready (.error e)
  | pollWriteVectored _, .ready (.error e) | pollFlush, .ready (.error e)
  | pollShutdown, .ready (.error e) => .failed e
  | pollRead _, .pending | pollWrite _, .pending | pollWriteVectored _, .pending
  | pollFlush, .pending | pollShutdown, .pending => .pending

def outcome : (c : Call) → c.Response → Upshot
  | read _, .returned (.ok bs) => .moved bs
  | read _, .returned (.error e) => .failed e
  | read _, .panicked => .panicked
  | pollRead _, .pending => .pending
  | pollRead _, .ready (.error e) => .failed e
  | pollRead buffer, .ready (.ok b) => .moved (b.filled.drop buffer.filled.length)
  | write data, response => upshot (write data) response
  | pollWrite data, response => upshot (pollWrite data) response
  | writeVectored slices, response => upshot (writeVectored slices) response
  | pollWriteVectored slices, response => upshot (pollWriteVectored slices) response
  | flush, response => upshot flush response
  | pollFlush, response => upshot pollFlush response
  | pollShutdown, response => upshot pollShutdown response

section Upshot

variable (c : Call) (answer : c.Answer)

@[simp] theorem outcome_respond : c.outcome (c.respond answer) = c.upshot answer := by
  cases c with
  | read room => rcases answer with e | fill | excess <;> rfl
  | pollRead buffer =>
    rcases answer with _ | e | fill
    · rfl
    · rfl
    · exact congrArg Upshot.moved List.drop_left
  | _ => rfl

theorem handed_of_isRead (h : c.isRead = true) (response : c.Response) :
    c.handed response = (c.outcome response).bytes := by
  cases c with
  | read room => rcases response with (e | bs) | _ <;> rfl
  | pollRead buffer => rcases response with _ | e | b <;> rfl
  | _ => cases h

theorem isRead_eq : c.isRead = decide (c.direction? = some .read) := by
  cases c <;> rfl

theorem delivered_eq : c.delivered answer =
    if c.direction? = some .read then (c.upshot answer).bytes else [] := by
  cases c with
  | read room => rcases answer with e | fill | excess <;> rfl
  | pollRead buffer => rcases answer with _ | e | fill <;> rfl
  | _ => rfl

theorem delivered_of_isRead (h : c.isRead = true) :
    c.delivered answer = (c.upshot answer).bytes := by
  rw [isRead_eq, decide_eq_true_iff] at h
  rw [delivered_eq, if_pos h]

theorem accepted_eq : c.accepted answer =
    if c.direction? = some .write then (c.upshot answer).bytes else [] := by
  cases c with
  | write data | writeVectored slices => rcases answer with e | n <;> rfl
  | pollWrite data | pollWriteVectored slices => rcases answer with _ | e | n <;> rfl
  | _ => rfl

end Upshot

/-- What a call sniffs that was entered with this flag: what a read moves, while the flag is set. -/
def sniffed? (c : Call) (sniffing : Bool) (u : Upshot) : Option Bytes :=
  if sniffing && c.isRead then u.moved? else none

end Call

section Alike

variable (ρ : UInt8 → UInt8 → Prop)

/-- Two calls come to the same, apart from the bytes that they move. -/
inductive Upshot.Alike : Upshot → Upshot → Prop where
  | pending : Alike .pending .pending
  | panicked : Alike .panicked .panicked
  | failed (e : IoError) : Alike (.failed e) (.failed e)
  | moved {bs bs' : Bytes} : List.Forall₂ ρ bs bs' → Alike (.moved bs) (.moved bs')

/-- Two calls are the same, apart from the bytes that they are made with. -/
inductive Call.Alike : Call → Call → Prop where
  | read (room : Nat) : Alike (.read room) (.read room)
  | pollRead {filled filled' : Bytes} (room : Nat) : List.Forall₂ ρ filled filled' →
    Alike (.pollRead ⟨filled, room⟩) (.pollRead ⟨filled', room⟩)
  | write {data data' : Bytes} : List.Forall₂ ρ data data' → Alike (.write data) (.write data')
  | pollWrite {data data' : Bytes} : List.Forall₂ ρ data data' →
    Alike (.pollWrite data) (.pollWrite data')
  | writeVectored {slices slices' : List Bytes} : List.Forall₂ (List.Forall₂ ρ) slices slices' →
    Alike (.writeVectored slices) (.writeVectored slices')
  | pollWriteVectored {slices slices' : List Bytes} :
    List.Forall₂ (List.Forall₂ ρ) slices slices' →
    Alike (.pollWriteVectored slices) (.pollWriteVectored slices')
  | flush : Alike .flush .flush
  | pollFlush : Alike .pollFlush .pollFlush
  | pollShutdown : Alike .pollShutdown .pollShutdown

variable {ρ} {c c' : Call}

namespace Call.Alike

theorem direction?_eq (h : c.Alike ρ c') : c.direction? = c'.direction? := by
  cases h <;> rfl

theorem room_eq (h : c.Alike ρ c') : c.room = c'.room := by
  cases h <;> rfl

theorem isRead_eq (h : c.Alike ρ c') : c.isRead = c'.isRead := by
  rw [c.isRead_eq, c'.isRead_eq, h.direction?_eq]

end Call.Alike

end Alike

section Equal

theorem Bytes.forall₂_eq {bs bs' : Bytes} : List.Forall₂ Eq bs bs' ↔ bs = bs' :=
  iff_of_eq (congrFun (congrFun List.forall₂_eq_eq_eq bs) bs')

theorem Upshot.alike_eq {u u' : Upshot} : u.Alike Eq u' ↔ u = u' := by
  constructor
  · intro h
    cases h with
    | moved hbytes => rw [Bytes.forall₂_eq.mp hbytes]
    | _ => rfl
  · rintro rfl
    cases u with
    | pending => exact .pending
    | panicked => exact .panicked
    | failed e => exact .failed e
    | moved bs => exact .moved (Bytes.forall₂_eq.mpr rfl)

theorem Call.alike_eq {c c' : Call} : c.Alike Eq c' ↔ c = c' := by
  have hslices : ∀ slices slices' : List Bytes,
      List.Forall₂ (List.Forall₂ Eq) slices slices' ↔ slices = slices' := by
    intro slices slices'
    rw [List.forall₂_eq_eq_eq, List.forall₂_eq_eq_eq]
  constructor
  · intro h
    cases h with
    | pollRead room hbytes | write hbytes | pollWrite hbytes => rw [Bytes.forall₂_eq.mp hbytes]
    | writeVectored hbytes | pollWriteVectored hbytes => rw [(hslices _ _).mp hbytes]
    | _ => rfl
  · rintro rfl
    cases c with
    | read room => exact .read room
    | pollRead buffer => exact .pollRead _ (Bytes.forall₂_eq.mpr rfl)
    | write data => exact .write (Bytes.forall₂_eq.mpr rfl)
    | pollWrite data => exact .pollWrite (Bytes.forall₂_eq.mpr rfl)
    | writeVectored slices => exact .writeVectored ((hslices _ _).mpr rfl)
    | pollWriteVectored slices => exact .pollWriteVectored ((hslices _ _).mpr rfl)
    | flush => exact .flush
    | pollFlush => exact .pollFlush
    | pollShutdown => exact .pollShutdown

end Equal

end PeekRelay
