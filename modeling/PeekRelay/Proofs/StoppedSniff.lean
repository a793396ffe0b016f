import Mathlib.Control.Monad.Basic
import PeekRelay.Proofs.Conservation
import PeekRelay.Tap.Whole
/-!
# Sniffs that are stopped half way

A sniff asks once, when it starts, whether the tap sniffs. A stop that comes later is noticed by its
reads but not by the sniff: its reads are then served from the queue.
-/
namespace PeekRelay

deriving instance DecidableEq for SniffEnd

namespace Trace

section Reads

variable {σ : Type} [ByteStream σ] (env : Surroundings)

private theorem handed_pollRead (buffer : ReadBuffer) (r : Trace σ)
    {response : Poll (Result ReadBuffer)}
    (h : ((sniffSource env).pollRead buffer r).1 = response) :
    ((sniffSource env).pollRead buffer r).2.handed =
      r.handed ++ (Call.pollRead buffer).handed response := by
  have hentry : ((sniffSource env).pollRead buffer r).2.handed = r.handed ++ _ :=
    flatMap_entries_call env Entry.handed (.pollRead buffer) r
  rw [hentry, ← h]
  rfl

private theorem handed_totals : (sniffSource (σ := σ) env).Totals handed where
  ready buffer r _ h := handed_pollRead env buffer r h
  pending buffer r h := (handed_pollRead env buffer r h).trans (List.append_nil _)
  failed buffer r _ h := (handed_pollRead env buffer r h).trans (List.append_nil _)
  heed _ _ := rfl

end Reads

section Sniffs

variable {σ : Type} [ByteStream σ] (env : Surroundings)

/-- What a sniff owes: the bytes that it yields are those that the stream delivered meanwhile, and
however it ends, all that the stream ever delivered waits for replay. -/
def SniffOwes (before : Trace σ) (ending : SniffEnd) (after : Trace σ) : Prop :=
  (∀ p, ending = .done (.ok p) → after.delivered = before.delivered ++ p) ∧
    after.tap.intoParts.2 = after.delivered

/-- A sniff gives what it owes exactly if no byte was taken by a read that it made after a stop. Any
such bytes are the first ones of the connection again, they follow the others in what the sniff
yields, and the next reader will miss them. -/
theorem sniffOwes_iff_taken (s : σ) (id : Uuid) (settings : SniffSettings) (ops : List Op)
    (wanted : Nat) (pauses : List (List Stop))
    (h : ((start s id settings).after env ops).tap.monitor.sniffing = true) :
    let r := (start s id settings).after env ops
    let ending := (Sniff.run (sniffSource env) wanted pauses r).1
    let r' := (Sniff.run (sniffSource env) wanted pauses r).2
    Sniff.run (Tap.sniffSource env) wanted pauses ((Tap.wrap s id settings).after env ops) =
        (ending, r'.tap.forget) ∧
      (∀ p, ending = .done (.ok p) → r.delivered ++ p = r'.sniffed ++ r'.taken) ∧
      r'.taken ++ r'.tap.intoParts.2 = r'.delivered ∧
      (SniffOwes r ending r' ↔ r'.taken = []) ∧
      (r'.tap.monitor.sniffing = true → r'.taken = []) := by
  intro r ending r'
  have hr : r.Conserves := (Conserves.start s id settings).after env ops
  have hr' : r'.Conserves :=
    sniff_keeps env (fun c _ hr => hr.call env c) (fun stop _ hr => hr.heed stop) r wanted pauses hr
  have hforget := Sniff.run_map (tracing env) wanted pauses r
  have hplain : (tracing env).toFun r = (Tap.wrap s id settings).after env ops :=
    after_forget env _ ops
  rw [hplain] at hforget
  have hyields : ∀ p, ending = .done (.ok p) → r.delivered ++ p = r'.sniffed ++ r'.taken := by
    intro p hp
    have hhanded : r'.handed = r.handed ++ p :=
      Sniff.run_done (handed_totals env) wanted pauses r p hp
    rw [hr.handed, hr'.handed, hr.complete h, hr.faithful.untaken h, List.append_nil] at hhanded
    exact hhanded.symm
  have hwhole : r'.taken ++ r'.tap.intoParts.2 = r'.delivered := by
    rw [← hr'.delivered_eq, Tap.intoParts, ReplayQueue.intoRemaining_eq_waiting]
    exact hr'.faithful.whole
  refine ⟨hforget, hyields, hwhole, ⟨?_, ?_⟩, hr'.faithful.untaken⟩
  · rintro ⟨-, hwaits⟩
    rw [hwaits] at hwhole
    exact List.append_left_eq_self.mp hwhole
  · intro hnone
    refine ⟨?_, ?_⟩
    · intro p hp
      rw [hyields p hp, hnone, List.append_nil, hr'.untaken hnone]
    · rw [hnone] at hwhole
      exact hwhole

def pausing : Script :=
  { reads := [{ act := .data [97, 98] }, { act := .pending }, { act := .data [99, 100] }] }

/-- A sniff that waits once and is not stopped gives what it owes. -/
theorem sniffOwes_waiting :
    let r := (start pausing .zero {}).after .ticking [.call .flush]
    let ending := (Sniff.run (sniffSource .ticking) 4 [[.copying]] r).1
    let r' := (Sniff.run (sniffSource .ticking) 4 [[.copying]] r).2
    r.tap.monitor.sniffing = true ∧ ending = .done (.ok [97, 98, 99, 100]) ∧
      SniffOwes r ending r' := by
  intro r ending r'
  have hsniffing : r.tap.monitor.sniffing = true := by decide +kernel
  have hending : ending = .done (.ok [97, 98, 99, 100]) := by decide +kernel
  have hstill : r'.tap.monitor.sniffing = true := by decide +kernel
  obtain ⟨-, -, -, howes, huntaken⟩ :=
    sniffOwes_iff_taken .ticking pausing .zero {} [.call .flush] 4 [[.copying]] hsniffing
  exact ⟨hsniffing, hending, howes.mpr (huntaken hstill)⟩

/-- A stream whose first read delivers two bytes, during which another thread stops the sniffing. -/
def stoppedMeanwhile : Script :=
  { reads := [{ stop := some .sniffing, act := .data [97, 98] }] }

/-- The sniff that wants four bytes of it is given the same two bytes twice, and none of them waits
for the next reader. -/
theorem sniffOwes_fails_stoppedMeanwhile :
    let r := start stoppedMeanwhile .zero {}
    let ending := (Sniff.run (sniffSource .ticking) 4 [] r).1
    let r' := (Sniff.run (sniffSource .ticking) 4 [] r).2
    r.tap.monitor.sniffing = true ∧ ending = .done (.ok [97, 98, 97, 98]) ∧
      r'.delivered = [97, 98] ∧ r'.tap.intoParts.2 = [] ∧ ¬SniffOwes r ending r' := by
  intro r ending r'
  have hending : ending = .done (.ok [97, 98, 97, 98]) := by decide +kernel
  have hdelivered : r'.delivered = [97, 98] := by decide +kernel
  have hwaiting : r'.tap.intoParts.2 = [] := by decide +kernel
  refine ⟨rfl, hending, hdelivered, hwaiting, ?_⟩
  rintro ⟨-, hwaits⟩
  rw [hwaiting, hdelivered] at hwaits
  cases hwaits

end Sniffs

end Trace

end PeekRelay
