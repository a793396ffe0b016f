import PeekRelay.Proofs.Course
import PeekRelay.Tap.Whole
/-!
# Copies are complete until they are given up

As long as copies are kept, the read mirror holds all that the stream delivered and the write mirror
all that it accepted, each byte once. When copying is stopped they are given back at once, and
nothing is copied any more.
-/
namespace PeekRelay

/-- What copies should hold: all that went through the stream, if they are kept. -/
def Copies.due {σ : Type} (kept : Bool) (s : Logged σ) : Copies :=
  if kept then { stopped := false, read := s.delivered, written := s.accepted } else .released

structure Copied {σ : Type} (kept : Bool) (r : Recorder) (s : Logged σ) : Prop where
  copying : r.copying = kept
  copies : r.copies = .due kept s

namespace Copied

variable {σ : Type} {r r' : Recorder} {s s' : Logged σ} {kept : Bool}

theorem wrap (s : σ) (id : Uuid) (settings : SniffSettings) :
    Copied settings.copying (Tap.wrap s id settings).monitor.recorder (⟨s, []⟩ : Logged σ) where
  copying := rfl
  copies := by
    change ({ stopped := !settings.copying } : Copies) = _
    cases settings.copying <;> rfl

theorem of_eq (h : Copied kept r s) (hcopying : r'.copying = r.copying)
    (hcopies : r'.copies = r.copies) : Copied kept r' s :=
  ⟨hcopying.trans h.copying, hcopies.trans h.copies⟩

private theorem halted (h : Copied kept r s) (released : Bool) (es : List Event) :
    Copied (kept && !released) (r.halted released es) s := by
  constructor
  case copying =>
    rw [← h.copying]
    rfl
  case copies =>
    cases released with
    | true => simp [Recorder.halted, Copies.due]
    | false => simp [Recorder.halted, h.copies]

private theorem keepMoved (h : Copied kept r s) {direction : Option Direction} {bs : Bytes}
    (hdelivered : s'.delivered = s.delivered ++ if direction = some .read then bs else [])
    (haccepted : s'.accepted = s.accepted ++ if direction = some .write then bs else []) :
    Copied kept (r.keepMoved bs direction) s' := by
  obtain ⟨hcopying, hcopies⟩ := h
  rcases direction with _ | _ | _ <;> cases kept <;> constructor <;>
    simp [Recorder.keepMoved, Recorder.keep, Recorder.append, Copies.append, Copies.due,
      Copies.released, hcopying, hcopies, hdelivered, haccepted]

end Copied

namespace Copied

variable {σ : Type} [ByteStream σ] (env : Surroundings) {t : Tap (Logged σ)} {kept : Bool}

private theorem call (h : Copied kept t.monitor.recorder t.inner) (c : Call) :
    let t' := t.move env (.call c)
    Copied (kept && !decide (Stop.copying ∈ t.stopsIn (.call c))) t'.monitor.recorder t'.inner := by
  intro t'
  cases hreplayed : c.isReplayed t with
  | true =>
    have hstops : t.stopsIn (.call c) = [] := if_pos hreplayed
    have ht' : t' = _ := c.onTap_eq_replay env t hreplayed
    have hinner : t'.inner = t.inner := (c.onTap_replayed env t hreplayed).inner
    have hcopying : t'.monitor.recorder.copying = t.monitor.recorder.copying := by
      rw [ht']
      exact (Tap.shed_copying _).trans (t.entered_copying env c)
    have hcopies : t'.monitor.recorder.copies = t.monitor.recorder.copies := by
      rw [ht']
      exact (Tap.shed_copies _).trans (t.entered_copies env c)
    rw [hstops, hinner]
    simpa using h.of_eq hcopying hcopies
  | false =>
    have hstops : t.stopsIn (.call c) = (c.ask t.inner).stops :=
      if_neg (Bool.eq_false_iff.mp hreplayed)
    have ht' : t' = _ := congrArg Prod.snd (c.onTap_eq_forward env t hreplayed)
    have hinner : t'.inner = (c.ask t.inner).next := (c.onTap_forwarded env t hreplayed).inner
    have hentered : Copied kept (t.entered env c).monitor.recorder t.inner :=
      h.of_eq (t.entered_copying env c) (t.entered_copies env c)
    -- The stops made while the stream was asked come before the bytes that it moved are kept, so
    -- these are already kept or not as the flag says then.
    have hsettled := hentered.halted (decide (Stop.copying ∈ (c.ask t.inner).stops))
      ((t.entered env c).monitor.notices (c.ask t.inner).stops)
    rw [← Monitor.heedAll_recorder] at hsettled
    have hdelivered := Logged.delivered_next c t.inner
    have haccepted := Logged.accepted_next c t.inner
    rw [Call.delivered_eq] at hdelivered
    rw [Call.accepted_eq] at haccepted
    rw [hstops, hinner, ht']
    exact (hsettled.keepMoved hdelivered haccepted).of_eq (Tap.concluded_copying ..)
      (Tap.concluded_copies ..)

theorem move (h : Copied kept t.monitor.recorder t.inner) (m : Move) :
    let t' := t.move env m
    Copied (kept && !decide (Stop.copying ∈ t.stopsIn m)) t'.monitor.recorder t'.inner := by
  cases m with
  | call c => exact h.call env c
  | stop stop =>
    have hhalted := h.halted (decide (Stop.copying = stop)) (t.monitor.notice stop)
    rw [← Monitor.heed_recorder] at hhalted
    have hstops :
        decide (Stop.copying ∈ t.stopsIn (.stop stop)) = decide (Stop.copying = stop) := by
      simp [Tap.stopsIn]
    rw [hstops]
    exact hhalted

/-- Copies are kept as long as they were wanted and not stopped. -/
theorem follow (h : Copied kept t.monitor.recorder t.inner) (moves : List Move) :
    let t' := t.follow env moves
    Copied (kept && !decide (Stop.copying ∈ t.stopsAlong env moves)) t'.monitor.recorder
      t'.inner := by
  refine t.follow_induction env (P := fun moves t' =>
    Copied (kept && !decide (Stop.copying ∈ t.stopsAlong env moves)) t'.monitor.recorder
      t'.inner) ?_ ?_ moves
  · simpa [Tap.stopsAlong] using h
  · intro past m hpast
    have hnext := hpast.move env m
    have hstops : decide (Stop.copying ∈ t.stopsAlong env (past ++ [m])) =
        (decide (Stop.copying ∈ t.stopsAlong env past) ||
          decide (Stop.copying ∈ (t.follow env past).stopsIn m)) := by
      simp [Tap.stopsAlong_concat]
    rwa [Bool.and_assoc, ← Bool.not_or, ← hstops] at hnext

end Copied

section Runs

variable {σ : Type} [ByteStream σ] (env : Surroundings)

/-- In every state of every run, the copies are all that the stream delivered and all that it
accepted so far, if copies were wanted and copying was not stopped yet. In all other states, and in
all later ones, they are empty. -/
theorem copies_complete (s : σ) (id : Uuid) (settings : SniffSettings) (ops : List Op) :
    let moves := (Tap.wrap s id settings).course env ops
    let t₀ := Tap.wrap (⟨s, []⟩ : Logged σ) id settings
    (t₀.follow env moves).forget = (Tap.wrap s id settings).after env ops ∧
      ∀ past later, past ++ later <+: moves →
        let t := t₀.follow env past
        let t' := t.follow env later
        (settings.copying = true ∧ Stop.copying ∉ t₀.stopsAlong env past →
          (Diagnostics.ofMonitor t.monitor).readCopy = t.inner.delivered ∧
            (Diagnostics.ofMonitor t.monitor).writeCopy = t.inner.accepted) ∧
        (settings.copying = false ∨ Stop.copying ∈ t₀.stopsAlong env past →
          (Diagnostics.ofMonitor t'.monitor).readCopy = [] ∧
            (Diagnostics.ofMonitor t'.monitor).writeCopy = []) := by
  intro moves t₀
  have hstart : Copied settings.copying t₀.monitor.recorder t₀.inner := .wrap s id settings
  refine ⟨Tap.follow_course_forget env s id settings ops, ?_⟩
  intro past later _ t t'
  have ht := hstart.follow env past
  have ht' := ht.follow env later
  refine ⟨?_, ?_⟩
  · rintro ⟨hwanted, hnone⟩
    have hcopies := ht.copies
    rw [hwanted, decide_eq_false hnone] at hcopies
    exact ⟨congrArg Copies.read hcopies, congrArg Copies.written hcopies⟩
  · intro hgone
    have hkept : (settings.copying && !decide (Stop.copying ∈ t₀.stopsAlong env past)) = false := by
      rcases hgone with hunwanted | hstopped
      · rw [hunwanted, Bool.false_and]
      · rw [decide_eq_true hstopped, Bool.not_true, Bool.and_false]
    have hcopies := ht'.copies
    rw [hkept, Bool.false_and] at hcopies
    exact ⟨congrArg Copies.read hcopies, congrArg Copies.written hcopies⟩

/-- A stream during whose second read another thread stops the copying. -/
def stoppedInRead : Script :=
  { reads := [{ act := .data [97, 98] }, { stop := some .copying, act := .data [99, 100] }] }

/-- Before the second read all is copied; its own bytes are not, and the others are given back. -/
theorem copies_complete_stoppedInRead :
    let ops := [.call (.read 4), .call (.write [120]), .call (.read 4), .call (.write [121])]
    let moves := (Tap.wrap stoppedInRead .zero {}).course .ticking ops
    let t₀ := Tap.wrap (⟨stoppedInRead, []⟩ : Logged Script) .zero {}
    let t := t₀.follow .ticking (moves.take 2)
    let t' := t₀.follow .ticking (moves.take 3)
    let t'' := t'.follow .ticking (moves.drop 3)
    Stop.copying ∉ t₀.stopsAlong .ticking (moves.take 2) ∧
      (Diagnostics.ofMonitor t.monitor).readCopy = [97, 98] ∧
      (Diagnostics.ofMonitor t.monitor).writeCopy = [120] ∧
      Stop.copying ∈ t₀.stopsAlong .ticking (moves.take 3) ∧
      t''.inner.delivered = [97, 98, 99, 100] ∧
      (Diagnostics.ofMonitor t''.monitor).readCopy = [] ∧
      (Diagnostics.ofMonitor t''.monitor).writeCopy = [] := by
  intro ops moves t₀ t t' t''
  obtain ⟨-, hruns⟩ := copies_complete .ticking stoppedInRead .zero {} ops
  have hbefore : Stop.copying ∉ t₀.stopsAlong .ticking (moves.take 2) := by decide +kernel
  have hafter : Stop.copying ∈ t₀.stopsAlong .ticking (moves.take 3) := by decide +kernel
  obtain ⟨hread, hwritten⟩ := (hruns (moves.take 2) (moves.drop 2)
    (List.take_append_drop 2 moves ▸ List.prefix_rfl)).1 ⟨rfl, hbefore⟩
  obtain ⟨hgone, hgone'⟩ := (hruns (moves.take 3) (moves.drop 3)
    (List.take_append_drop 3 moves ▸ List.prefix_rfl)).2 (.inr hafter)
  have hdelivered : t.inner.delivered = [97, 98] := by decide +kernel
  have haccepted : t.inner.accepted = [120] := by decide +kernel
  exact ⟨hbefore, hread.trans hdelivered, hwritten.trans haccepted, hafter, by decide +kernel,
    hgone, hgone'⟩

end Runs

end PeekRelay
