import PeekRelay.Proofs.Course
import PeekRelay.Proofs.Tap.Checked
import PeekRelay.Tap.Whole
/-!
# One panic, and it does no harm

Among all calls and sniffs, whatever the stream answers, the only one that panics is a blocking read
whose stream claims to have put more bytes into the buffer than fit. It panics before it records
anything. A write believes its stream, but copies no more than it was given.
-/
namespace PeekRelay

namespace Call

variable {σ : Type} [ByteStream σ] (env : Surroundings)

section Calls

variable {c : Call} {t : Tap σ}

private theorem inBounds_onTap (h : t.replay.InBounds) : (c.onTap env t).2.replay.InBounds := by
  cases hreplayed : c.isReplayed t with
  | true => exact (c.onTap_replayed env t hreplayed).inBounds h
  | false =>
    rw [(c.onTap_forwarded env t hreplayed).replay]
    split
    · exact h.append _
    · exact h

omit [ByteStream σ] in
private theorem upshot_ne_panicked (h : ∀ room, c ≠ read room) (answer : c.Answer) :
    c.upshot answer ≠ .panicked := by
  cases c with
  | read room => exact (h room rfl).elim
  | pollRead buffer => rcases answer with _ | e | fill <;> exact nofun
  | write data | writeVectored slices => rcases answer with e | n <;> exact nofun
  | pollWrite data | pollWriteVectored slices => rcases answer with _ | e | n <;> exact nofun
  | flush => rcases answer with e | _ <;> exact nofun
  | pollFlush | pollShutdown => rcases answer with _ | e | _ <;> exact nofun

private theorem overclaimed_iff : c.Overclaimed t ↔
    c.isReplayed t = false ∧ c.upshot (c.ask t.inner).answer = .panicked := by
  cases c with
  | read room =>
    refine and_congr_right fun _ => ?_
    change _ ↔ (read room).upshot (ByteStream.read t.inner room).answer = _
    rcases (ByteStream.read t.inner room).answer with e | bytes | excess
    · exact ⟨nofun, nofun⟩
    · refine ⟨?_, nofun⟩
      rintro ⟨_, ⟨⟩, hmore⟩
      exact absurd bytes.property (Nat.not_le.mpr hmore)
    · have hmore : room < (Claim.tooMany excess : Claim room).count := by
        rw [Claim.count]
        omega
      exact ⟨fun _ => rfl, fun _ => ⟨_, rfl, hmore⟩⟩
  | _ =>
    refine ⟨False.elim, fun h => upshot_ne_panicked ?_ _ h.2⟩
    exact fun room => Call.noConfusion

private theorem onTap_overclaimed (h : c.Overclaimed t) :
    (c.onTap env t).2 = (t.entered env c).settle (c.ask t.inner) := by
  obtain ⟨hforwarded, hupshot⟩ := overclaimed_iff.mp h
  rw [c.onTap_eq_forward env t hforwarded, hupshot]
  unfold Tap.concluded
  cases c.direction? <;> rfl

theorem outcome_panicked_iff :
    c.outcome (c.onTap env t).1 = .panicked ↔ c.Overclaimed t := by
  rw [overclaimed_iff]
  cases hreplayed : c.isReplayed t with
  | true =>
    rw [c.outcome_replayed env t hreplayed]
    exact ⟨nofun, nofun⟩
  | false =>
    rw [(c.onTap_forwarded env t hreplayed).response, outcome_respond, eq_self, true_and]

/-- What is left of a tap after a call that panicked: all is as it was, apart from the stops that
were made while the stream was asked, and from the time at which the read began. -/
structure Spared {α : Type} (t : Tap σ) (reply : Reply σ α) (t' : Tap σ) : Prop where
  inner : t'.inner = reply.next
  replay : t'.replay = t.replay
  copies : t'.monitor.recorder.copies =
    if Stop.copying ∈ reply.stops then .released else t.monitor.recorder.copies
  sniffCount : t'.monitor.recorder.sniffCount = t.monitor.recorder.sniffCount
  failure : t'.monitor.recorder.failure = t.monitor.recorder.failure
  sniffing : t'.monitor.sniffing = (t.monitor.sniffing && !decide (Stop.sniffing ∈ reply.stops))
  copying : t'.monitor.recorder.copying =
    (t.monitor.recorder.copying && !decide (Stop.copying ∈ reply.stops))
  showPayload : t'.monitor.showPayload = t.monitor.showPayload
  timeline : t'.monitor.recorder.timeline =
    t.monitor.recorder.timeline.started .read (env.now t.monitor.recorder.looks)
  log : t'.monitor.log = t.monitor.log ++ t.monitor.notices reply.stops

private theorem spared_of_overclaimed (h : c.Overclaimed t) :
    Spared env t (c.ask t.inner) (c.onTap env t).2 := by
  cases c with
  | read room =>
    have hleft : ((read room).onTap env t).2 = ((t.settle ((read room).ask t.inner)).recording
        fun r => r.started env .read) := (onTap_overclaimed env h).trans (t.settle_entered env ..)
    have hrecorder := t.settle_recorder ((read room).ask t.inner)
    rw [hleft]
    constructor
    case inner | replay => rfl
    case showPayload => exact t.settle_showPayload _
    case sniffing => exact t.settle_sniffing _
    all_goals
      simp only [Tap.recording, Recorder.started, Monitor.log, hrecorder, Recorder.halted,
        decide_eq_true_eq]
  | _ => exact h.elim

def claimed? : (c : Call) → c.Answer → Option Nat
  | write _, .ok n | writeVectored _, .ok n => some n
  | pollWrite _, .ready (.ok n) | pollWriteVectored _, .ready (.ok n) => some n
  | _, _ => none

def reported? : (c : Call) → c.Response → Option Nat
  | write data, response => claimed? (write data) response
  | writeVectored slices, response => claimed? (writeVectored slices) response
  | pollWrite data, response => claimed? (pollWrite data) response
  | pollWriteVectored slices, response => claimed? (pollWriteVectored slices) response
  | _, _ => none

def offered : Call → Bytes
  | write data | pollWrite data => data
  | writeVectored slices | pollWriteVectored slices => slices.flatten
  | _ => []

section Claimed

variable {n : Nat}

private theorem respond_claimed {answer : c.Answer} (h : c.claimed? answer = some n) :
    c.reported? (c.respond answer) = some n ∧ c.direction? = some .write ∧
      c.upshot answer = .moved (c.offered.take n) := by
  cases c with
  | write data | writeVectored slices =>
    rcases answer with e | m
    · cases h
    · cases h
      exact ⟨rfl, rfl, rfl⟩
  | pollWrite data | pollWriteVectored slices =>
    rcases answer with _ | e | m
    · cases h
    · cases h
    · cases h
      exact ⟨rfl, rfl, rfl⟩
  | _ => cases h

/-- A write tells what its stream claims, and copies as much of it as it offered. -/
theorem onTap_claimed (h : c.claimed? (c.ask t.inner).answer = some n) :
    c.reported? (c.onTap env t).1 = some n ∧ (c.onTap env t).2.monitor.recorder.copies =
      ((t.settle (c.ask t.inner)).monitor.recorder.keep .write (c.offered.take n)).copies := by
  obtain ⟨hreported, hdirection, hupshot⟩ := respond_claimed h
  have hforwarded : c.isReplayed t = false := by
    rw [isReplayed, isRead_eq, hdirection]
    rfl
  have hcopies (r : Recorder) (bs : Bytes) : (r.keep .write bs).copies =
      if r.copying then r.copies.append .write bs else r.copies := by
    unfold Recorder.keep
    split <;> rfl
  rw [c.onTap_eq_forward env t hforwarded, hupshot]
  refine ⟨hreported, (Tap.concluded_copies ..).trans ?_⟩
  rw [hdirection, Tap.settle_entered]
  change (Recorder.keep _ .write (c.offered.take n)).copies = _
  rw [hcopies, hcopies, Tap.entered_copying, Tap.entered_copies]

end Claimed

end Calls

end Call

section Sniffs

variable {σ : Type} [ByteStream σ] (env : Surroundings)

/-- A polled read of a sniff. The sniff cuts what it collects out of the buffer that it offered. -/
def Tap.sniffReadChecked (buffer : ReadBuffer) : Checked (Tap σ) (Poll (Result ReadBuffer)) := do
  let answer ← (Call.pollRead buffer).checked env
  if let .ready (.ok after) := answer then
    Checked.check (Panic.unless (after.filled.length ≤ buffer.filled.length + buffer.room)
      .outOfBounds)
  return answer

/-- A tap whose sniffs are checked. After a panic it answers no more. -/
def Tap.checkedSource : Sniff.Source (Option Panic × Tap σ) where
  isSniffing x := x.2.monitor.sniffing
  pollRead buffer
    | (some p, t) => (.pending, some p, t)
    | (none, t) =>
      match (sniffReadChecked env buffer).execute t with
      | (.ok answer, next) => (answer, none, next)
      | (.error p, next) => (.pending, some p, next)
  heed stop
    | (some p, t) => (some p, t)
    | (none, t) => (none, t.heed stop)

private theorem Tap.execute_sniffRead {t : Tap σ} (h : t.replay.InBounds) (buffer : ReadBuffer) :
    (sniffReadChecked env buffer).execute t =
      (.ok (t.pollRead env buffer).1, (t.pollRead env buffer).2) := by
  have hread : ((Call.pollRead buffer).checked env).execute t = _ :=
    Call.execute_checked env h (c := .pollRead buffer) id
  have hfits (after : ReadBuffer) (hafter : (t.pollRead env buffer).1 = .ready (.ok after)) :
      after.filled.length ≤ buffer.filled.length + buffer.room := by
    obtain ⟨fill, rfl⟩ := Call.pollRead_ready env t buffer hafter
    rw [ReadBuffer.put, List.length_append]
    exact Nat.add_le_add_left fill.property _
  rw [sniffReadChecked, Checked.execute_bind, hread]
  change Checked.execute _ (t.pollRead env buffer).2 = _
  dsimp only [Call.onTap]
  generalize (t.pollRead env buffer).1 = answer at hfits ⊢
  rcases answer with _ | e | after
  · rfl
  · rfl
  · simp [Panic.unless, hfits after rfl]

private theorem Tap.checkedSource_pairs : (sniffSource (σ := σ) env).Pairs (checkedSource env) Eq Eq
    (fun _ => True) (fun _ => True) fun t x => x = (none, t) ∧ t.replay.InBounds where
  reflects := ⟨fun _ _ _ => trivial, fun _ _ _ => trivial⟩
  reflects' := ⟨fun _ _ _ => trivial, fun _ _ _ => trivial⟩
  isSniffing := by
    rintro t _ ⟨rfl, -⟩
    rfl
  pollRead := by
    rintro t _ room ⟨rfl, hbounds⟩ - -
    simp only [checkedSource, execute_sniffRead env hbounds]
    exact ⟨Upshot.alike_eq.mpr rfl, rfl, Call.inBounds_onTap env (c := .pollRead { room }) hbounds⟩
  heed := by
    rintro stops _ t _ rfl ⟨rfl, hbounds⟩
    induction stops generalizing t with
    | nil => exact ⟨rfl, hbounds⟩
    | cons stop stops ih => exact @ih (t.heed stop) hbounds

private theorem Tap.run_checked {t : Tap σ} (h : t.replay.InBounds) (wanted : Nat)
    (pauses : List (List Stop)) : Sniff.run (checkedSource env) wanted pauses (none, t) =
      ((Sniff.run (sniffSource env) wanted pauses t).1, none,
        (Sniff.run (sniffSource env) wanted pauses t).2) := by
  have hpauses : List.Forall₂ Eq pauses pauses := List.forall₂_refl pauses
  obtain ⟨hend, hnext, -⟩ :=
    Sniff.run_pairs (checkedSource_pairs env) wanted hpauses ⟨rfl, h⟩ trivial trivial
  exact Prod.ext (SniffEnd.eq_of_outcome (Upshot.alike_eq.mp hend)).symm hnext

theorem Sniff.run_ne_panicked {s : Type} (source : Sniff.Source s) {wanted : Nat}
    (h : wanted < Sniff.tooLarge) (pauses : List (List Stop)) (state : s) :
    (Sniff.run source wanted pauses state).1 ≠ .panicked := by
  have hdrive (sniff : Sniff) : (sniff.drive source state pauses).1 ≠ .panicked := by
    induction pauses generalizing sniff state with
    | nil =>
      unfold drive
      split <;> exact SniffEnd.noConfusion
    | cons stops pauses ih =>
      unfold drive
      split
      · exact SniffEnd.noConfusion
      · exact ih _ _
  rw [run, begin, if_pos h]
  split
  · next hbegin => split at hbegin <;> cases hbegin
  · exact SniffEnd.noConfusion
  · exact hdrive _

end Sniffs

namespace Tap

section Runs

variable {σ : Type} [ByteStream σ] (env : Surroundings)

private theorem inBounds_follow (s : σ) (id : Uuid) (settings : SniffSettings) (moves : List Move) :
    ((wrap s id settings).follow env moves).replay.InBounds :=
  (wrap s id settings).follow_induction env (P := fun _ t => t.replay.InBounds)
    ReplayQueue.inBounds_empty
    (by
      intro past m h
      cases m with
      | call c => exact Call.inBounds_onTap env h
      | stop stop => exact h)
    moves

/-- In every state of every run, a call panics exactly if it is a blocking read that reaches its
stream, which then claims to have put more bytes into the buffer than fit: with every bound checked,
a check fails in no other call, and in no sniff. Where none fails, the checked computations do what
the calls and the sniffs do. The panic leaves the tap as it was, apart from the start of the read
and from what was stopped while the stream was asked. A write tells its caller whatever count its
stream claims, and copies no more than was offered. -/
theorem panics_confined (s : σ) (id : Uuid) (settings : SniffSettings) (ops : List Op) :
    let t₀ := wrap s id settings
    let moves := t₀.course env ops
    t₀.follow env moves = t₀.after env ops ∧
      ∀ past, past <+: moves →
        let t := t₀.follow env past
        (∀ c : Call,
          let reply := c.ask t.inner
          let run := (c.checked env).execute t
          ((∃ p, run.1 = .error p) ↔ c.Overclaimed t) ∧
            (c.outcome (c.onTap env t).1 = .panicked ↔ c.Overclaimed t) ∧
            run.2 = (c.onTap env t).2 ∧
            (∀ response, run.1 = .ok response → response = (c.onTap env t).1) ∧
            (c.Overclaimed t → Call.Spared env t reply run.2) ∧
            ∀ n, c.claimed? reply.answer = some n →
              run.1 = .ok (c.onTap env t).1 ∧ c.reported? (c.onTap env t).1 = some n ∧
                run.2.monitor.recorder.copies =
                  ((t.settle reply).monitor.recorder.keep .write (c.offered.take n)).copies) ∧
          ∀ wanted pauses, wanted < Nat.pow 2 63 →
            let sniff := Sniff.run (sniffSource env) wanted pauses t
            sniff.1 ≠ .panicked ∧
              Sniff.run (checkedSource env) wanted pauses (none, t) = (sniff.1, none, sniff.2) := by
  intro t₀ moves
  refine ⟨(t₀.after_eq_follow env ops).symm, ?_⟩
  intro past _ t
  have ht : t.replay.InBounds := inBounds_follow env s id settings past
  refine ⟨?_, ?_⟩
  · intro c reply run
    have hpanicked := c.outcome_panicked_iff env (t := t)
    by_cases hclaim : c.Overclaimed t
    · have hrun : run = (.error .outOfBounds, (c.onTap env t).2) := by
        rw [Call.onTap_overclaimed env hclaim]
        exact Call.execute_overclaimed env hclaim
      have hunclaimed : c.claimed? reply.answer = none := by
        cases c with
        | read room => rfl
        | _ => exact hclaim.elim
      rw [hrun, hunclaimed]
      refine ⟨iff_of_true ⟨_, rfl⟩ hclaim, hpanicked, rfl, nofun, ?_, nofun⟩
      exact fun _ => Call.spared_of_overclaimed env hclaim
    · have hrun : run = (.ok (c.onTap env t).1, (c.onTap env t).2) :=
        Call.execute_checked env ht hclaim
      rw [hrun]
      refine ⟨iff_of_false nofun hclaim, hpanicked, rfl, ?_, fun h => absurd h hclaim, ?_⟩
      · rintro response ⟨⟩
        rfl
      · intro n hn
        exact ⟨rfl, Call.onTap_claimed env hn⟩
  · intro wanted pauses hwanted sniff
    exact ⟨Sniff.run_ne_panicked _ hwanted pauses t, run_checked env ht wanted pauses⟩

/-- A stream that claims too much twice: of a write, and of a read while copying is stopped. -/
def overclaims : Script :=
  { reads := [{ act := .data [97, 98] }, { stop := some .copying, act := .tooMany 5 }]
    writes := [{ act := .accept none 7 }]
    vectored := true }

/-- Two bytes are sniffed. A write of three bytes is told that ten were taken, and copies the three.
The read that follows panics, and the sniffed bytes wait as before; the copies are gone, because
they were given up meanwhile. A sniff in its place would find the stream at its end. -/
theorem panics_confined_overclaims :
    let ops := [.sniff 2 [], .call (.writeVectored [[97], [98, 99]])]
    let t₀ := wrap overclaims .zero {}
    let moves := t₀.course .ticking ops
    let t := t₀.follow .ticking (moves.take 1)
    let t' := t₀.follow .ticking moves
    let run := ((Call.writeVectored [[97], [98, 99]]).checked .ticking).execute t
    let run' := ((Call.read 4).checked .ticking).execute t'
    run.1 = .ok (.ok 10) ∧ run.2.monitor.recorder.copies.written = [97, 98, 99] ∧
      run'.1 = .error .outOfBounds ∧ run'.2.replay = { stored := [97, 98] } ∧
      run'.2.monitor.recorder.copies = .released ∧ run'.2.monitor.sniffing = true ∧
      run'.2.monitor.recorder.sniffCount = 1 ∧
      (Sniff.run (checkedSource .ticking) 8 [] (none, t')).2.1 = none := by
  intro ops t₀ moves t t' run run'
  obtain ⟨-, hstates⟩ := panics_confined .ticking overclaims .zero {} ops
  obtain ⟨hcalls, -⟩ := hstates (moves.take 1) (List.take_prefix 1 moves)
  obtain ⟨hcalls', hsniffs⟩ := hstates moves List.prefix_rfl
  obtain ⟨-, -, -, -, -, hclaimed⟩ := hcalls (.writeVectored [[97], [98, 99]])
  obtain ⟨hpanics, -, -, -, hspared, -⟩ := hcalls' (.read 4)
  have hclaims : (Call.writeVectored [[97], [98, 99]]).claimed?
      ((Call.writeVectored [[97], [98, 99]]).ask t.inner).answer = some 10 := by decide +kernel
  obtain ⟨hrun, -, hcopies⟩ := hclaimed 10 hclaims
  have hpanic : run'.1 = .error .outOfBounds := by decide +kernel
  have hclaim : (Call.read 4).Overclaimed t' := hpanics.mp ⟨_, hpanic⟩
  obtain ⟨-, hreplay, hreleased, hcount, -, hsniffing, -, -, -⟩ := hspared hclaim
  obtain ⟨-, hsniff⟩ := hsniffs 8 [] (by decide)
  have hqueue : t'.replay = { stored := [97, 98] } := by decide +kernel
  have hstops : ((Call.read 4).ask t'.inner).stops = [.copying] := by decide +kernel
  have hsniffs : t'.monitor.sniffing = true ∧ t'.monitor.recorder.sniffCount = 1 := by
    decide +kernel
  rw [hstops] at hreleased hsniffing
  rw [hsniffs.1] at hsniffing
  rw [hrun, hcopies, hsniff]
  refine ⟨?_, ?_, hpanic, hreplay.trans hqueue, hreleased, hsniffing, hcount.trans hsniffs.2, rfl⟩
  · decide +kernel
  · decide +kernel

end Runs

end Tap

end PeekRelay
