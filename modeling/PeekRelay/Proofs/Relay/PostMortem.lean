import PeekRelay.Proofs.Relay.Blame
import PeekRelay.Proofs.Relay.Delivery
/-!
# What is reported of a session that failed

A session that fails reports a snapshot of its client, once. What the snapshot says of the sniffing,
the copies and the last failure is what the client went through.
-/
namespace PeekRelay

namespace Relay

section Reports

variable {σ υ : Type} {t : Tap (Logged σ)} {e : IoError}

/-- A snapshot tells of a client whether it is sniffed and copied, all that it delivered and
accepted, if that was copied, and the last read of it that failed. -/
structure Tells (sniffed kept : Bool) (snapshot : Snapshot) (client : Logged σ) : Prop where
  sniffing : snapshot.sniffing = sniffed
  copying : snapshot.copying = kept
  readCopy : snapshot.readCopy = if kept then client.delivered else []
  writeCopy : snapshot.writeCopy = if kept then client.accepted else []
  failure : snapshot.failure.map FailureTrace.cause = client.lastReadError?.map IoError.cause

/-- What is reported of a session that failed while it sniffed: the target was not called at all,
the client only read, and the trace of failure has the error. -/
structure EarlyReport (kept : Bool) (e : IoError) (snapshot : Snapshot) (client : Logged σ)
    (target : Logged υ) : Prop where
  tells : Tells true kept snapshot client
  silent : target.log = []
  reads : ∀ a ∈ client.log, a.call.isRead = true
  failure : snapshot.failure.map FailureTrace.cause = some e.cause

/-- What is reported of a session that failed after the handoff: there is a trace of failure just if
that was a read of the client, and then it has the error. If it was anything else, no read of the
client ever failed. -/
structure LateReport (kept : Bool) (e : IoError) (snapshot : Snapshot) (client : Logged σ) :
    Prop where
  tells : Tells false kept snapshot client
  failure : client.FailedReading e → snapshot.failure.map FailureTrace.cause = some e.cause
  exact : snapshot.failure.isSome = true ↔ client.FailedReading e
  blame : client.FailedReading e ∨ client.Unfailed

private theorem tells_of_accurate {sniffed kept : Bool} (h : t.Accurate sniffed kept) :
    Tells sniffed kept t.monitor.snapshot t.inner where
  sniffing := h.sniffing
  copying := by
    change (!t.monitor.recorder.copies.stopped) = kept
    rw [h.copied.copies]
    cases kept <;> rfl
  readCopy := by
    change t.monitor.recorder.copies.read = _
    rw [h.copied.copies]
    cases kept <;> rfl
  writeCopy := by
    change t.monitor.recorder.copies.written = _
    rw [h.copied.copies]
    cases kept <;> rfl
  failure := h.traced

private theorem dumps_of_accurate {sniffed kept : Bool} (h : t.Accurate sniffed kept) :
    t.monitor.dump.dumps = [t.monitor.snapshot] := by
  have hlog : t.monitor.dump.dumps = t.monitor.dumps ++ [t.monitor.snapshot] :=
    List.filterMap_append
  rw [hlog, h.undumped]
  rfl

private theorem earlyReport {kept : Bool} {u : Logged υ} (h : t.SniffFailed kept e)
    (htarget : u.log = []) : EarlyReport kept e t.monitor.snapshot t.inner u where
  tells := tells_of_accurate h.accurate
  silent := htarget
  reads := h.reads
  failure := by
    rw [(tells_of_accurate h.accurate).failure, Logged.lastReadError?_of_failedReading h.failed]
    rfl

private theorem lateReport {kept : Bool} (h : CopyFailed kept e t) :
    LateReport kept e t.monitor.snapshot t.inner := by
  have htells := tells_of_accurate h.accurate
  have hfailure (hread : t.inner.FailedReading e) :
      t.monitor.snapshot.failure.map FailureTrace.cause = some e.cause := by
    rw [htells.failure, Logged.lastReadError?_of_failedReading hread]
    rfl
  refine ⟨htells, hfailure, ?_, h.blame⟩
  constructor
  · intro hsome
    refine h.blame.resolve_right ?_
    intro hunfailed
    have hnone := htells.failure
    rw [hunfailed.lastReadError?_eq_none] at hnone
    rw [Option.map_eq_none_iff.mp hnone] at hsome
    cases hsome
  · intro hread
    have hcause := congrArg Option.isSome (hfailure hread)
    rwa [Option.isSome_map] at hcause

end Reports

section Stages

variable {σ υ : Type} {copier : Copier} {copied keep handedOff : Bool}
  {r : Relay (Logged σ) (Logged υ) copier}

def isCopying {σ υ : Type} {copier : Copier} (r : Relay σ υ copier) : Bool :=
  match r.stage with
  | .copying _ => true
  | _ => false

/-- Whether the client of a session was handed off goes with the stage. -/
def Phased (handedOff : Bool) (r : Relay (Logged σ) (Logged υ) copier) : Prop :=
  match r.stage with
  | .fresh | .sniffing _ _ => handedOff = false
  | .copying _ => handedOff = true
  | .over _ => True

/-- What is known of a session at each of its stages. -/
def Known (copied keep handedOff : Bool) (r : Relay (Logged σ) (Logged υ) copier) : Prop :=
  match r.stage with
  | .fresh | .sniffing _ _ =>
    r.client.Sniffing copied ∧ r.target.log = [] ∧ r.settings.keepCopies = keep
  | .copying _ => Copying (copied && keep) r.client
  | .over (.returned (.error (.relay e))) => ∃ snapshot, r.client.monitor.dumps = [snapshot] ∧
      (handedOff = false → EarlyReport copied e snapshot r.client.inner r.target) ∧
      (handedOff = true → LateReport (copied && keep) e snapshot r.client.inner)
  | .over _ => r.client.monitor.dumps = []

private theorem Known.undumped (h : Known copied keep handedOff r)
    (hnone : ∀ e, r.stage ≠ .over (.returned (.error (.relay e)))) :
    r.client.monitor.dumps = [] := by
  unfold Known at h
  split at h
  · exact h.1.accurate.undumped
  · exact h.1.accurate.undumped
  · exact h.accurate.undumped
  · next e hstage => exact absurd hstage (hnone e)
  · exact h

/-- What is known of a session as long as nobody asked for a stop. -/
structure Truthful (copied keep handedOff : Bool) (r : Relay (Logged σ) (Logged υ) copier) :
    Prop where
  phased : Phased handedOff r
  known : r.client.inner.Quiet → r.target.Quiet → Known copied keep handedOff r

private theorem fail_early {e : IoError} (h : r.client.SniffFailed copied e)
    (htarget : r.target.log = []) :
    Known copied keep false (r.fail e) :=
  ⟨_, dumps_of_accurate h.accurate, fun _ => earlyReport h htarget, nofun⟩

private theorem fail_late {e : IoError} (h : CopyFailed (copied && keep) e r.client) :
    Known copied keep true (r.fail e) :=
  ⟨_, dumps_of_accurate h.accurate, nofun, fun _ => lateReport h⟩

private theorem note_sniffing (h : r.client.Sniffing copied) {e : Event} (he : e.snapshot? = none) :
    (r.note e).client.Sniffing copied :=
  ⟨h.accurate.note he, h.leading⟩

variable [ByteStream σ]

private theorem handOff_copying (h : r.client.Sniffing copied)
    (hkeep : r.settings.keepCopies = keep) :
    Copying (copied && keep) r.handOff.client := by
  have hstopped := h.accurate.heed .sniffing
  have hunfailed := h.leading.unfailed
  unfold handOff
  rw [hkeep]
  cases keep with
  | true => exact ⟨by simpa using hstopped, hunfailed⟩
  | false => exact ⟨by simpa using hstopped.heed .copying, hunfailed⟩

section Lead

variable (env : Surroundings)

private theorem pollSniff_known (now : Nat) (s : Sniff) (deadline : Nat)
    (h : r.client.Sniffing copied)
    (htarget : r.target.log = []) (hkeep : r.settings.keepCopies = keep)
    (hquiet : (r.pollSniff env now s deadline).client.inner.Quiet) :
    Known copied keep (r.pollSniff env now s deadline).isCopying
      (r.pollSniff env now s deadline) := by
  have hresume : (r.client.resumeSniff env s).1.Leaves
      (fun t => t.inner.Quiet → t.Sniffing copied)
      (fun e t => t.inner.Quiet → t.SniffFailed copied e) (r.client.resumeSniff env s).2.2 :=
    Sniff.resume_leaves (fun buffer _ ht => Tap.Sniffing.pollRead env buffer ht) s r.client
      fun _ => h
  unfold pollSniff at hquiet ⊢
  generalize r.client.resumeSniff env s = polled at hresume hquiet ⊢
  obtain ⟨_ | e | bytes, s', client⟩ := polled
  · by_cases hlate : deadline ≤ now
    · simp only [if_pos hlate, handOff_inner] at hquiet ⊢
      exact handOff_copying (note_sniffing (r := { r with client, stage := .sniffing s' deadline })
        (hresume hquiet) rfl) hkeep
    · simp only [if_neg hlate] at hquiet ⊢
      exact ⟨hresume hquiet, htarget, hkeep⟩
  · obtain ⟨haccurate, hreads, hfailed⟩ := hresume hquiet
    exact fail_early (r := ({ r with client }).note (.sniffFailed e))
      ⟨haccurate.note rfl, hreads, hfailed⟩ htarget
  · simp only [handOff_inner] at hquiet
    have hopened : (({ r with client }).note (.opened r.clientAddress bytes.length)).client.Sniffing
        copied := note_sniffing (r := { r with client }) (hresume hquiet) rfl
    exact handOff_copying (note_sniffing hopened (e := .leading bytes) rfl) hkeep

private theorem begin_known (now : Nat) (h : r.client.Sniffing copied) (htarget : r.target.log = [])
    (hkeep : r.settings.keepCopies = keep)
    (hquiet : ((r.begin now).advance env now).client.inner.Quiet) :
    Known copied keep ((r.begin now).advance env now).isCopying
      ((r.begin now).advance env now) := by
  unfold begin Tap.beginSniff Sniff.begin at hquiet ⊢
  rw [h.accurate.sniffing, if_pos rfl] at hquiet ⊢
  by_cases hsmall : r.settings.sniffBytes < Sniff.tooLarge
  · rw [if_pos hsmall] at hquiet ⊢
    exact pollSniff_known env now _ _ h htarget hkeep hquiet
  · rw [if_neg hsmall]
    exact h.accurate.undumped

private theorem advance_quiet (now : Nat) (h : (r.advance env now).client.inner.Quiet) :
    r.client.inner.Quiet := by
  unfold advance at h
  split at h
  · next s deadline _ =>
    have hpolled : (r.client.resumeSniff env s).2.2.inner.Quiet := by
      unfold pollSniff at h
      rcases hresumed : r.client.resumeSniff env s with ⟨_ | e | bytes, s', client⟩ <;>
        rw [hresumed] at h
      · dsimp only at h
        split at h
        · rwa [handOff_inner] at h
        · exact h
      · exact h
      · rw [handOff_inner] at h
        exact h
    exact Sniff.resume_reflects
      (Tap.sniffSource_reflects env fun _ _ hnext => (Logged.quiet_of_ask hnext).1) s r.client
      hpolled
  · exact h

private theorem lead_quiet (now : Nat) (h : (r.lead env now).client.inner.Quiet) :
    r.client.inner.Quiet := by
  have hbegin : (r.begin now).client.inner = r.client.inner := by
    unfold begin
    split <;> rfl
  unfold lead at h
  split at h
  · exact hbegin ▸ advance_quiet env now h
  · exact advance_quiet env now h

omit [ByteStream σ] in
private theorem handOff_target : r.handOff.target = r.target := by
  unfold handOff
  cases r.settings.keepCopies <;> rfl

private theorem lead_target (now : Nat) : (r.lead env now).target = r.target := by
  have hadvance (r : Relay (Logged σ) (Logged υ) copier) :
      (r.advance env now).target = r.target := by
    unfold advance
    split
    · unfold pollSniff
      split
      · exact handOff_target
      · rfl
      · dsimp only
        split
        · exact handOff_target
        · rfl
    · rfl
  have hbegin : (r.begin now).target = r.target := by
    unfold begin
    split <;> rfl
  unfold lead
  split
  · exact (hadvance _).trans hbegin
  · exact hadvance r

omit [ByteStream σ] in
private theorem phased_isCopying (r : Relay (Logged σ) (Logged υ) copier) :
    Phased r.isCopying r := by
  cases hstage : r.stage <;> simp only [Phased, isCopying, hstage]

private theorem lead_truthful (now : Nat) (h : Truthful copied keep handedOff r) :
    Truthful copied keep (handedOff || (r.lead env now).isCopying) (r.lead env now) := by
  have hknown (hclient : (r.lead env now).client.inner.Quiet)
      (htarget : (r.lead env now).target.Quiet) : Known copied keep handedOff r := by
    rw [lead_target] at htarget
    exact h.known (lead_quiet env now hclient) htarget
  have hphased := h.phased
  unfold lead at hknown ⊢
  cases hstage : r.stage with
  | fresh =>
    simp only [Phased, Known, hstage] at hphased hknown ⊢
    rw [hphased, Bool.false_or]
    refine ⟨phased_isCopying _, ?_⟩
    intro hclient htarget
    obtain ⟨hsniffing, hsilent, hkeep⟩ := hknown hclient htarget
    exact begin_known env now hsniffing hsilent hkeep hclient
  | sniffing s deadline =>
    simp only [Phased, Known, advance, hstage] at hphased hknown ⊢
    rw [hphased, Bool.false_or]
    refine ⟨phased_isCopying _, ?_⟩
    intro hclient htarget
    obtain ⟨hsniffing, hsilent, hkeep⟩ := hknown hclient htarget
    exact pollSniff_known env now s deadline hsniffing hsilent hkeep hclient
  | copying copying =>
    simp only [Phased, hstage] at hphased
    simp only [advance, hstage, hphased, Bool.true_or]
    exact hphased ▸ h
  | _ =>
    have hover : r.isCopying = false := by simp only [isCopying, hstage]
    simp only [advance, hstage, hover, Bool.or_false]
    exact h

end Lead

section Copy

variable [ByteStream υ] (env : Surroundings)

private theorem pollCopy_truthful (hcopier : copier.ReturnsFirstError) (budget : Nat)
    (copying : copier.State) (h : WhileQuiet (Copying (copied && keep)) (r.client, r.target)) :
    Truthful copied keep true (r.pollCopy env budget copying).1 := by
  have hleaves := hcopier.leaves (toTarget_blames env) (toClient_blames env) budget copying h
  unfold pollCopy
  generalize copier.poll (Relay.toTarget env) (Relay.toClient env) budget copying
    (r.client, r.target) = polled at hleaves ⊢
  obtain ⟨turn, copying', client, target⟩ := polled
  cases turn with
  | waits again => exact ⟨rfl, hleaves⟩
  | finished toTarget toClient =>
    exact ⟨trivial, fun hclient htarget => ((hleaves hclient htarget).accurate.note rfl).undumped⟩
  | failed e => exact ⟨trivial, fun hclient htarget => fail_late (hleaves hclient htarget)⟩
  | panicked => exact ⟨trivial, fun hclient htarget => (hleaves hclient htarget).accurate.undumped⟩

end Copy

variable [ByteStream υ] (env : Surroundings)

private theorem poll_truthful (hcopier : copier.ReturnsFirstError) (now budget : Nat)
    (h : Truthful copied keep handedOff r) :
    Truthful copied keep (handedOff || (r.lead env now).isCopying) (r.poll env now budget).1 := by
  have hlead := lead_truthful env now h
  unfold poll
  cases hstage : (r.lead env now).stage with
  | copying copying =>
    have hknown := hlead.known
    simp only [Known, hstage] at hknown
    simp only [isCopying, hstage, Bool.or_true]
    exact pollCopy_truthful env hcopier budget copying hknown
  | _ =>
    simp only [hstage]
    exact hlead

end Stages

section Runs

variable {σ υ : Type} {copier : Copier} [ByteStream σ] [ByteStream υ] (env : Surroundings)

/-- A session that is polled, at these times and with these budgets, and otherwise left alone. -/
def visited {σ υ : Type} {copier : Copier} [ByteStream σ] [ByteStream υ] (env : Surroundings)
    (r : Relay σ υ copier) (polls : List (Nat × Nat)) : Relay σ υ copier :=
  r.after env (polls.map fun poll => .poll poll.1 poll.2)

def handsOff {σ υ : Type} {copier : Copier} [ByteStream σ] [ByteStream υ] (env : Surroundings) :
    Relay σ υ copier → List (Nat × Nat) → Bool
  | _, [] => false
  | r, (now, budget) :: polls =>
    (r.lead env now).isCopying || handsOff env (r.poll env now budget).1 polls

private theorem visited_truthful (hcopier : copier.ReturnsFirstError) {copied keep handedOff : Bool}
    {r : Relay (Logged σ) (Logged υ) copier} (polls : List (Nat × Nat))
    (h : Truthful copied keep handedOff r) :
    Truthful copied keep (handedOff || handsOff env r polls) (r.visited env polls) := by
  induction polls generalizing handedOff r with
  | nil =>
    rw [handsOff, Bool.or_false]
    exact h
  | cons poll polls ih =>
    have hnext := ih (poll_truthful env hcopier poll.1 poll.2 h)
    rw [Bool.or_assoc] at hnext
    exact hnext

/-- The report on a session that failed tells the truth, whatever copies its streams, as long as
that returns the first error it meets. If nobody asks for a stop, a session reports one snapshot of
its client when it fails with an error of its streams, and none otherwise. If it failed before the
handoff, the snapshot is that of a client that is still sniffed and of which all is copied as long
as that was wanted, and has the error; the target was not called and nothing was sent to the client.
If it failed after the handoff, the sniffing is over, the copies are complete or gone, and the trace
of failure is there, with the error, just if that came from a read of the client. -/
theorem post_mortem_truthful (huniform : copier.Uniform) (hcopier : copier.ReturnsFirstError)
    (s : σ) (u : υ) (id : Uuid) (sniffing : SniffSettings) (clientAddress : SocketAddress)
    (settings : RelaySettings) (polls : List (Nat × Nat)) :
    let r₀ := fresh copier (Logged.mk s []) (Logged.mk u []) id sniffing clientAddress settings
    let r := r₀.visited env polls
    r.forget = (fresh copier s u id sniffing clientAddress settings).visited env polls ∧
      (r.client.inner.Quiet → r.target.Quiet →
        ((∀ e, r.stage ≠ .over (.returned (.error (.relay e)))) → r.client.monitor.dumps = []) ∧
        ∀ e, r.stage = .over (.returned (.error (.relay e))) →
          ∃ snapshot, r.client.monitor.dumps = [snapshot] ∧
            (handsOff env r₀ polls = false →
              EarlyReport sniffing.copying e snapshot r.client.inner r.target) ∧
            (handsOff env r₀ polls = true →
              LateReport (sniffing.copying && settings.keepCopies) e snapshot r.client.inner)) := by
  intro r₀ r
  refine ⟨after_forget env huniform r₀ _, ?_⟩
  intro hclient htarget
  have hstart : Truthful sniffing.copying settings.keepCopies false r₀ := by
    refine ⟨rfl, ?_⟩
    intro _ _
    exact ⟨⟨⟨rfl, .wrap s id sniffing, rfl, rfl⟩, nofun⟩, rfl, rfl⟩
  have hknown := (visited_truthful env hcopier polls hstart).known hclient htarget
  rw [Bool.false_or] at hknown
  refine ⟨hknown.undumped, ?_⟩
  intro e hover
  have hstage : (r₀.visited env polls).stage = _ := hover
  rw [Known, hstage] at hknown
  exact hknown

/-- A client that delivers three bytes, lets its reader wait, and is reset. -/
def resetClient : Script :=
  { reads := [{ act := .data [1, 2] }, { act := .data [3] }, { act := .pending },
      { act := .fail (.bare .connectionReset) }] }

def greetingTarget : Script := { reads := [{ act := .data [9] }, { act := .pending }] }

/-- The client is reset after the handoff if two bytes are sniffed, and before it if nine are. -/
theorem post_mortem_truthful_reset :
    let polls := [(0, 100), (1, 100)]
    let session := fun settings => fresh (Pump.copier Pump.never) (Logged.mk resetClient [])
      (Logged.mk greetingTarget []) .zero {} (.v4 ⟨1, 2, 3, 4⟩ 5) settings
    let late := (session ⟨2, 20, true⟩).visited .ticking polls
    let early := (session ⟨9, 20, false⟩).visited .ticking polls
    (∃ snapshot, late.client.monitor.dumps = [snapshot] ∧
        LateReport true (.bare .connectionReset) snapshot late.client.inner) ∧
      late.client.inner.delivered = [1, 2, 3] ∧ late.client.inner.accepted = [9] ∧
      (∃ snapshot, early.client.monitor.dumps = [snapshot] ∧
        EarlyReport true (.bare .connectionReset) snapshot early.client.inner early.target) ∧
      early.client.inner.delivered = [1, 2, 3] := by
  intro polls session late early
  have hlate : late.stage = .over (.returned (.error (.relay (.bare .connectionReset)))) := by
    decide +kernel
  have hearly : early.stage = .over (.returned (.error (.relay (.bare .connectionReset)))) := by
    decide +kernel
  have hlateTruth := post_mortem_truthful .ticking (Pump.copier_uniform Pump.never)
    Pump.copier_returnsFirstError resetClient greetingTarget .zero {} (.v4 ⟨1, 2, 3, 4⟩ 5)
    ⟨2, 20, true⟩ polls
  have hearlyTruth := post_mortem_truthful .ticking (Pump.copier_uniform Pump.never)
    Pump.copier_returnsFirstError resetClient greetingTarget .zero {} (.v4 ⟨1, 2, 3, 4⟩ 5)
    ⟨9, 20, false⟩ polls
  obtain ⟨snapshot, hdumps, -, hreport⟩ :=
    (hlateTruth.2 (by decide +kernel) (by decide +kernel)).2 _ hlate
  obtain ⟨snapshot', hdumps', hreport', -⟩ :=
    (hearlyTruth.2 (by decide +kernel) (by decide +kernel)).2 _ hearly
  exact ⟨⟨snapshot, hdumps, hreport (by decide +kernel)⟩, by decide +kernel, by decide +kernel,
    ⟨snapshot', hdumps', hreport' (by decide +kernel)⟩, by decide +kernel⟩

end Runs

end Relay

end PeekRelay
