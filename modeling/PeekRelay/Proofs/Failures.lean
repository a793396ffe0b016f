import PeekRelay.Proofs.Timekeeping
/-!
# Failed and pending calls leave a tap as it was

A call that the stream does not answer yet, or answers with an error, changes none of the data of a
tap. A failed read leaves a trace in place of any earlier one, and nothing else touches that trace,
so it always tells of the last read that failed.
-/
namespace PeekRelay

namespace Tap

variable {σ : Type} (env : Surroundings)

private def exited (t : Tap σ) (c : Call) : Tap σ :=
  match c.direction? with
  | some direction => t.recording fun r => r.finished env direction
  | none => t

/-- Two states of a tap differ in the times, the trace of failure and the reports at most. -/
structure SameData (t t' : Tap σ) : Prop where
  inner : t'.inner = t.inner
  replay : t'.replay = t.replay
  sniffing : t'.monitor.sniffing = t.monitor.sniffing
  copying : t'.monitor.recorder.copying = t.monitor.recorder.copying
  copies : t'.monitor.recorder.copies = t.monitor.recorder.copies
  sniffCount : t'.monitor.recorder.sniffCount = t.monitor.recorder.sniffCount

/-- Two states of a tap differ in the times of one call at most: those of its direction are set, the
first start if there was none, the last start, and the last end if the call is over. -/
structure OnlyTimed (c : Call) (ended : Bool) (t t' : Tap σ) : Prop extends SameData t t' where
  id : t'.monitor.recorder.id = t.monitor.recorder.id
  showPayload : t'.monitor.showPayload = t.monitor.showPayload
  failure : t'.monitor.recorder.failure = t.monitor.recorder.failure
  log : t'.monitor.recorder.log = t.monitor.recorder.log
  set : ∀ direction, c.direction? = some direction →
    let before := t.monitor.recorder.timeline.side direction
    let looks := t.monitor.recorder.looks
    t'.monitor.recorder.timeline.side direction =
      { first := before.first.or (some (env.now looks))
        lastStart := some (env.now looks)
        lastEnd := if ended then some (env.now (looks + 1)) else before.lastEnd }
  unset : ∀ direction, c.direction? ≠ some direction →
    t'.monitor.recorder.timeline.side direction = t.monitor.recorder.timeline.side direction
  looks : t'.monitor.recorder.looks =
    t.monitor.recorder.looks + if c.direction? = none then 0 else if ended then 2 else 1

section Concluded

variable (t : Tap σ) (c : Call) (sniffing : Bool)

private theorem concluded_pending : t.concluded env c sniffing .pending = t := by
  unfold concluded
  cases c.direction? <;> rfl

private theorem sameData_concluded (e : IoError) :
    SameData t (t.concluded env c sniffing (.failed e)) := by
  unfold concluded
  rcases c.direction? with _ | _ | _ <;> exact ⟨rfl, rfl, rfl, rfl, rfl, rfl⟩

private theorem concluded_failed (e : IoError) (h : c.isRead = false) :
    t.concluded env c sniffing (.failed e) = t.exited env c := by
  rw [Call.isRead_eq] at h
  unfold concluded exited
  rcases hdirection : c.direction? with _ | _ | _
  · rfl
  · simp [hdirection] at h
  · rfl

private theorem sameData_entered : SameData t (t.entered env c) := by
  unfold entered
  cases c.direction? <;> exact ⟨rfl, rfl, rfl, rfl, rfl, rfl⟩

private theorem onlyTimed_of_none (h : c.direction? = none) (ended : Bool) :
    OnlyTimed env c ended t t := by
  refine ⟨⟨rfl, rfl, rfl, rfl, rfl, rfl⟩, rfl, rfl, rfl, rfl, ?_, fun _ _ => rfl, ?_⟩
  · intro direction hsome
    cases h.symm.trans hsome
  · simp [h]

private theorem onlyTimed_entered : OnlyTimed env c false t (t.entered env c) := by
  unfold entered
  cases hdirection : c.direction? with
  | none => exact onlyTimed_of_none env t c hdirection _
  | some direction =>
    refine ⟨⟨rfl, rfl, rfl, rfl, rfl, rfl⟩, rfl, rfl, rfl, rfl, ?_, ?_, ?_⟩
    · intro _ hsame
      cases hdirection.symm.trans hsame
      exact t.monitor.recorder.timeline.side_started direction _
    · intro other hother
      refine t.monitor.recorder.timeline.side_started_of_ne _ ?_
      rintro rfl
      exact hother hdirection
    · simp [hdirection, recording, Recorder.started]

private theorem onlyTimed_exited :
    OnlyTimed env c true t ((t.entered env c).exited env c) := by
  unfold entered exited
  cases hdirection : c.direction? with
  | none => exact onlyTimed_of_none env t c hdirection _
  | some direction =>
    refine ⟨⟨rfl, rfl, rfl, rfl, rfl, rfl⟩, rfl, rfl, rfl, rfl, ?_, ?_, ?_⟩
    · intro _ hsame
      cases hdirection.symm.trans hsame
      exact t.monitor.recorder.timeline.side_finished direction _ _
    · intro other hother
      have hne : other ≠ direction := by
        rintro rfl
        exact hother hdirection
      exact (Timeline.side_finished_of_ne _ _ hne).trans (Timeline.side_started_of_ne _ _ hne)
    · simp [hdirection, recording, Recorder.started, Recorder.finished]

end Concluded

private theorem SameData.trans {t t' t'' : Tap σ} (h : SameData t t') (h' : SameData t' t'') :
    SameData t t'' where
  inner := h'.inner.trans h.inner
  replay := h'.replay.trans h.replay
  sniffing := h'.sniffing.trans h.sniffing
  copying := h'.copying.trans h.copying
  copies := h'.copies.trans h.copies
  sniffCount := h'.sniffCount.trans h.sniffCount

section Harmless

variable [ByteStream σ]

/-- A call that fails or is pending does no harm. Apart from what was stopped while the stream was
asked, a pending call only sets when it was started, any failed call but a read only sets when it
was started and when it was over, and a failed read leaves the data alone. -/
structure Harmless (t : Tap σ) (c : Call) : Prop where
  pending : c.upshot (c.ask t.inner).answer = .pending →
    OnlyTimed env c false (t.settle (c.ask t.inner)) (c.onTap env t).2
  failed : ∀ e, c.upshot (c.ask t.inner).answer = .failed e →
    c.outcome (c.onTap env t).1 = .failed e
  failedRead : ∀ e, c.upshot (c.ask t.inner).answer = .failed e → c.isRead = true →
    SameData (t.settle (c.ask t.inner)) (c.onTap env t).2
  failedOther : ∀ e, c.upshot (c.ask t.inner).answer = .failed e → c.isRead = false →
    OnlyTimed env c true (t.settle (c.ask t.inner)) (c.onTap env t).2

private theorem harmless_of_forwarded {t : Tap σ} {c : Call} (h : c.isReplayed t = false) :
    Harmless env t c := by
  have hcall := c.onTap_eq_forward env t h
  rw [settle_entered] at hcall
  constructor
  case pending =>
    intro hpending
    rw [hcall, hpending, concluded_pending]
    exact onlyTimed_entered ..
  case failed =>
    intro e hfailed
    rw [hcall, Call.outcome_respond, hfailed]
  case failedRead =>
    intro e hfailed _
    rw [hcall, hfailed]
    exact (sameData_entered ..).trans (sameData_concluded ..)
  case failedOther =>
    intro e hfailed hwrite
    rw [hcall, hfailed, concluded_failed _ _ _ _ _ hwrite]
    exact onlyTimed_exited ..

end Harmless

end Tap

def IoError.cause (e : IoError) : String × String := (e.kind.name, e.message)

def FailureTrace.cause (f : FailureTrace) : String × String := (f.kind, f.message)

def Call.readError? (c : Call) (u : Upshot) : Option IoError :=
  if c.isRead then u.error? else none

namespace Logged

variable {σ : Type}

def lastReadError? (s : Logged σ) : Option IoError :=
  (s.log.filterMap fun a => a.call.readError? (a.call.upshot a.answer)).getLast?

private theorem lastReadError?_next [ByteStream σ] (c : Call) (s : Logged σ) :
    (c.ask s).next.lastReadError? =
      (c.readError? (c.upshot (c.ask s).answer)).or s.lastReadError? := by
  rw [lastReadError?, lastReadError?, log_next, List.filterMap_append, List.getLast?_append]
  cases h : c.readError? (c.upshot (c.ask s).answer) <;> simp [h]

end Logged

namespace Tap

variable {σ : Type} (env : Surroundings)

private theorem concluded_failure (t : Tap σ) (c : Call) (sniffing : Bool) (u : Upshot) :
    (t.concluded env c sniffing u).monitor.recorder.failure.map FailureTrace.cause =
      ((c.readError? u).map IoError.cause).or
        (t.monitor.recorder.failure.map FailureTrace.cause) := by
  have hkeep : ∀ direction bs,
      (t.monitor.recorder.keep direction bs).failure = t.monitor.recorder.failure := by
    intro direction bs
    unfold Recorder.keep
    split <;> rfl
  rw [Call.readError?, Call.isRead_eq]
  unfold concluded
  rcases c.direction? with _ | direction
  · rfl
  · cases u with
    | moved bs =>
      cases direction <;> cases sniffing <;> exact congrArg (Option.map _) (hkeep _ bs)
    | failed e => cases direction <;> rfl
    | pending | panicked => cases direction <;> rfl

/-- The trace of failure tells of the last read that failed. -/
def Traced (t : Tap (Logged σ)) : Prop :=
  t.monitor.recorder.failure.map FailureTrace.cause = t.inner.lastReadError?.map IoError.cause

variable [ByteStream σ] {t : Tap (Logged σ)}

theorem Traced.move (h : Traced t) (m : Move) : Traced (t.move env m) := by
  cases m with
  | call c =>
    change (c.onTap env t).2.monitor.recorder.failure.map FailureTrace.cause =
      (c.onTap env t).2.inner.lastReadError?.map IoError.cause
    cases hreplayed : c.isReplayed t with
    | true =>
      rw [(c.onTap_replayed env t hreplayed).inner, ← h, c.onTap_eq_replay env t hreplayed]
      refine congrArg (Option.map _) ?_
      exact (shed_failure _).trans (t.entered_failure env c)
    | false =>
      rw [(c.onTap_forwarded env t hreplayed).inner, Logged.lastReadError?_next,
        Option.map_or, ← h, c.onTap_eq_forward env t hreplayed]
      refine (concluded_failure ..).trans ?_
      rw [settle_recorder]
      exact congrArg (fun f => Option.or _ (Option.map _ f)) (t.entered_failure env c)
  | stop stop =>
    have hsame : (t.heed stop).monitor.recorder.failure = t.monitor.recorder.failure := by
      change (t.monitor.heed stop).recorder.failure = _
      rw [Monitor.heed_recorder]
      rfl
    exact (congrArg (Option.map _) hsame).trans h

section Runs

/-- Along every run, a call that reaches the stream and fails or is pending does no harm, and in
every state of it the trace of failure has the kind and the text of the last read of the stream that
failed; there is none as long as none has failed. -/
theorem failures_harmless (s : σ) (id : Uuid) (settings : SniffSettings) (ops : List Op) :
    let moves := (Tap.wrap s id settings).course env ops
    let t₀ := Tap.wrap (⟨s, []⟩ : Logged σ) id settings
    (t₀.follow env moves).forget = (Tap.wrap s id settings).after env ops ∧
      (∀ past c, past ++ [.call c] <+: moves →
        let t := (t₀.follow env past).forget
        c.isReplayed t = false → Harmless env t c) ∧
      ∀ past, past <+: moves →
        let t := t₀.follow env past
        t.monitor.recorder.failure.map FailureTrace.cause =
          t.inner.lastReadError?.map IoError.cause := by
  intro moves t₀
  refine ⟨follow_course_forget env s id settings ops, ?_, ?_⟩
  · intro past c _ t hforwarded
    exact harmless_of_forwarded env hforwarded
  · intro past _
    exact t₀.follow_induction env (P := fun _ t => Traced t) rfl
      (fun _ m h => h.move env m) past

/-- A stream whose reads fail, deliver a byte and wait, and whose writes fail. -/
def failing : Script :=
  { reads := [{ act := .fail (.bare .timedOut) }, { act := .data [97] }, { act := .pending }]
    writes := [{ act := .fail (.bare .brokenPipe) }] }

/-- Neither the read that delivers, nor the failed write, nor the poll that waits takes away the
trace of the read that failed first. -/
theorem failures_harmless_timedOut :
    let poll := Call.pollRead { room := 4 }
    let ops := [.call (.read 4), .call (.read 4), .call (.write [120]), .call poll]
    let moves := (Tap.wrap failing .zero {}).course .ticking ops
    let t₀ := Tap.wrap (⟨failing, []⟩ : Logged Script) .zero {}
    let t := t₀.follow .ticking (moves.take 3)
    let t' := t₀.follow .ticking moves
    poll.isReplayed t.forget = false ∧ poll.upshot (poll.ask t.forget.inner).answer = .pending ∧
      OnlyTimed .ticking poll false (t.forget.settle (poll.ask t.forget.inner))
        (poll.onTap .ticking t.forget).2 ∧
      t'.inner.lastReadError? = some (.bare .timedOut) ∧
      t'.monitor.recorder.failure.map FailureTrace.cause = some ("TimedOut", "timed out") := by
  intro poll ops moves t₀ t t'
  obtain ⟨-, hharmless, htraced⟩ := failures_harmless .ticking failing .zero {} ops
  have hforwarded : poll.isReplayed t.forget = false := by decide +kernel
  have hpending : poll.upshot (poll.ask t.forget.inner).answer = .pending := rfl
  have hlast : t'.inner.lastReadError? = some (.bare .timedOut) := by decide +kernel
  have hpoll := hharmless (moves.take 3) poll ⟨[], rfl⟩ hforwarded
  have htrace : t'.monitor.recorder.failure.map FailureTrace.cause =
      t'.inner.lastReadError?.map IoError.cause := htraced moves List.prefix_rfl
  rw [hlast] at htrace
  exact ⟨hforwarded, hpending, hpoll.pending hpending, hlast, htrace⟩

end Runs

end Tap

end PeekRelay
