import PeekRelay.Proofs.Copies
import PeekRelay.Proofs.Failures
import PeekRelay.Proofs.Parallel
import PeekRelay.Proofs.Stopping
/-!
# What a tap can testify

As long as nobody asks for a stop, the recorder of a tap tells all that the stream went through, and
which read of it failed last. A snapshot gets into the log only when somebody asks for it.
-/
namespace PeekRelay

def Event.snapshot? : Event → Option Snapshot
  | diagnosed snapshot => some snapshot
  | _ => none

def Monitor.dumps (m : Monitor) : List Snapshot := m.log.filterMap Event.snapshot?

def Answered.failedRead? (a : Answered) : Option IoError :=
  a.call.readError? (a.call.upshot a.answer)

namespace Logged

variable {σ : Type} {s : Logged σ} {e : IoError}

/-- Nobody asked for a stop during a call. -/
def Quiet (s : Logged σ) : Prop := ∀ a ∈ s.log, a.stops = []

instance (s : Logged σ) : Decidable s.Quiet :=
  inferInstanceAs (Decidable (∀ a ∈ s.log, a.stops = []))

/-- The last call of the stream was a read that failed with this error. -/
def FailedReading (s : Logged σ) (e : IoError) : Prop :=
  ∃ past a, s.log = past ++ [a] ∧ a.failedRead? = some e

/-- No read has failed so far. -/
def Unfailed (s : Logged σ) : Prop := ∀ a ∈ s.log, a.failedRead? = none

/-- Only reads were made so far, and none failed. -/
def Leading (s : Logged σ) : Prop := ∀ a ∈ s.log, a.call.isRead = true ∧ a.failedRead? = none

theorem lastReadError?_of_failedReading (h : s.FailedReading e) : s.lastReadError? = some e := by
  obtain ⟨past, a, hlog, hfailed⟩ := h
  change (s.log.filterMap Answered.failedRead?).getLast? = some e
  rw [hlog, List.filterMap_append, List.filterMap_cons_some hfailed]
  exact List.getLast?_concat

theorem Unfailed.lastReadError?_eq_none (h : s.Unfailed) : s.lastReadError? = none := by
  change (s.log.filterMap Answered.failedRead?).getLast? = none
  rw [List.filterMap_eq_nil_iff.mpr h]
  rfl

theorem Leading.unfailed (h : s.Leading) : s.Unfailed := fun a ha => (h a ha).2

section Ask

variable [ByteStream σ] {c : Call}

theorem quiet_of_ask (h : (c.ask s).next.Quiet) : s.Quiet ∧ (c.ask s).stops = [] := by
  rw [Quiet, log_next] at h
  refine ⟨?_, ?_⟩
  · intro a ha
    exact h a (List.mem_append_left _ ha)
  · exact h ⟨c, _, _⟩ (List.mem_append_right _ (List.mem_singleton_self _))

end Ask

end Logged

section Dumps

private theorem Monitor.filterMap_notices (m : Monitor) (stops : List Stop) :
    (m.notices stops).filterMap Event.snapshot? = [] :=
  List.filterMap_eq_nil_iff.mpr (m.forall_notices (fun _ => rfl) (fun _ _ => rfl) stops)

private theorem Tap.filterMap_reports {σ : Type} (t : Tap σ) (c : Call) (sniffing : Bool)
    (u : Upshot) :
    (t.reports c sniffing u).filterMap Event.snapshot? = [] :=
  List.filterMap_eq_nil_iff.mpr
    (t.forall_reports c sniffing u (fun _ _ _ => rfl) (fun _ => rfl))

variable {σ : Type} [ByteStream σ] (env : Surroundings)

private theorem Tap.move_dumps (t : Tap σ) (m : Move) :
    (t.move env m).monitor.dumps = t.monitor.dumps := by
  cases m with
  | call c =>
    unfold Monitor.dumps
    cases hreplayed : c.isReplayed t with
    | true =>
      obtain ⟨es, hlog, hdrained⟩ := t.log_replayed env c hreplayed
      have hnone : es.filterMap Event.snapshot? = [] := by
        apply List.filterMap_eq_nil_iff.mpr
        intro e he
        rw [hdrained e he]
        rfl
      rw [hlog, List.filterMap_append, hnone, List.append_nil]
    | false =>
      rw [t.log_forwarded env c hreplayed, List.filterMap_append, List.filterMap_append,
        Monitor.filterMap_notices, filterMap_reports]
      exact List.append_nil _
  | stop stop =>
    change (t.heed stop).monitor.log.filterMap _ = t.monitor.log.filterMap _
    rw [t.log_heed stop, List.filterMap_append, Monitor.filterMap_notices]
    exact List.append_nil _

end Dumps

section Clients

variable {σ : Type} {t : Tap (Logged σ)} {sniffing kept : Bool}

/-- A client of which nothing was reported yet, and whose recorder tells what it went through. -/
structure Tap.Accurate (sniffing kept : Bool) (t : Tap (Logged σ)) : Prop where
  sniffing : t.monitor.sniffing = sniffing
  copied : Copied kept t.monitor.recorder t.inner
  traced : t.Traced
  undumped : t.monitor.dumps = []

namespace Tap.Accurate

theorem note (h : t.Accurate sniffing kept) {e : Event} (he : e.snapshot? = none) :
    (t.recording fun r => r.note e).Accurate sniffing kept where
  sniffing := h.sniffing
  copied := h.copied.of_eq rfl rfl
  traced := h.traced
  undumped := by
    have hlog : (t.recording fun r => r.note e).monitor.dumps =
        t.monitor.dumps ++ [e].filterMap Event.snapshot? := List.filterMap_append
    rw [hlog, h.undumped, List.filterMap_cons_none he]
    rfl

variable [ByteStream σ] (env : Surroundings)

private theorem move (h : t.Accurate sniffing kept) (m : Move) : (t.move env m).Accurate
    (sniffing && !decide (Stop.sniffing ∈ t.stopsIn m))
    (kept && !decide (Stop.copying ∈ t.stopsIn m)) where
  sniffing := by rw [move_sniffing, h.sniffing]
  copied := h.copied.move env m
  traced := h.traced.move env m
  undumped := by rw [move_dumps, h.undumped]

theorem call (h : t.Accurate sniffing kept) (c : Call) (hquiet : (c.onTap env t).2.inner.Quiet) :
    (c.onTap env t).2.Accurate sniffing kept := by
  have hnone : t.stopsIn (.call c) = [] := by
    cases hreplayed : c.isReplayed t with
    | true => exact if_pos hreplayed
    | false =>
      rw [(c.onTap_forwarded env t hreplayed).inner] at hquiet
      exact (if_neg (Bool.eq_false_iff.mp hreplayed)).trans (Logged.quiet_of_ask hquiet).2
  have hmove := h.move env (.call c)
  simp only [hnone, List.not_mem_nil, decide_false, Bool.not_false, Bool.and_true] at hmove
  exact hmove

theorem heed (h : t.Accurate sniffing kept) (stop : Stop) : (t.heed stop).Accurate
    (sniffing && !decide (Stop.sniffing = stop)) (kept && !decide (Stop.copying = stop)) := by
  have hmove := h.move .ticking (.stop stop)
  simp only [stopsIn, List.mem_singleton] at hmove
  exact hmove

end Tap.Accurate

variable [ByteStream σ] (env : Surroundings)

theorem Tap.quiet_of_onTap {c : Call} (h : (c.onTap env t).2.inner.Quiet) : t.inner.Quiet :=
  onTap_reflects env (fun _ _ hnext => (Logged.quiet_of_ask hnext).1) h

/-- A polled read that fails is the last call of the stream. -/
theorem Tap.pollRead_failed {buffer : ReadBuffer} {e : IoError}
    (h : (t.pollRead env buffer).1 = .ready (.error e)) :
    ∃ a, (t.pollRead env buffer).2.inner.log = t.inner.log ++ [a] ∧ a.call.isRead = true ∧
      a.failedRead? = some e := by
  cases hreplayed : (Call.pollRead buffer).isReplayed t with
  | true =>
    rw [Call.pollRead_replayed env t buffer hreplayed] at h
    cases h
  | false =>
    have hforwarded := (Call.pollRead buffer).onTap_forwarded env t hreplayed
    have hresponse : (t.pollRead env buffer).1 = _ := hforwarded.response
    have hinner : (t.pollRead env buffer).2.inner = _ := hforwarded.inner
    rw [hinner, Logged.log_next]
    refine ⟨_, rfl, rfl, ?_⟩
    rw [hresponse] at h
    rcases hanswer : ((Call.pollRead buffer).ask t.inner).answer with _ | e' | fill <;>
      rw [hanswer] at h <;> cases h
    rfl

theorem Tap.call_unfailed {c : Call} (h : c.readError? (c.outcome (c.onTap env t).1) = none) :
    ∃ as, (c.onTap env t).2.inner.log = t.inner.log ++ as ∧
      ∀ a ∈ as, a.call = c ∧ a.failedRead? = none := by
  cases hreplayed : c.isReplayed t with
  | true =>
    refine ⟨[], ?_, nofun⟩
    rw [(c.onTap_replayed env t hreplayed).inner, List.append_nil]
  | false =>
    have hforwarded := c.onTap_forwarded env t hreplayed
    rw [hforwarded.inner, Logged.log_next]
    refine ⟨_, rfl, ?_⟩
    intro a ha
    obtain rfl := List.mem_singleton.mp ha
    rw [hforwarded.response, Call.outcome_respond] at h
    exact ⟨rfl, h⟩

end Clients

section Sniffs

variable {σ : Type} [ByteStream σ] (env : Surroundings) {t : Tap (Logged σ)} {kept : Bool}

structure Tap.Sniffing (kept : Bool) (t : Tap (Logged σ)) : Prop where
  accurate : t.Accurate true kept
  leading : t.inner.Leading

structure Tap.SniffFailed (kept : Bool) (e : IoError) (t : Tap (Logged σ)) : Prop where
  accurate : t.Accurate true kept
  reads : ∀ a ∈ t.inner.log, a.call.isRead = true
  failed : t.inner.FailedReading e

theorem Tap.Sniffing.pollRead (buffer : ReadBuffer) (h : t.inner.Quiet → t.Sniffing kept) :
    (t.pollRead env buffer).1.Leaves (fun t' => t'.inner.Quiet → t'.Sniffing kept)
      (fun e t' => t'.inner.Quiet → t'.SniffFailed kept e) (t.pollRead env buffer).2 := by
  have hstep (hquiet : (t.pollRead env buffer).2.inner.Quiet) :
      t.inner.Leading ∧ (t.pollRead env buffer).2.Accurate true kept := by
    have hbefore := h (quiet_of_onTap (c := .pollRead buffer) env hquiet)
    exact ⟨hbefore.leading, hbefore.accurate.call env (.pollRead buffer) hquiet⟩
  have hleading (hnone : (Call.pollRead buffer).readError?
        ((Call.pollRead buffer).outcome (t.pollRead env buffer).1) = none)
      (hquiet : (t.pollRead env buffer).2.inner.Quiet) :
      (t.pollRead env buffer).2.Sniffing kept := by
    obtain ⟨hbefore, haccurate⟩ := hstep hquiet
    obtain ⟨as, hlog, has⟩ := call_unfailed (c := .pollRead buffer) env hnone
    refine ⟨haccurate, ?_⟩
    intro a ha
    have hlog' : (t.pollRead env buffer).2.inner.log = t.inner.log ++ as := hlog
    rw [hlog'] at ha
    rcases List.mem_append.mp ha with ha | ha
    · exact hbefore a ha
    · exact ⟨(has a ha).1 ▸ rfl, (has a ha).2⟩
  have hfailed := fun e (he : (t.pollRead env buffer).1 = .ready (.error e)) =>
    pollRead_failed env he
  generalize t.pollRead env buffer = polled at hstep hleading hfailed ⊢
  rcases polled with ⟨_ | e | b, next⟩
  · exact hleading rfl
  · intro hquiet
    obtain ⟨hbefore, haccurate⟩ := hstep hquiet
    obtain ⟨a, hlog, hread, he⟩ := hfailed e rfl
    have hlog' : next.inner.log = t.inner.log ++ [a] := hlog
    refine ⟨haccurate, ?_, t.inner.log, a, hlog', he⟩
    intro b hb
    rw [hlog'] at hb
    rcases List.mem_append.mp hb with hb | hb
    · exact (hbefore b hb).1
    · exact List.mem_singleton.mp hb ▸ hread
  · exact hleading rfl

end Sniffs

end PeekRelay
