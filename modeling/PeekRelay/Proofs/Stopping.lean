import PeekRelay.Proofs.Course
import PeekRelay.Tap.Whole
/-!
# Sniffing is stopped once, for good, and at most one call late

The flag is looked at when a call is entered. A stop that comes while the stream is asked finds the
read under way as a sniffing one, so this read may still be queued, counted and reported; no later
one is.
-/
namespace PeekRelay

namespace Event

def isSniffed : Event → Bool
  | sniffed _ _ _ => true
  | _ => false

def isSniffingStopped : Event → Bool
  | sniffingStopped _ => true
  | _ => false

end Event

namespace Tap

variable {σ : Type}

def sniffReports (t : Tap σ) : List Event := t.monitor.log.filter Event.isSniffed

def stopReports (t : Tap σ) : Nat := t.monitor.log.countP Event.isSniffingStopped

/-- Nothing is sniffed from one state to another: the queue may be read and released, but nothing is
appended to it, and nothing is counted or reported. -/
structure Unsniffed (t t' : Tap σ) : Prop where
  queue : t'.replay.stored = t.replay.stored ∧ t.replay.cursor ≤ t'.replay.cursor ∨
    t'.replay.stored = []
  count : t'.monitor.recorder.sniffCount = t.monitor.recorder.sniffCount
  reports : t'.sniffReports = t.sniffReports

def sniffReport (t : Tap σ) (bs : Bytes) : Event :=
  .sniffed t.monitor.recorder.sniffCount bs.length (if t.monitor.showPayload then some bs else none)

/-- One read sniffs from one state to another: its bytes are appended to the queue, and it is
counted and reported once. -/
structure Sniffed (t t' : Tap σ) (bs : Bytes) : Prop where
  queue : t'.replay = t.replay.append bs
  count : t'.monitor.recorder.sniffCount = t.monitor.recorder.sniffCount + 1
  reports : t'.sniffReports = t.sniffReports ++ [t.sniffReport bs]

namespace Unsniffed

variable {t t' t'' : Tap σ}

private theorem refl (t : Tap σ) : Unsniffed t t := ⟨.inl ⟨rfl, Nat.le_refl _⟩, rfl, rfl⟩

private theorem trans (h : Unsniffed t t') (h' : Unsniffed t' t'') : Unsniffed t t'' where
  queue := by
    rcases h'.queue with ⟨hstored', hcursor'⟩ | hempty'
    · rcases h.queue with ⟨hstored, hcursor⟩ | hempty
      · exact .inl ⟨hstored'.trans hstored, Nat.le_trans hcursor hcursor'⟩
      · exact .inr (hstored'.trans hempty)
    · exact .inr hempty'
  count := h'.count.trans h.count
  reports := h'.reports.trans h.reports

end Unsniffed

section Stops

variable (m : Monitor) (stops : List Stop)

private theorem filter_isSniffed_notices : (m.notices stops).filter Event.isSniffed = [] :=
  List.filter_eq_nil_iff.mpr
    (m.forall_notices (fun _ => Bool.false_ne_true) (fun _ _ => Bool.false_ne_true) stops)

private theorem countP_isSniffingStopped_notices :
    (m.notices stops).countP Event.isSniffingStopped =
      if m.sniffing ∧ Stop.sniffing ∈ stops then 1 else 0 := by
  induction stops generalizing m with
  | nil => simp [Monitor.notices]
  | cons stop stops ih =>
    rw [Monitor.notices, List.countP_append, ih, Monitor.heed_sniffing]
    cases stop with
    | sniffing => cases h : m.sniffing <;> simp [Monitor.notice, h, Event.isSniffingStopped]
    | copying =>
      cases h : m.recorder.copies.stopped <;> simp [Monitor.notice, h, Event.isSniffingStopped]

end Stops

section Reports

variable (t : Tap σ) (c : Call) (sniffing : Bool) (u : Upshot)

private theorem filter_isSniffed_reports : (t.reports c sniffing u).filter Event.isSniffed =
    (c.sniffed? sniffing u).toList.map t.sniffReport := by
  rw [Call.sniffed?, Call.isRead_eq]
  unfold reports
  rcases c.direction? with _ | direction
  · simp
  · cases direction <;> cases u <;> cases sniffing <;> simp [Event.isSniffed, sniffReport]

private theorem countP_isSniffingStopped_reports :
    (t.reports c sniffing u).countP Event.isSniffingStopped = 0 := by
  unfold reports
  rcases c.direction? with _ | direction
  · rfl
  · cases direction <;> cases u <;> cases sniffing <;> rfl

end Reports

variable [ByteStream σ] (env : Surroundings) (t : Tap σ)

/-- The bytes that a move sniffs. -/
def sniffedIn (t : Tap σ) : Move → Option Bytes
  | .call c => c.sniffed? t.monitor.sniffing (c.upshot (c.ask t.inner).answer)
  | .stop _ => none

theorem sniffedIn_of_stopped (h : t.monitor.sniffing = false) (m : Move) :
    t.sniffedIn m = none := by
  cases m with
  | call c => simp [sniffedIn, Call.sniffed?, h]
  | stop stop => rfl

private theorem sniffedIn_eq_some {t : Tap σ} {m : Move} {bs : Bytes}
    (h : t.sniffedIn m = some bs) :
    ∃ c, m = .call c ∧ c.isRead = true ∧ c.upshot (c.ask t.inner).answer = .moved bs := by
  cases m with
  | call c =>
    rw [sniffedIn, Call.sniffed?] at h
    cases hread : c.isRead with
    | false => simp [hread] at h
    | true =>
      cases hupshot : c.upshot (c.ask t.inner).answer <;> simp [hread, hupshot] at h
      exact ⟨c, rfl, hread, h.2 ▸ hupshot⟩
  | stop stop => cases h

section Call

variable (c : Call)

theorem log_replayed_eq (h : c.isReplayed t = true) : (t.move env (.call c)).monitor.log =
    t.monitor.log ++ if (t.replay.advance c.room).hasRemaining then [] else [.replayDrained] := by
  change (c.onTap env t).2.monitor.recorder.log = _
  rw [c.onTap_eq_replay env t h]
  refine (Tap.shed_log _).trans ?_
  rw [Tap.entered_log]
  rfl

theorem log_replayed (h : c.isReplayed t = true) : ∃ es,
    (t.move env (.call c)).monitor.log = t.monitor.log ++ es ∧ ∀ e ∈ es, e = .replayDrained := by
  refine ⟨_, t.log_replayed_eq env c h, ?_⟩
  split <;> simp

theorem log_forwarded (h : c.isReplayed t = false) :
    (t.move env (.call c)).monitor.log = t.monitor.log ++
      ((t.entered env c).monitor.notices (c.ask t.inner).stops ++
        t.reports c t.monitor.sniffing (c.upshot (c.ask t.inner).answer)) := by
  change (c.onTap env t).2.monitor.recorder.log = _
  rw [c.onTap_eq_forward env t h]
  refine (Tap.concluded_log ..).trans ?_
  rw [settle_log, entered_log, List.append_assoc]
  unfold reports
  simp only [settle_sniffCount, settle_showPayload, entered_sniffCount, entered_showPayload]
  rfl

private theorem sniffedIn_of_isReplayed (h : c.isReplayed t = true) :
    t.sniffedIn (.call c) = none :=
  t.sniffedIn_of_stopped (Call.sniffing_of_isReplayed h) _

private theorem call_sniffReports : (t.move env (.call c)).sniffReports =
    t.sniffReports ++ (t.sniffedIn (.call c)).toList.map t.sniffReport := by
  rw [sniffReports, sniffReports]
  cases hreplayed : c.isReplayed t with
  | true =>
    obtain ⟨es, hlog, hdrained⟩ := t.log_replayed env c hreplayed
    have hnone : es.filter Event.isSniffed = [] := by
      refine List.filter_eq_nil_iff.mpr ?_
      intro e he
      rw [hdrained e he]
      decide
    rw [hlog, List.filter_append, hnone, sniffedIn_of_isReplayed t c hreplayed]
    rfl
  | false =>
    rw [t.log_forwarded env c hreplayed, List.filter_append, List.filter_append,
      filter_isSniffed_notices, filter_isSniffed_reports, List.nil_append]
    rfl

private theorem call_stopReports : (t.move env (.call c)).stopReports = t.stopReports +
    if t.monitor.sniffing ∧ Stop.sniffing ∈ t.stopsIn (.call c) then 1 else 0 := by
  rw [stopReports, stopReports]
  cases hreplayed : c.isReplayed t with
  | true =>
    obtain ⟨es, hlog, hdrained⟩ := t.log_replayed env c hreplayed
    have hnone : es.countP Event.isSniffingStopped = 0 := by
      refine List.countP_eq_zero.mpr ?_
      intro e he
      rw [hdrained e he]
      decide
    rw [hlog, List.countP_append, hnone, Call.sniffing_of_isReplayed hreplayed]
    simp
  | false =>
    rw [t.log_forwarded env c hreplayed, List.countP_append, List.countP_append,
      countP_isSniffingStopped_notices, countP_isSniffingStopped_reports, entered_sniffing,
      stopsIn, hreplayed]
    simp

theorem call_sniffCount : (t.move env (.call c)).monitor.recorder.sniffCount =
    t.monitor.recorder.sniffCount + (t.sniffedIn (.call c)).toList.length := by
  change (c.onTap env t).2.monitor.recorder.sniffCount = _
  cases hreplayed : c.isReplayed t with
  | true =>
    rw [c.onTap_eq_replay env t hreplayed, sniffedIn_of_isReplayed t c hreplayed]
    exact (Tap.shed_sniffCount _).trans (t.entered_sniffCount env c)
  | false =>
    rw [c.onTap_eq_forward env t hreplayed]
    refine (Tap.concluded_sniffCount ..).trans ?_
    rw [settle_sniffCount, entered_sniffCount]
    rfl

theorem replay_forwarded (h : c.isReplayed t = false) :
    (t.move env (.call c)).replay =
      t.replay.append ((t.sniffedIn (.call c)).getD []) := by
  change (c.onTap env t).2.replay = _
  rw [(c.onTap_forwarded env t h).replay, Call.delivered_eq, sniffedIn, Call.sniffed?,
    Call.isRead_eq]
  cases t.monitor.sniffing with
  | false => simp
  | true => by_cases hread : c.direction? = some .read <;> simp [hread, Upshot.bytes]

end Call

section Move

variable {env t} {m : Move}

theorem move_sniffing (env : Surroundings) (t : Tap σ) (m : Move) :
    (t.move env m).monitor.sniffing =
      (t.monitor.sniffing && !decide (Stop.sniffing ∈ t.stopsIn m)) := by
  cases m with
  | call c =>
    change (c.onTap env t).2.monitor.sniffing = _
    cases hreplayed : c.isReplayed t with
    | true =>
      rw [(c.onTap_replayed env t hreplayed).sniffing, stopsIn, hreplayed]
      simp
    | false =>
      rw [(c.onTap_forwarded env t hreplayed).sniffing, stopsIn, hreplayed]
      rfl
  | stop stop =>
    refine (t.heed_sniffing stop).trans ?_
    simp [stopsIn]

omit [ByteStream σ] in
theorem log_heed (t : Tap σ) (stop : Stop) :
    (t.heed stop).monitor.log = t.monitor.log ++ t.monitor.notices [stop] :=
  congrArg Recorder.log (t.monitor.heedAll_recorder [stop])

private theorem move_stopReports (env : Surroundings) (t : Tap σ) (m : Move) :
    (t.move env m).stopReports = t.stopReports +
      if t.monitor.sniffing ∧ Stop.sniffing ∈ t.stopsIn m then 1 else 0 := by
  cases m with
  | call c => exact t.call_stopReports env c
  | stop stop =>
    rw [stopReports, stopReports, ← countP_isSniffingStopped_notices, ← List.countP_append]
    exact congrArg (List.countP Event.isSniffingStopped) (t.log_heed stop)

theorem move_unsniffed (env : Surroundings) (h : t.sniffedIn m = none) :
    Unsniffed t (t.move env m) := by
  cases m with
  | call c =>
    constructor
    case queue =>
      cases hreplayed : c.isReplayed t with
      | true =>
        change (c.onTap env t).2.replay.stored = _ ∧ _ ≤ (c.onTap env t).2.replay.cursor ∨
          (c.onTap env t).2.replay.stored = []
        rw [c.onTap_eq_replay env t hreplayed, recording_replay, shed_replay]
        split
        · exact .inl ⟨rfl, Nat.le_add_right ..⟩
        · exact .inr rfl
      | false =>
        rw [t.replay_forwarded env c hreplayed, h]
        exact .inl ⟨List.append_nil _, Nat.le_refl _⟩
    case count => simp [t.call_sniffCount env c, h]
    case reports => simp [t.call_sniffReports env c, h]
  | stop stop =>
    constructor
    case queue => exact .inl ⟨rfl, Nat.le_refl _⟩
    case count =>
      change (t.monitor.heed stop).recorder.sniffCount = _
      rw [t.monitor.heed_recorder]
      rfl
    case reports =>
      have hnone := filter_isSniffed_notices t.monitor [stop]
      have hlog : (t.heed stop).sniffReports = (t.monitor.log ++ _).filter Event.isSniffed :=
        congrArg (List.filter Event.isSniffed) (t.log_heed stop)
      rw [List.filter_append, hnone, List.append_nil] at hlog
      exact hlog

theorem move_sniffed (env : Surroundings) {bs : Bytes} (h : t.sniffedIn m = some bs) :
    Sniffed t (t.move env m) bs := by
  cases m with
  | call c =>
    have hsniffing : t.monitor.sniffing = true := by
      cases hflag : t.monitor.sniffing with
      | true => rfl
      | false =>
        rw [t.sniffedIn_of_stopped hflag] at h
        cases h
    have hforwarded : c.isReplayed t = false := Call.isReplayed_of_sniffing hsniffing
    constructor
    case queue => simp [t.replay_forwarded env c hforwarded, h]
    case count => simp [t.call_sniffCount env c, h]
    case reports => simp [t.call_sniffReports env c, h]
  | stop stop => cases h

private theorem stopped_of_shrinks (env : Surroundings)
    (h : (t.move env m).replayPending < t.replayPending) : t.monitor.sniffing = false := by
  cases hflag : t.monitor.sniffing with
  | false => rfl
  | true =>
    cases m with
    | call c =>
      have hreplay := t.replay_forwarded env c (Call.isReplayed_of_sniffing hflag)
      rw [replayPending, replayPending, hreplay] at h
      exact absurd h (Nat.not_lt.mpr (t.replay.remaining_le_append _))
    | stop stop => exact absurd h (Nat.lt_irrefl _)

end Move

section Follow

variable {env t}

private theorem follow_stopped (env : Surroundings) (h : t.monitor.sniffing = false)
    (moves : List Move) :
    (t.follow env moves).monitor.sniffing = false ∧ Unsniffed t (t.follow env moves) := by
  induction moves generalizing t with
  | nil => exact ⟨h, .refl t⟩
  | cons m moves ih =>
    have hnext : (t.move env m).monitor.sniffing = false := by
      rw [move_sniffing, h, Bool.false_and]
    obtain ⟨hstopped, hunsniffed⟩ := ih hnext
    exact ⟨hstopped, (move_unsniffed env (t.sniffedIn_of_stopped h m)).trans hunsniffed⟩

private theorem follow_sniffing (env : Surroundings) (t : Tap σ) (moves : List Move) :
    (t.follow env moves).monitor.sniffing =
      (t.monitor.sniffing && !decide (Stop.sniffing ∈ t.stopsAlong env moves)) := by
  induction moves generalizing t with
  | nil => simp [follow, stopsAlong]
  | cons m moves ih =>
    change ((t.move env m).follow env moves).monitor.sniffing = _
    rw [ih, move_sniffing, stopsAlong, Bool.and_assoc]
    simp [Bool.decide_or]

private theorem follow_stopReports (env : Surroundings) (t : Tap σ) (moves : List Move) :
    (t.follow env moves).stopReports = t.stopReports +
      if t.monitor.sniffing ∧ Stop.sniffing ∈ t.stopsAlong env moves then 1 else 0 := by
  induction moves generalizing t with
  | nil => simp [follow, stopsAlong]
  | cons m moves ih =>
    change ((t.move env m).follow env moves).stopReports = _
    rw [ih, move_stopReports, move_sniffing, stopsAlong]
    by_cases hsniffing : t.monitor.sniffing = true <;>
      by_cases hnow : Stop.sniffing ∈ t.stopsIn m <;> simp [hsniffing, hnow]

end Follow

section Runs

variable (env : Surroundings)

/-- In every state of every run, the tap sniffs exactly as long as no stop was made, and the first
stop, and no other, was reported. After a stop nothing is sniffed any more, apart from what the read
that it came into delivers. After bytes were handed out again, nothing is ever queued behind
them. -/
theorem sniffing_stops_once (s : σ) (id : Uuid) (settings : SniffSettings) (ops : List Op) :
    let t₀ := Tap.wrap s id settings
    let moves := t₀.course env ops
    t₀.follow env moves = t₀.after env ops ∧
      (∀ past, past <+: moves →
        let t := t₀.follow env past
        (t.monitor.sniffing = true ↔ Stop.sniffing ∉ t₀.stopsAlong env past) ∧
          t.stopReports = if Stop.sniffing ∈ t₀.stopsAlong env past then 1 else 0) ∧
      ∀ past m later, past ++ m :: later <+: moves →
        let t := t₀.follow env past
        let t' := t.move env m
        let t'' := t'.follow env later
        (t.monitor.sniffing = false → t''.monitor.sniffing = false ∧ Unsniffed t t'') ∧
          (Stop.sniffing ∈ t.stopsIn m → Unsniffed t' t'' ∧
            (Unsniffed t t' ∨ ∃ c bs, m = .call c ∧ c.isRead = true ∧
              c.upshot (c.ask t.inner).answer = .moved bs ∧ Sniffed t t' bs)) ∧
          (t'.replayPending < t.replayPending → Unsniffed t' t'') := by
  intro t₀ moves
  have hsniffing : t₀.monitor.sniffing = true := rfl
  refine ⟨(t₀.after_eq_follow env ops).symm, ?_, ?_⟩
  · intro past _ t
    have hflag : t.monitor.sniffing = _ := follow_sniffing env t₀ past
    have hreports : t.stopReports = _ := follow_stopReports env t₀ past
    refine ⟨?_, ?_⟩
    · simp [hflag, hsniffing]
    · have hnone : t₀.stopReports = 0 := rfl
      simp [hreports, hsniffing, hnone]
  · intro past m later _ t t' t''
    refine ⟨?_, ?_, ?_⟩
    · intro hstopped
      exact follow_stopped env hstopped (m :: later)
    · intro hstop
      have hstopped : t'.monitor.sniffing = false := by
        rw [move_sniffing, decide_eq_true hstop, Bool.not_true, Bool.and_false]
      refine ⟨(follow_stopped env hstopped later).2, ?_⟩
      -- The move with the stop in it was entered before the stop, so it may itself still sniff.
      cases hsniffed : t.sniffedIn m with
      | none => exact .inl (move_unsniffed env hsniffed)
      | some bs =>
        obtain ⟨c, rfl, hread, hmoved⟩ := sniffedIn_eq_some hsniffed
        exact .inr ⟨c, bs, rfl, hread, hmoved, move_sniffed env hsniffed⟩
    · intro hshrinks
      have hstopped := stopped_of_shrinks env hshrinks
      have hstill : t'.monitor.sniffing = false := by
        rw [move_sniffing, hstopped, Bool.false_and]
      exact (follow_stopped env hstill later).2

/-- A stream during whose second read another thread stops the sniffing. -/
def stoppedWhileRead : Script :=
  { reads := [{ act := .data [97, 98] }, { stop := some .sniffing, act := .data [99, 100] },
      { act := .data [101] }] }

/-- The second read is the last one that sniffs. The next two empty the queue, and what the fifth
delivers is not queued behind them; the stop made at the end is not reported any more. -/
theorem sniffing_stops_once_whileRead :
    let read := Call.read 2
    let ops := [.call read, .call read, .call read, .call read, .call read, .stop .sniffing]
    let t₀ := Tap.wrap stoppedWhileRead .zero {}
    let moves := t₀.course .ticking ops
    let t := t₀.follow .ticking (moves.take 1)
    let t' := t.move .ticking (.call read)
    let t'' := t'.follow .ticking (moves.drop 2)
    t.monitor.sniffing = true ∧ Stop.sniffing ∈ t.stopsIn (.call read) ∧
      t'.replay.waiting = [97, 98, 99, 100] ∧ Unsniffed t' t'' ∧
      t''.monitor.recorder.sniffCount = 2 ∧ Stop.sniffing ∈ t₀.stopsAlong .ticking moves ∧
      (t₀.follow .ticking moves).stopReports = 1 := by
  intro read ops t₀ moves t t' t''
  obtain ⟨-, hflag, hmoves⟩ := sniffing_stops_once .ticking stoppedWhileRead .zero {} ops
  have hsniffing : t.monitor.sniffing = true := by decide +kernel
  have hstop : Stop.sniffing ∈ t.stopsIn (.call read) := by decide +kernel
  have hcount : t'.monitor.recorder.sniffCount = 2 := by decide +kernel
  have hmade : Stop.sniffing ∈ t₀.stopsAlong .ticking moves := by decide +kernel
  have hwaiting : t'.replay.waiting = [97, 98, 99, 100] := by decide +kernel
  have hlate : Unsniffed t' t'' :=
    ((hmoves (moves.take 1) (.call read) (moves.drop 2) ⟨[], rfl⟩).2.1 hstop).1
  have hreports : (t₀.follow .ticking moves).stopReports = if _ then 1 else 0 :=
    (hflag moves List.prefix_rfl).2
  rw [if_pos hmade] at hreports
  exact ⟨hsniffing, hstop, hwaiting, hlate, hlate.count.trans hcount, hmade, hreports⟩

end Runs

end Tap

end PeekRelay
