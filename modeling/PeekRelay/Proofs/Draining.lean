import PeekRelay.Proofs.Stopping
/-!
# The queue is given back when it is empty

Nothing is handed out of the queue while a tap sniffs, and nothing is queued after a byte was handed
out. So the queue runs empty once at most, and the read that hands out its last byte gives it back.
-/
namespace PeekRelay

namespace ReplayQueue

/-- A queue without waste: it is new, or bytes wait in it. -/
def Trim (q : ReplayQueue) : Prop := q = {} ∨ q.hasRemaining = true

section Trim

variable {q : ReplayQueue}

private theorem hasRemaining_eq_true_iff (q : ReplayQueue) :
    q.hasRemaining = true ↔ 0 < q.remaining := by
  rw [hasRemaining, decide_eq_true_iff, remaining]
  omega

private theorem Trim.inBounds (h : q.Trim) : q.InBounds := by
  rcases h with rfl | hwaits
  · exact inBounds_empty
  · rw [hasRemaining_eq_true_iff, remaining] at hwaits
    unfold InBounds
    omega

private theorem Trim.isAllocated_iff (h : q.Trim) : q.isAllocated = true ↔ 0 < q.remaining := by
  rcases h with rfl | hwaits
  · decide
  · rw [← hasRemaining_eq_true_iff]
    have hstored : q.stored ≠ [] := by
      intro hnone
      rw [hasRemaining_eq_true_iff, remaining, hnone] at hwaits
      exact absurd hwaits (by simp)
    simp [isAllocated, hwaits, hstored]

private theorem Trim.append (h : q.Trim) (bs : Bytes) : (q.append bs).Trim := by
  rcases h with rfl | hwaits
  · cases bs with
    | nil => exact .inl rfl
    | cons b bs => exact .inr rfl
  · right
    rw [hasRemaining_eq_true_iff] at hwaits ⊢
    exact Nat.lt_of_lt_of_le hwaits (q.remaining_le_append bs)

private theorem trim_ite_released (q : ReplayQueue) : (if q.hasRemaining then q else {}).Trim := by
  split
  · next hwaits => exact .inr hwaits
  · exact .inl rfl

private theorem release?_eq (h : q.hasRemaining = false) : q.release? = some {} := dif_pos h

end Trim

end ReplayQueue

def Event.isReplay : Event → Bool
  | replayStalled _ | replayDrained => true
  | _ => false

namespace Tap

variable {σ : Type}

def replayReports (t : Tap σ) : List Event := t.monitor.log.filter Event.isReplay

section Reports

private theorem filter_isReplay_notices (m : Monitor) (stops : List Stop) :
    (m.notices stops).filter Event.isReplay = [] :=
  List.filter_eq_nil_iff.mpr
    (m.forall_notices (fun _ => Bool.false_ne_true) (fun _ _ => Bool.false_ne_true) stops)

private theorem filter_isReplay_reports (t : Tap σ) (c : Call) (sniffing : Bool) (u : Upshot) :
    (t.reports c sniffing u).filter Event.isReplay = [] :=
  List.filter_eq_nil_iff.mpr
    (t.forall_reports c sniffing u (fun _ _ _ => Bool.false_ne_true) (fun _ => Bool.false_ne_true))

end Reports

variable [ByteStream σ] (env : Surroundings)

/-- A move empties the queue: bytes waited before it, and none does after it. -/
def Empties (t : Tap σ) (m : Move) : Prop := 0 < t.replayPending ∧ (t.move env m).replayPending = 0

instance (t : Tap σ) (m : Move) : Decidable (t.Empties env m) :=
  inferInstanceAs (Decidable (_ ∧ _))

section Call

variable {t : Tap σ} {c : Call}

private theorem replay_replayed (h : c.isReplayed t = true) : (t.move env (.call c)).replay =
    if (t.replay.advance c.room).hasRemaining then t.replay.advance c.room else {} := by
  change (c.onTap env t).2.replay = _
  rw [c.onTap_eq_replay env t h, recording_replay, shed_replay]

private theorem pending_replayed (h : c.isReplayed t = true) :
    (t.move env (.call c)).replayPending = (t.replay.advance c.room).remaining := by
  rw [replayPending, replay_replayed env h, ← ReplayQueue.length_waiting,
    ReplayQueue.waiting_ite_released, ReplayQueue.length_waiting]

omit [ByteStream σ] in
private theorem pending_of_isReplayed (h : c.isReplayed t = true) : 0 < t.replayPending := by
  have hwaits : t.replay.waiting ≠ [] := Call.waiting_of_isReplayed h
  rw [replayPending, ← ReplayQueue.length_waiting]
  exact List.length_pos_iff.mpr hwaits

private theorem empties_replayed (h : c.isReplayed t = true) :
    t.Empties env (.call c) ↔ (t.replay.advance c.room).hasRemaining = false := by
  have hwaits := pending_of_isReplayed h
  have hremaining := (t.replay.advance c.room).hasRemaining_eq_true_iff
  rw [Empties, pending_replayed env h, ← Bool.not_eq_true, hremaining]
  omega

private theorem handed_of_empties (h : c.isReplayed t = true) (hempties : t.Empties env (.call c)) :
    c.handed (c.onTap env t).1 = t.replay.waiting := by
  obtain ⟨hhanded, -, hwaiting, -, -⟩ := c.onTap_replayed env t h
  have hnone : (c.onTap env t).2.replay.waiting = [] := by
    rw [← List.length_eq_zero_iff, ReplayQueue.length_waiting]
    exact hempties.2
  rw [hhanded]
  exact List.take_of_length_le (List.drop_eq_nil_iff.mp (hwaiting.symm.trans hnone))

end Call

section Move

variable {t : Tap σ} {m : Move}

private theorem not_empties_of_not_replayed (h : ∀ c, m = .call c → c.isReplayed t = false) :
    ¬t.Empties env m := by
  rintro ⟨hwaits, hnone⟩
  cases m with
  | call c =>
    have hforwarded := h c rfl
    have hgrows := t.replay.remaining_le_append ((t.sniffedIn (.call c)).getD [])
    rw [replayPending, t.replay_forwarded env c hforwarded] at hnone
    rw [replayPending] at hwaits
    omega
  | stop stop => exact absurd hnone (Nat.ne_of_gt hwaits)

private theorem isReplayed_of_empties (h : t.Empties env m) :
    ∃ c, m = .call c ∧ c.isReplayed t = true := by
  by_contra hnone
  apply not_empties_of_not_replayed env _ h
  intro c hc
  cases hreplayed : c.isReplayed t with
  | false => rfl
  | true => exact absurd ⟨c, hc, hreplayed⟩ hnone

private theorem move_replayReports (t : Tap σ) (m : Move) : (t.move env m).replayReports =
    t.replayReports ++ if t.Empties env m then [.replayDrained] else [] := by
  rw [replayReports, replayReports]
  cases m with
  | call c =>
    cases hreplayed : c.isReplayed t with
    | true =>
      have hempties := empties_replayed env hreplayed
      rw [t.log_replayed_eq env c hreplayed, List.filter_append]
      cases hwaits : (t.replay.advance c.room).hasRemaining <;>
        simp [hempties, hwaits, Event.isReplay]
    | false =>
      have hkept : ¬t.Empties env (.call c) := by
        apply not_empties_of_not_replayed
        rintro _ ⟨⟩
        exact hreplayed
      rw [t.log_forwarded env c hreplayed, List.filter_append, List.filter_append,
        filter_isReplay_notices, filter_isReplay_reports, if_neg hkept]
      rfl
  | stop stop =>
    have hkept : ¬t.Empties env (.stop stop) := not_empties_of_not_replayed env nofun
    have hlog : (t.move env (.stop stop)).monitor.log = _ := t.log_heed stop
    rw [hlog, List.filter_append, filter_isReplay_notices, if_neg hkept]

end Move

/-- What holds of the queue of a tap in every state. It is handed out only after the sniffing, and
it is reported at most once to be empty, after which it stays so. -/
structure Drains (t : Tap σ) : Prop where
  trim : t.replay.Trim
  unread : 0 < t.replay.cursor → t.monitor.sniffing = false
  reports : t.replayReports = [] ∨
    t.replayReports = [.replayDrained] ∧ t.monitor.sniffing = false ∧ t.replayPending = 0

namespace Drains

variable {t : Tap σ}

omit [ByteStream σ] in
private theorem wrap (s : σ) (id : Uuid) (settings : SniffSettings) :
    Drains (wrap s id settings) where
  trim := .inl rfl
  unread h := absurd h (Nat.lt_irrefl 0)
  reports := .inl rfl

private theorem trim_move (h : t.Drains) (m : Move) : (t.move env m).replay.Trim := by
  cases m with
  | call c =>
    cases hreplayed : c.isReplayed t with
    | true =>
      rw [replay_replayed env hreplayed]
      exact ReplayQueue.trim_ite_released _
    | false =>
      rw [t.replay_forwarded env c hreplayed]
      exact h.trim.append _
  | stop stop => exact h.trim

private theorem unread_move (h : t.Drains) (m : Move) (hread : 0 < (t.move env m).replay.cursor) :
    (t.move env m).monitor.sniffing = false := by
  have hstopped : t.monitor.sniffing = false := by
    cases m with
    | call c =>
      cases hreplayed : c.isReplayed t with
      | true => exact Call.sniffing_of_isReplayed hreplayed
      | false =>
        rw [t.replay_forwarded env c hreplayed] at hread
        exact h.unread hread
    | stop stop => exact h.unread hread
  rw [move_sniffing, hstopped, Bool.false_and]

private theorem reports_move (h : t.Drains) (m : Move) :
    (t.move env m).replayReports = [] ∨ (t.move env m).replayReports = [.replayDrained] ∧
      (t.move env m).monitor.sniffing = false ∧ (t.move env m).replayPending = 0 := by
  rw [move_replayReports]
  by_cases hempties : t.Empties env m
  · rw [if_pos hempties]
    rcases h.reports with hnone | ⟨-, -, hnothing⟩
    · obtain ⟨c, rfl, hreplayed⟩ := isReplayed_of_empties env hempties
      have hstopped : t.monitor.sniffing = false := Call.sniffing_of_isReplayed hreplayed
      refine .inr ⟨by rw [hnone]; rfl, ?_, hempties.2⟩
      rw [move_sniffing, hstopped, Bool.false_and]
    · exact absurd hnothing (Nat.ne_of_gt hempties.1)
  · rw [if_neg hempties, List.append_nil]
    refine h.reports.imp_right ?_
    rintro ⟨honce, hstopped, hnothing⟩
    refine ⟨honce, ?_, ?_⟩
    · rw [move_sniffing, hstopped, Bool.false_and]
    · -- Nothing is sniffed any more, so nothing can have been queued.
      rcases (move_unsniffed env (t.sniffedIn_of_stopped hstopped m)).queue
        with ⟨hstored, hcursor⟩ | hstored
      · rw [replayPending, ReplayQueue.remaining] at hnothing ⊢
        rw [hstored]
        omega
      · rw [replayPending, ReplayQueue.remaining, hstored]
        exact Nat.zero_sub _

private theorem move (h : t.Drains) (m : Move) : (t.move env m).Drains :=
  ⟨h.trim_move env m, h.unread_move env m, h.reports_move env m⟩

end Drains

section Reports

variable (t : Tap σ)

omit [ByteStream σ] in
private theorem count_replayDrained :
    t.monitor.log.count .replayDrained = t.replayReports.count .replayDrained :=
  (List.count_filter rfl).symm

omit [ByteStream σ] in
private theorem Drains.unstalled {t : Tap σ} (h : t.Drains) (waiting : Nat) :
    .replayStalled waiting ∉ t.monitor.log := by
  intro hstalled
  have hreport : .replayStalled waiting ∈ t.replayReports :=
    List.mem_filter.mpr ⟨hstalled, rfl⟩
  rcases h.reports with hnone | ⟨honce, -⟩
  · rw [hnone] at hreport
    cases hreport
  · rw [honce] at hreport
    cases List.mem_singleton.mp hreport

omit [ByteStream σ] in
private theorem Drains.count_le_one {t : Tap σ} (h : t.Drains) :
    t.monitor.log.count .replayDrained ≤ 1 := by
  rw [count_replayDrained]
  rcases h.reports with hnone | ⟨honce, -⟩
  · rw [hnone]
    exact Nat.zero_le 1
  · rw [honce]
    exact Nat.le_refl 1

end Reports

section Runs

/-- In every state of every run, the cursor of the queue stands inside the stored bytes, and in
front of them as long as the tap sniffs; storage is held exactly as long as bytes wait; no read was
reported as stalled, and the queue was reported to be empty at most once. This report comes with
the read that hands out the last bytes, and with no other move. A queue is only handed out of by
reads that are served from it, and given back when a release is not refused. -/
theorem replay_queue_drains (s : σ) (id : Uuid) (settings : SniffSettings) (ops : List Op) :
    let t₀ := Tap.wrap s id settings
    let moves := t₀.course env ops
    t₀.follow env moves = t₀.after env ops ∧
      (∀ past, past <+: moves →
        let t := t₀.follow env past
        t.replay.cursor ≤ t.replay.stored.length ∧
          (0 < t.replay.cursor → t.monitor.sniffing = false) ∧
          (t.replay.isAllocated = true ↔ 0 < t.replayPending) ∧
          (∀ waiting, .replayStalled waiting ∉ t.monitor.log) ∧
          t.monitor.log.count .replayDrained ≤ 1) ∧
      ∀ past m, past ++ [m] <+: moves →
        let t := t₀.follow env past
        let t' := t.move env m
        (t'.monitor.log.count .replayDrained = t.monitor.log.count .replayDrained +
            if 0 < t.replayPending ∧ t'.replayPending = 0 then 1 else 0) ∧
          (0 < t.replayPending → t'.replayPending = 0 → ∃ c, m = .call c ∧ c.isRead = true ∧
            c.handed (c.onTap env t).1 = t.intoParts.2) ∧
          ((∃ bs, t'.replay = t.replay.append bs) ∨ ∃ c, m = .call c ∧ c.isReplayed t = true ∧
            let left := t.replay.advance c.room
            if left.hasRemaining then t'.replay = left else left.release? = some t'.replay) := by
  intro t₀ moves
  have hdrains : ∀ past, (t₀.follow env past).Drains :=
    t₀.follow_induction env (P := fun _ t => t.Drains) (.wrap s id settings)
      fun _ m h => h.move env m
  refine ⟨(t₀.after_eq_follow env ops).symm, ?_, ?_⟩
  · intro past _ t
    have ht : t.Drains := hdrains past
    exact ⟨ht.trim.inBounds, ht.unread, ht.trim.isAllocated_iff, ht.unstalled, ht.count_le_one⟩
  · intro past m _ t t'
    refine ⟨?_, ?_, ?_⟩
    · have hreports : t'.replayReports = _ := t.move_replayReports env m
      rw [count_replayDrained, count_replayDrained, hreports, List.count_append]
      by_cases hempties : t.Empties env m
      · rw [if_pos hempties, if_pos ⟨hempties.1, hempties.2⟩]
        rfl
      · rw [if_neg hempties, if_neg fun h => hempties ⟨h.1, h.2⟩]
        rfl
    · intro hwaits hnone
      have hempties : t.Empties env m := ⟨hwaits, hnone⟩
      obtain ⟨c, rfl, hreplayed⟩ := isReplayed_of_empties env hempties
      refine ⟨c, rfl, Call.isRead_of_isReplayed hreplayed, ?_⟩
      rw [intoParts, ReplayQueue.intoRemaining_eq_waiting]
      exact handed_of_empties env hreplayed hempties
    · cases m with
      | call c =>
        cases hreplayed : c.isReplayed t with
        | true =>
          refine .inr ⟨c, rfl, hreplayed, ?_⟩
          have hleft : t'.replay = _ := replay_replayed env hreplayed
          cases hwaits : (t.replay.advance c.room).hasRemaining with
          | true => simpa [hwaits] using hleft
          | false => simpa [hwaits, ReplayQueue.release?_eq] using hleft.symm
        | false => exact .inl ⟨_, t.replay_forwarded env c hreplayed⟩
      | stop stop => exact .inl ⟨[], (t.replay.append_nil).symm⟩

/-- A stream during whose second read another thread stops the sniffing. -/
def stoppedInSecond : Script :=
  { reads := [{ act := .data [97, 98] }, { stop := some .sniffing, act := .data [99] },
      { act := .data [100] }] }

/-- What the second read delivers is queued after the stop. A read without room hands out nothing,
the next two hand out the bytes, the second of them with no room to spare, and give the queue back;
the last read finds it gone. -/
theorem replay_queue_drains_withoutRoom :
    let poll := fun room => Call.pollRead { room }
    let ops := [.call (.read 2), .call (poll 4), .call (.read 0), .call (poll 2), .call (.read 1),
      .call (poll 4)]
    let t₀ := Tap.wrap stoppedInSecond .zero {}
    let moves := t₀.course .ticking ops
    let t := t₀.follow .ticking (moves.take 4)
    let t' := t.move .ticking (.call (.read 1))
    let t'' := t₀.follow .ticking moves
    t.replay = { stored := [97, 98, 99], cursor := 2 } ∧ t.monitor.sniffing = false ∧
      t.monitor.log.count .replayDrained = 0 ∧ t'.replayPending = 0 ∧
      t'.replay.isAllocated = false ∧ t'.monitor.log.count .replayDrained = 1 ∧
      (Call.read 1).handed ((Call.read 1).onTap .ticking t).1 = [99] ∧
      t''.monitor.log.count .replayDrained ≤ 1 := by
  intro poll ops t₀ moves t t' t''
  obtain ⟨-, hstates, hmoves⟩ := replay_queue_drains .ticking stoppedInSecond .zero {} ops
  have hqueue : t.replay = { stored := [97, 98, 99], cursor := 2 } := by decide +kernel
  have hstopped : t.monitor.sniffing = false := by decide +kernel
  have hnone : t.monitor.log.count .replayDrained = 0 := by decide +kernel
  have hempty : t'.replayPending = 0 := by decide +kernel
  have hwaits : 0 < t.replayPending := by
    rw [replayPending, hqueue]
    decide
  have hmade : moves.take 4 ++ [.call (.read 1)] <+: moves := ⟨[.call (poll 4)], rfl⟩
  obtain ⟨hreport, hlast, -⟩ := hmoves (moves.take 4) (.call (.read 1)) hmade
  obtain ⟨-, -, hallocated, -⟩ := hstates _ hmade
  obtain ⟨-, -, -, -, honce⟩ := hstates moves List.prefix_rfl
  obtain ⟨c, hc, -, hhanded⟩ := hlast hwaits hempty
  cases hc
  have hfreed : t'.replay.isAllocated = false := by
    rw [follow_concat] at hallocated
    exact Bool.eq_false_iff.mpr fun h => Nat.ne_of_gt (hallocated.mp h) hempty
  have hreported : t'.monitor.log.count .replayDrained = t.monitor.log.count .replayDrained + _ :=
    hreport
  rw [hnone, if_pos ⟨hwaits, hempty⟩] at hreported
  have hparts : t.intoParts.2 = [99] := by
    rw [intoParts, hqueue]
    decide
  exact ⟨hqueue, hstopped, hnone, hempty, hfreed, hreported, hhanded.trans hparts, honce⟩

end Runs

end Tap

end PeekRelay
