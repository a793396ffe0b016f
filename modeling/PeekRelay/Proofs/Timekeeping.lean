import PeekRelay.Proofs.Course
import PeekRelay.Tap.Whole
/-!
# The timeline brackets every call

Every call that moves bytes sets its start when it is made and its end when it is over; one that is
left pending has no end. So the timeline of a tap is what can be read off the history of these
calls: the first start, the last start and the last end of either direction.
-/
namespace PeekRelay

deriving instance DecidableEq for Move

def Upshot.isOver : Upshot → Bool
  | moved _ | failed _ => true
  | pending | panicked => false

/-- A call that moves bytes, from the look at the clock when it was made to the look when it was
over. -/
structure Stint where
  direction : Direction
  start : Instant
  finish : Option Instant
  deriving DecidableEq

structure Timeline.Side where
  first : Option Instant
  lastStart : Option Instant
  lastEnd : Option Instant
  deriving DecidableEq

namespace Timeline

def side (t : Timeline) : Direction → Side
  | .read => ⟨t.firstReadAt, t.lastReadStart, t.lastReadEnd⟩
  | .write => ⟨t.firstWriteAt, t.lastWriteStart, t.lastWriteEnd⟩

namespace Side

/-- The times of a direction in which these stints were made, one after the other. -/
def ofStints (stints : List Stint) : Side where
  first := stints.head?.map Stint.start
  lastStart := stints.getLast?.map Stint.start
  lastEnd := (stints.filterMap Stint.finish).getLast?

def extend (s : Side) (stint : Stint) : Side where
  first := s.first.or (some stint.start)
  lastStart := some stint.start
  lastEnd := stint.finish.or s.lastEnd

private theorem ofStints_concat (stints : List Stint) (stint : Stint) :
    ofStints (stints ++ [stint]) = (ofStints stints).extend stint := by
  have hfirst : (stints ++ [stint]).head?.map Stint.start =
      (stints.head?.map Stint.start).or (some stint.start) := by
    cases stints <;> rfl
  have hend : ((stints ++ [stint]).filterMap Stint.finish).getLast? =
      stint.finish.or (stints.filterMap Stint.finish).getLast? := by
    rw [List.filterMap_append, List.getLast?_append]
    cases h : stint.finish <;> simp [h]
  simp only [ofStints, extend, hfirst, hend, List.getLast?_concat, Option.map_some]

end Side

section Sides

variable (t : Timeline) (direction : Direction) (start finish : Instant)

theorem side_started : (t.started direction start).side direction =
    (t.side direction).extend ⟨direction, start, none⟩ := by
  cases direction with
  | read => cases h : t.firstReadAt <;> simp [started, side, Side.extend, h]
  | write => cases h : t.firstWriteAt <;> simp [started, side, Side.extend, h]

theorem side_finished : ((t.started direction start).finished direction finish).side direction =
    (t.side direction).extend ⟨direction, start, some finish⟩ := by
  cases direction with
  | read => cases h : t.firstReadAt <;> simp [started, finished, side, Side.extend, h]
  | write => cases h : t.firstWriteAt <;> simp [started, finished, side, Side.extend, h]

variable {direction} {other : Direction}

theorem side_started_of_ne (h : other ≠ direction) :
    (t.started direction start).side other = t.side other := by
  cases direction <;> cases other <;> first | rfl | exact absurd rfl h

theorem side_finished_of_ne (h : other ≠ direction) :
    (t.finished direction finish).side other = t.side other := by
  cases direction <;> cases other <;> first | rfl | exact absurd rfl h

end Sides

end Timeline

/-- All that looks at the clock change in a recorder, apart from a trace of failure. -/
def Recorder.clock (r : Recorder) : Timeline × Nat := (r.timeline, r.looks)

@[simp] private theorem Recorder.keep_clock (r : Recorder) (direction : Direction) (bs : Bytes) :
    (r.keep direction bs).clock = r.clock := by
  unfold keep
  split <;> rfl

namespace Tap

variable {σ : Type} (env : Surroundings)

def clock (t : Tap σ) : Timeline × Nat := t.monitor.recorder.clock

section Parts

variable (t : Tap σ) {c : Call} {direction : Direction}

private theorem clock_settle {α : Type} (reply : Reply σ α) : (t.settle reply).clock = t.clock := by
  unfold clock
  rw [settle_recorder]
  rfl

@[simp] private theorem clock_shed : t.shed.clock = t.clock := by
  unfold shed
  split <;> rfl

private theorem clock_finished (direction : Direction) :
    (t.recording fun r => r.finished env direction).clock =
      (t.clock.1.finished direction (env.now t.clock.2), t.clock.2 + 1) := rfl

@[simp] private theorem clock_recordMoved (sniffing : Bool) (bs : Bytes) (direction : Direction) :
    (t.recordMoved sniffing bs direction).clock = t.clock := by
  have hkept := t.monitor.recorder.keep_clock direction bs
  cases direction <;> cases sniffing <;> exact hkept

private theorem clock_entered (h : c.direction? = some direction) : (t.entered env c).clock =
    (t.clock.1.started direction (env.now t.clock.2), t.clock.2 + 1) := by
  rw [entered, h]
  rfl

private theorem clock_entered_of_none (h : c.direction? = none) :
    (t.entered env c).clock = t.clock := by
  rw [entered, h]

private theorem clock_concluded_of_none (sniffing : Bool) (u : Upshot) (h : c.direction? = none) :
    (t.concluded env c sniffing u).clock = t.clock := by
  unfold concluded
  rw [h]

private theorem clock_concluded_waiting (sniffing : Bool) {u : Upshot} (hover : u.isOver = false) :
    (t.concluded env c sniffing u).clock = t.clock := by
  unfold concluded
  cases u with
  | moved bs | failed e => cases hover
  | pending | panicked => cases c.direction? <;> rfl

private theorem clock_concluded (sniffing : Bool) {u : Upshot} (h : c.direction? = some direction)
    (hover : u.isOver = true) : ∃ n, t.clock.2 ≤ n ∧ (t.concluded env c sniffing u).clock =
      (t.clock.1.finished direction (env.now n), n + 1) := by
  unfold concluded
  rw [h]
  cases u with
  | moved bs =>
    refine ⟨t.clock.2, Nat.le_refl _, ?_⟩
    refine (clock_finished env (t.recordMoved sniffing bs direction) direction).trans ?_
    rw [clock_recordMoved]
  | failed e =>
    cases direction with
    | read => exact ⟨t.clock.2 + 1, Nat.le_succ _, rfl⟩
    | write => exact ⟨t.clock.2, Nat.le_refl _, rfl⟩
  | pending | panicked => cases hover

end Parts

variable [ByteStream σ]

section Call

variable (t : Tap σ) {c : Call} {direction : Direction}

private theorem clock_call_over (h : c.direction? = some direction)
    (hover : (c.outcome (c.onTap env t).1).isOver = true) : ∃ n, t.clock.2 < n ∧
      (c.onTap env t).2.clock = ((t.clock.1.started direction (env.now t.clock.2)).finished
        direction (env.now n), n + 1) := by
  cases hreplayed : c.isReplayed t with
  | true =>
    have hread : c.direction? = some .read := by
      have hisRead := Call.isRead_of_isReplayed hreplayed
      rwa [Call.isRead_eq, decide_eq_true_iff] at hisRead
    cases h.symm.trans hread
    refine ⟨t.clock.2 + 1, Nat.lt_succ_self _, ?_⟩
    have hshed := clock_shed { t.entered env c with replay := t.replay.advance c.room }
    have hentered : Tap.clock { t.entered env c with replay := t.replay.advance c.room } = _ :=
      t.clock_entered env h
    rw [hentered] at hshed
    rw [c.onTap_eq_replay env t hreplayed]
    refine (clock_finished env _ .read).trans ?_
    rw [hshed]
  | false =>
    rw [c.onTap_eq_forward env t hreplayed] at hover ⊢
    rw [Call.outcome_respond] at hover
    obtain ⟨n, hlooks, hclock⟩ := clock_concluded env
      ((t.entered env c).settle (c.ask t.inner)) t.monitor.sniffing h hover
    rw [clock_settle, t.clock_entered env h] at hlooks hclock
    exact ⟨n, hlooks, hclock⟩

private theorem clock_call_waiting (h : c.direction? = some direction)
    (hover : (c.outcome (c.onTap env t).1).isOver = false) : (c.onTap env t).2.clock =
      (t.clock.1.started direction (env.now t.clock.2), t.clock.2 + 1) := by
  cases hreplayed : c.isReplayed t with
  | true =>
    rw [c.outcome_replayed env t hreplayed] at hover
    cases hover
  | false =>
    rw [c.onTap_eq_forward env t hreplayed] at hover ⊢
    rw [Call.outcome_respond] at hover
    rw [clock_concluded_waiting env _ _ hover, clock_settle, t.clock_entered env h]

private theorem clock_call_of_none (h : c.direction? = none) :
    (c.onTap env t).2.clock = t.clock := by
  have hread : c.isRead = false := by rw [Call.isRead_eq, h]; rfl
  have hforwarded : c.isReplayed t = false := by rw [Call.isReplayed, hread, Bool.false_and]
  rw [c.onTap_eq_forward env t hforwarded, clock_concluded_of_none env _ _ _ h, clock_settle,
    t.clock_entered_of_none env h]

end Call

def side (t : Tap σ) (direction : Direction) : Timeline.Side :=
  t.monitor.recorder.timeline.side direction

/-- The stint of a call that moves bytes. Its end is the last look at the clock that it took. -/
def stint (t : Tap σ) (c : Call) (direction : Direction) : Stint where
  direction := direction
  start := env.now t.monitor.recorder.looks
  finish := if (c.outcome (c.onTap env t).1).isOver then
      some (env.now ((c.onTap env t).2.monitor.recorder.looks - 1))
    else none

def stintsIn (t : Tap σ) : Move → List Stint
  | .call c => (c.direction?.map (t.stint env c)).toList
  | .stop _ => []

def stints (t : Tap σ) (moves : List Move) (direction : Direction) : List Stint :=
  (t.along env (stintsIn env) moves).filter fun stint => stint.direction = direction

private theorem stints_append (t : Tap σ) (past later : List Move) (direction : Direction) :
    t.stints env (past ++ later) direction =
      t.stints env past direction ++ (t.follow env past).stints env later direction := by
  rw [stints, along_append, List.filter_append]
  rfl

section Move

variable (t : Tap σ) {c : Call} {direction : Direction}

private theorem side_call (h : c.direction? = some direction) :
    (c.onTap env t).2.side direction = (t.side direction).extend (t.stint env c direction) := by
  cases hover : (c.outcome (c.onTap env t).1).isOver with
  | true =>
    obtain ⟨n, -, hclock⟩ := t.clock_call_over env h hover
    have htimeline : (c.onTap env t).2.monitor.recorder.timeline = _ := congrArg Prod.fst hclock
    have hlooks : (c.onTap env t).2.monitor.recorder.looks = n + 1 := congrArg Prod.snd hclock
    rw [side, htimeline, Timeline.side_finished, stint, hover, hlooks]
    rfl
  | false =>
    have htimeline : (c.onTap env t).2.monitor.recorder.timeline = _ :=
      congrArg Prod.fst (t.clock_call_waiting env h hover)
    rw [side, htimeline, Timeline.side_started, stint, hover]
    rfl

private theorem side_call_of_ne {other : Direction} (h : c.direction? = some direction)
    (hother : other ≠ direction) : (c.onTap env t).2.side other = t.side other := by
  cases hover : (c.outcome (c.onTap env t).1).isOver with
  | true =>
    obtain ⟨n, -, hclock⟩ := t.clock_call_over env h hover
    have htimeline : (c.onTap env t).2.monitor.recorder.timeline = _ := congrArg Prod.fst hclock
    rw [side, htimeline, Timeline.side_finished_of_ne _ _ hother,
      Timeline.side_started_of_ne _ _ hother]
    rfl
  | false =>
    have htimeline : (c.onTap env t).2.monitor.recorder.timeline = _ :=
      congrArg Prod.fst (t.clock_call_waiting env h hover)
    rw [side, htimeline, Timeline.side_started_of_ne _ _ hother]
    rfl

private theorem timeline_move_of_idle {m : Move} (h : ∀ c, m = .call c → c.direction? = none) :
    (t.move env m).monitor.recorder.timeline = t.monitor.recorder.timeline := by
  cases m with
  | call c => exact congrArg Prod.fst (t.clock_call_of_none env (h c rfl))
  | stop stop =>
    change (t.monitor.heed stop).recorder.timeline = _
    rw [Monitor.heed_recorder]
    rfl

private theorem side_move (m : Move) {stints : List Stint}
    (h : t.side direction = .ofStints stints) : (t.move env m).side direction =
      .ofStints (stints ++ t.stints env [m] direction) := by
  have hnew : t.stints env [m] direction =
      (t.stintsIn env m).filter fun stint => stint.direction = direction := by
    rw [Tap.stints, along, along, List.append_nil]
  rw [hnew]
  cases m with
  | call c =>
    change (c.onTap env t).2.side direction = _
    cases hdirection : c.direction? with
    | none =>
      have hidle : (c.onTap env t).2.side direction = t.side direction :=
        congrArg (Timeline.side · direction)
          (t.timeline_move_of_idle env (m := .call c) fun _ hc => by cases hc; exact hdirection)
      rw [hidle, h, stintsIn, hdirection]
      exact (congrArg Timeline.Side.ofStints (List.append_nil stints)).symm
    | some own =>
      by_cases hown : direction = own
      · subst hown
        rw [t.side_call env hdirection, h, ← Timeline.Side.ofStints_concat]
        simp [stintsIn, hdirection, stint]
      · have hnone : ¬own = direction := fun heq => hown heq.symm
        rw [t.side_call_of_ne env hdirection hown, h]
        simp [stintsIn, hdirection, stint, hnone]
  | stop stop =>
    have hidle := t.timeline_move_of_idle env (m := .stop stop) fun _ hc => by cases hc
    have hside : (t.move env (.stop stop)).side direction = t.side direction :=
      congrArg (Timeline.side · direction) hidle
    rw [hside, h]
    exact (congrArg Timeline.Side.ofStints (List.append_nil stints)).symm

private theorem start_le_finish (hclock : ∀ m n, m ≤ n → env.now m ≤ env.now n)
    (h : c.direction? = some direction) (hover : (c.outcome (c.onTap env t).1).isOver = true) :
    ∃ finish, (t.stint env c direction).finish = some finish ∧
      (t.stint env c direction).start ≤ finish := by
  obtain ⟨n, hlater, hlooks⟩ := t.clock_call_over env h hover
  have hlast : (c.onTap env t).2.monitor.recorder.looks - 1 = n := by
    have hnext : (c.onTap env t).2.monitor.recorder.looks = n + 1 := congrArg Prod.snd hlooks
    omega
  refine ⟨env.now n, ?_, hclock _ _ (Nat.le_of_lt hlater)⟩
  rw [stint, hover, hlast]
  rfl

end Move

section Runs

variable (s : σ) (id : Uuid) (settings : SniffSettings)

private theorem side_follow (moves : List Move) (direction : Direction) :
    ((wrap s id settings).follow env moves).side direction =
      .ofStints ((wrap s id settings).stints env moves direction) := by
  refine (wrap s id settings).follow_induction env
    (P := fun past t => t.side direction =
      .ofStints ((wrap s id settings).stints env past direction)) ?_ ?_ moves
  · cases direction <;> rfl
  · intro past m h
    rw [stints_append]
    exact side_move env _ m h

/-- In every state of every run, the timeline holds for either direction the start of the first
call, the start of the last call, and the end of the last call that was over. The first start, once
set, stays; a call sets its own start in place of any earlier one, also of one that never ended; and
if the clock does not go back, a call that is over ends no earlier than it started. No call touches
the other direction, and what moves no bytes touches neither. -/
theorem timeline_brackets (hclock : ∀ m n, m ≤ n → env.now m ≤ env.now n) (ops : List Op) :
    let t₀ := wrap s id settings
    let moves := t₀.course env ops
    t₀.follow env moves = t₀.after env ops ∧
      (∀ past, past <+: moves → ∀ direction,
        let side := (t₀.follow env past).side direction
        let stints := t₀.stints env past direction
        side.first = stints.head?.map Stint.start ∧
          side.lastStart = stints.getLast?.map Stint.start ∧
          side.lastEnd = (stints.filterMap Stint.finish).getLast?) ∧
      (∀ past later, past ++ later <+: moves → ∀ direction first,
        ((t₀.follow env past).side direction).first = some first →
          ((t₀.follow env (past ++ later)).side direction).first = some first) ∧
      ∀ past m, past ++ [m] <+: moves →
        let t := t₀.follow env past
        let t' := t.move env m
        (∀ c direction, m = .call c → c.direction? = some direction →
          (t'.side direction).lastStart = some (env.now t.monitor.recorder.looks) ∧
            ((c.outcome (c.onTap env t).1).isOver = true → ∃ start finish,
              (t'.side direction).lastStart = some start ∧
                (t'.side direction).lastEnd = some finish ∧ start ≤ finish) ∧
            ∀ other, other ≠ direction → t'.side other = t.side other) ∧
          ((∀ c, m = .call c → c.direction? = none) →
            t'.monitor.recorder.timeline = t.monitor.recorder.timeline) := by
  intro t₀ moves
  have hside := side_follow env s id settings
  refine ⟨(t₀.after_eq_follow env ops).symm, ?_, ?_, ?_⟩
  · intro past _ direction side stints
    have hofStints : side = .ofStints stints := hside past direction
    rw [hofStints]
    exact ⟨rfl, rfl, rfl⟩
  · intro past later _ direction first hfirst
    rw [hside, Timeline.Side.ofStints] at hfirst ⊢
    obtain ⟨stint, hhead, rfl⟩ := Option.map_eq_some_iff.mp hfirst
    rw [stints_append, List.head?_append, hhead]
    rfl
  · intro past m _ t t'
    refine ⟨?_, t.timeline_move_of_idle env⟩
    rintro c direction rfl hdirection
    have hcall : t'.side direction = _ := t.side_call env hdirection
    refine ⟨?_, ?_, ?_⟩
    · rw [hcall]
      rfl
    · intro hover
      obtain ⟨finish, hfinish, hle⟩ := t.start_le_finish env hclock hdirection hover
      refine ⟨_, finish, congrArg Timeline.Side.lastStart hcall, ?_, hle⟩
      rw [hcall, Timeline.Side.extend, hfinish]
      rfl
    · intro other hother
      exact t.side_call_of_ne env hdirection hother

/-- A clock that moves on by one second at each look and stands still at the last second that there
is. -/
def steady : Surroundings :=
  { Surroundings.ticking with
    now n := ⟨(min n 8210266876799 : Nat), 0, by omega, .inl (by decide)⟩ }

private theorem steady_mono (m n : Nat) (h : m ≤ n) : steady.now m ≤ steady.now n := by
  change Instant.rank _ ≤ Instant.rank _
  simp only [steady, Instant.rank]
  omega

def waitsThenFails : Script :=
  { reads := [{ act := .pending }, { act := .fail (.bare .connectionReset) }] }

/-- A sniff is dropped while it waits, and a write is made. The read that follows sets its own start
in place of that of the sniff; it fails, and ends two looks later, behind the look for its trace. -/
theorem timeline_brackets_dropped :
    let ops := [.sniff 4 [], .call (.write [97]), .call (.read 4)]
    let t₀ := wrap waitsThenFails .zero {}
    let moves := t₀.course steady ops
    let t := t₀.follow steady (moves.take 2)
    let t' := t.move steady (.call (.read 4))
    t.side .read = ⟨some (steady.now 0), some (steady.now 0), none⟩ ∧
      t'.side .read = ⟨some (steady.now 0), some (steady.now 3), some (steady.now 5)⟩ ∧
      t'.side .write = ⟨some (steady.now 1), some (steady.now 1), some (steady.now 2)⟩ ∧
      steady.now 3 ≤ steady.now 5 := by
  intro ops t₀ moves t t'
  obtain ⟨-, hstates, -, hmoves⟩ :=
    timeline_brackets steady waitsThenFails .zero {} steady_mono ops
  have hmade : moves = [.call (.pollRead { room := 4 }), .call (.write [97]), .call (.read 4)] := by
    decide +kernel
  have hlast : moves.take 2 ++ [.call (.read 4)] <+: moves := by
    rw [hmade]
    exact List.prefix_rfl
  obtain ⟨hown, -⟩ := hmoves (moves.take 2) (.call (.read 4)) hlast
  obtain ⟨hstart, hbracket, hother⟩ := hown (.read 4) .read rfl rfl
  obtain ⟨start, finish, hstart', hfinish, hle⟩ := hbracket (by decide +kernel)
  have hread : t.side .read = ⟨some (steady.now 0), some (steady.now 0), none⟩ := by
    decide +kernel
  have hread' : t'.side .read =
      ⟨some (steady.now 0), some (steady.now 3), some (steady.now 5)⟩ := by decide +kernel
  have hwrite : t.side .write =
      ⟨some (steady.now 1), some (steady.now 1), some (steady.now 2)⟩ := by decide +kernel
  have hstart'' : (t'.side .read).lastStart = some start := hstart'
  have hfinish' : (t'.side .read).lastEnd = some finish := hfinish
  rw [hread'] at hstart'' hfinish'
  cases hstart''
  cases hfinish'
  exact ⟨hread, hread', (hother .write nofun).trans hwrite, hle⟩

end Runs

end Tap

end PeekRelay
