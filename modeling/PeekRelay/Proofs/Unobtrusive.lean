import PeekRelay.Proofs.Parallel
import PeekRelay.Tap.Whole
/-!
# Diagnostics do not get in the way

Whether payload is copied or shown in the log, when the copying is stopped, and who asks for
diagnostics, makes no difference to the owner of a tap: every call answers the same, the stream goes
the same way, and so do the queue, the sniffing, the times and the trace of failure.
-/
namespace PeekRelay

/-- What is done to a tap: an operation of its owner, or an inquiry, which may be reported to the
log. -/
inductive Act where
  | perform (op : Op)
  | inquire (reported : Bool)

def Stop.ofSniffing (stops : List Stop) : List Stop := stops.filter fun stop => stop = .sniffing

namespace Act

/-- What is left of an act for an owner who does not care about diagnostics: neither inquiries nor
stops of the copying. -/
def work? : Act → Option Op
  | perform (.call c) => some (.call c)
  | perform (.stop .sniffing) => some (.stop .sniffing)
  | perform (.stop .copying) => none
  | perform (.sniff wanted pauses) => some (.sniff wanted (pauses.map Stop.ofSniffing))
  | inquire _ => none

end Act

/-- What the owner of a tap gets from an operation. -/
inductive Yield where
  | response (c : Call) (response : c.Response)
  | ending (ending : SniffEnd)

namespace Tap

variable {σ : Type} [ByteStream σ] (env : Surroundings)

/-- What an act yields, apart from what an inquiry tells. -/
def yield? (t : Tap σ) : Act → Option Yield
  | .perform (.call c) => some (.response c (c.onTap env t).1)
  | .perform (.sniff wanted pauses) =>
    some (.ending (Sniff.run (sniffSource env) wanted pauses t).1)
  | _ => none

def act (t : Tap σ) : Act → Tap σ
  | .perform op => t.perform env op
  | .inquire reported => if reported then { t with monitor := t.monitor.dump } else t

def enact (t : Tap σ) (acts : List Act) : Tap σ := acts.foldl (act env) t

def yields (t : Tap σ) : List Act → List Yield
  | [] => []
  | a :: acts => (t.yield? env a).toList ++ (t.act env a).yields acts

end Tap

/-- Two streams answer the same calls the same, whatever is asked of the copies meanwhile. -/
structure SameAnswers {σ σ' : Type} [ByteStream σ] [ByteStream σ'] (R : σ → σ' → Prop) : Prop where
  answer : ∀ {s s'} (c : Call), R s s' → (c.ask s).answer = (c.ask s').answer
  stops : ∀ {s s'} (c : Call), R s s' →
    (Stop.sniffing ∈ (c.ask s).stops ↔ Stop.sniffing ∈ (c.ask s').stops)
  next : ∀ {s s'} (c : Call), R s s' → R (c.ask s).next (c.ask s').next

def SameSniffing (stops stops' : List Stop) : Prop := Stop.sniffing ∈ stops ↔ Stop.sniffing ∈ stops'

/-- A recorder without its copies and its log. -/
def Recorder.vitals (r : Recorder) : Recorder :=
  { r with copying := false, copies := .released, log := [] }

/-- Two monitors agree on all but the copies, the log and what is shown in it. -/
structure Monitor.SameVitals (m m' : Monitor) : Prop where
  sniffing : m.sniffing = m'.sniffing
  vitals : m.recorder.vitals = m'.recorder.vitals

section Vitals

variable (r : Recorder)

private theorem Recorder.keep_vitals (direction : Direction) (bs : Bytes) :
    (r.keep direction bs).vitals = r.vitals := by
  unfold keep
  split <;> rfl

variable {m m' : Monitor}

private theorem Monitor.SameVitals.recording (h : m.SameVitals m') {f f' : Recorder → Recorder}
    (g : Recorder → Recorder) (hf : ∀ r, (f r).vitals = (g r.vitals).vitals)
    (hf' : ∀ r, (f' r).vitals = (g r.vitals).vitals) :
    (m.recording f).SameVitals (m'.recording f') := by
  refine ⟨h.sniffing, ?_⟩
  change (f m.recorder).vitals = (f' m'.recorder).vitals
  rw [hf, hf', h.vitals]

private theorem Monitor.SameVitals.heedAll (h : m.SameVitals m') {stops stops' : List Stop}
    (hstops : SameSniffing stops stops') :
    (m.heedAll stops).SameVitals (m'.heedAll stops') := by
  constructor
  case sniffing =>
    rw [heedAll_sniffing, heedAll_sniffing, h.sniffing, decide_eq_decide.mpr hstops]
  case vitals =>
    rw [heedAll_recorder, heedAll_recorder]
    exact h.vitals

private theorem sameVitals_pairs (env : Surroundings) :
    Monitor.Pairs env Eq SameSniffing Monitor.SameVitals where
  sniffing h := h.sniffing
  heedAll hstops h := h.heedAll hstops
  started direction h :=
    h.recording (fun r => r.started env direction) (fun _ => rfl) (fun _ => rfl)
  finished direction h :=
    h.recording (fun r => r.finished env direction) (fun _ => rfl) (fun _ => rfl)
  keep direction _ h :=
    h.recording id (fun r => r.keep_vitals direction _) (fun r => r.keep_vitals direction _)
  sniffed _ h := h.recording (fun r => r.nextSniff.2) (fun _ => rfl) (fun _ => rfl)
  failed e h := h.recording (fun r => r.recordFailure env e) (fun _ => rfl) (fun _ => rfl)
  drained h := ⟨h.sniffing, h.vitals⟩

end Vitals

section Idle

variable {σ : Type} [ByteStream σ] (env : Surroundings)

private theorem Monitor.sameVitals_dump (m : Monitor) : m.SameVitals m.dump := ⟨rfl, rfl⟩

private theorem Monitor.sameVitals_stopCopying (m : Monitor) : m.SameVitals m.stopCopying := by
  have hnone : SameSniffing [] [.copying] := by simp [SameSniffing]
  have hself : m.SameVitals m := ⟨rfl, rfl⟩
  exact hself.heedAll hnone

private theorem Monitor.SameVitals.trans {m m' m'' : Monitor} (h : m.SameVitals m')
    (h' : m'.SameVitals m'') : m.SameVitals m'' :=
  ⟨h.sniffing.trans h'.sniffing, h.vitals.trans h'.vitals⟩

private theorem Monitor.SameVitals.symm {m m' : Monitor} (h : m.SameVitals m') : m'.SameVitals m :=
  ⟨h.sniffing.symm, h.vitals.symm⟩

private theorem Tap.act_idle (t : Tap σ) {a : Act} (h : a.work? = none) : t.yield? env a = none ∧
    ∃ m, t.act env a = { t with monitor := m } ∧ t.monitor.SameVitals m := by
  rcases a with (c | _ | _) | reported
  · cases h
  · next stop =>
    cases stop with
    | sniffing => cases h
    | copying => exact ⟨rfl, _, rfl, t.monitor.sameVitals_stopCopying⟩
  · cases h
  · cases reported with
    | true => exact ⟨rfl, _, rfl, t.monitor.sameVitals_dump⟩
    | false => exact ⟨rfl, _, rfl, rfl, rfl⟩

private theorem Tap.enact_idle (t : Tap σ) {acts : List Act} (h : ∀ a ∈ acts, a.work? = none) :
    t.yields env acts = [] ∧
      ∃ m, t.enact env acts = { t with monitor := m } ∧ t.monitor.SameVitals m := by
  induction acts generalizing t with
  | nil => exact ⟨rfl, t.monitor, rfl, rfl, rfl⟩
  | cons a acts ih =>
    obtain ⟨hnone, m, hact, hm⟩ := t.act_idle env (h a List.mem_cons_self)
    obtain ⟨hnothing, m', hacts, hm'⟩ :=
      ih (t.act env a) fun b hb => h b (List.mem_cons_of_mem a hb)
    rw [hact] at hnothing hacts hm'
    refine ⟨?_, m', ?_, hm.trans hm'⟩
    · rw [yields, hnone, hact, hnothing]
      rfl
    · rw [← hacts, ← hact]
      rfl

private theorem Tap.yields_append (t : Tap σ) (acts acts' : List Act) :
    t.yields env (acts ++ acts') = t.yields env acts ++ (t.enact env acts).yields env acts' := by
  induction acts generalizing t with
  | nil => rfl
  | cons a acts ih =>
    rw [List.cons_append, yields, yields, ih, List.append_assoc]
    rfl

private theorem sameSniffing_pauses {pauses pauses' : List (List Stop)}
    (h : pauses.map Stop.ofSniffing = pauses'.map Stop.ofSniffing) :
    List.Forall₂ SameSniffing pauses pauses' := by
  have hmem : ∀ stops, Stop.sniffing ∈ Stop.ofSniffing stops ↔ Stop.sniffing ∈ stops := by
    simp [Stop.ofSniffing]
  have hsame : List.Forall₂ Eq (pauses.map Stop.ofSniffing) (pauses'.map Stop.ofSniffing) := by
    rw [List.forall₂_eq_eq_eq]
    exact h
  rw [List.forall₂_map_left_iff, List.forall₂_map_right_iff] at hsame
  apply hsame.imp
  intro stops stops' heq
  rw [SameSniffing, ← hmem stops, ← hmem stops', heq]

private theorem Act.alike_of_work {a a' : Act} {op : Op} (h : a.work? = some op)
    (h' : a'.work? = some op) :
    ∃ o o', a = .perform o ∧ a' = .perform o' ∧ o.Alike Eq SameSniffing o' :=
  match a, a', h, h' with
  | .perform (.call _), .perform (.call _), rfl, rfl =>
    ⟨_, _, rfl, rfl, .call (Call.alike_eq.mpr rfl)⟩
  | .perform (.stop .sniffing), .perform (.stop .sniffing), _, _ => ⟨_, _, rfl, rfl, .stop Iff.rfl⟩
  | .perform (.sniff wanted pauses), .perform (.sniff wanted' pauses'), h, h' => by
    obtain ⟨rfl, hpauses⟩ := Op.sniff.inj (Option.some.inj (h.trans h'.symm))
    exact ⟨_, _, rfl, rfl, .sniff wanted (sameSniffing_pauses hpauses)⟩

end Idle

section Runs

variable {σ σ' : Type} [ByteStream σ] [ByteStream σ'] (env : Surroundings) {R : σ → σ' → Prop}
  {t : Tap σ} {t' : Tap σ'}

private theorem SameAnswers.pairs (hR : SameAnswers R) :
    ByteStream.Pairs Eq SameSniffing (fun _ => True) (fun _ => True) R where
  reflects _ _ _ := trivial
  reflects' _ _ _ := trivial
  answers {c c' s s'} hcalls h _ _ := by
    obtain rfl := Call.alike_eq.mp hcalls
    refine ⟨?_, hR.stops c h, hR.next c h⟩
    rw [hR.answer c h]
    exact Upshot.alike_eq.mpr rfl

namespace Tap

/-- Two taps that agree on all but diagnostics. -/
abbrev SameWork (R : σ → σ' → Prop) (t : Tap σ) (t' : Tap σ') : Prop :=
  t.Paired Eq R Monitor.SameVitals t'

namespace SameWork

variable (hR : SameAnswers R) (h : t.SameWork R t')

include hR h

private theorem response_eq (c : Call) : (c.onTap env t).1 = (c.onTap env t').1 := by
  have hwaiting : t.replay.waiting = t'.replay.waiting := Bytes.forall₂_eq.mp h.replay.waiting
  have hsame : c.isReplayed t = c.isReplayed t' :=
    h.isReplayed_eq (sameVitals_pairs env) (Call.alike_eq.mpr rfl)
  cases hreplayed : c.isReplayed t with
  | false =>
    rw [hreplayed] at hsame
    rw [(c.onTap_forwarded env t hreplayed).response,
      (c.onTap_forwarded env t' hsame.symm).response, hR.answer c h.inner]
  | true =>
    rw [hreplayed] at hsame
    have hserves := (Bool.and_eq_true_iff.mp hreplayed).2
    have hserves' := (Bool.and_eq_true_iff.mp hsame.symm).2
    cases c with
    | read room =>
      refine (Call.read_replayed env t room hserves).trans ?_
      rw [hwaiting]
      exact (Call.read_replayed env t' room hserves').symm
    | pollRead buffer =>
      refine (Call.pollRead_replayed env t buffer hserves).trans ?_
      simp only [hwaiting]
      exact (Call.pollRead_replayed env t' buffer hserves').symm
    | _ => cases Call.isRead_of_isReplayed hreplayed

private theorem perform {op op' : Op} (hops : op.Alike Eq SameSniffing op') :
    t.yield? env (.perform op) = t'.yield? env (.perform op') ∧
      (t.perform env op).SameWork R (t'.perform env op') := by
  obtain ⟨hupshot, hnext⟩ := Paired.perform hR.pairs (sameVitals_pairs env) h hops trivial trivial
  refine ⟨?_, hnext⟩
  cases hops with
  | call hcalls =>
    obtain rfl := Call.alike_eq.mp hcalls
    exact congrArg (fun response => some (Yield.response _ response)) (h.response_eq env hR _)
  | stop hstops => rfl
  | sniff wanted hpauses =>
    have hend := SniffEnd.eq_of_outcome (Upshot.alike_eq.mp hupshot)
    exact congrArg (fun ending => some (Yield.ending ending)) hend

private theorem enact {acts acts' : List Act}
    (hacts : acts.filterMap Act.work? = acts'.filterMap Act.work?) :
    t.yields env acts = t'.yields env acts' ∧
      (t.enact env acts).SameWork R (t'.enact env acts') := by
  induction acts generalizing t t' acts' with
  | nil =>
    have hidle : ∀ a ∈ acts', a.work? = none := List.filterMap_eq_nil_iff.mp hacts.symm
    obtain ⟨hnothing, m, henact, hm⟩ := t'.enact_idle env hidle
    rw [hnothing, henact]
    exact ⟨rfl, h.inner, h.replay, h.monitor.trans hm⟩
  | cons a acts ih =>
    cases hwork : a.work? with
    | none =>
      rw [List.filterMap_cons_none hwork] at hacts
      obtain ⟨hnone, m, hact, hm⟩ := t.act_idle env hwork
      have hidle : (t.act env a).SameWork R t' := by
        rw [hact]
        exact ⟨h.inner, h.replay, hm.symm.trans h.monitor⟩
      obtain ⟨hyields, hlast⟩ := ih hidle hacts
      refine ⟨?_, hlast⟩
      rw [yields, hnone, ← hyields]
      rfl
    | some op =>
      rw [List.filterMap_cons_some hwork] at hacts
      -- The other run reaches this operation after some acts of its own that leave no work.
      obtain ⟨idle, a', later, rfl, hnone, hwork', hlater⟩ :=
        List.filterMap_eq_cons_iff.mp hacts.symm
      obtain ⟨hnothing, m, henact, hm⟩ := t'.enact_idle env hnone
      have hidle : t.SameWork R (t'.enact env idle) := by
        rw [henact]
        exact ⟨h.inner, h.replay, h.monitor.trans hm⟩
      obtain ⟨o, o', rfl, rfl, hops⟩ := Act.alike_of_work hwork hwork'
      obtain ⟨hyield, hnext⟩ := hidle.perform env hR hops
      obtain ⟨hyields, hlast⟩ := ih hnext hlater.symm
      have hsplit : t'.enact env (idle ++ .perform o' :: later) =
          ((t'.enact env idle).perform env o').enact env later := List.foldl_append
      rw [hsplit, yields_append, hnothing, yields, yields, hyield]
      exact ⟨congrArg (Option.toList _ ++ ·) hyields, hlast⟩

end SameWork

/-- Diagnostics never influence what a tap does. Take two runs of any length that leave the same
work, over streams that answer the same: however payload is copied and shown, whatever stops of the
copying are made by handles, between the polls of a sniff and while the stream is asked, and
whatever is inquired, the owner gets the same from every operation, and afterwards the streams still
belong together, the same bytes wait to be replayed, and sniffing, sniff count, timeline and trace
of failure are the same. -/
theorem diagnostics_unobtrusive (hR : SameAnswers R) (s : σ) (s' : σ') (hs : R s s') (id : Uuid)
    (settings settings' : SniffSettings) (acts acts' : List Act)
    (hacts : acts.filterMap Act.work? = acts'.filterMap Act.work?) :
    let t₀ := wrap s id settings
    let t₀' := wrap s' id settings'
    let t := t₀.enact env acts
    let t' := t₀'.enact env acts'
    t₀.yields env acts = t₀'.yields env acts' ∧ R t.inner t'.inner ∧
      t.replayPending = t'.replayPending ∧ t.intoParts.2 = t'.intoParts.2 ∧
      t.monitor.sniffing = t'.monitor.sniffing ∧
      (Diagnostics.ofMonitor t.monitor).sniffCount = (Diagnostics.ofMonitor t'.monitor).sniffCount ∧
      (Diagnostics.ofMonitor t.monitor).timeline = (Diagnostics.ofMonitor t'.monitor).timeline ∧
      (Diagnostics.ofMonitor t.monitor).failure = (Diagnostics.ofMonitor t'.monitor).failure := by
  intro t₀ t₀' t t'
  have hstart : t₀.SameWork R t₀' := ⟨hs, .empty, rfl, rfl⟩
  obtain ⟨hyields, hlast⟩ := hstart.enact env hR hacts
  have hparts : t.intoParts.2 = t'.intoParts.2 := by
    change t.replay.intoRemaining = t'.replay.intoRemaining
    rw [ReplayQueue.intoRemaining_eq_waiting, ReplayQueue.intoRemaining_eq_waiting]
    exact Bytes.forall₂_eq.mp hlast.replay.waiting
  have hvital : ∀ {α : Type} (part : Recorder → α),
      part t.monitor.recorder.vitals = part t'.monitor.recorder.vitals :=
    fun part => congrArg part hlast.monitor.vitals
  exact ⟨hyields, hlast.inner, hlast.replay.remaining_eq, hparts, hlast.monitor.sniffing,
    hvital Recorder.sniffCount, hvital Recorder.timeline, hvital Recorder.failure⟩

end Tap

end Runs

section Overheard

/-- A stream during whose calls somebody asks to stop the copying, a number of times each. -/
structure Overheard (σ : Type) where
  stream : σ
  requests : List Nat := []

namespace Overheard

variable {σ : Type} [ByteStream σ]

def answer (c : Call) (s : Overheard σ) : Reply (Overheard σ) c.Answer :=
  let reply := c.ask s.stream
  { stops := reply.stops ++ List.replicate (s.requests.headD 0) .copying
    answer := reply.answer
    next := { stream := reply.next, requests := s.requests.tail } }

instance : ByteStream (Overheard σ) where
  read s room := s.answer (.read room)
  pollRead s buffer := s.answer (.pollRead buffer)
  write s data := s.answer (.write data)
  pollWrite s data := s.answer (.pollWrite data)
  writeVectored s slices := s.answer (.writeVectored slices)
  pollWriteVectored s slices := s.answer (.pollWriteVectored slices)
  isVectored s := ByteStream.isVectored s.stream
  flush s := s.answer .flush
  pollFlush s := s.answer .pollFlush
  pollShutdown s := s.answer .pollShutdown

private theorem ask_answer (c : Call) (s : Overheard σ) : c.ask s = s.answer c := by
  cases c <;> rfl

private theorem sameAnswers :
    SameAnswers fun s s' : Overheard σ => s.stream = s'.stream where
  answer c h := by rw [ask_answer, ask_answer, answer, answer, h]
  stops c h := by
    rw [ask_answer, ask_answer, answer, answer, h]
    simp
  next c h := by rw [ask_answer, ask_answer, answer, answer, h]

end Overheard

def waiting : Script :=
  { reads := [{ act := .data [97, 98] }, { act := .pending }, { act := .data [99] }] }

/-- One run keeps its copies to the end. In the other one the copying is stopped over and over, also
in the first write and in the middle of the sniff; it holds no copies, and did all the same. -/
theorem diagnostics_unobtrusive_overheard :
    let work := [.perform (.call (.write [120])), .perform (.sniff 3 [[]]),
      .perform (.stop .sniffing), .perform (.call (.read 2))]
    let work' := [.inquire true, .perform (.call (.write [120])), .perform (.stop .copying),
      .perform (.sniff 3 [[.copying, .copying]]), .perform (.stop .sniffing), .inquire false,
      .perform (.call (.read 2))]
    let t₀ := Tap.wrap (⟨waiting, []⟩ : Overheard Script) .zero {}
    let t₀' := Tap.wrap (⟨waiting, [1, 0, 2]⟩ : Overheard Script) .zero { showPayload := false }
    let t := t₀.enact .ticking work
    let t' := t₀'.enact .ticking work'
    work.filterMap Act.work? = work'.filterMap Act.work? ∧
      t₀.yields .ticking work = t₀'.yields .ticking work' ∧
      t.intoParts.2 = [99] ∧ t'.intoParts.2 = [99] ∧
      t.monitor.recorder.copies.read = [97, 98, 99] ∧ t'.monitor.recorder.copies.read = [] ∧
      (Diagnostics.ofMonitor t.monitor).timeline = (Diagnostics.ofMonitor t'.monitor).timeline := by
  intro work work' t₀ t₀' t t'
  have hwork : work.filterMap Act.work? = work'.filterMap Act.work? := rfl
  have hwaits : t.intoParts.2 = [99] := by decide +kernel
  have hread : t.monitor.recorder.copies.read = [97, 98, 99] := by decide +kernel
  have hread' : t'.monitor.recorder.copies.read = [] := by decide +kernel
  obtain ⟨hyields, -, -, hparts, -, -, htimeline, -⟩ :=
    Tap.diagnostics_unobtrusive .ticking Overheard.sameAnswers (⟨waiting, []⟩ : Overheard Script)
      ⟨waiting, [1, 0, 2]⟩ rfl .zero {} { showPayload := false } work work' hwork
  exact ⟨hwork, hyields, hwaits, hparts.symm.trans hwaits, hread, hread', htimeline⟩

end Overheard

end PeekRelay
