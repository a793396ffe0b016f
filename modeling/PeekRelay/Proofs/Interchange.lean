import PeekRelay.Proofs.Unobtrusive
/-!
# Blocking and polled reads are interchangeable

Where the blocking reads of a stream answer like its polled ones, so do those of a tap, whatever
state it is in: the same bytes are handed out, behind what the buffer holds already, and the tap is
left the same. So either may be made in place of the other.
-/
namespace PeekRelay

/-- In all states that a stream can get into, its blocking reads answer like its polled ones: these
are never pending, and those never claim more bytes than fit. -/
structure ByteStream.ReadsAlike {σ : Type} [ByteStream σ] (I : σ → Prop) : Prop where
  next : ∀ {s} (c : Call), I s → I (c.ask s).next
  answer : ∀ {s} (buffer : ReadBuffer), I s →
    ∃ (stops : List Stop) (result : Result (Fill buffer.room)) (next : σ),
      ByteStream.read s buffer.room = ⟨stops, result.map Claim.fits, next⟩ ∧
        ByteStream.pollRead s buffer = ⟨stops, .ready result, next⟩

/-- Two acts are the same, or a blocking read and a polled one into the same room. -/
inductive Act.Swaps : Act → Act → Prop where
  | same (a : Act) : Swaps a a
  | polled (buffer : ReadBuffer) : Swaps (.perform (.call (.read buffer.room)))
    (.perform (.call (.pollRead buffer)))

/-- Two acts yield the same, a polled read behind what its buffer holds already. -/
inductive Yield.Swaps : Yield → Yield → Prop where
  | same (y : Yield) : Swaps y y
  | polled (buffer : ReadBuffer) (result : Result (Fill buffer.room)) :
    Swaps (.response (.read buffer.room) (.returned (result.map Subtype.val)))
      (.response (.pollRead buffer) (.ready (result.map buffer.put)))

namespace Tap

variable {σ : Type} [ByteStream σ] (env : Surroundings) {I : σ → Prop}

section Keeps

variable (next : ∀ {s} (c : Call), I s → I (c.ask s).next)

include next

private theorem onTap_keeps {t : Tap σ} (c : Call) (h : I t.inner) : I (c.onTap env t).2.inner := by
  cases hreplayed : c.isReplayed t with
  | true =>
    rw [(c.onTap_replayed env t hreplayed).inner]
    exact h
  | false =>
    rw [(c.onTap_forwarded env t hreplayed).inner]
    exact next c h

private theorem act_keeps {t : Tap σ} (a : Act) (h : I t.inner) : I (t.act env a).inner := by
  rcases a with (c | stop | ⟨wanted, pauses⟩) | reported
  · exact onTap_keeps env next c h
  · exact h
  · exact Sniff.run_keeps (P := fun t : Tap σ => I t.inner)
      (fun buffer _ ht => onTap_keeps env next (.pollRead buffer) ht) (fun _ _ ht => ht)
      wanted pauses t h
  · cases reported <;> exact h

private theorem enact_keeps {t : Tap σ} (acts : List Act) (h : I t.inner) :
    I (t.enact env acts).inner := by
  induction acts generalizing t with
  | nil => exact h
  | cons a acts ih => exact ih (act_keeps env next a h)

end Keeps

section Reads

variable (alike : ByteStream.ReadsAlike I)

include alike

private theorem reads_agree {t : Tap σ} (h : I t.inner) (buffer : ReadBuffer) :
    ∃ (result : Result (Fill buffer.room)) (t' : Tap σ),
      t.read env buffer.room = (.returned (result.map Subtype.val), t') ∧
        t.pollRead env buffer = (.ready (result.map buffer.put), t') := by
  cases hserves : t.servesReplay t.monitor.sniffing with
  | true =>
    have hread := (Call.read buffer.room).onTap_eq_replay env t hserves
    have hpoll := (Call.pollRead buffer).onTap_eq_replay env t hserves
    exact ⟨.ok ⟨t.replay.waiting.take buffer.room, List.length_take_le ..⟩, _,
      Prod.ext (Call.read_replayed env t buffer.room hserves) hread,
      Prod.ext (Call.pollRead_replayed env t buffer hserves) hpoll⟩
  | false =>
    obtain ⟨stops, result, next, hread, hpoll⟩ := alike.answer buffer h
    have hread' := (Call.read buffer.room).onTap_eq_forward env t hserves
    have hpoll' := (Call.pollRead buffer).onTap_eq_forward env t hserves
    rw [Call.ask, hread] at hread'
    rw [Call.ask, hpoll] at hpoll'
    cases result with
    | ok fill => exact ⟨.ok fill, _, hread', hpoll'⟩
    | error e => exact ⟨.error e, _, hread', hpoll'⟩

private theorem act_swaps {t : Tap σ} (h : I t.inner) {a a' : Act} (hacts : a.Swaps a') :
    List.Forall₂ Yield.Swaps (t.yield? env a).toList (t.yield? env a').toList ∧
      t.act env a = t.act env a' := by
  cases hacts with
  | same => exact ⟨List.forall₂_same.mpr fun y _ => .same y, rfl⟩
  | polled buffer =>
    obtain ⟨result, t', hread, hpoll⟩ := reads_agree env alike h buffer
    change List.Forall₂ Yield.Swaps
        [.response (.read buffer.room) (t.read env buffer.room).1]
        [.response (.pollRead buffer) (t.pollRead env buffer).1] ∧
      (t.read env buffer.room).2 = (t.pollRead env buffer).2
    rw [hread, hpoll]
    exact ⟨.cons (.polled buffer result) .nil, rfl⟩

private theorem enact_swaps {t : Tap σ} (h : I t.inner) {acts acts' : List Act}
    (hacts : List.Forall₂ Act.Swaps acts acts') :
    List.Forall₂ Yield.Swaps (t.yields env acts) (t.yields env acts') ∧
      t.enact env acts = t.enact env acts' := by
  induction hacts generalizing t with
  | nil => exact ⟨.nil, rfl⟩
  | @cons a a' acts acts' hact _ ih =>
    obtain ⟨hyield, hnext⟩ := act_swaps env alike h hact
    obtain ⟨hyields, hlast⟩ := ih (act_keeps env alike.next a h)
    rw [hnext] at hyields hlast
    refine ⟨?_, ?_⟩
    · rw [yields, yields, hnext]
      exact List.rel_append hyield hyields
    · change (t.act env a).enact env acts = (t.act env a').enact env acts'
      rw [hnext, hlast]

end Reads

section Runs

/-- In every state of every run over a stream whose blocking reads answer like its polled ones, a
polled read comes to what a blocking read into the same room comes to: the same error, or the same
bytes behind what the buffer holds already. It leaves the same tap, with all its parts. So in what
follows any blocking reads may be polled instead: everything else is yielded the same, and the tap
is the same afterwards. -/
theorem reads_interchange (alike : ByteStream.ReadsAlike I) (s : σ) (hs : I s) (id : Uuid)
    (settings : SniffSettings) (acts : List Act) :
    let t := (Tap.wrap s id settings).enact env acts
    (∀ buffer, ∃ (result : Result (Fill buffer.room)) (t' : Tap σ),
      t.read env buffer.room = (.returned (result.map Subtype.val), t') ∧
        t.pollRead env buffer = (.ready (result.map buffer.put), t')) ∧
      ∀ later later', List.Forall₂ Act.Swaps later later' →
        List.Forall₂ Yield.Swaps (t.yields env later) (t.yields env later') ∧
          t.enact env later = t.enact env later' := by
  intro t
  have ht : I t.inner := enact_keeps env alike.next acts hs
  exact ⟨reads_agree env alike ht, fun _ _ hlater => enact_swaps env alike ht hlater⟩

end Runs

end Tap

section Prompt

def ReadAct.isPrompt : ReadAct → Bool
  | .data _ | .fail _ => true
  | _ => false

structure Script.Prompt (s : Script) : Prop where
  steps : ∀ step ∈ s.reads, step.act.isPrompt = true
  due : s.due = none

namespace Script

private theorem reads_next {c : Call} (h : c.isRead = false) (s : Script) :
    (c.ask s).next.reads = s.reads ∧ (c.ask s).next.due = s.due := by
  obtain ⟨reads, writes, flushes, shutdowns⟩ := s
  cases c with
  | read room => cases h
  | pollRead buffer => cases h
  | write data | pollWrite data | writeVectored slices | pollWriteVectored slices =>
    rcases writes with _ | ⟨⟨stop, _ | _ | _⟩, writes⟩ <;> exact ⟨rfl, rfl⟩
  | flush | pollFlush => rcases flushes with _ | ⟨⟨stop, _ | _ | _⟩, flushes⟩ <;> exact ⟨rfl, rfl⟩
  | pollShutdown => rcases shutdowns with _ | ⟨⟨stop, _ | _ | _⟩, shutdowns⟩ <;> exact ⟨rfl, rfl⟩

namespace Prompt

private theorem read {s : Script} (h : s.Prompt) (buffer : ReadBuffer) :
    ∃ (stops : List Stop) (result : Result (Fill buffer.room)) (next : Script),
      ByteStream.read s buffer.room = ⟨stops, result.map Claim.fits, next⟩ ∧
        ByteStream.pollRead s buffer = ⟨stops, .ready result, next⟩ ∧ next.Prompt := by
  obtain ⟨reads, _, _, _, _, _, _, _, _, rest, _, _, _, _, due, _⟩ := s
  obtain rfl : due = none := h.due
  have hlater : ∀ step ∈ reads.tail, step.act.isPrompt = true :=
    fun step hstep => h.steps step (List.mem_of_mem_tail hstep)
  cases rest with
  | nil =>
    rcases reads with _ | ⟨⟨stop, bs | e | _ | _ | _⟩, reads⟩
    · exact ⟨[], .ok ⟨[].take buffer.room, List.length_take_le ..⟩, _, rfl, rfl, h.steps, rfl⟩
    · exact ⟨stop.toList, .ok ⟨bs.take buffer.room, List.length_take_le ..⟩, _, rfl, rfl, hlater,
        rfl⟩
    · exact ⟨stop.toList, .error e, _, rfl, rfl, hlater, rfl⟩
    · exact absurd (h.steps _ List.mem_cons_self) Bool.false_ne_true
    · exact absurd (h.steps _ List.mem_cons_self) Bool.false_ne_true
    · exact absurd (h.steps _ List.mem_cons_self) Bool.false_ne_true
  | cons b rest =>
    -- What is left of earlier data goes first, whatever the next step is.
    refine ⟨[], .ok ⟨(b :: rest).take buffer.room, List.length_take_le ..⟩, _, ?_, rfl, h.steps,
      rfl⟩
    rcases reads with _ | ⟨⟨stop, bs | e | _ | _ | _⟩, reads⟩
    · rfl
    · rfl
    · rfl
    · rfl
    · rfl
    · exact absurd (h.steps _ List.mem_cons_self) Bool.false_ne_true

end Prompt

private theorem readsAlike : ByteStream.ReadsAlike Script.Prompt where
  next {s} c h := by
    cases hread : c.isRead with
    | false =>
      obtain ⟨hreads, hdue⟩ := reads_next hread s
      exact ⟨hreads ▸ h.steps, hdue.trans h.due⟩
    | true =>
      cases c with
      | read room =>
        obtain ⟨_, _, next, hanswer, -, hnext⟩ := h.read { room }
        change (ByteStream.read s room).next.Prompt
        rw [hanswer]
        exact hnext
      | pollRead buffer =>
        obtain ⟨_, _, next, -, hanswer, hnext⟩ := h.read buffer
        change (ByteStream.pollRead s buffer).next.Prompt
        rw [hanswer]
        exact hnext
      | _ => cases hread
  answer buffer h := by
    obtain ⟨stops, result, next, hread, hpoll, -⟩ := h.read buffer
    exact ⟨stops, result, next, hread, hpoll⟩

end Script

/-- A stream that delivers three bytes, fails, and delivers two more, during whose delivery another
thread stops the sniffing. -/
def failingOnce : Script :=
  { reads := [{ act := .data [97, 98, 99] }, { act := .fail (.bare .timedOut) },
      { stop := some .sniffing, act := .data [100, 101] }] }

/-- Of four reads, one of which fails and one of which is served from the queue, three are polled
instead. -/
theorem Tap.reads_interchange_failingOnce :
    let read := fun room => Act.perform (.call (.read room))
    let poll := fun filled room => Act.perform (.call (.pollRead { filled, room }))
    let later := [read 4, read 4, read 4, read 3]
    let later' := [poll [7] 4, poll [] 4, read 4, poll [8, 9] 3]
    let t := (Tap.wrap failingOnce .zero {}).enact .ticking [read 2]
    failingOnce.Prompt ∧ List.Forall₂ Act.Swaps later later' ∧
      (t.read .ticking 4).1 = .returned (.ok [99]) ∧
      (t.pollRead .ticking { filled := [7], room := 4 }).1 =
        .ready (.ok { filled := [7, 99], room := 3 }) ∧
      List.Forall₂ Yield.Swaps (t.yields .ticking later) (t.yields .ticking later') ∧
      t.enact .ticking later = t.enact .ticking later' ∧
      (t.enact .ticking later').intoParts.2 = [100, 101] := by
  intro read poll later later' t
  have hprompt : failingOnce.Prompt := ⟨by decide, rfl⟩
  have hswaps : List.Forall₂ Act.Swaps later later' :=
    .cons (.polled ⟨[7], 4⟩) (.cons (.polled ⟨[], 4⟩) (.cons (.same (read 4))
      (.cons (.polled ⟨[8, 9], 3⟩) .nil)))
  have hread : (t.read .ticking 4).1 = .returned (.ok [99]) := by decide +kernel
  have hpoll : (t.pollRead .ticking { filled := [7], room := 4 }).1 =
      .ready (.ok { filled := [7, 99], room := 3 }) := by decide +kernel
  have hleft : (t.enact .ticking later').intoParts.2 = [100, 101] := by decide +kernel
  obtain ⟨-, hruns⟩ := Tap.reads_interchange .ticking Script.readsAlike failingOnce hprompt .zero {}
    [read 2]
  obtain ⟨hyields, hlast⟩ := hruns later later' hswaps
  exact ⟨hprompt, hswaps, hread, hpoll, hyields, hlast, hleft⟩

end Prompt

end PeekRelay
