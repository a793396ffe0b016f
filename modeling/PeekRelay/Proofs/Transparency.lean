import PeekRelay.Proofs.Conservation
/-!
# The stream does not notice the tap

A tap passes every call on as it is and every answer back as it is, apart from the reads that it
serves from its queue, of which the stream never hears.
-/
namespace PeekRelay

structure Returned where
  call : Call
  response : call.Response

def Answered.returned (a : Answered) : Returned := ⟨a.call, a.call.respond a.answer⟩

namespace Entry

def returned (e : Entry) : Returned := ⟨e.call, e.response⟩

/-- A replayed read asks nothing of the stream. Any other call is asked of it as it is, and its
caller gets what the stream answered. -/
def Transparent (e : Entry) : Prop :=
  match e.replayed with
  | true => e.call.isRead = true ∧ e.forwarded = []
  | false => ∃ a : Answered, e.forwarded = [a] ∧ a.returned = e.returned

private theorem returned_forwarded (es : List Entry) (h : ∀ e ∈ es, e.Transparent) :
    (es.flatMap forwarded).map Answered.returned = (es.filter (!·.replayed)).map returned := by
  induction es with
  | nil => rfl
  | cons e es ih =>
    have hrest := ih fun e he => h e (List.mem_cons_of_mem _ he)
    have hfirst := h e List.mem_cons_self
    rw [Transparent] at hfirst
    cases hreplayed : e.replayed with
    | true =>
      rw [hreplayed] at hfirst
      rw [List.flatMap_cons, hfirst.2, List.nil_append, hrest, List.filter_cons_of_neg]
      rw [hreplayed]
      decide
    | false =>
      rw [hreplayed] at hfirst
      obtain ⟨a, ha, hreturned⟩ := hfirst
      rw [List.flatMap_cons, ha, List.map_append, hrest, List.filter_cons_of_pos]
      · rw [List.map_cons, List.map_cons, hreturned]
        rfl
      · rw [hreplayed]
        rfl

end Entry

def Op.call? : Op → Option Call
  | .call c => some c
  | _ => none

def Op.isSniff : Op → Bool
  | .sniff .. => true
  | _ => false

namespace Trace

variable {σ : Type}

/-- What a trace says about its stream: it went through the same as a bare stream, and what was
replayed had been sniffed before. -/
structure Bare [ByteStream σ] (s : σ) (r : Trace σ) : Prop where
  conserves : r.Conserves
  follows : r.tap.inner.Follows s
  entries : ∀ e ∈ r.entries, e.Transparent
  sniffed : r.tap.replay.waiting <:+ r.sniffed
  unreplayed : r.tap.monitor.sniffing = true ∨ r.sniffed = [] → ∀ e ∈ r.entries, e.replayed = false

namespace Bare

variable [ByteStream σ] {r : Trace σ} {s : σ}

theorem start (s : σ) (id : Uuid) (settings : SniffSettings) : Bare s (start s id settings) where
  conserves := .start s id settings
  follows := Logged.follows_start s
  entries _ h := absurd h List.not_mem_nil
  sniffed := List.suffix_rfl
  unreplayed _ _ h := absurd h List.not_mem_nil

theorem heed (h : Bare s r) (stop : Stop) : Bare s (r.heed stop) where
  conserves := h.conserves.heed stop
  follows := h.follows
  entries := h.entries
  sniffed := h.sniffed
  unreplayed hquiet := h.unreplayed (hquiet.imp_left r.tap.sniffing_of_heed)

section Call

variable (env : Surroundings) (c : Call)

private theorem entry_transparent (t : Tap (Logged σ)) : (entry env c t).Transparent := by
  have hreplayed : (entry env c t).replayed = c.isReplayed t := rfl
  rw [Entry.Transparent, hreplayed]
  cases h : c.isReplayed t with
  | false =>
    have hresponse : (entry env c t).response = _ := (c.onTap_forwarded env t h).response
    refine ⟨_, entry_forwarded h, ?_⟩
    rw [Entry.returned, hresponse]
    rfl
  | true => exact ⟨Call.isRead_of_isReplayed h, entry_replayed h⟩

private theorem follows_call {t : Tap (Logged σ)} (h : t.inner.Follows s) :
    (c.onTap env t).2.inner.Follows s := by
  cases hreplayed : c.isReplayed t with
  | false =>
    rw [(c.onTap_forwarded env t hreplayed).inner]
    exact h.ask c
  | true =>
    rw [(c.onTap_replayed env t hreplayed).inner]
    exact h

private theorem waiting_forwarded {t : Tap (Logged σ)} (hbounds : t.replay.InBounds)
    (h : c.isReplayed t = false) :
    (c.onTap env t).2.replay.waiting = t.replay.waiting ++ (entry env c t).sniffed := by
  rw [(c.onTap_forwarded env t h).replay, ← delivered_entry_forwarded env h]
  cases hflag : t.monitor.sniffing with
  | true =>
    have hsniffed : (entry env c t).sniffed = (entry env c t).delivered := if_pos hflag
    rw [if_pos rfl, ReplayQueue.waiting_append hbounds, hsniffed]
  | false =>
    have hsniffed : (entry env c t).sniffed = [] := if_neg (Bool.eq_false_iff.mp hflag)
    rw [if_neg Bool.false_ne_true, hsniffed, List.append_nil]

private theorem suffix_call {t : Tap (Logged σ)} {sniffed : Bytes} (hbounds : t.replay.InBounds)
    (h : t.replay.waiting <:+ sniffed) :
    (c.onTap env t).2.replay.waiting <:+ sniffed ++ (entry env c t).sniffed := by
  cases hreplayed : c.isReplayed t with
  | false =>
    obtain ⟨front, rfl⟩ := h
    rw [waiting_forwarded env c hbounds hreplayed, List.append_assoc]
    exact List.suffix_append front _
  | true =>
    have hsniffed : (entry env c t).sniffed = [] :=
      if_neg (Bool.eq_false_iff.mp (Call.sniffing_of_isReplayed hreplayed))
    rw [(c.onTap_replayed env t hreplayed).waiting, hsniffed, List.append_nil]
    exact (List.drop_suffix _ _).trans h

private theorem isReplayed_eq_false (h : Bare s r)
    (hquiet : r.tap.monitor.sniffing = true ∨ r.sniffed = []) : c.isReplayed r.tap = false := by
  rcases hquiet with hsniffing | hnone
  · exact Call.isReplayed_of_sniffing hsniffing
  · cases hreplayed : c.isReplayed r.tap with
    | false => rfl
    | true =>
      have hsniffed := h.sniffed
      rw [hnone] at hsniffed
      exact absurd (List.suffix_nil.mp hsniffed) (Call.waiting_of_isReplayed hreplayed)

theorem call (h : Bare s r) : Bare s (r.call env c).2 := by
  have hsniffed : (r.call env c).2.sniffed = r.sniffed ++ _ :=
    flatMap_entries_call env Entry.sniffed c r
  constructor
  case conserves => exact h.conserves.call env c
  case follows => exact follows_call env c h.follows
  case entries =>
    intro e he
    rcases List.mem_append.mp he with he | he
    · exact h.entries e he
    · cases List.mem_singleton.mp he
      exact entry_transparent env c r.tap
  case sniffed =>
    rw [hsniffed]
    exact suffix_call env c h.conserves.faithful.inBounds h.sniffed
  case unreplayed =>
    intro hquiet e he
    have hbefore : r.tap.monitor.sniffing = true ∨ r.sniffed = [] := by
      rcases hquiet with hstill | hnone
      · exact .inl (Call.sniffing_of_onTap env hstill)
      · exact .inr (List.append_eq_nil_iff.mp (hsniffed.symm.trans hnone)).1
    rcases List.mem_append.mp he with he | he
    · exact h.unreplayed hbefore e he
    · cases List.mem_singleton.mp he
      exact h.isReplayed_eq_false c hbefore

end Call

theorem after (env : Surroundings) (h : Bare s r) (ops : List Op) : Bare s (r.after env ops) :=
  after_keeps env (fun c _ hr => hr.call env c) (fun stop _ hr => hr.heed stop) r ops h

theorem returned_log (h : Bare s r) : r.tap.inner.log.map Answered.returned =
    (r.entries.filter (!·.replayed)).map Entry.returned := by
  rw [h.conserves.log]
  exact Entry.returned_forwarded r.entries h.entries

private theorem askAll_eq (h : Bare s r) :
    Call.askAll ((r.entries.filter (!·.replayed)).map Entry.call) s =
      (r.tap.inner.log, r.tap.inner.stream) := by
  have hcalls : r.tap.inner.log.map Answered.call =
      (r.entries.filter (!·.replayed)).map Entry.call := by
    have hreturned := congrArg (List.map Returned.call) h.returned_log
    rwa [List.map_map, List.map_map] at hreturned
  rw [← hcalls]
  exact h.follows

end Bare

section Runs

variable [ByteStream σ] (env : Surroundings)

private theorem calls_after (r : Trace σ) (ops : List Op) (h : ∀ op ∈ ops, op.isSniff = false) :
    (r.after env ops).entries.map Entry.call =
      r.entries.map Entry.call ++ ops.filterMap Op.call? := by
  induction ops generalizing r with
  | nil => exact (List.append_nil _).symm
  | cons op ops ih =>
    change ((r.perform env op).after env ops).entries.map Entry.call = _
    rw [ih _ fun op hop => h op (List.mem_cons_of_mem _ hop)]
    cases op with
    | call c =>
      change (r.entries ++ [_]).map Entry.call ++ _ = _
      rw [List.map_append, List.append_assoc]
      rfl
    | stop stop => rfl
    | sniff wanted pauses => cases h _ List.mem_cons_self

/-- The stream goes through the same as a bare stream that is asked all calls of the run but the
replayed reads, and their callers get its answers. Without a stop, or with one before any byte was
read, no read is replayed, and a run without replayed reads is a run of the stream itself. -/
theorem tap_transparent (s : σ) (id : Uuid) (settings : SniffSettings) (ops : List Op) :
    let r := (start s id settings).after env ops
    let t := (Tap.wrap s id settings).after env ops
    let forwarded := r.entries.filter (!·.replayed)
    (∀ e ∈ r.entries, e.Transparent) ∧
      Call.askAll (forwarded.map Entry.call) s = (r.tap.inner.log, t.inner) ∧
      forwarded.map Entry.returned = r.tap.inner.log.map Answered.returned ∧
      ((∀ op ∈ ops, op.isSniff = false) → r.entries.map Entry.call = ops.filterMap Op.call?) ∧
      (t.monitor.sniffing = true ∨ r.sniffed = [] → ∀ e ∈ r.entries, e.replayed = false) ∧
      ((∀ e ∈ r.entries, e.replayed = false) →
        let (answers, s') := Call.askAll (r.entries.map Entry.call) s
        r.entries.map Entry.returned = answers.map Answered.returned ∧ s' = t.inner) := by
  intro r t forwarded
  have hr : Bare s r := (Bare.start s id settings).after env ops
  have ht : r.tap.forget = t := after_forget env _ ops
  have hasked : Call.askAll (forwarded.map Entry.call) s = (r.tap.inner.log, t.inner) := by
    rw [← ht]
    exact hr.askAll_eq
  have hreturned : forwarded.map Entry.returned = r.tap.inner.log.map Answered.returned :=
    hr.returned_log.symm
  refine ⟨hr.entries, hasked, hreturned, ?_, ?_, ?_⟩
  · intro hdirect
    exact calls_after env _ ops hdirect
  · rw [← ht]
    exact hr.unreplayed
  · intro hnone
    have hall : forwarded = r.entries := by
      refine List.filter_eq_self.mpr ?_
      intro e he
      rw [hnone e he]
      rfl
    rw [hall] at hasked hreturned
    rw [hasked]
    exact ⟨hreturned, rfl⟩

end Runs

end Trace

end PeekRelay
