import PeekRelay.Proofs.Trace
/-!
# No byte is lost or handed out twice

While a tap sniffs, all that the stream delivered waits for replay. From the stop on, what readers
take is the same bytes again from the first one, and then whatever else the stream delivers.
-/
namespace PeekRelay.Trace

variable {σ : Type}

/-- How the tap of a trace, the log of its stream and its entries agree. -/
structure Conserves (r : Trace σ) : Prop where
  faithful : Faithful r.tap r.taken
  log : r.tap.inner.log = r.entries.flatMap Entry.forwarded
  handed : r.handed = r.sniffed ++ r.taken
  inFront : r.sniffed <+: r.delivered
  untaken : r.taken = [] → r.sniffed = r.delivered

namespace Conserves

theorem start (s : σ) (id : Uuid) (settings : SniffSettings) :
    (start s id settings).Conserves where
  faithful := .wrap s id settings
  log := rfl
  handed := rfl
  inFront := List.prefix_rfl
  untaken _ := rfl

variable {r : Trace σ}

theorem delivered_eq (h : r.Conserves) : r.tap.inner.delivered = r.delivered := by
  rw [Logged.delivered, h.log, List.flatMap_assoc]
  rfl

theorem complete (h : r.Conserves) (hsniffing : r.tap.monitor.sniffing = true) :
    r.sniffed = r.delivered := h.untaken (h.faithful.untaken hsniffing)

theorem heed (h : r.Conserves) (stop : Stop) : (r.heed stop).Conserves where
  faithful := h.faithful.heed stop
  log := h.log
  handed := h.handed
  inFront := h.inFront
  untaken := h.untaken

variable [ByteStream σ] (env : Surroundings)

section Call

variable (c : Call)

private theorem sniffed_entry (t : Tap (Logged σ)) (h : t.monitor.sniffing = true) :
    (entry env c t).sniffed = (entry env c t).delivered ∧ (entry env c t).taken = [] ∧
      (entry env c t).handed = (entry env c t).delivered := by
  have hforwarded : c.isReplayed t = false := Call.isReplayed_of_sniffing h
  exact ⟨if_pos h, if_pos h, handed_entry_forwarded hforwarded⟩

private theorem taken_entry (t : Tap (Logged σ)) (h : t.monitor.sniffing = false) :
    (entry env c t).sniffed = [] ∧ (entry env c t).taken = (entry env c t).handed ∧
      ((entry env c t).handed = [] → (entry env c t).delivered = []) := by
  refine ⟨if_neg (Bool.eq_false_iff.mp h), if_neg (Bool.eq_false_iff.mp h), ?_⟩
  intro hnothing
  cases hreplayed : c.isReplayed t with
  | false => exact (handed_entry_forwarded hreplayed).symm.trans hnothing
  | true => exact delivered_entry_replayed hreplayed

theorem call (h : r.Conserves) : (r.call env c).2.Conserves := by
  have htaken : (r.call env c).2.taken = r.taken ++ _ := flatMap_entries_call env Entry.taken c r
  have hhanded : (r.call env c).2.handed = r.handed ++ _ :=
    flatMap_entries_call env Entry.handed c r
  have hsniffed : (r.call env c).2.sniffed = r.sniffed ++ _ :=
    flatMap_entries_call env Entry.sniffed c r
  have hdelivered : (r.call env c).2.delivered = r.delivered ++ _ :=
    flatMap_entries_call env Entry.delivered c r
  constructor
  case faithful =>
    rw [htaken]
    exact h.faithful.call env c
  case log =>
    rw [flatMap_entries_call, ← h.log]
    exact log_onTap env c r.tap
  case handed =>
    rw [hhanded, hsniffed, htaken, h.handed]
    cases hflag : r.tap.monitor.sniffing with
    | true =>
      obtain ⟨hs, ht, hd⟩ := sniffed_entry env c r.tap hflag
      rw [hs, ht, hd, h.faithful.untaken hflag]
      simp only [List.append_nil]
    | false =>
      obtain ⟨hs, ht, -⟩ := taken_entry env c r.tap hflag
      rw [hs, ht]
      simp only [List.append_nil, List.append_assoc]
  case inFront =>
    rw [hsniffed, hdelivered]
    cases hflag : r.tap.monitor.sniffing with
    | true =>
      have hsame : r.sniffed ++ (entry env c r.tap).sniffed =
          r.delivered ++ (entry env c r.tap).delivered := by
        rw [(sniffed_entry env c r.tap hflag).1, h.complete hflag]
      exact hsame ▸ List.prefix_rfl
    | false =>
      rw [(taken_entry env c r.tap hflag).1, List.append_nil]
      exact h.inFront.trans (List.prefix_append _ _)
  case untaken =>
    intro hnone
    obtain ⟨hbefore, hnow⟩ := List.append_eq_nil_iff.mp (htaken.symm.trans hnone)
    rw [hsniffed, hdelivered, h.untaken hbefore]
    cases hflag : r.tap.monitor.sniffing with
    | true => rw [(sniffed_entry env c r.tap hflag).1]
    | false =>
      obtain ⟨hs, ht, hd⟩ := taken_entry env c r.tap hflag
      rw [hs, hd (ht.symm.trans hnow)]

end Call

/-- They agree after every run. -/
theorem after (h : r.Conserves) (ops : List Op) : (r.after env ops).Conserves :=
  after_keeps env (fun c _ hr => hr.call env c) (fun stop _ hr => hr.heed stop) r ops h

end Conserves

section Runs

variable [ByteStream σ] (env : Surroundings)

/-- In every state of every run, what was taken since the sniffing and what waits for replay are
together what the stream delivered, and as long as the tap sniffs nothing of it is taken. -/
theorem replay_conserves (s : σ) (id : Uuid) (settings : SniffSettings) (ops : List Op) :
    let r := (start s id settings).after env ops
    let t := (Tap.wrap s id settings).after env ops
    r.taken ++ t.intoParts.2 = r.delivered ∧
      r.taken.length + t.replayPending = r.delivered.length ∧
      r.sniffed <+: r.delivered ∧
      (t.monitor.sniffing = true → r.taken = [] ∧ r.sniffed = r.delivered) := by
  intro r t
  have hr : r.Conserves := (Conserves.start s id settings).after env ops
  have ht : r.tap.forget = t := after_forget env _ ops
  have hwhole : r.taken ++ t.replay.waiting = r.delivered := by
    rw [← ht, ← hr.delivered_eq]
    exact hr.faithful.whole
  refine ⟨?_, ?_, hr.inFront, ?_⟩
  · rw [Tap.intoParts, ReplayQueue.intoRemaining_eq_waiting]
    exact hwhole
  · rw [Tap.replayPending, ← ReplayQueue.length_waiting, ← List.length_append, hwhole]
  · intro hsniffing
    rw [← ht] at hsniffing
    exact ⟨hr.faithful.untaken hsniffing, hr.complete hsniffing⟩

end Runs

end PeekRelay.Trace
