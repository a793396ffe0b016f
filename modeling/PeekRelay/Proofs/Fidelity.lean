import PeekRelay.Proofs.Logged
/-!
# Fidelity of replay

The account of a tap: what its readers took after the sniffing, followed by what still waits in the
queue, is all that the stream delivered. Every call and every stop keeps the account.
-/
namespace PeekRelay

/-- While the tap sniffs, nothing counts as taken. -/
structure Faithful {σ : Type} (t : Tap (Logged σ)) (taken : Bytes) : Prop where
  inBounds : t.replay.InBounds
  whole : taken ++ t.replay.waiting = t.inner.delivered
  untaken : t.monitor.sniffing = true → taken = []

namespace Faithful

variable {σ : Type} {t : Tap (Logged σ)} {taken : Bytes}

theorem wrap (s : σ) (id : Uuid) (settings : SniffSettings) :
    Faithful (.wrap ⟨s, []⟩ id settings) [] :=
  ⟨ReplayQueue.inBounds_empty, rfl, fun _ => rfl⟩

theorem observed (h : Faithful t taken) {m : Monitor}
    (hm : m.sniffing = true → t.monitor.sniffing = true) :
    Faithful { t with monitor := m } taken :=
  ⟨h.inBounds, h.whole, fun hsniffing => h.untaken (hm hsniffing)⟩

theorem heed (h : Faithful t taken) (stop : Stop) : Faithful (t.heed stop) taken :=
  h.observed t.sniffing_of_heed

private theorem delivered_or_waiting (c : Call) (t : Tap (Logged σ)) (answer : c.Answer)
    (hstopped : t.monitor.sniffing = false) (h : c.isReplayed t = false) :
    c.delivered answer = [] ∨ t.replay.waiting = [] := by
  cases hread : c.isRead with
  | false => exact .inl (c.delivered_eq_nil hread answer)
  | true => exact .inr (Call.waiting_of_not_isReplayed h hread hstopped)

variable [ByteStream σ]

private theorem call_forwarded (h : Faithful t taken) (env : Surroundings) (c : Call)
    (hforwarded : c.isReplayed t = false) : Faithful (c.onTap env t).2
      (taken ++ if t.monitor.sniffing then [] else c.handed (c.onTap env t).1) := by
  obtain ⟨hresponse, hinner, hreplay, -⟩ := c.onTap_forwarded env t hforwarded
  constructor
  case inBounds =>
    rw [hreplay]
    split
    · exact h.inBounds.append _
    · exact h.inBounds
  case whole =>
    rw [hreplay, hinner, Logged.delivered_next, hresponse, Call.handed_respond, ← h.whole]
    cases hflag : t.monitor.sniffing with
    | true =>
      rw [if_pos rfl, if_pos rfl, List.append_nil, ReplayQueue.waiting_append h.inBounds,
        List.append_assoc]
    | false =>
      rw [if_neg Bool.false_ne_true, if_neg Bool.false_ne_true]
      rcases delivered_or_waiting c t (c.ask t.inner).answer hflag hforwarded with hnil | hnil <;>
        simp only [hnil, List.append_nil]
  case untaken =>
    intro hstill
    have hflag := Call.sniffing_of_onTap env hstill
    rw [h.untaken hflag, hflag]
    rfl

private theorem call_replayed (h : Faithful t taken) (env : Surroundings) (c : Call)
    (hreplayed : c.isReplayed t = true) : Faithful (c.onTap env t).2
      (taken ++ if t.monitor.sniffing then [] else c.handed (c.onTap env t).1) := by
  obtain ⟨hhanded, hinner, hwaiting, hbounds, hsniffing⟩ := c.onTap_replayed env t hreplayed
  have hflag : t.monitor.sniffing = false := Call.sniffing_of_isReplayed hreplayed
  constructor
  case inBounds => exact hbounds h.inBounds
  case whole =>
    rw [hflag, if_neg Bool.false_ne_true, hinner, hwaiting, hhanded, ← h.whole]
    rw [List.append_assoc, List.take_append_drop]
  case untaken =>
    intro hstill
    rw [hsniffing, hflag] at hstill
    cases hstill

/-- A call keeps the account; what it hands out counts as taken unless the tap sniffs. -/
theorem call (h : Faithful t taken) (env : Surroundings) (c : Call) :
    Faithful (c.onTap env t).2
      (taken ++ if t.monitor.sniffing then [] else c.handed (c.onTap env t).1) := by
  cases hreplayed : c.isReplayed t with
  | false => exact h.call_forwarded env c hreplayed
  | true => exact h.call_replayed env c hreplayed

theorem call_stopped (h : Faithful t taken) (hstopped : t.monitor.sniffing = false)
    (env : Surroundings) (c : Call) :
    Faithful (c.onTap env t).2 (taken ++ c.handed (c.onTap env t).1) := by
  have hcall := h.call env c
  rwa [hstopped, if_neg Bool.false_ne_true] at hcall

end Faithful

end PeekRelay
