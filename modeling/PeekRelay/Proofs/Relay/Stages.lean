import PeekRelay.Proofs.Relay.Routes
import PeekRelay.Proofs.Sniff
import PeekRelay.Proofs.Trace
/-!
# The stages of a session

While a session sniffs, all that its client delivered waits for replay. At the handoff both
directions get their ledgers, and the pumps keep them until the session is over.
-/
namespace PeekRelay

namespace Logged

/-- No call of the stream was interrupted by a stop of the sniffing. -/
def Unstopped {σ : Type} (s : Logged σ) : Prop := ∀ a ∈ s.log, Stop.sniffing ∉ a.stops

instance {σ : Type} (s : Logged σ) : Decidable s.Unstopped :=
  inferInstanceAs (Decidable (∀ a ∈ s.log, Stop.sniffing ∉ a.stops))

end Logged

/-- A client of which nothing was handed on yet, and to which nothing was sent. -/
structure Tap.Untaken {σ : Type} (t : Tap (Logged σ)) : Prop where
  sniffing : t.monitor.sniffing = true
  faithful : Faithful t []
  silent : t.inner.accepted = []

namespace Tap.Untaken

variable {σ : Type} {t : Tap (Logged σ)}

private theorem recording (h : t.Untaken) (f : Recorder → Recorder) : (t.recording f).Untaken :=
  ⟨h.sniffing, h.faithful.observed id, h.silent⟩

private theorem heed (h : t.Untaken) {stop : Stop} (hstop : stop ≠ .sniffing) :
    (t.heed stop).Untaken := by
  have hsniffing : (t.heed stop).monitor.sniffing = true := by
    rw [heed_sniffing, h.sniffing, decide_eq_false hstop.symm]
    rfl
  exact ⟨hsniffing, h.faithful.heed stop, h.silent⟩

variable [ByteStream σ] (env : Surroundings)

private theorem unstopped_of_onTap {c : Call} (h : (c.onTap env t).2.inner.Unstopped) :
    t.inner.Unstopped := by
  intro a ha
  refine h a ?_
  rw [Trace.log_onTap]
  exact List.mem_append_left _ ha

private theorem pollRead (h : t.Untaken) (buffer : ReadBuffer)
    (hunstopped : (t.pollRead env buffer).2.inner.Unstopped) :
    (t.pollRead env buffer).2.Untaken := by
  have hreplayed : (Call.pollRead buffer).isReplayed t = false := by
    rw [Call.isReplayed, Tap.servesReplay, h.sniffing]
    rfl
  have hforwarded := (Call.pollRead buffer).onTap_forwarded env t hreplayed
  have hinner : (t.pollRead env buffer).2.inner = _ := hforwarded.inner
  constructor
  case sniffing =>
    have hsniffing : (t.pollRead env buffer).2.monitor.sniffing = _ := hforwarded.sniffing
    have hlast : Stop.sniffing ∉ ((Call.pollRead buffer).ask t.inner).stops := by
      refine hunstopped ⟨_, _, ((Call.pollRead buffer).ask t.inner).answer⟩ ?_
      rw [hinner, Logged.log_next]
      exact List.mem_append_right _ (List.mem_singleton_self _)
    rw [hsniffing, h.sniffing, decide_eq_false hlast]
    rfl
  case faithful =>
    have hfaithful := h.faithful.call env (.pollRead buffer)
    rwa [h.sniffing, if_pos rfl] at hfaithful
  case silent => rw [hinner, Logged.accepted_next, Call.accepted_eq_nil _ rfl, h.silent]; rfl

private theorem resumeSniff (h : t.Untaken) (s : Sniff)
    (hunstopped : (t.resumeSniff env s).2.2.inner.Unstopped) :
    (t.resumeSniff env s).2.2.Untaken := by
  have hread (buffer : ReadBuffer) (t' : Tap (Logged σ)) (h' : t'.inner.Unstopped → t'.Untaken)
      (hunstopped' : ((Tap.sniffSource env).pollRead buffer t').2.inner.Unstopped) :
      ((Tap.sniffSource env).pollRead buffer t').2.Untaken := by
    have hbefore := unstopped_of_onTap (c := .pollRead buffer) env hunstopped'
    exact (h' hbefore).pollRead env buffer hunstopped'
  exact Sniff.resume_keeps (P := fun t => t.inner.Unstopped → t.Untaken) hread s t (fun _ => h)
    hunstopped

end Tap.Untaken

namespace Relay

variable {σ υ : Type} {retries : IoError → Bool}

/-- What was accepted on either side was delivered on the other side, in this order. -/
structure Prefixes (client : Logged σ) (target : Logged υ) : Prop where
  up : target.accepted <+: client.delivered
  down : client.accepted <+: target.delivered

/-- All that was delivered on one side was accepted on the other side, and both inputs ended. -/
structure Whole (client : Logged σ) (target : Logged υ) (toTarget toClient : Nat) : Prop where
  up : target.accepted = client.delivered
  upCount : toTarget = client.delivered.length
  upEnded : client.InputEnded
  down : client.accepted = target.delivered
  downCount : toClient = target.delivered.length
  downEnded : target.InputEnded

/-- What holds of a session at each of its stages. -/
def Sound (r : Relay (Logged σ) (Logged υ) (Pump.copier retries)) : Prop :=
  match r.stage with
  | .fresh | .sniffing _ _ => r.client.Untaken ∧ r.target.log = []
  | .copying (toTarget, toClient) => ∃ up down, LedgersMatch up down r.client r.target ∧
      Pump.Balanced up toTarget ∧ Pump.Balanced down toClient
  | .over (.returned (.ok (toTarget, toClient))) => Whole r.client.inner r.target toTarget toClient
  | .over _ => Prefixes r.client.inner r.target

def beforeHandOff {σ υ : Type} {copier : Copier} (r : Relay σ υ copier) : Bool :=
  match r.stage with
  | .fresh | .sniffing _ _ => true
  | _ => false

section LedgersMatch

variable {t : Tap (Logged σ)} {u : Logged υ} {up down : Ledger}

private theorem prefixes_of_untaken (h : t.Untaken) (hu : u.log = []) : Prefixes t.inner u where
  up := by
    rw [Logged.accepted, hu]
    exact List.nil_prefix
  down := by
    rw [h.silent]
    exact List.nil_prefix

private theorem LedgersMatch.prefixes (h : LedgersMatch up down t u)
    (hup : up.accepted <+: up.handed)
    (hdown : down.accepted <+: down.handed) : Prefixes t.inner u where
  up := by
    rw [h.sent, ← h.taken.whole]
    exact hup.trans (List.prefix_append _ _)
  down := by
    rw [h.answered, h.received]
    exact hdown

private theorem Whole.prefixes {s : Logged σ} {toTarget toClient : Nat}
    (h : Whole s u toTarget toClient) : Prefixes s u where
  up := h.up ▸ List.prefix_rfl
  down := h.down ▸ List.prefix_rfl

private theorem LedgersMatch.whole (h : LedgersMatch up down t u) {toTarget toClient : Pump}
    (hup : Pump.Balanced up toTarget) (hdown : Pump.Balanced down toClient)
    (hupDone : toTarget.phase = .done) (hdownDone : toClient.phase = .done) :
    Whole t.inner u toTarget.copied toClient.copied := by
  obtain ⟨hupEnded, hupDrained⟩ := hup.drained (by rw [hupDone]; decide)
  obtain ⟨hdownEnded, hdownDrained⟩ := hdown.drained (by rw [hdownDone]; decide)
  obtain ⟨hwaiting, hupInput⟩ := h.upEnded (hup.ended.trans hupEnded)
  have hupAll : u.accepted = t.inner.delivered := by
    rw [h.sent, ← h.taken.whole, hwaiting, ← hup.balance, hupDrained]
    simp only [List.append_nil]
  have hdownAll : t.inner.accepted = u.delivered := by
    rw [h.answered, h.received, ← hdown.balance, hdownDrained, List.append_nil]
  exact
    { up := hupAll
      upCount := by rw [← hupAll, h.sent, hup.copied]
      upEnded := hupInput
      down := hdownAll
      downCount := by rw [← hdownAll, h.answered, hdown.copied]
      downEnded := h.downEnded (hdown.ended.trans hdownEnded) }

end LedgersMatch

section Stages

variable {r : Relay (Logged σ) (Logged υ) (Pump.copier retries)}

theorem Sound.prefixes (h : r.Sound) : Prefixes r.client.inner r.target := by
  unfold Sound at h
  split at h
  · exact prefixes_of_untaken h.1 h.2
  · exact prefixes_of_untaken h.1 h.2
  · obtain ⟨up, down, hledgers, hup, hdown⟩ := h
    exact hledgers.prefixes hup.prefix_handed hdown.prefix_handed
  · exact h.prefixes
  · exact h

private theorem note_untaken (h : r.client.Untaken) (e : Event) : (r.note e).client.Untaken :=
  h.recording fun recorder => recorder.note e

theorem handOff_inner {copier : Copier} {r : Relay (Logged σ) (Logged υ) copier} :
    r.handOff.client.inner = r.client.inner := by
  unfold handOff
  cases r.settings.keepCopies <;> rfl

private theorem handOff_sound (h : r.client.Untaken) (htarget : r.target.log = []) :
    r.handOff.Sound := by
  have hstopped : (r.client.heed .sniffing).monitor.sniffing = false := by
    rw [Tap.heed_sniffing, decide_eq_true rfl, Bool.not_true, Bool.and_false]
  have hledgers : LedgersMatch {} {} (r.client.heed .sniffing) r.target :=
    { stopped := hstopped
      taken := h.faithful.heed .sniffing
      sent := by rw [Logged.accepted, htarget]; rfl
      upEnded := nofun
      received := by rw [Logged.delivered, htarget]; rfl
      answered := h.silent
      downEnded := nofun }
  refine ⟨{}, {}, ?_, .start, .start⟩
  unfold handOff
  cases r.settings.keepCopies with
  | true => exact hledgers
  | false => exact hledgers.heed .copying

private theorem begin_sound (now : Nat) (h : r.client.Untaken) (htarget : r.target.log = []) :
    (r.begin now).Sound := by
  have hprefixes := prefixes_of_untaken h htarget
  unfold begin
  split
  · exact hprefixes
  · exact hprefixes
  · exact ⟨h, htarget⟩

theorem stop_sound (stop : Stop) (h : r.Sound) (hstop : r.beforeHandOff = true → stop ≠ .sniffing) :
    Sound { r with client := r.client.heed stop } := by
  unfold Sound
  rcases hstage : r.stage with _ | ⟨s, deadline⟩ | ⟨toTarget, toClient⟩ | ⟨(e | counts) | _⟩ <;>
    simp only [Sound, beforeHandOff, hstage] at h hstop ⊢
  · exact ⟨h.1.heed (hstop trivial), h.2⟩
  · exact ⟨h.1.heed (hstop trivial), h.2⟩
  · obtain ⟨up, down, hledgers, hup, hdown⟩ := h
    exact ⟨up, down, hledgers.heed stop, hup, hdown⟩
  all_goals exact h

end Stages

section Polls

variable [ByteStream σ] (env : Surroundings) {r : Relay (Logged σ) (Logged υ) (Pump.copier retries)}

private theorem pollSniff_sound (now : Nat) (s : Sniff) (deadline : Nat) (h : r.client.Untaken)
    (htarget : r.target.log = [])
    (hunstopped : (r.pollSniff env now s deadline).client.inner.Unstopped) :
    (r.pollSniff env now s deadline).Sound := by
  have hresume := h.resumeSniff env s
  unfold pollSniff at hunstopped ⊢
  generalize r.client.resumeSniff env s = resumed at hresume hunstopped ⊢
  obtain ⟨_ | e | bytes, s', client⟩ := resumed
  · by_cases hlate : deadline ≤ now
    · simp only [if_pos hlate, handOff_inner] at hunstopped ⊢
      have huntaken : client.Untaken := hresume hunstopped
      exact handOff_sound (note_untaken huntaken _) htarget
    · simp only [if_neg hlate] at hunstopped ⊢
      exact ⟨hresume hunstopped, htarget⟩
  · exact prefixes_of_untaken (t := client) (hresume hunstopped) htarget
  · simp only [handOff_inner] at hunstopped
    have huntaken : client.Untaken := hresume hunstopped
    exact handOff_sound (note_untaken (note_untaken huntaken _) _) htarget

private theorem advance_sound (now : Nat) (h : r.Sound)
    (hunstopped : r.beforeHandOff = true → (r.advance env now).client.inner.Unstopped) :
    (r.advance env now).Sound := by
  unfold advance at hunstopped ⊢
  cases hstage : r.stage with
  | sniffing s deadline =>
    simp only [Sound, beforeHandOff, hstage] at h hunstopped
    exact pollSniff_sound env now s deadline h.1 h.2 (hunstopped trivial)
  | _ => exact h

private theorem lead_sound (now : Nat) (h : r.Sound)
    (hunstopped : r.beforeHandOff = true → (r.lead env now).client.inner.Unstopped) :
    (r.lead env now).Sound := by
  unfold lead at hunstopped ⊢
  cases hstage : r.stage with
  | fresh =>
    simp only [Sound, beforeHandOff, hstage] at h hunstopped
    exact advance_sound env now (begin_sound now h.1 h.2) fun _ => hunstopped trivial
  | _ =>
    simp only [hstage] at hunstopped
    exact advance_sound env now h hunstopped

variable [ByteStream υ]

private theorem pollCopy_sound (budget : Nat) {toTarget toClient : Pump} {up down : Ledger}
    (hledgers : LedgersMatch up down r.client r.target) (hup : Pump.Balanced up toTarget)
    (hdown : Pump.Balanced down toClient) :
    (r.pollCopy env budget (toTarget, toClient)).1.Sound := by
  have hsettled := Pump.pollBoth_settled (r.client, r.target) retries (toTarget_keeps env)
    (toClient_keeps env) budget hledgers hup hdown
  unfold pollCopy
  change Pump.BothSettled _ ((Pump.copier retries).poll _ _ _ _ _) at hsettled
  generalize (Pump.copier retries).poll (Relay.toTarget env) (Relay.toClient env) budget
    (toTarget, toClient) (r.client, r.target) = polled at hsettled ⊢
  obtain ⟨turn, ⟨toTarget', toClient'⟩, client, target⟩ := polled
  obtain ⟨up', down', hledgers', hturn⟩ := hsettled
  cases turn with
  | waits again => exact ⟨up', down', hledgers', hturn⟩
  | finished a b =>
    obtain ⟨⟨hup', hupDone, rfl⟩, hdown', hdownDone, rfl⟩ := hturn
    exact hledgers'.whole hup' hdown' hupDone hdownDone
  | failed e => exact hledgers'.prefixes hturn.1 hturn.2
  | panicked => exact hledgers'.prefixes hturn.1 hturn.2

theorem poll_sound (now budget : Nat) (h : r.Sound)
    (hunstopped : r.beforeHandOff = true → (r.lead env now).client.inner.Unstopped) :
    (r.poll env now budget).1.Sound := by
  have hlead := lead_sound env now h hunstopped
  unfold poll
  cases hstage : (r.lead env now).stage with
  | copying copying =>
    simp only [Sound, hstage] at hlead
    obtain ⟨up, down, hledgers, hup, hdown⟩ := hlead
    simp only [hstage]
    exact pollCopy_sound env budget hledgers hup hdown
  | _ =>
    simp only [hstage]
    exact hlead

end Polls

end Relay

end PeekRelay
