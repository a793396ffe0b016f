import PeekRelay.Proofs.Trace
/-!
# Taps side by side

Two taps on which the same operations are performed, apart from the bytes. What two of their
monitors have in common is left open, and so is how two of their streams belong together; if the
recorders keep the one and the streams the other, both taps go the same way and come to the same.
-/
namespace PeekRelay

/-- Two streams answer side by side as far as `V` and `V'` reach: what they answer comes to the
same, apart from the bytes, and the stops made meanwhile go together. -/
structure ByteStream.Pairs {σ σ' : Type} [ByteStream σ] [ByteStream σ'] (ρ : UInt8 → UInt8 → Prop)
    (S : List Stop → List Stop → Prop) (V : σ → Prop) (V' : σ' → Prop) (R : σ → σ' → Prop) :
    Prop where
  reflects : ∀ (c : Call) s, V (c.ask s).next → V s
  reflects' : ∀ (c : Call) s, V' (c.ask s).next → V' s
  answers : ∀ {c c' : Call} {s s'}, c.Alike ρ c' → R s s' → V (c.ask s).next → V' (c'.ask s').next →
    (c.upshot (c.ask s).answer).Alike ρ (c'.upshot (c'.ask s').answer) ∧
      S (c.ask s).stops (c'.ask s').stops ∧ R (c.ask s).next (c'.ask s').next

namespace Monitor

def recording (m : Monitor) (f : Recorder → Recorder) : Monitor :=
  { m with recorder := f m.recorder }

def sniffed (m : Monitor) (bs : Bytes) : Monitor :=
  m.recording fun r => r.nextSniff.2.note
    (.sniffed r.nextSniff.1 bs.length (if m.showPayload then some bs else none))

/-- What two monitors have in common, whatever happens to both of them. -/
structure Pairs (env : Surroundings) (ρ : UInt8 → UInt8 → Prop)
    (S : List Stop → List Stop → Prop) (Q : Monitor → Monitor → Prop) : Prop where
  sniffing : ∀ {m m'}, Q m m' → m.sniffing = m'.sniffing
  heedAll : ∀ {stops stops' m m'}, S stops stops' → Q m m' →
    Q (m.heedAll stops) (m'.heedAll stops')
  started : ∀ {m m'} direction, Q m m' →
    Q (m.recording fun r => r.started env direction) (m'.recording fun r => r.started env direction)
  finished : ∀ {m m'} direction, Q m m' →
    Q (m.recording fun r => r.finished env direction)
      (m'.recording fun r => r.finished env direction)
  keep : ∀ {m m' bs bs'} direction, List.Forall₂ ρ bs bs' → Q m m' →
    Q (m.recording fun r => r.keep direction bs) (m'.recording fun r => r.keep direction bs')
  sniffed : ∀ {m m' bs bs'}, List.Forall₂ ρ bs bs' → Q m m' → Q (m.sniffed bs) (m'.sniffed bs')
  failed : ∀ {m m'} e, Q m m' →
    Q (m.recording fun r => r.recordFailure env e) (m'.recording fun r => r.recordFailure env e)
  drained : ∀ {m m'}, Q m m' → Q (m.note .replayDrained) (m'.note .replayDrained)

end Monitor

/-- Two operations are the same, apart from the bytes, and the stops in them go together. -/
inductive Op.Alike (ρ : UInt8 → UInt8 → Prop) (S : List Stop → List Stop → Prop) :
    Op → Op → Prop where
  | call {c c' : Call} : c.Alike ρ c' → Alike ρ S (.call c) (.call c')
  | stop {stop stop' : Stop} : S [stop] [stop'] → Alike ρ S (.stop stop) (.stop stop')
  | sniff {pauses pauses' : List (List Stop)} (wanted : Nat) : List.Forall₂ S pauses pauses' →
    Alike ρ S (.sniff wanted pauses) (.sniff wanted pauses')

namespace Tap

section Reflects

variable {σ : Type} [ByteStream σ] (env : Surroundings) {V : σ → Prop}
  (reflects : ∀ (c : Call) s, V (c.ask s).next → V s)

include reflects

theorem onTap_reflects {c : Call} {t : Tap σ} (h : V (c.onTap env t).2.inner) : V t.inner := by
  cases hreplayed : c.isReplayed t with
  | true => rwa [(c.onTap_replayed env t hreplayed).inner] at h
  | false =>
    rw [(c.onTap_forwarded env t hreplayed).inner] at h
    exact reflects c t.inner h

theorem sniffSource_reflects : (sniffSource env).Reflects fun t : Tap σ => V t.inner where
  pollRead buffer _ h := onTap_reflects env reflects (c := .pollRead buffer) h
  heed _ _ h := h

private theorem perform_reflects {t : Tap σ} {op : Op} (h : V (t.perform env op).inner) :
    V t.inner := by
  cases op with
  | call c => exact onTap_reflects env reflects h
  | stop stop => exact h
  | sniff wanted pauses =>
    exact Sniff.run_reflects (sniffSource_reflects env reflects) wanted pauses t h

theorem after_reflects {t : Tap σ} {ops : List Op} (h : V (t.after env ops).inner) : V t.inner := by
  induction ops generalizing t with
  | nil => exact h
  | cons op ops ih => exact perform_reflects env reflects (ih h)

end Reflects

section Upshots

variable {σ : Type} [ByteStream σ] (env : Surroundings)

/-- What an operation comes to, as the owner of the tap sees it. A stop comes to nothing. -/
def upshot (t : Tap σ) : Op → Upshot
  | .call c => c.outcome (c.onTap env t).1
  | .stop _ => .moved []
  | .sniff wanted pauses => (Sniff.run (sniffSource env) wanted pauses t).1.outcome

def upshots (t : Tap σ) : List Op → List Upshot
  | [] => []
  | op :: ops => t.upshot env op :: (t.perform env op).upshots ops

end Upshots

private theorem foldl_heed {σ : Type} (t : Tap σ) (stops : List Stop) :
    stops.foldl heed t = { t with monitor := t.monitor.heedAll stops } := by
  induction stops generalizing t with
  | nil => rfl
  | cons stop stops ih => exact ih (t.heed stop)

/-- Two taps that are the same, apart from the bytes in their queues and from what is left open. -/
structure Paired {σ σ' : Type} (ρ : UInt8 → UInt8 → Prop) (R : σ → σ' → Prop)
    (Q : Monitor → Monitor → Prop) (t : Tap σ) (t' : Tap σ') : Prop where
  inner : R t.inner t'.inner
  replay : t.replay.Alike ρ t'.replay
  monitor : Q t.monitor t'.monitor

namespace Paired

variable {σ σ' : Type} {env : Surroundings} {ρ : UInt8 → UInt8 → Prop}
  {S : List Stop → List Stop → Prop} {R : σ → σ' → Prop} {Q : Monitor → Monitor → Prop}
  {t : Tap σ} {t' : Tap σ'} {c c' : Call}

section Steps

variable (monitors : Monitor.Pairs env ρ S Q) (h : t.Paired ρ R Q t')

include monitors h

private theorem entered (hcalls : c.Alike ρ c') :
    (t.entered env c).Paired ρ R Q (t'.entered env c') := by
  unfold Tap.entered
  rw [hcalls.direction?_eq]
  cases c'.direction? with
  | none => exact h
  | some direction => exact ⟨h.inner, h.replay, monitors.started direction h.monitor⟩

private theorem settle {α α' : Type} {reply : Reply σ α} {reply' : Reply σ' α'}
    (hstops : S reply.stops reply'.stops) (hnext : R reply.next reply'.next) :
    (t.settle reply).Paired ρ R Q (t'.settle reply') :=
  ⟨hnext, h.replay, monitors.heedAll hstops h.monitor⟩

private theorem recordMoved (sniffing : Bool) {bs bs' : Bytes} (hbytes : List.Forall₂ ρ bs bs')
    (direction : Direction) :
    (t.recordMoved sniffing bs direction).Paired ρ R Q (t'.recordMoved sniffing bs' direction) := by
  have hkept := monitors.keep direction hbytes h.monitor
  cases direction with
  | read =>
    cases sniffing with
    | true => exact ⟨h.inner, h.replay.append hbytes, monitors.sniffed hbytes hkept⟩
    | false => exact ⟨h.inner, h.replay, hkept⟩
  | write => exact ⟨h.inner, h.replay, hkept⟩

private theorem recordFailed (e : IoError) (direction : Direction) :
    (t.recordFailed env e direction).Paired ρ R Q (t'.recordFailed env e direction) := by
  cases direction with
  | read => exact ⟨h.inner, h.replay, monitors.failed e h.monitor⟩
  | write => exact h

private theorem finished (direction : Direction) :
    (t.recording fun r => r.finished env direction).Paired ρ R Q
      (t'.recording fun r => r.finished env direction) :=
  ⟨h.inner, h.replay, monitors.finished direction h.monitor⟩

private theorem concluded (hcalls : c.Alike ρ c') (sniffing : Bool) {u u' : Upshot}
    (hupshot : u.Alike ρ u') :
    (t.concluded env c sniffing u).Paired ρ R Q (t'.concluded env c' sniffing u') := by
  unfold Tap.concluded
  rw [hcalls.direction?_eq]
  rcases c'.direction? with _ | direction
  · exact h
  · cases hupshot with
    | pending => exact h
    | panicked => exact h
    | failed e => exact (h.recordFailed monitors e direction).finished monitors direction
    | moved hbytes =>
      exact (h.recordMoved monitors sniffing hbytes direction).finished monitors direction

private theorem shed : t.shed.Paired ρ R Q t'.shed := by
  unfold Tap.shed
  rw [h.replay.hasRemaining_eq]
  split
  · exact h
  · exact ⟨h.inner, .empty, monitors.drained h.monitor⟩

theorem isReplayed_eq (hcalls : c.Alike ρ c') : c.isReplayed t = c'.isReplayed t' := by
  rw [Call.isReplayed, Call.isReplayed, servesReplay, servesReplay, hcalls.isRead_eq,
    monitors.sniffing h.monitor, h.replay.hasRemaining_eq]

end Steps

section Runs

variable [ByteStream σ] [ByteStream σ'] {V : σ → Prop} {V' : σ' → Prop}
  (streams : ByteStream.Pairs ρ S V V' R) (monitors : Monitor.Pairs env ρ S Q)

include streams monitors

private theorem call (h : t.Paired ρ R Q t') (hcalls : c.Alike ρ c')
    (hV : V (c.onTap env t).2.inner)
    (hV' : V' (c'.onTap env t').2.inner) :
    (c.outcome (c.onTap env t).1).Alike ρ (c'.outcome (c'.onTap env t').1) ∧
      (c.onTap env t).2.Paired ρ R Q (c'.onTap env t').2 := by
  have hsame := h.isReplayed_eq monitors hcalls
  cases hreplayed : c.isReplayed t with
  | true =>
    rw [hreplayed] at hsame
    rw [c.outcome_replayed env t hreplayed, c'.outcome_replayed env t' hsame.symm,
      c.onTap_eq_replay env t hreplayed, c'.onTap_eq_replay env t' hsame.symm, hcalls.room_eq]
    have hentered := h.entered monitors hcalls
    have hadvanced : Paired ρ R Q { t.entered env c with replay := t.replay.advance c'.room }
        { t'.entered env c' with replay := t'.replay.advance c'.room } :=
      ⟨hentered.inner, h.replay.advance _, hentered.monitor⟩
    exact ⟨.moved (List.forall₂_take _ h.replay.waiting),
      (hadvanced.shed monitors).finished monitors .read⟩
  | false =>
    rw [hreplayed] at hsame
    rw [(c.onTap_forwarded env t hreplayed).inner] at hV
    rw [(c'.onTap_forwarded env t' hsame.symm).inner] at hV'
    obtain ⟨hupshot, hstops, hnext⟩ := streams.answers hcalls h.inner hV hV'
    rw [c.onTap_eq_forward env t hreplayed, c'.onTap_eq_forward env t' hsame.symm,
      Call.outcome_respond, Call.outcome_respond, monitors.sniffing h.monitor]
    have hsettled := (h.entered monitors hcalls).settle monitors hstops hnext
    exact ⟨hupshot, hsettled.concluded monitors hcalls t'.monitor.sniffing hupshot⟩

private theorem sniffSource : (Tap.sniffSource env).Pairs (Tap.sniffSource env) ρ S
    (fun t : Tap σ => V t.inner) (fun t : Tap σ' => V' t.inner) (Tap.Paired ρ R Q) where
  reflects := sniffSource_reflects env streams.reflects
  reflects' := sniffSource_reflects env streams.reflects'
  isSniffing h := monitors.sniffing h.monitor
  pollRead room h hV hV' := h.call streams monitors (.pollRead room .nil) hV hV'
  heed {stops stops' x y} hstops h := by
    change (stops.foldl heed x).Paired ρ R Q (stops'.foldl heed y)
    rw [foldl_heed, foldl_heed]
    exact ⟨h.inner, h.replay, monitors.heedAll hstops h.monitor⟩

theorem perform (h : t.Paired ρ R Q t') {op op' : Op} (hops : op.Alike ρ S op')
    (hV : V (t.perform env op).inner) (hV' : V' (t'.perform env op').inner) :
    (t.upshot env op).Alike ρ (t'.upshot env op') ∧
      (t.perform env op).Paired ρ R Q (t'.perform env op') := by
  cases hops with
  | call hcalls => exact h.call streams monitors hcalls hV hV'
  | stop hstops => exact ⟨.moved .nil, h.inner, h.replay, monitors.heedAll hstops h.monitor⟩
  | sniff wanted hpauses =>
    exact Sniff.run_pairs (sniffSource streams monitors) wanted hpauses h hV hV'

/-- A run comes to the same on both taps. -/
theorem after (h : t.Paired ρ R Q t') {ops ops' : List Op}
    (hops : List.Forall₂ (Op.Alike ρ S) ops ops')
    (hV : V (t.after env ops).inner) (hV' : V' (t'.after env ops').inner) :
    List.Forall₂ (Upshot.Alike ρ) (t.upshots env ops) (t'.upshots env ops') ∧
      (t.after env ops).Paired ρ R Q (t'.after env ops') := by
  induction hops generalizing t t' with
  | nil => exact ⟨.nil, h⟩
  | cons hop hops ih =>
    obtain ⟨hupshot, hnext⟩ := h.perform streams monitors hop
      (after_reflects env streams.reflects hV) (after_reflects env streams.reflects' hV')
    obtain ⟨hupshots, hlast⟩ := ih hnext hV hV'
    exact ⟨.cons hupshot hupshots, hlast⟩

end Runs

end Paired

end Tap

end PeekRelay
