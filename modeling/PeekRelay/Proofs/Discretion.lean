import PeekRelay.Proofs.Parallel
import PeekRelay.Tap.Whole
/-!
# The log is discreet

If payload is not to be shown, the log tells nothing of it but how much there was. Two taps through
which the same numbers of bytes went, whatever bytes they were, report the same.
-/
namespace PeekRelay

def Monitor.records (m : Monitor) : List String := m.log.map (Event.record m.id)

def AnyBytes : UInt8 → UInt8 → Prop := fun _ _ => True

/-- Bytes that say no more than how many they are. -/
def Bytes.blank (bs : Bytes) : Bytes := bs.map fun _ => 0

@[simp] private theorem Bytes.length_blank (bs : Bytes) :
    bs.blank.length = bs.length := List.length_map ..

private theorem Bytes.blank_eq_iff {bs bs' : Bytes} :
    bs.blank = bs'.blank ↔ List.Forall₂ AnyBytes bs bs' := by
  have hblank : bs.blank = bs'.blank ↔ List.Forall₂ Eq bs.blank bs'.blank := by
    rw [List.forall₂_eq_eq_eq]
  rw [hblank, blank, blank, List.forall₂_map_left_iff, List.forall₂_map_right_iff]
  simp only [eq_self]
  exact Iff.rfl

/-- Two answers come to the same, apart from the bytes, and the same stops were made meanwhile. -/
structure Answered.Alike (ρ : UInt8 → UInt8 → Prop) (a a' : Answered) : Prop where
  stops : a.stops = a'.stops
  upshot : (a.call.upshot a.answer).Alike ρ (a'.call.upshot a'.answer)

section Decidable

deriving instance DecidableEq for Upshot

def Upshot.blank : Upshot → Upshot
  | .moved bs => .moved bs.blank
  | u => u

private theorem Upshot.blank_eq_iff {u u' : Upshot} : u.blank = u'.blank ↔ u.Alike AnyBytes u' := by
  constructor
  · intro h
    rcases u with _ | _ | e | bs <;> rcases u' with _ | _ | e' | bs' <;>
      simp only [blank, moved.injEq, failed.injEq, reduceCtorEq] at h
    · exact .pending
    · exact .panicked
    · exact h ▸ .failed e
    · exact .moved (Bytes.blank_eq_iff.mp h)
  · intro h
    cases h with
    | moved hbytes => exact congrArg Upshot.moved (Bytes.blank_eq_iff.mpr hbytes)
    | _ => rfl

instance (u u' : Upshot) : Decidable (u.Alike AnyBytes u') := decidable_of_iff _ Upshot.blank_eq_iff

instance (a a' : Answered) : Decidable (a.Alike AnyBytes a') :=
  decidable_of_iff (a.stops = a'.stops ∧
      (a.call.upshot a.answer).Alike AnyBytes (a'.call.upshot a'.answer))
    ⟨fun h => ⟨h.1, h.2⟩, fun h => ⟨h.stops, h.upshot⟩⟩

end Decidable

namespace Logged

variable {σ σ' : Type} [ByteStream σ] [ByteStream σ'] {ρ : UInt8 → UInt8 → Prop}
  {log log' : List Answered}

private theorem reflects_log (log : List Answered) (c : Call) (s : Logged σ)
    (h : (c.ask s).next.log <+: log) : s.log <+: log := by
  rw [log_next] at h
  exact (List.prefix_append _ _).trans h

private theorem pairs_of_alike (h : List.Forall₂ (Answered.Alike ρ) log log') :
    ByteStream.Pairs ρ Eq (fun s : Logged σ => s.log <+: log) (fun s : Logged σ' => s.log <+: log')
      (fun s s' => s.log.length = s'.log.length) where
  reflects := reflects_log log
  reflects' := reflects_log log'
  answers {c c' s s'} hcalls hlength hlog hlog' := by
    rw [log_next] at hlog hlog'
    obtain ⟨later, rfl⟩ := hlog
    obtain ⟨later', rfl⟩ := hlog'
    have hhere := List.forall₂_drop s.log.length h
    rw [List.append_assoc, List.append_assoc, List.drop_left, hlength, List.drop_left] at hhere
    have halike := (List.forall₂_cons.mp hhere).1
    refine ⟨halike.upshot, halike.stops, ?_⟩
    rw [log_next, log_next, List.length_append, List.length_append, hlength]
    rfl

end Logged

def Copies.blank (c : Copies) : Copies :=
  { c with read := c.read.blank, written := c.written.blank }

def Monitor.blank (m : Monitor) : Monitor :=
  m.recording fun r => { r with copies := r.copies.blank }

namespace Monitor

variable (m : Monitor)

private theorem blank_heed (stop : Stop) : (m.heed stop).blank = m.blank.heed stop := by
  cases stop with
  | sniffing =>
    by_cases h : m.sniffing <;> simp [heed, stopSniffing, blank, recording, h, note, Recorder.note]
  | copying =>
    by_cases h : m.recorder.copies.stopped <;>
      simp [heed, stopCopying, blank, recording, Recorder.stopCopying, Recorder.clearFlag,
        Recorder.releaseCopies, Recorder.note, Copies.blank, Copies.released, h] <;> rfl

private theorem blank_keep (direction : Direction) (bs : Bytes) :
    (m.recording fun r => r.keep direction bs).blank =
      m.blank.recording fun r => r.keep direction bs.blank := by
  cases hcopying : m.recorder.copying <;> cases hstopped : m.recorder.copies.stopped <;>
    cases direction <;>
    simp [recording, blank, Recorder.keep, Recorder.append, Copies.append, Copies.blank,
      Bytes.blank, hcopying, hstopped]

private theorem blank_sniffed (h : m.showPayload = false) (bs : Bytes) :
    (m.sniffed bs).blank = m.blank.sniffed bs.blank := by
  simp [sniffed, blank, recording, Recorder.nextSniff, Recorder.note, h]

/-- Two monitors that do not show payload and agree on all but the bytes of their copies. -/
structure SameReports (m m' : Monitor) : Prop where
  blank : m.blank = m'.blank
  hidden : m.showPayload = false

variable {m} {m' : Monitor}

private theorem SameReports.hidden' (h : m.SameReports m') : m'.showPayload = false := by
  have hsame := congrArg showPayload h.blank
  exact hsame.symm.trans h.hidden

private theorem SameReports.heedAll (h : m.SameReports m') (stops : List Stop) :
    (m.heedAll stops).SameReports (m'.heedAll stops) := by
  refine ⟨?_, (m.heedAll_showPayload stops).trans h.hidden⟩
  have hblank : ∀ m : Monitor, (m.heedAll stops).blank = m.blank.heedAll stops := by
    intro m
    induction stops generalizing m with
    | nil => rfl
    | cons stop stops ih =>
      change ((m.heed stop).heedAll stops).blank = (m.blank.heed stop).heedAll stops
      rw [ih, blank_heed]
  rw [hblank, hblank, h.blank]

private theorem SameReports.recording (h : m.SameReports m') (f : Recorder → Recorder)
    (hf : ∀ m : Monitor, (m.recording f).blank = m.blank.recording f) :
    (m.recording f).SameReports (m'.recording f) := by
  refine ⟨?_, h.hidden⟩
  rw [hf, hf, h.blank]

private theorem sameReports_pairs (env : Surroundings) : Pairs env AnyBytes Eq SameReports where
  sniffing h := by
    have hsame := congrArg Monitor.sniffing h.blank
    exact hsame
  heedAll {stops _ _ _} hstops h := hstops ▸ h.heedAll stops
  started direction h := h.recording _ fun _ => rfl
  finished direction h := h.recording _ fun _ => rfl
  keep direction hbytes h := by
    refine ⟨?_, h.hidden⟩
    rw [blank_keep, blank_keep, h.blank, Bytes.blank_eq_iff.mpr hbytes]
  sniffed hbytes h := by
    refine ⟨?_, h.hidden⟩
    rw [blank_sniffed _ h.hidden, blank_sniffed _ h.hidden', h.blank, Bytes.blank_eq_iff.mpr hbytes]
  failed e h := h.recording _ fun _ => rfl
  drained h := h.recording (fun r => r.note .replayDrained) fun _ => rfl

end Monitor

section Runs

variable {σ σ' : Type} [ByteStream σ] [ByteStream σ'] (env : Surroundings)

private theorem Tap.take_reflects {log : List Answered} {t : Tap (Logged σ)} {ops : List Op}
    (h : (t.after env ops).inner.log <+: log) (n : Nat) :
    (t.after env (ops.take n)).inner.log <+: log := by
  have hsplit : t.after env ops = (t.after env (ops.take n)).after env (ops.drop n) := by
    rw [after, after, after, ← List.foldl_append, List.take_append_drop]
  rw [hsplit] at h
  exact after_reflects env (V := fun s : Logged σ => s.log <+: log) (Logged.reflects_log log) h

/-- A log without payload reveals nothing of the payload. Take two runs of the same operations, with
any data of the same lengths, over streams that answered the same, with any data of the same
lengths, each time one was asked. Then every operation came to the same, and after each number of
operations the two logs have the same records, and the flags, the counts, the lengths of the copies,
the number of bytes that wait to be replayed, the timeline and the trace of failure are the same. -/
theorem log_reveals_no_payload (s : σ) (s' : σ') (id : Uuid) (settings settings' : SniffSettings)
    (hcopying : settings.copying = settings'.copying) (hhidden : settings.showPayload = false)
    (hhidden' : settings'.showPayload = false) (ops ops' : List Op)
    (hops : List.Forall₂ (Op.Alike AnyBytes Eq) ops ops') :
    let t₀ := Tap.wrap (⟨s, []⟩ : Logged σ) id settings
    let t₀' := Tap.wrap (⟨s', []⟩ : Logged σ') id settings'
    (t₀.after env ops).forget = (Tap.wrap s id settings).after env ops ∧
      (t₀'.after env ops').forget = (Tap.wrap s' id settings').after env ops' ∧
      (List.Forall₂ (Answered.Alike AnyBytes) (t₀.after env ops).inner.log
          (t₀'.after env ops').inner.log →
        List.Forall₂ (Upshot.Alike AnyBytes) (t₀.upshots env ops) (t₀'.upshots env ops') ∧
        ∀ n, let t := t₀.after env (ops.take n)
          let t' := t₀'.after env (ops'.take n)
          let r := t.monitor.recorder
          let r' := t'.monitor.recorder
          t.monitor.records = t'.monitor.records ∧ t.monitor.sniffing = t'.monitor.sniffing ∧
            r.copying = r'.copying ∧ r.copies.stopped = r'.copies.stopped ∧
            r.copies.read.length = r'.copies.read.length ∧
            r.copies.written.length = r'.copies.written.length ∧
            r.sniffCount = r'.sniffCount ∧ t.replayPending = t'.replayPending ∧
            r.timeline = r'.timeline ∧ r.failure = r'.failure) := by
  intro t₀ t₀'
  refine ⟨t₀.after_forget env ops, t₀'.after_forget env ops', ?_⟩
  intro halike
  have hstreams : ByteStream.Pairs AnyBytes Eq
      (fun s : Logged σ => s.log <+: (t₀.after env ops).inner.log)
      (fun s : Logged σ' => s.log <+: (t₀'.after env ops').inner.log) _ :=
    Logged.pairs_of_alike halike
  have hmonitors := Monitor.sameReports_pairs env
  have hstart : t₀.Paired AnyBytes (fun s s' => s.log.length = s'.log.length) Monitor.SameReports
      t₀' := by
    refine ⟨rfl, .empty, ?_, hhidden⟩
    change Monitor.blank ((Monitor.new id settings).note .wrapped) =
      Monitor.blank ((Monitor.new id settings').note .wrapped)
    rw [Monitor.new, Monitor.new, hcopying, hhidden, hhidden']
  refine ⟨(hstart.after hstreams hmonitors hops List.prefix_rfl List.prefix_rfl).1, ?_⟩
  intro n t t' r r'
  have hlog := Tap.take_reflects env (List.prefix_refl (t₀.after env ops).inner.log) n
  have hlog' := Tap.take_reflects env (List.prefix_refl (t₀'.after env ops').inner.log) n
  have ht := (hstart.after hstreams hmonitors (List.forall₂_take n hops) hlog hlog').2
  have hpart : ∀ {α : Type} (part : Monitor → α), part t.monitor.blank = part t'.monitor.blank :=
    fun part => congrArg part ht.monitor.blank
  have hread : t.monitor.blank.recorder.copies.read.length =
      t'.monitor.blank.recorder.copies.read.length := hpart fun m => m.recorder.copies.read.length
  have hwritten : t.monitor.blank.recorder.copies.written.length =
      t'.monitor.blank.recorder.copies.written.length :=
    hpart fun m => m.recorder.copies.written.length
  refine ⟨hpart Monitor.records, hpart Monitor.sniffing, hpart fun m => m.recorder.copying,
    hpart fun m => m.recorder.copies.stopped, ?_, ?_, hpart fun m => m.recorder.sniffCount,
    ht.replay.remaining_eq, hpart fun m => m.recorder.timeline, hpart fun m => m.recorder.failure⟩
  · exact (Bytes.length_blank _).symm.trans (hread.trans (Bytes.length_blank _))
  · exact (Bytes.length_blank _).symm.trans (hwritten.trans (Bytes.length_blank _))

/-- A stream that delivers three bytes, lets its reader wait, delivers two more, and fails. -/
def telling (a b c d e : UInt8) : Script :=
  { reads := [{ act := .data [a, b, c] }, { act := .pending },
      { stop := some .copying, act := .data [d, e] }, { act := .fail (.bare .timedOut) }] }

/-- Two runs with other bytes throughout, one of which sniffed a password. -/
theorem log_reveals_no_payload_password :
    let settings : SniffSettings := { showPayload := false }
    let ops := fun data => [.call (.write data), .sniff 4 [[]], .stop .sniffing, .call (.read 9),
      .call (.read 9)]
    let t₀ := Tap.wrap (⟨telling 112 119 58 97 98, []⟩ : Logged Script) .zero settings
    let t₀' := Tap.wrap (⟨telling 0 1 2 3 4, []⟩ : Logged Script) .zero settings
    let t := t₀.after .ticking (ops [120, 121])
    let t' := t₀'.after .ticking (ops [7, 8])
    List.Forall₂ (Answered.Alike AnyBytes) t.inner.log t'.inner.log ∧
      t.inner.delivered = [112, 119, 58, 97, 98] ∧ t'.inner.delivered = [0, 1, 2, 3, 4] ∧
      t.monitor.log.length = 7 ∧ t.monitor.records = t'.monitor.records := by
  intro settings ops t₀ t₀' t t'
  have halike : List.Forall₂ (Answered.Alike AnyBytes) t.inner.log t'.inner.log := by
    decide +kernel
  have hdelivered : t.inner.delivered = [112, 119, 58, 97, 98] := by decide +kernel
  have hdelivered' : t'.inner.delivered = [0, 1, 2, 3, 4] := by decide +kernel
  have hlength : t.monitor.log.length = 7 := by decide +kernel
  have hops : List.Forall₂ (Op.Alike AnyBytes Eq) (ops [120, 121]) (ops [7, 8]) :=
    .cons (.call (.write (Bytes.blank_eq_iff.mp rfl))) (.cons (.sniff 4 (by decide))
      (.cons (.stop rfl) (.cons (.call (.read 9)) (.cons (.call (.read 9)) .nil))))
  obtain ⟨-, -, hreveals⟩ := log_reveals_no_payload .ticking (telling 112 119 58 97 98)
    (telling 0 1 2 3 4) .zero settings settings rfl rfl rfl _ _ hops
  exact ⟨halike, hdelivered, hdelivered', hlength, ((hreveals halike).2 5).1⟩

end Runs

end PeekRelay
