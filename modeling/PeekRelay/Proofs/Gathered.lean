import PeekRelay.Proofs.Copies
import PeekRelay.Proofs.Panics
/-!
# A vectored write is a write of all its slices

What a tap makes of a write depends on the bytes that it offers and on what the stream answers, and
neither on how the bytes are cut into slices nor on the stream that is asked.
-/
namespace PeekRelay

namespace Tap

section Around

variable {σ τ : Type} (env : Surroundings) (t : Tap σ) (s : τ)

def around (t : Tap σ) (s : τ) : Tap τ := { inner := s, replay := t.replay, monitor := t.monitor }

variable {c c' : Call}

private theorem around_entered (h : c'.direction? = c.direction?) :
    (t.around s).entered env c' = (t.entered env c).around s := by
  unfold entered
  rw [h]
  cases c.direction? <;> rfl

private theorem around_settle {α β : Type} {reply : Reply σ α} {reply' : Reply τ β}
    (h : reply'.stops = reply.stops) :
    (t.around s).settle reply' = (t.settle reply).around reply'.next := by
  rw [settle, h]
  rfl

private theorem around_concluded (h : c'.direction? = c.direction?) (sniffing : Bool) (u : Upshot) :
    (t.around s).concluded env c' sniffing u = (t.concluded env c sniffing u).around s := by
  unfold concluded
  rw [h]
  rcases c.direction? with _ | direction
  · rfl
  · cases u with
    | moved bs => cases direction <;> cases sniffing <;> rfl
    | failed e => cases direction <;> rfl
    | pending | panicked => rfl

end Around

end Tap

namespace Call

variable {σ τ : Type} [ByteStream σ] [ByteStream τ] (env : Surroundings)

private theorem onTap_around (c c' : Call) (t : Tap σ) (s' : τ)
    (hdirection : c'.direction? = c.direction?)
    (hforwarded : c.isReplayed t = false)
    (hstops : (c'.ask s').stops = (c.ask t.inner).stops)
    (hupshot : c'.upshot (c'.ask s').answer = c.upshot (c.ask t.inner).answer) :
    (c'.onTap env (t.around s')).2 = (c.onTap env t).2.around (c'.ask s').next := by
  have hforwarded' : c'.isReplayed (t.around s') = false := by
    rw [isReplayed, isRead_eq, hdirection, ← isRead_eq]
    exact hforwarded
  rw [c.onTap_eq_forward env t hforwarded, c'.onTap_eq_forward env (t.around s') hforwarded']
  change (((t.around s').entered env c').settle (c'.ask s')).concluded env c' t.monitor.sniffing
    (c'.upshot (c'.ask s').answer) = _
  rw [hupshot, t.around_entered env s' hdirection, Tap.around_settle _ s' hstops,
    Tap.around_concluded _ _ _ hdirection]

section Slices

variable (slices : List Bytes)

private theorem upshot_flatten (answer : Result Nat) :
    (write slices.flatten).upshot answer = (writeVectored slices).upshot answer := by
  cases answer <;> rfl

private theorem upshot_flatten_polled (answer : Poll (Result Nat)) :
    (pollWrite slices.flatten).upshot answer = (pollWriteVectored slices).upshot answer := by
  rcases answer with _ | _ | _ <;> rfl

end Slices

end Call

/-- Copies are kept, or there are none. -/
def Recorder.Orderly (r : Recorder) : Prop :=
  r.copies.stopped = !r.copying ∧ (r.copying = false → r.copies = .released)

private theorem Copied.orderly {σ : Type} {kept : Bool} {r : Recorder} {s : Logged σ}
    (h : Copied kept r s) : r.Orderly := by
  rw [Recorder.Orderly, h.copying, h.copies]
  cases kept with
  | true => exact ⟨rfl, nofun⟩
  | false => exact ⟨rfl, fun _ => rfl⟩

/-- The copies after these stops and a write of these bytes: there are none once copying was
stopped. -/
def Recorder.extended (r : Recorder) (stops : List Stop) (bs : Bytes) : Copies :=
  if r.copying = true ∧ Stop.copying ∉ stops then
    { r.copies with written := r.copies.written ++ bs }
  else .released

private theorem Recorder.Orderly.keep_halted {r : Recorder} (h : r.Orderly) (stops : List Stop)
    (es : List Event) (bs : Bytes) :
    ((r.halted (decide (Stop.copying ∈ stops)) es).keep .write bs).copies =
      r.extended stops bs := by
  obtain ⟨hstopped, hreleased⟩ := h
  unfold extended
  cases hcopying : r.copying with
  | true =>
    rw [hcopying] at hstopped
    by_cases hstops : Stop.copying ∈ stops <;>
      simp [halted, keep, append, Copies.append, hcopying, hstopped, hstops]
  | false => simp [halted, keep, hcopying, hreleased hcopying]

namespace Tap

variable {σ τ : Type} [ByteStream σ] [ByteStream τ] (env : Surroundings)

private theorem orderly_after (s : σ) (id : Uuid) (settings : SniffSettings) (ops : List Op) :
    ((wrap s id settings).after env ops).monitor.recorder.Orderly := by
  have hstart : Copied settings.copying (wrap (⟨s, []⟩ : Logged σ) id settings).monitor.recorder
    ⟨s, []⟩ := .wrap s id settings
  rw [← follow_course_forget env s id settings ops, forget_monitor]
  exact (hstart.follow env _).orderly

private theorem copies_claimed {t : Tap σ} (h : t.monitor.recorder.Orderly) (c : Call) {n : Nat}
    (hclaimed : c.claimed? (c.ask t.inner).answer = some n) :
    (c.onTap env t).2.monitor.recorder.copies = t.monitor.recorder.extended (c.ask t.inner).stops
      (c.offered.take (min n c.offered.length)) := by
  rw [(Call.onTap_claimed env hclaimed).2, settle_recorder, h.keep_halted, ← List.take_eq_take_min]

/-- In every state of every run, a vectored write is a write of all its slices: where the streams
answer the same, it yields the same, and leaves the same tap but for the stream. If the stream
claims to have taken some of the bytes, the copies are extended by the first of them, as many as it
claims, but no more than there are; unless copying was stopped before, or while the stream was
asked: then there are none. -/
theorem vectored_write_gathered (s : σ) (s' : τ) (id : Uuid) (settings : SniffSettings)
    (ops : List Op) (slices : List Bytes) :
    let t := (wrap s id settings).after env ops
    let data := slices.flatten
    (let reply := ByteStream.writeVectored t.inner slices
      let reply' := ByteStream.write s' data
      let next := (t.writeVectored env slices).2
      (reply'.answer = reply.answer → reply'.stops = reply.stops →
        (t.around s').write env data =
          ((t.writeVectored env slices).1, next.around reply'.next)) ∧
        ∀ n, reply.answer = .ok n → next.monitor.recorder.copies =
          t.monitor.recorder.extended reply.stops (data.take (min n data.length))) ∧
    (let reply := ByteStream.pollWriteVectored t.inner slices
      let reply' := ByteStream.pollWrite s' data
      let next := (t.pollWriteVectored env slices).2
      (reply'.answer = reply.answer → reply'.stops = reply.stops →
        (t.around s').pollWrite env data =
          ((t.pollWriteVectored env slices).1, next.around reply'.next)) ∧
        ∀ n, reply.answer = .ready (.ok n) →
          next.monitor.recorder.copies =
            t.monitor.recorder.extended reply.stops (data.take (min n data.length))) := by
  intro t data
  have horderly := orderly_after env s id settings ops
  refine ⟨⟨?_, ?_⟩, ⟨?_, ?_⟩⟩
  · intro hanswer hstops
    have hresult := (Call.onTap_forwarded env (.writeVectored slices) t rfl).response
    have hresult' := (Call.onTap_forwarded env (.write data) (t.around s') rfl).response
    refine Prod.ext (hresult'.trans (hanswer.trans hresult.symm)) ?_
    refine Call.onTap_around env (.writeVectored slices) (.write data) t s' rfl rfl hstops ?_
    exact (congrArg _ hanswer).trans (Call.upshot_flatten slices _)
  · intro n hanswer
    have hclaimed := congrArg (Call.writeVectored slices).claimed? hanswer
    exact copies_claimed env horderly (.writeVectored slices) hclaimed
  · intro hanswer hstops
    have hresult := (Call.onTap_forwarded env (.pollWriteVectored slices) t rfl).response
    have hresult' := (Call.onTap_forwarded env (.pollWrite data) (t.around s') rfl).response
    refine Prod.ext (hresult'.trans (hanswer.trans hresult.symm)) ?_
    refine Call.onTap_around env (.pollWriteVectored slices) (.pollWrite data) t s' rfl rfl
      hstops ?_
    exact (congrArg _ hanswer).trans (Call.upshot_flatten_polled slices _)
  · intro n hanswer
    have hclaimed := congrArg (Call.pollWriteVectored slices).claimed? hanswer
    exact copies_claimed env horderly (.pollWriteVectored slices) hclaimed

/-- A stream that takes all slices and claims seven bytes more, and does so once again while another
thread stops the copying. -/
def claimsMore : Script :=
  { writes := [{ act := .accept none 7 }, { stop := some .copying, act := .accept (some 2) 0 }]
    vectored := true }

def takesLess : Script := { writes := [{ act := .accept (some 1) 9 }] }

/-- The two streams claim ten bytes each, of three that are offered in four slices or in one. All
three are copied; after the next write, of which two bytes are taken, no copies are left. -/
theorem vectored_write_gathered_claimsMore :
    let slices : List Bytes := [[], [97], [98, 99], []]
    let t := (wrap claimsMore .zero {}).after .ticking []
    let t' := (wrap claimsMore .zero {}).after .ticking [.call (.writeVectored slices)]
    let next := (t.writeVectored .ticking slices).2
    (t.writeVectored .ticking slices).1 = .ok 10 ∧
      (t.around takesLess).write .ticking [97, 98, 99] =
        (.ok 10, next.around (ByteStream.write takesLess [97, 98, 99]).next) ∧
      next.monitor.recorder.copies.written = [97, 98, 99] ∧
      (ByteStream.pollWriteVectored t'.inner slices).answer = .ready (.ok 2) ∧
      (t'.pollWriteVectored .ticking slices).2.monitor.recorder.copies = .released := by
  intro slices t t' next
  obtain ⟨⟨hsame, hcopied⟩, -⟩ := vectored_write_gathered .ticking claimsMore takesLess .zero {} []
    slices
  obtain ⟨-, -, hgone⟩ := vectored_write_gathered .ticking claimsMore takesLess .zero {}
    [.call (.writeVectored slices)] slices
  have hwritten := hsame (by decide +kernel) (by decide +kernel)
  have hcopies := hcopied 10 (by decide +kernel)
  have hreleased := hgone 2 (by decide +kernel)
  have hresult : (t.writeVectored .ticking slices).1 = .ok 10 := by decide +kernel
  dsimp only [t, t', next] at hresult ⊢
  rw [hcopies, hreleased, hresult]
  rw [hresult] at hwritten
  refine ⟨rfl, hwritten, ?_, ?_, ?_⟩
  · decide +kernel
  · decide +kernel
  · decide +kernel

/-- A write is copied only while copying goes on, however much of it the stream takes. -/
theorem vectored_write_uncopied : ¬∀ (settings : SniffSettings) (ops : List Op)
    (slices : List Bytes) (n : Nat),
      let t := (wrap claimsMore .zero settings).after .ticking ops
      let t' := (t.writeVectored .ticking slices).2
      (ByteStream.writeVectored t.inner slices).answer = .ok n →
        (Diagnostics.ofMonitor t'.monitor).writeCopy =
          (Diagnostics.ofMonitor t.monitor).writeCopy ++
            slices.flatten.take (min n slices.flatten.length) := by
  intro hextended
  have hcopy := hextended { copying := false } [] [[97], [98, 99]] 10 (by decide +kernel)
  exact absurd hcopy (by decide +kernel)

end Tap

end PeekRelay
