import PeekRelay.Proofs.Call
import PeekRelay.Tap.Sniff
/-!
# Sniffs of any source

What holds of a sniff because it is made of reads: it keeps what every read and every stop keeps, it
yields what its reads handed to it, sniffs of sources that go side by side end alike, and a map
between sources takes sniffs to sniffs.
-/
namespace PeekRelay

def SniffEnd.outcome : SniffEnd → Upshot
  | .done (.ok bs) => .moved bs
  | .done (.error e) => .failed e
  | .cancelled => .pending
  | .panicked => .panicked

theorem SniffEnd.eq_of_outcome {e e' : SniffEnd} (h : e.outcome = e'.outcome) : e = e' := by
  rcases e with (_ | _) | _ | _ <;> rcases e' with (_ | _) | _ | _ <;> cases h <;> rfl

/-- What a poll leaves behind: `F` if it failed, and `P` otherwise. -/
def Poll.Leaves {s α : Type} (P : s → Prop) (F : IoError → s → Prop) (result : Poll (Result α))
    (state : s) : Prop :=
  match result with
  | .ready (.error e) => F e state
  | _ => P state

private theorem Poll.leaves_same {s α : Type} {P : s → Prop} {result : Poll (Result α)}
    {state : s} :
    result.Leaves P (fun _ => P) state ↔ P state := by
  rcases result with _ | e | a <;> exact Iff.rfl

namespace Sniff

section Invariants

variable {s : Type} {source : Source s} {P : s → Prop}

theorem resume_leaves {F : IoError → s → Prop}
    (hread : ∀ buffer state, P state →
      (source.pollRead buffer state).1.Leaves P F (source.pollRead buffer state).2)
    (sniff : Sniff) (state : s) (h : P state) :
    (sniff.resume source state).1.Leaves P F (sniff.resume source state).2.2 := by
  fun_induction resume source sniff state with
  | case1 sniff state hwants next hpoll =>
    have hnext := hread { room := sniff.chunk } state h
    rwa [hpoll] at hnext
  | case2 sniff state hwants e next hpoll =>
    have hnext := hread { room := sniff.chunk } state h
    rwa [hpoll] at hnext
  | case3 sniff state hwants buffer next hpoll hended =>
    have hnext := hread { room := sniff.chunk } state h
    rwa [hpoll] at hnext
  | case4 sniff state hwants buffer next hpoll hended ih =>
    have hnext := hread { room := sniff.chunk } state h
    rw [hpoll] at hnext
    exact ih hnext
  | case5 sniff state hwants => exact h

theorem resume_keeps (hread : ∀ buffer state, P state → P (source.pollRead buffer state).2)
    (sniff : Sniff) (state : s) (h : P state) : P (sniff.resume source state).2.2 := by
  have hleaves := resume_leaves (P := P) (F := fun _ => P)
    (fun buffer state hstate => Poll.leaves_same.mpr (hread buffer state hstate)) sniff state h
  exact Poll.leaves_same.mp hleaves

theorem heedAll_keeps (hheed : ∀ stop state, P state → P (source.heed stop state))
    (stops : List Stop) (state : s) (h : P state) :
    P (stops.foldl (fun state stop => source.heed stop state) state) := by
  induction stops generalizing state with
  | nil => exact h
  | cons stop stops ih => exact ih _ (hheed stop state h)

variable (hread : ∀ buffer state, P state → P (source.pollRead buffer state).2)
  (hheed : ∀ stop state, P state → P (source.heed stop state))

include hread hheed

private theorem drive_keeps (sniff : Sniff) (state : s) (pauses : List (List Stop)) (h : P state) :
    P (sniff.drive source state pauses).2 := by
  induction pauses generalizing sniff state with
  | nil =>
    have hpolled := resume_keeps hread sniff state h
    unfold drive
    split <;> next heq => rwa [heq] at hpolled
  | cons stops pauses ih =>
    have hpolled := resume_keeps hread sniff state h
    unfold drive
    split
    · next heq => rwa [heq] at hpolled
    · next heq =>
      rw [heq] at hpolled
      exact ih _ _ (heedAll_keeps hheed stops _ hpolled)

/-- A sniff keeps what its reads and the stops between its polls keep. -/
theorem run_keeps (wanted : Nat) (pauses : List (List Stop)) (state : s) (h : P state) :
    P (run source wanted pauses state).2 := by
  unfold run
  split
  · exact h
  · exact h
  · exact drive_keeps hread hheed _ state pauses h

end Invariants

section Account

variable {s : Type} {source : Source s} {handed : s → Bytes}

/-- A running total of the bytes that the reads of a source handed out. -/
structure Source.Totals (source : Source s) (handed : s → Bytes) : Prop where
  ready : ∀ buffer state filled, (source.pollRead buffer state).1 = .ready (.ok filled) →
    handed (source.pollRead buffer state).2 =
      handed state ++ filled.filled.drop buffer.filled.length
  pending : ∀ buffer state, (source.pollRead buffer state).1 = .pending →
    handed (source.pollRead buffer state).2 = handed state
  failed : ∀ buffer state e, (source.pollRead buffer state).1 = .ready (.error e) →
    handed (source.pollRead buffer state).2 = handed state
  heed : ∀ stop state, handed (source.heed stop state) = handed state

variable (totals : source.Totals handed)

include totals

private theorem resume_collected (sniff : Sniff) (state : s) : ∃ bs,
    (sniff.resume source state).2.1.collected = sniff.collected ++ bs ∧
      handed (sniff.resume source state).2.2 = handed state ++ bs := by
  fun_induction resume source sniff state with
  | case1 sniff state hwants state' hpoll =>
    have hsame := totals.pending { room := sniff.chunk } state (by rw [hpoll])
    rw [hpoll] at hsame
    exact ⟨[], by simp, by simpa using hsame⟩
  | case2 sniff state hwants e state' hpoll =>
    have hsame := totals.failed { room := sniff.chunk } state e (by rw [hpoll])
    rw [hpoll] at hsame
    exact ⟨[], by simp, by simpa using hsame⟩
  | case3 sniff state hwants buffer state' hpoll hended =>
    have hmore := totals.ready { room := sniff.chunk } state buffer (by rw [hpoll])
    rw [hpoll, hended] at hmore
    exact ⟨[], by simp, by simpa using hmore⟩
  | case4 sniff state hwants buffer state' hpoll hended ih =>
    have hmore := totals.ready { room := sniff.chunk } state buffer (by rw [hpoll])
    rw [hpoll] at hmore
    obtain ⟨bs, hcollected, hhanded⟩ := ih
    refine ⟨buffer.filled ++ bs, ?_, ?_⟩
    · rw [hcollected, List.append_assoc]
    · rw [hhanded, hmore, ← List.append_assoc]
      rfl
  | case5 sniff state hwants => exact ⟨[], by simp, by simp⟩

omit totals in
private theorem resume_result (sniff : Sniff) (state : s) (p : Bytes)
    (h : (sniff.resume source state).1 = .ready (.ok p)) :
    p = (sniff.resume source state).2.1.collected := by
  fun_induction resume source sniff state with
  | case1 sniff state hwants state' hpoll => cases h
  | case2 sniff state hwants e state' hpoll => cases h
  | case3 sniff state hwants buffer state' hpoll hended =>
    cases h
    rfl
  | case4 sniff state hwants buffer state' hpoll hended ih => exact ih h
  | case5 sniff state hwants =>
    cases h
    rfl

omit totals in
private theorem begin_collected (isSniffing : Bool) (wanted : Nat) (sniff : Sniff)
    (h : begin isSniffing wanted = .returned (.ok sniff)) : sniff.collected = [] := by
  unfold begin at h
  split at h
  · split at h <;> cases h
    rfl
  · cases h

private theorem resume_done (sniff : Sniff) (state : s) (p : Bytes)
    (h : (sniff.resume source state).1 = .ready (.ok p)) : ∃ bs, p = sniff.collected ++ bs ∧
      handed (sniff.resume source state).2.2 = handed state ++ bs := by
  obtain ⟨bs, hcollected, hhanded⟩ := resume_collected totals sniff state
  exact ⟨bs, (resume_result sniff state p h).trans hcollected, hhanded⟩

private theorem drive_done (sniff : Sniff) (state : s) (pauses : List (List Stop)) (p : Bytes)
    (h : (sniff.drive source state pauses).1 = .done (.ok p)) : ∃ bs, p = sniff.collected ++ bs ∧
      handed (sniff.drive source state pauses).2 = handed state ++ bs := by
  induction pauses generalizing sniff state with
  | nil =>
    have hdone := resume_done totals sniff state p
    rw [drive] at h ⊢
    generalize sniff.resume source state = polled at h hdone ⊢
    rcases polled with ⟨_ | result, sniff', state'⟩
    · cases h
    · cases h
      exact hdone rfl
  | cons stops pauses ih =>
    have hdone := resume_done totals sniff state p
    obtain ⟨bs, hcollected, hhanded⟩ := resume_collected totals sniff state
    rw [drive] at h ⊢
    generalize sniff.resume source state = polled at h hdone hcollected hhanded ⊢
    rcases polled with ⟨_ | result, sniff', state'⟩
    · obtain ⟨more, hp, hmore⟩ := ih _ _ h
      have hpaused := heedAll_keeps (P := fun state' => handed state' = handed state ++ bs)
        (fun stop _ hsame => (totals.heed stop _).trans hsame) stops state' hhanded
      refine ⟨bs ++ more, ?_, ?_⟩
      · rw [hp, hcollected, List.append_assoc]
      · rw [hmore, hpaused, List.append_assoc]
    · cases h
      exact hdone rfl

/-- What a sniff yields is what its reads were handed. -/
theorem run_done (wanted : Nat) (pauses : List (List Stop)) (state : s) (p : Bytes)
    (h : (run source wanted pauses state).1 = .done (.ok p)) :
    handed (run source wanted pauses state).2 = handed state ++ p := by
  unfold run at h ⊢
  split at h
  · cases h
  · cases h
  · next sniff hbegin =>
    obtain ⟨bs, rfl, hhanded⟩ := drive_done totals sniff state pauses p h
    rw [begin_collected _ _ _ hbegin]
    exact hhanded

end Account

section Reflects

variable {s : Type}

/-- What holds of a source later on held of it before. -/
structure Source.Reflects (source : Source s) (V : s → Prop) : Prop where
  pollRead : ∀ buffer state, V (source.pollRead buffer state).2 → V state
  heed : ∀ stop state, V (source.heed stop state) → V state

variable {source : Source s} {V : s → Prop} (reflects : source.Reflects V)

include reflects

theorem resume_reflects (sniff : Sniff) (state : s)
    (h : V (sniff.resume source state).2.2) : V state := by
  by_contra hnot
  exact resume_keeps (P := fun state => ¬V state)
    (fun buffer state hstate hnext => hstate (reflects.pollRead buffer state hnext)) sniff state
    hnot
    h

private theorem reflects_heedAll (stops : List Stop) (state : s)
    (h : V (stops.foldl (fun state stop => source.heed stop state) state)) : V state := by
  by_contra hnot
  exact heedAll_keeps (P := fun state => ¬V state)
    (fun stop state hstate hnext => hstate (reflects.heed stop state hnext)) stops state hnot h

private theorem reflects_drive (sniff : Sniff) (state : s) (pauses : List (List Stop))
    (h : V (sniff.drive source state pauses).2) : V state := by
  by_contra hnot
  exact drive_keeps (P := fun state => ¬V state)
    (fun buffer state hstate hnext => hstate (reflects.pollRead buffer state hnext))
    (fun stop state hstate hnext => hstate (reflects.heed stop state hnext)) sniff state pauses hnot
    h

private theorem reflects_read {sniff : Sniff} {state : s}
    (hwants : sniff.collected.length < sniff.wanted)
    (h : V (sniff.resume source state).2.2) :
    V (source.pollRead { room := sniff.chunk } state).2 := by
  rw [resume, dif_pos hwants] at h
  rcases hpoll : source.pollRead { room := sniff.chunk } state with ⟨_ | e | buffer, next⟩
  · rwa [hpoll] at h
  · rwa [hpoll] at h
  · rw [hpoll] at h
    by_cases hended : buffer.filled = []
    · simpa [hended] using h
    · simp only [hended, dite_false] at h
      exact resume_reflects reflects _ _ h

theorem reflects_poll (sniff : Sniff) (state : s) (pauses : List (List Stop))
    (h : V (sniff.drive source state pauses).2) : V (sniff.resume source state).2.2 := by
  cases pauses with
  | nil =>
    rw [drive] at h
    rcases hpoll : sniff.resume source state with ⟨_ | result, sniff', next⟩ <;> rwa [hpoll] at h
  | cons stops pauses =>
    rw [drive] at h
    rcases hpoll : sniff.resume source state with ⟨_ | result, sniff', next⟩
    · rw [hpoll] at h
      exact reflects_heedAll reflects stops next (reflects_drive reflects _ _ _ h)
    · rwa [hpoll] at h

/-- What holds after a sniff held before it. -/
theorem run_reflects (wanted : Nat) (pauses : List (List Stop)) (state : s)
    (h : V (run source wanted pauses state).2) : V state := by
  by_contra hnot
  exact run_keeps (P := fun state => ¬V state)
    (fun buffer state hstate hnext => hstate (reflects.pollRead buffer state hnext))
    (fun stop state hstate hnext => hstate (reflects.heed stop state hnext)) wanted pauses state
    hnot
    h

end Reflects

section Pairs

variable {s s' : Type}

/-- Two sources go side by side as far as `V` and `V'` reach: their reads come to the same, apart
from the bytes, and leave them paired, and so do stops that go together. -/
structure Source.Pairs (source : Source s) (source' : Source s') (ρ : UInt8 → UInt8 → Prop)
    (S : List Stop → List Stop → Prop) (V : s → Prop) (V' : s' → Prop) (P : s → s' → Prop) :
    Prop where
  reflects : source.Reflects V
  reflects' : source'.Reflects V'
  isSniffing : ∀ {x y}, P x y → source.isSniffing x = source'.isSniffing y
  pollRead : ∀ {x y} room, P x y → V (source.pollRead { room } x).2 →
    V' (source'.pollRead { room } y).2 →
    ((Call.pollRead { room }).outcome (source.pollRead { room } x).1).Alike ρ
        ((Call.pollRead { room }).outcome (source'.pollRead { room } y).1) ∧
      P (source.pollRead { room } x).2 (source'.pollRead { room } y).2
  heed : ∀ {stops stops' x y}, S stops stops' → P x y →
    P (stops.foldl (fun state stop => source.heed stop state) x)
      (stops'.foldl (fun state stop => source'.heed stop state) y)

/-- Two sniffs under way that want the same and have collected the same, apart from the bytes. -/
structure Alike (ρ : UInt8 → UInt8 → Prop) (sniff sniff' : Sniff) : Prop where
  wanted : sniff.wanted = sniff'.wanted
  collected : List.Forall₂ ρ sniff.collected sniff'.collected

private theorem Alike.eq {sniff sniff' : Sniff} (h : sniff.Alike Eq sniff') : sniff = sniff' := by
  have hcollected : sniff.collected = sniff'.collected := Bytes.forall₂_eq.mp h.collected
  exact congrArg₂ Sniff.mk h.wanted hcollected

def outcome : Poll (Result Bytes) → Upshot
  | .pending => .pending
  | .ready (.error e) => .failed e
  | .ready (.ok bs) => .moved bs

private theorem eq_of_outcome {result result' : Poll (Result Bytes)}
    (h : outcome result = outcome result') :
    result = result' := by
  rcases result with _ | _ | _ <;> rcases result' with _ | _ | _ <;> cases h <;> rfl

variable {source : Source s} {source' : Source s'} {ρ : UInt8 → UInt8 → Prop}
  {S : List Stop → List Stop → Prop} {V : s → Prop} {V' : s' → Prop} {P : s → s' → Prop}
  (pairs : source.Pairs source' ρ S V V' P)

include pairs

private theorem read_pairs {sniff sniff' : Sniff} (h : sniff.Alike ρ sniff') {state : s}
    {state' : s'} (hP : P state state') (hwants : sniff.collected.length < sniff.wanted)
    (hV : V (source.pollRead { room := sniff.chunk } state).2)
    (hV' : V' (sniff'.resume source' state').2.2) :
    sniff'.collected.length < sniff'.wanted ∧
      ((Call.pollRead { room := sniff.chunk }).outcome
          (source.pollRead { room := sniff.chunk } state).1).Alike ρ
        ((Call.pollRead { room := sniff.chunk }).outcome
          (source'.pollRead { room := sniff'.chunk } state').1) ∧
      P (source.pollRead { room := sniff.chunk } state).2
        (source'.pollRead { room := sniff'.chunk } state').2 := by
  have hchunk : sniff'.chunk = sniff.chunk := by rw [chunk, chunk, h.wanted]
  have hwants' : sniff'.collected.length < sniff'.wanted := by
    rwa [← h.collected.length_eq, ← h.wanted]
  have hnext' := reflects_read pairs.reflects' hwants' hV'
  rw [hchunk] at hnext' ⊢
  exact ⟨hwants', pairs.pollRead sniff.chunk hP hV hnext'⟩

private theorem resume_pairs {sniff sniff' : Sniff} (h : sniff.Alike ρ sniff') {state : s}
    {state' : s'}
    (hP : P state state') (hV : V (sniff.resume source state).2.2)
    (hV' : V' (sniff'.resume source' state').2.2) :
    (outcome (sniff.resume source state).1).Alike ρ (outcome (sniff'.resume source' state').1) ∧
      (sniff.resume source state).2.1.Alike ρ (sniff'.resume source' state').2.1 ∧
      P (sniff.resume source state).2.2 (sniff'.resume source' state').2.2 := by
  fun_induction resume source sniff state generalizing sniff' state' with
  | case1 sniff state hwants next hpoll =>
    obtain ⟨hwants', hread, hnext⟩ := read_pairs pairs h hP hwants (by rwa [hpoll]) hV'
    rw [resume, dif_pos hwants']
    rw [hpoll] at hread hnext
    generalize source'.pollRead { room := sniff'.chunk } state' = polled at hread hnext ⊢
    rcases polled with ⟨_ | e' | buffer', next'⟩ <;> cases hread
    exact ⟨.pending, h, hnext⟩
  | case2 sniff state hwants e next hpoll =>
    obtain ⟨hwants', hread, hnext⟩ := read_pairs pairs h hP hwants (by rwa [hpoll]) hV'
    rw [resume, dif_pos hwants']
    rw [hpoll] at hread hnext
    generalize source'.pollRead { room := sniff'.chunk } state' = polled at hread hnext ⊢
    rcases polled with ⟨_ | e' | buffer', next'⟩ <;> cases hread
    exact ⟨.failed e, h, hnext⟩
  | case3 sniff state hwants buffer next hpoll hended =>
    obtain ⟨hwants', hread, hnext⟩ := read_pairs pairs h hP hwants (by rwa [hpoll]) hV'
    rw [resume, dif_pos hwants']
    rw [hpoll] at hread hnext
    generalize source'.pollRead { room := sniff'.chunk } state' = polled at hread hnext ⊢
    rcases polled with ⟨_ | e' | buffer', next'⟩ <;> cases hread
    next hfilled =>
    have hended' : buffer'.filled = [] := by simpa [hended] using hfilled
    simp only [hended', dite_true]
    exact ⟨.moved h.collected, h, hnext⟩
  | case4 sniff state hwants buffer next hpoll hended ih =>
    obtain ⟨hwants', hread, hnext⟩ :=
      read_pairs pairs h hP hwants (by rw [hpoll]; exact resume_reflects pairs.reflects _ _ hV) hV'
    rw [resume.eq_def source' sniff', dif_pos hwants'] at hV' ⊢
    rw [hpoll] at hread hnext
    generalize source'.pollRead { room := sniff'.chunk } state' = polled at hread hnext hV' ⊢
    rcases polled with ⟨_ | e' | buffer', next'⟩ <;> cases hread
    next hfilled =>
    have hended' : buffer'.filled ≠ [] := by
      rintro hnone
      simp [hnone, hended] at hfilled
    simp only [hended', dite_false] at hV' ⊢
    have hmore : Sniff.Alike ρ { sniff with collected := sniff.collected ++ buffer.filled }
        { sniff' with collected := sniff'.collected ++ buffer'.filled } :=
      ⟨h.wanted, List.rel_append h.collected hfilled⟩
    exact ih hmore hnext hV hV'
  | case5 sniff state hwants =>
    have hwants' : ¬sniff'.collected.length < sniff'.wanted := by
      rwa [← h.collected.length_eq, ← h.wanted]
    rw [resume, dif_neg hwants']
    exact ⟨.moved h.collected, h, hP⟩

private theorem drive_pairs {sniff sniff' : Sniff} (h : sniff.Alike ρ sniff') {state : s}
    {state' : s'}
    (hP : P state state') {pauses pauses' : List (List Stop)}
    (hpauses : List.Forall₂ S pauses pauses') (hV : V (sniff.drive source state pauses).2)
    (hV' : V' (sniff'.drive source' state' pauses').2) :
    (sniff.drive source state pauses).1.outcome.Alike ρ
        (sniff'.drive source' state' pauses').1.outcome ∧
      P (sniff.drive source state pauses).2 (sniff'.drive source' state' pauses').2 := by
  induction hpauses generalizing sniff sniff' state state' with
  | nil =>
    obtain ⟨hpoll, hsniff, hnext⟩ := resume_pairs pairs h hP (reflects_poll pairs.reflects _ _ _ hV)
      (reflects_poll pairs.reflects' _ _ _ hV')
    rw [drive] at hV hV' ⊢
    rw [drive]
    generalize sniff.resume source state = polled at hpoll hsniff hnext hV ⊢
    generalize sniff'.resume source' state' = polled' at hpoll hsniff hnext hV' ⊢
    rcases polled with ⟨_ | e | bs, sniff, next⟩ <;>
      rcases polled' with ⟨_ | e' | bs', sniff', next'⟩ <;> cases hpoll
    · exact ⟨.pending, hnext⟩
    · exact ⟨.failed e, hnext⟩
    · next hbytes => exact ⟨.moved hbytes, hnext⟩
  | cons hstops hpauses ih =>
    obtain ⟨hpoll, hsniff, hnext⟩ := resume_pairs pairs h hP (reflects_poll pairs.reflects _ _ _ hV)
      (reflects_poll pairs.reflects' _ _ _ hV')
    rw [drive] at hV hV' ⊢
    rw [drive]
    generalize sniff.resume source state = polled at hpoll hsniff hnext hV ⊢
    generalize sniff'.resume source' state' = polled' at hpoll hsniff hnext hV' ⊢
    rcases polled with ⟨_ | e | bs, sniff, next⟩ <;>
      rcases polled' with ⟨_ | e' | bs', sniff', next'⟩ <;> cases hpoll
    · exact ih hsniff (pairs.heed hstops hnext) hV hV'
    · exact ⟨.failed e, hnext⟩
    · next hbytes => exact ⟨.moved hbytes, hnext⟩

/-- Two sniffs for the same number of bytes, taken from sources that go side by side, end the same
way and yield the same, apart from the bytes. -/
theorem run_pairs (wanted : Nat) {pauses pauses' : List (List Stop)}
    (hpauses : List.Forall₂ S pauses pauses') {state : s} {state' : s'} (hP : P state state')
    (hV : V (run source wanted pauses state).2) (hV' : V' (run source' wanted pauses' state').2) :
    (run source wanted pauses state).1.outcome.Alike ρ
        (run source' wanted pauses' state').1.outcome ∧
      P (run source wanted pauses state).2 (run source' wanted pauses' state').2 := by
  rw [run] at hV hV' ⊢
  rw [run]
  rw [← pairs.isSniffing hP] at hV' ⊢
  rcases hbegin : begin (source.isSniffing state) wanted with (e | sniff) | _
  · exact ⟨.failed e, hP⟩
  · rw [hbegin] at hV hV'
    have hstart : sniff.Alike ρ sniff := by
      refine ⟨rfl, ?_⟩
      rw [begin_collected _ _ _ hbegin]
      exact .nil
    exact drive_pairs pairs hstart hP hpauses hV hV'
  · exact ⟨.panicked, hP⟩

end Pairs

section Map

variable {s s' : Type}

/-- A map between sources under which everything is answered alike. -/
structure Source.Map (source : Source s) (source' : Source s') where
  toFun : s → s'
  isSniffing : ∀ state, source'.isSniffing (toFun state) = source.isSniffing state
  pollRead : ∀ buffer state, source'.pollRead buffer (toFun state) =
    ((source.pollRead buffer state).1, toFun (source.pollRead buffer state).2)
  heed : ∀ stop state, source'.heed stop (toFun state) = toFun (source.heed stop state)

variable {source : Source s} {source' : Source s'} (f : source.Map source')

include f in
private theorem Source.Map.pairs : source.Pairs source' Eq Eq (fun _ => True) (fun _ => True)
    fun x y => y = f.toFun x where
  reflects := ⟨fun _ _ _ => trivial, fun _ _ _ => trivial⟩
  reflects' := ⟨fun _ _ _ => trivial, fun _ _ _ => trivial⟩
  isSniffing {x _} h := by rw [h, f.isSniffing]
  pollRead {x _} room h _ _ := by
    rw [h, f.pollRead]
    exact ⟨Upshot.alike_eq.mpr rfl, rfl⟩
  heed {stops _ x _} hstops h := by
    subst hstops h
    induction stops generalizing x with
    | nil => rfl
    | cons stop stops ih =>
      rw [List.foldl_cons, List.foldl_cons, f.heed]
      exact ih

theorem resume_map (sniff : Sniff) (state : s) : sniff.resume source' (f.toFun state) =
    ((sniff.resume source state).1, (sniff.resume source state).2.1,
      f.toFun (sniff.resume source state).2.2) := by
  have hself : sniff.Alike Eq sniff := ⟨rfl, Bytes.forall₂_eq.mpr rfl⟩
  obtain ⟨hpoll, hsniff, hnext⟩ := resume_pairs f.pairs hself rfl trivial trivial
  exact Prod.ext (eq_of_outcome (Upshot.alike_eq.mp hpoll)).symm
    (Prod.ext hsniff.eq.symm hnext)

/-- A map between sources takes sniffs to sniffs. -/
theorem run_map (wanted : Nat) (pauses : List (List Stop)) (state : s) :
    run source' wanted pauses (f.toFun state) =
      ((run source wanted pauses state).1, f.toFun (run source wanted pauses state).2) := by
  have hpauses : List.Forall₂ Eq pauses pauses := List.forall₂_refl pauses
  obtain ⟨hend, hnext⟩ := run_pairs f.pairs wanted hpauses rfl trivial trivial
  exact Prod.ext (SniffEnd.eq_of_outcome (Upshot.alike_eq.mp hend)).symm hnext

end Map

end Sniff

end PeekRelay
