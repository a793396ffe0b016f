import PeekRelay.Recorder
/-!
# Threads that use a recorder

Each access to the flag of a recorder and each section under one of its locks is a step of its own:
a copy takes two, a stop takes two and a snapshot takes four. A thread makes the steps of its
requests one by one, whatever the recorder is like by then.
-/
namespace PeekRelay

def Copies.of (c : Copies) : Direction → Bytes
  | .read => c.read
  | .write => c.written

namespace Recorder

inductive Request where
  | keep (direction : Direction) (bs : Bytes)
  | stopCopying
  | snapshot (sniffing : Bool)

/-- What a request does to a recorder if nobody interrupts it. -/
def Request.perform (r : Recorder) : Request → Recorder
  | .keep direction bs => r.keep direction bs
  | .stopCopying => r.stopCopying
  | .snapshot _ => r

def snapshotCopies (r : Recorder) (sniffing : Bool) : Snapshot where
  connectionId := r.id
  sniffing := sniffing
  copying := !r.copies.stopped
  sniffCount := 0
  readCopy := r.copies.read
  writeCopy := r.copies.written
  timeline := {}
  failure := none

/-- What a thread does in one step. The last step of a snapshot looks at the failure. -/
inductive Access where
  | idled
  | checked (flag : Bool)
  | appended (direction : Direction) (bs : Bytes)
  | cleared
  | released
  | sawCopies
  | sawCount
  | sawTimeline
  | returned (snapshot : Snapshot)

namespace Access

def effect (r : Recorder) : Access → Recorder
  | appended direction bs => r.append direction bs
  | cleared => r.clearFlag
  | released => r.releaseCopies
  | _ => r

def appendedTo (direction : Direction) : Access → Bytes
  | appended direction' bs => if direction' = direction then bs else []
  | _ => []

end Access

/-- What the steps of a request are, once it is finished. A copy goes no further if it finds the
flag cleared. -/
inductive Request.Done : Request → List Access → Prop where
  | refused {direction bs} : Done (.keep direction bs) [.checked false]
  | kept {direction bs} : Done (.keep direction bs) [.checked true, .appended direction bs]
  | stopped : Done .stopCopying [.cleared, .released]
  | answered {snapshot : Snapshot} : Done (.snapshot snapshot.sniffing)
      [.sawCopies, .sawCount, .sawTimeline, .returned snapshot]

/-- Where a thread stands: between two requests, or half way through one. -/
inductive Phase where
  | idle
  | appending (direction : Direction) (bs : Bytes)
  | releasing
  | counting (seen : Snapshot)
  | timing (seen : Snapshot)
  | tracing (seen : Snapshot)

namespace Phase

def request? : Phase → Option Request
  | idle => none
  | appending direction bs => some (.keep direction bs)
  | releasing => some .stopCopying
  | counting seen | timing seen | tracing seen => some (.snapshot seen.sniffing)

def begun : Phase → List Access
  | idle => []
  | appending _ _ => [.checked true]
  | releasing => [.cleared]
  | counting _ => [.sawCopies]
  | timing _ => [.sawCopies, .sawCount]
  | tracing _ => [.sawCopies, .sawCount, .sawTimeline]

end Phase

structure Thread where
  phase : Phase := .idle
  ahead : List Request

namespace Thread

def unfinished (t : Thread) : List Request := t.phase.request?.toList ++ t.ahead

/-- The next step of a thread, and the thread after it. -/
def next (t : Thread) (r : Recorder) : Access × Thread :=
  match t.phase with
  | .idle =>
    match t.ahead with
    | [] => (.idled, t)
    | .keep direction bs :: ahead =>
      (.checked r.copying, { phase := if r.copying then .appending direction bs else .idle, ahead })
    | .stopCopying :: ahead => (.cleared, { phase := .releasing, ahead })
    | .snapshot sniffing :: ahead =>
      (.sawCopies, { phase := .counting (r.snapshotCopies sniffing), ahead })
  | .appending direction bs => (.appended direction bs, { t with phase := .idle })
  | .releasing => (.released, { t with phase := .idle })
  | .counting seen =>
    (.sawCount, { t with phase := .timing { seen with sniffCount := UInt64.ofNat r.sniffCount } })
  | .timing seen =>
    (.sawTimeline, { t with phase := .tracing { seen with timeline := r.timeline } })
  | .tracing seen => (.returned { seen with failure := r.failure }, { t with phase := .idle })

/-- A thread made the steps of the requests that it finished, one after the other and all of each,
then those of the one it is half way through. It was idle only when no request was left. -/
def Follows (t : Thread) (requests : List Request) (accesses : List Access) : Prop :=
  ∃ (done : List (Request × List Access)) (idle : Nat), (∀ d ∈ done, d.1.Done d.2) ∧
    requests = done.map Prod.fst ++ t.unfinished ∧
    accesses = done.flatMap Prod.snd ++ t.phase.begun ++ List.replicate idle .idled ∧
    (t.unfinished = [] ∨ idle = 0)

section Following

variable {t t' : Thread} {requests : List Request} {accesses : List Access} {access : Access}

theorem follows_start (requests : List Request) : Follows { ahead := requests } requests [] :=
  ⟨[], 0, nofun, rfl, rfl, .inr rfl⟩

private theorem Follows.goes_on (h : t.Follows requests accesses) (hbusy : t.unfinished ≠ [])
    (hsame : t'.unfinished = t.unfinished) (hbegun : t'.phase.begun = t.phase.begun ++ [access]) :
    t'.Follows requests (accesses ++ [access]) := by
  obtain ⟨done, idle, hdone, hrequests, rfl, hidle⟩ := h
  obtain rfl := hidle.resolve_left hbusy
  refine ⟨done, 0, hdone, hsame ▸ hrequests, ?_, .inr rfl⟩
  simp [hbegun]

private theorem Follows.finishes (h : t.Follows requests accesses) {request : Request}
    (hrest : t.unfinished = request :: t'.unfinished) (hidle' : t'.phase = .idle)
    (hdone' : request.Done (t.phase.begun ++ [access])) :
    t'.Follows requests (accesses ++ [access]) := by
  obtain ⟨done, idle, hdone, hrequests, rfl, hidle⟩ := h
  obtain rfl := hidle.resolve_left (hrest ▸ List.cons_ne_nil _ _)
  refine ⟨done ++ [(request, t.phase.begun ++ [access])], 0, ?_, ?_, ?_, .inr rfl⟩
  · intro d hd
    rcases List.mem_append.mp hd with hd | hd
    · exact hdone d hd
    · exact List.mem_singleton.mp hd ▸ hdone'
  · simp [hrequests, hrest]
  · simp [hidle', Phase.begun]

theorem Follows.next (h : t.Follows requests accesses) (r : Recorder) :
    (t.next r).2.Follows requests (accesses ++ [(t.next r).1]) := by
  obtain ⟨phase, ahead⟩ := t
  cases phase with
  | idle =>
    rcases ahead with _ | ⟨⟨direction, bs⟩ | _ | sniffing, ahead⟩
    · obtain ⟨done, idle, hdone, hrequests, rfl, -⟩ := h
      refine ⟨done, idle + 1, hdone, hrequests, ?_, .inl rfl⟩
      simp [Thread.next, List.replicate_succ']
    · cases hcopying : r.copying with
      | false =>
        have hnext : Follows { ahead } requests (accesses ++ [.checked false]) :=
          h.finishes rfl rfl .refused
        simpa [Thread.next, hcopying] using hnext
      | true =>
        have hnext : Follows { phase := .appending direction bs, ahead } requests
            (accesses ++ [.checked true]) := h.goes_on (List.cons_ne_nil _ _) rfl rfl
        simpa [Thread.next, hcopying] using hnext
    · exact h.goes_on (List.cons_ne_nil _ _) rfl rfl
    · exact h.goes_on (List.cons_ne_nil _ _) rfl rfl
  | appending direction bs => exact h.finishes rfl rfl .kept
  | releasing => exact h.finishes rfl rfl .stopped
  | counting seen => exact h.goes_on (List.cons_ne_nil _ _) rfl rfl
  | timing seen => exact h.goes_on (List.cons_ne_nil _ _) rfl rfl
  | tracing seen =>
    exact h.finishes rfl rfl (@Request.Done.answered { seen with failure := r.failure })

private theorem length_flatMap_le {done : List (Request × List Access)}
    (h : ∀ d ∈ done, d.1.Done d.2) : (done.flatMap Prod.snd).length ≤ 4 * done.length := by
  induction done with
  | nil => exact Nat.le_refl _
  | cons d done ih =>
    obtain ⟨hd, hrest⟩ := List.forall_mem_cons.mp h
    have hlength : d.2.length ≤ 4 := by
      obtain ⟨request, accesses⟩ := d
      cases hd <;> simp
    have := ih hrest
    rw [List.flatMap_cons, List.length_append, List.length_cons]
    omega

theorem Follows.unfinished_eq_nil (h : t.Follows requests accesses)
    (henough : 4 * requests.length ≤ accesses.length) : t.unfinished = [] := by
  obtain ⟨done, idle, hdone, rfl, rfl, hidle⟩ := h
  cases hunfinished : t.unfinished with
  | nil => rfl
  | cons request rest =>
    rw [hunfinished] at hidle henough
    obtain rfl := hidle.resolve_left (List.cons_ne_nil _ _)
    have hsteps := length_flatMap_le hdone
    have hbegun : t.phase.begun.length ≤ 3 := by cases t.phase <;> simp [Phase.begun]
    simp only [List.length_append, List.length_map, List.length_cons, List.length_replicate]
      at henough
    omega

theorem Follows.released_mem (h : t.Follows requests accesses) {finished : List Request}
    (hrequests : requests = finished ++ t.unfinished) (hstop : .stopCopying ∈ finished) :
    .released ∈ accesses := by
  obtain ⟨done, idle, hdone, hrequests', rfl, -⟩ := h
  obtain rfl := List.append_cancel_right (hrequests.symm.trans hrequests')
  obtain ⟨⟨request, accesses⟩, hd, rfl⟩ := List.mem_map.mp hstop
  have hreleased : Access.released ∈ accesses := by
    cases hdone _ hd
    simp
  simp only [List.mem_append, List.mem_flatMap]
  exact .inl (.inl ⟨_, hd, hreleased⟩)

end Following

/-- A thread releases the copies just after it cleared the flag. -/
theorem cleared_of_releasing {t : Thread} {r : Recorder} (h : (t.next r).2.phase = .releasing) :
    (t.next r).1 = .cleared := by
  obtain ⟨phase, ahead⟩ := t
  cases phase with
  | idle =>
    rcases ahead with _ | ⟨_ | _ | _, ahead⟩
    · cases h
    · cases hcopying : r.copying <;> simp [next, hcopying] at h
    · rfl
    · cases h
  | _ => cases h

theorem releasing_of_released {t : Thread} {r : Recorder} (h : (t.next r).1 = .released) :
    t.phase = .releasing := by
  obtain ⟨phase, ahead⟩ := t
  cases phase with
  | idle => rcases ahead with _ | ⟨_ | _ | _, ahead⟩ <;> cases h
  | releasing => rfl
  | _ => cases h

theorem eq_copying_of_checked {t : Thread} {r : Recorder} {flag : Bool}
    (h : (t.next r).1 = .checked flag) : flag = r.copying := by
  obtain ⟨phase, ahead⟩ := t
  cases phase with
  | idle =>
    rcases ahead with _ | ⟨_ | _ | _, ahead⟩ <;> cases h
    rfl
  | _ => cases h

end Thread

section Accesses

variable {r : Recorder} {past : List Access}

/-- The copies as the steps of all threads together leave them. -/
structure Accounted (r : Recorder) (past : List Access) : Prop where
  empty : r.copies.stopped = true → r.copies = .released
  held : r.copies.stopped = false →
    ∀ direction, r.copies.of direction = past.flatMap (Access.appendedTo direction)
  stopped : Access.released ∈ past → r.copies.stopped = true

theorem accounted_new (id : Uuid) (copying : Bool) : Accounted (.new id copying) [] where
  empty h := by
    change ({ stopped := !copying } : Copies) = { stopped := true }
    exact congrArg (fun stopped => ({ stopped } : Copies)) h
  held _ direction := by cases direction <;> rfl
  stopped h := absurd h List.not_mem_nil

private theorem stopped_append (direction : Direction) (bs : Bytes) :
    (r.append direction bs).copies.stopped = r.copies.stopped := by
  cases hstopped : r.copies.stopped <;> cases direction <;>
    simp [append, Copies.append, hstopped]

private theorem of_append (h : r.copies.stopped = false) (direction direction' : Direction)
    (bs : Bytes) :
    (r.append direction bs).copies.of direction' =
      r.copies.of direction' ++ (Access.appended direction bs).appendedTo direction' := by
  cases direction <;> cases direction' <;>
    simp [append, Copies.append, h, Copies.of, Access.appendedTo]

private theorem Accounted.unappended (h : Accounted r past) {r' : Recorder} {access : Access}
    (hcopies : r'.copies = r.copies) (hnone : ∀ direction, access.appendedTo direction = [])
    (haccess : access ≠ .released) : Accounted r' (past ++ [access]) where
  empty hstopped := by
    rw [hcopies] at hstopped ⊢
    exact h.empty hstopped
  held hstopped direction := by
    rw [hcopies] at hstopped ⊢
    simp [h.held hstopped direction, hnone]
  stopped hreleased := by
    rw [hcopies]
    refine h.stopped ?_
    simpa [haccess.symm] using hreleased

/-- Every step keeps the account. -/
theorem Accounted.effect (h : Accounted r past) (access : Access) :
    Accounted (access.effect r) (past ++ [access]) := by
  cases access with
  | appended direction bs =>
    have hstill : ((Access.appended direction bs).effect r).copies.stopped = r.copies.stopped :=
      stopped_append direction bs
    constructor
    case empty =>
      intro hstopped
      have hnothing : ((Access.appended direction bs).effect r).copies = r.copies := by
        simp [Access.effect, append, Copies.append, hstill.symm.trans hstopped]
      rw [hnothing]
      exact h.empty (hstill.symm.trans hstopped)
    case held =>
      intro hstopped direction'
      have hopen : r.copies.stopped = false := hstill.symm.trans hstopped
      rw [List.flatMap_append, List.flatMap_singleton, ← h.held hopen direction']
      exact of_append hopen direction direction' bs
    case stopped =>
      intro hreleased
      rw [hstill]
      exact h.stopped (by simpa using hreleased)
  | released => exact ⟨fun _ => rfl, fun hopen => (Bool.noConfusion hopen : _), fun _ => rfl⟩
  | _ => exact h.unappended rfl (fun _ => rfl) nofun

private theorem releaseCopies_copying (r : Recorder) : r.releaseCopies.copying = r.copying := by
  unfold releaseCopies
  cases r.copies.stopped <;> rfl

theorem copying_effect {access : Access} (h : (access.effect r).copying = true) :
    r.copying = true ∧ access ≠ .cleared := by
  cases access with
  | cleared => cases h
  | released => exact ⟨r.releaseCopies_copying.symm.trans h, nofun⟩
  | _ => exact ⟨h, nofun⟩

theorem stopped_effect {access : Access} (h : access ≠ .released) :
    (access.effect r).copies.stopped = r.copies.stopped := by
  cases access with
  | appended direction bs => exact stopped_append direction bs
  | released => exact absurd rfl h
  | _ => rfl

end Accesses

end Recorder

end PeekRelay
