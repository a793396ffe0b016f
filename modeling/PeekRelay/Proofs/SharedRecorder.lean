import Mathlib.Data.List.Induction
import Mathlib.Logic.Function.Basic
import PeekRelay.Proofs.RecorderThreads
/-!
# Recorders shared by threads

Any number of threads use a recorder at the same time, and their steps fall between each other.
However they fall, the copies are what was appended, in this order, until a stop comes through; from
then on they stay empty.
-/
namespace PeekRelay.Recorder

structure Shared (n : Nat) where
  recorder : Recorder
  threads : Fin n → Thread

namespace Shared

variable {n : Nat}

def start (id : Uuid) (copying : Bool) (requests : Fin n → List Request) : Shared n where
  recorder := .new id copying
  threads i := { ahead := requests i }

def step (c : Shared n) (i : Fin n) : Access × Shared n :=
  let (access, thread) := (c.threads i).next c.recorder
  (access, { recorder := access.effect c.recorder, threads := Function.update c.threads i thread })

def after (c : Shared n) (schedule : List (Fin n)) : Shared n :=
  schedule.foldl (fun c i => (c.step i).2) c

/-- The steps that the threads make in the order of a schedule, each with its thread. -/
def history (c : Shared n) : List (Fin n) → List (Fin n × Access)
  | [] => []
  | i :: schedule => (i, (c.step i).1) :: (c.step i).2.history schedule

def accesses (c : Shared n) (schedule : List (Fin n)) : List Access :=
  (c.history schedule).map Prod.snd

def accessesOf (c : Shared n) (i : Fin n) (schedule : List (Fin n)) : List Access :=
  ((c.history schedule).filter fun own => own.1 = i).map Prod.snd

section Schedules

variable (c : Shared n)

private theorem after_append (past later : List (Fin n)) :
    c.after (past ++ later) = (c.after past).after later := List.foldl_append

private theorem after_concat (past : List (Fin n)) (i : Fin n) :
    c.after (past ++ [i]) = ((c.after past).step i).2 := c.after_append past [i]

private theorem history_append (past later : List (Fin n)) :
    c.history (past ++ later) = c.history past ++ (c.after past).history later := by
  induction past generalizing c with
  | nil => rfl
  | cons i past ih =>
    rw [List.cons_append, history, history, ih]
    rfl

private theorem accesses_append (past later : List (Fin n)) :
    c.accesses (past ++ later) = c.accesses past ++ (c.after past).accesses later := by
  rw [accesses, history_append, List.map_append]
  rfl

private theorem accesses_concat (past : List (Fin n)) (i : Fin n) :
    c.accesses (past ++ [i]) = c.accesses past ++ [((c.after past).step i).1] :=
  c.accesses_append past [i]

private theorem accessesOf_concat (past : List (Fin n)) (i j : Fin n) :
    c.accessesOf i (past ++ [j]) =
    c.accessesOf i past ++ if j = i then [((c.after past).step j).1] else [] := by
  rw [accessesOf, history_append, List.filter_append, List.map_append]
  by_cases hsame : j = i <;> simp [accessesOf, history, hsame]

private theorem length_accessesOf (i : Fin n) (schedule : List (Fin n)) :
    (c.accessesOf i schedule).length = schedule.count i := by
  induction schedule using List.reverseRecOn with
  | nil => rfl
  | append_singleton past j ih =>
    rw [accessesOf_concat, List.length_append, ih, List.count_append, List.count_singleton]
    by_cases hsame : j = i <;> simp [hsame]

private theorem mem_accesses {i : Fin n} {schedule : List (Fin n)} {access : Access}
    (h : access ∈ c.accessesOf i schedule) : access ∈ c.accesses schedule := by
  obtain ⟨own, hown, rfl⟩ := List.mem_map.mp h
  exact List.mem_map_of_mem (List.mem_filter.mp hown).1

private theorem after_induction {P : List (Fin n) → Shared n → Prop} (start : P [] c)
    (step : ∀ past i, P past (c.after past) → P (past ++ [i]) ((c.after past).step i).2)
    (schedule : List (Fin n)) : P schedule (c.after schedule) := by
  induction schedule using List.reverseRecOn with
  | nil => exact start
  | append_singleton past i ih =>
    rw [after_concat]
    exact step past i ih

private theorem recorder_step (i : Fin n) :
    (c.step i).2.recorder = (c.step i).1.effect c.recorder := rfl

private theorem thread_step (i : Fin n) :
    (c.step i).2.threads i = ((c.threads i).next c.recorder).2 := Function.update_self ..

private theorem thread_step_of_ne {i j : Fin n} (h : j ≠ i) :
    (c.step i).2.threads j = c.threads j :=
  Function.update_of_ne h ..

end Schedules

/-- What comes of the next request of a thread if nobody interrupts it is what the recorder does
with such a request. -/
def CarriesOut (c : Shared n) (i : Fin n) (request : Request) (ahead : List Request) : Prop :=
  ∃ steps, (c.after (List.replicate steps i)).recorder = request.perform c.recorder ∧
    (c.after (List.replicate steps i)).threads i = { ahead } ∧
    ∀ sniffing, request = .snapshot sniffing →
      Access.returned (c.recorder.snapshot sniffing) ∈ c.accesses (List.replicate steps i)

private theorem carriesOut (c : Shared n) (i : Fin n) {request : Request} {ahead : List Request}
    (h : c.threads i = { ahead := request :: ahead }) : c.CarriesOut i request ahead := by
  cases request with
  | keep direction bs =>
    cases hcopying : c.recorder.copying with
    | false =>
      refine ⟨1, ?_, ?_, fun _ h => by cases h⟩ <;>
        simp [after, step, Thread.next, h, hcopying, Access.effect, Request.perform, keep]
    | true =>
      refine ⟨2, ?_, ?_, fun _ h => by cases h⟩ <;>
        simp [after, step, Thread.next, h, hcopying, Access.effect, Request.perform, keep]
  | stopCopying =>
    refine ⟨2, ?_, ?_, fun _ h => by cases h⟩ <;>
      simp [after, step, Thread.next, h, Access.effect, Request.perform, stopCopying]
  | snapshot sniffing =>
    refine ⟨4, ?_, ?_, ?_⟩
    · simp [after, step, Thread.next, h, Access.effect, Request.perform]
    · simp [after, step, Thread.next, h]
    · rintro _ ⟨⟩
      simp [accesses, history, step, Thread.next, h, Access.effect, snapshotCopies, snapshot]

section Stops

variable {c : Shared n}

/-- The flag is cleared before the copies are released. -/
structure ClearsFirst (c : Shared n) : Prop where
  flag : c.recorder.copying = true → c.recorder.copies.stopped = false
  releasing : ∀ i, (c.threads i).phase = .releasing → c.recorder.copying = false

private theorem clearsFirst_start (id : Uuid) (copying : Bool) (requests : Fin n → List Request) :
    (start id copying requests).ClearsFirst where
  flag h := by
    change copying = true at h
    change (!copying) = false
    simp [h]
  releasing i h := by cases h

private theorem ClearsFirst.step (h : c.ClearsFirst) (i : Fin n) : (c.step i).2.ClearsFirst := by
  constructor
  case flag =>
    intro hcopying
    rw [recorder_step] at hcopying ⊢
    obtain ⟨hbefore, -⟩ := copying_effect hcopying
    have haccess : (c.step i).1 ≠ .released := by
      intro hreleased
      rw [h.releasing i (Thread.releasing_of_released hreleased)] at hbefore
      cases hbefore
    rw [stopped_effect haccess]
    exact h.flag hbefore
  case releasing =>
    intro j hj
    refine Bool.eq_false_iff.mpr ?_
    intro hcopying
    rw [recorder_step] at hcopying
    obtain ⟨hbefore, hcleared⟩ := copying_effect hcopying
    by_cases hsame : j = i
    · subst hsame
      rw [thread_step] at hj
      exact hcleared (Thread.cleared_of_releasing hj)
    · rw [c.thread_step_of_ne hsame] at hj
      rw [h.releasing j hj] at hbefore
      cases hbefore

section Reachable

variable (id : Uuid) (copying : Bool) (requests : Fin n → List Request)

private theorem clearsFirst_after (schedule : List (Fin n)) :
    ((start id copying requests).after schedule).ClearsFirst :=
  after_induction (start id copying requests) (P := fun _ c => c.ClearsFirst)
    (clearsFirst_start id copying requests) (fun _ i hpast => hpast.step i) schedule

private theorem accounted_after (schedule : List (Fin n)) :
    Accounted ((start id copying requests).after schedule).recorder
      ((start id copying requests).accesses schedule) := by
  refine after_induction (start id copying requests)
    (P := fun schedule c => Accounted c.recorder ((start id copying requests).accesses schedule))
    (accounted_new id copying) ?_ schedule
  intro past i hpast
  rw [accesses_concat, recorder_step]
  exact hpast.effect _

/-- Each thread carries out its requests, whatever the others do. -/
theorem follows_after (schedule : List (Fin n)) (i : Fin n) :
    (((start id copying requests).after schedule).threads i).Follows (requests i)
      ((start id copying requests).accessesOf i schedule) := by
  refine after_induction (start id copying requests)
    (P := fun schedule c => (c.threads i).Follows (requests i)
      ((start id copying requests).accessesOf i schedule)) (Thread.follows_start _) ?_ schedule
  intro past j hpast
  rw [accessesOf_concat]
  by_cases hsame : j = i
  · subst hsame
    rw [if_pos rfl, thread_step]
    exact hpast.next _
  · rw [if_neg hsame, List.append_nil, thread_step_of_ne _ (Ne.symm hsame)]
    exact hpast

private theorem released_after {past : List (Fin n)}
    (h : .released ∈ (start id copying requests).accesses past) (later : List (Fin n)) :
    (((start id copying requests).after past).after later).recorder.copies = .released ∧
      (((start id copying requests).after past).after later).recorder.copying = false := by
  rw [← after_append]
  have haccounted := accounted_after id copying requests (past ++ later)
  have hstopped := haccounted.stopped <| by
    rw [accesses_append]
    exact List.mem_append_left _ h
  refine ⟨haccounted.empty hstopped, Bool.eq_false_iff.mpr ?_⟩
  intro hcopying
  have hopen := (clearsFirst_after id copying requests (past ++ later)).flag hcopying
  rw [hstopped] at hopen
  cases hopen

end Reachable

end Stops

section Snapshots

structure Shows (s : Snapshot) (c : Copies) : Prop where
  copying : s.copying = !c.stopped
  read : s.readCopy = c.read
  written : s.writeCopy = c.written

/-- The thread began this snapshot so many of its own steps ago, and the snapshot shows the copies
of that moment. -/
def Began (c : Shared n) (i : Fin n) (seen : Snapshot) (steps : Nat) (past : List (Fin n)) : Prop :=
  ∃ before middle, past = before ++ i :: middle ∧ middle.count i = steps ∧
    ((c.after before).threads i).phase = .idle ∧
    ((c.after before).threads i).ahead.head? = some (.snapshot seen.sniffing) ∧
    Shows seen (c.after before).recorder.copies

/-- A thread that takes a snapshot has seen the copies of the moment in which it began. -/
def SawCopies (c : Shared n) (i : Fin n) (past : List (Fin n)) : Phase → Prop
  | .counting seen => c.Began i seen 0 past
  | .timing seen => c.Began i seen 1 past
  | .tracing seen => c.Began i seen 2 past
  | _ => True

section Moments

variable {c : Shared n} {i : Fin n} {seen : Snapshot} {steps : Nat} {past : List (Fin n)}

private theorem Began.wait (h : c.Began i seen steps past) {j : Fin n} (hj : j ≠ i) :
    c.Began i seen steps (past ++ [j]) := by
  obtain ⟨before, middle, rfl, hsteps, hrest⟩ := h
  refine ⟨before, middle ++ [j], by simp, ?_, hrest⟩
  simpa [List.count_append, List.count_singleton, hj] using hsteps

private theorem Began.next (h : c.Began i seen steps past) {seen' : Snapshot}
    (hsniffing : seen'.sniffing = seen.sniffing) (hcopying : seen'.copying = seen.copying)
    (hread : seen'.readCopy = seen.readCopy) (hwritten : seen'.writeCopy = seen.writeCopy) :
    c.Began i seen' (steps + 1) (past ++ [i]) := by
  obtain ⟨before, middle, rfl, hsteps, hidle, hnext, hshows⟩ := h
  refine ⟨before, middle ++ [i], by simp, ?_, hidle, hsniffing ▸ hnext, ?_⟩
  · simp [List.count_append, hsteps]
  · exact ⟨hcopying ▸ hshows.copying, hread ▸ hshows.read, hwritten ▸ hshows.written⟩

private theorem SawCopies.wait {phase : Phase} (h : c.SawCopies i past phase) {j : Fin n}
    (hj : j ≠ i) :
    c.SawCopies i (past ++ [j]) phase := by
  cases phase with
  | counting seen | timing seen | tracing seen => exact Began.wait h hj
  | _ => trivial

private theorem SawCopies.next (h : c.SawCopies i past ((c.after past).threads i).phase) :
    c.SawCopies i (past ++ [i])
      (((c.after past).threads i).next (c.after past).recorder).2.phase := by
  rcases hthread : (c.after past).threads i with ⟨phase, ahead⟩
  rw [hthread] at h
  cases phase with
  | idle =>
    rcases ahead with _ | ⟨_ | _ | sniffing, ahead⟩
    · trivial
    · cases hcopying : (c.after past).recorder.copying <;>
        simp [Thread.next, hcopying, SawCopies]
    · trivial
    · refine ⟨past, [], rfl, rfl, ?_, ?_, rfl, rfl, rfl⟩
      · rw [hthread]
      · rw [hthread]
        rfl
  | counting seen | timing seen => exact Began.next h rfl rfl rfl rfl
  | _ => trivial

end Moments

private theorem sawCopies_after (id : Uuid) (copying : Bool) (requests : Fin n → List Request)
    (schedule : List (Fin n)) (i : Fin n) : (start id copying requests).SawCopies i schedule
      (((start id copying requests).after schedule).threads i).phase := by
  induction schedule using List.reverseRecOn with
  | nil => trivial
  | append_singleton past j ih =>
    rw [after_concat]
    by_cases hsame : j = i
    · subst hsame
      rw [thread_step]
      exact ih.next
    · rw [thread_step_of_ne _ (Ne.symm hsame)]
      exact ih.wait hsame

private theorem began_of_returned (id : Uuid) (copying : Bool) (requests : Fin n → List Request)
    (past : List (Fin n)) (i : Fin n) {s : Snapshot}
    (h : (((start id copying requests).after past).step i).1 = .returned s) :
    (start id copying requests).Began i s 3 (past ++ [i]) := by
  have hsaw := sawCopies_after id copying requests past i
  generalize hc : (start id copying requests).after past = c at h hsaw
  rcases hthread : c.threads i with ⟨phase, ahead⟩
  rw [hthread] at hsaw
  simp only [step, hthread] at h
  cases phase with
  | idle => rcases ahead with _ | ⟨_ | _ | _, ahead⟩ <;> cases h
  | tracing seen =>
    cases h
    exact Began.next hsaw rfl rfl rfl rfl
  | _ => cases h

end Snapshots

/-- However the steps of the threads fall: a stopped recorder holds no copies, and one whose flag is
set is not stopped. Until it is stopped, its copies are what was appended, each piece whole and in
the order of the appending steps. Every thread carries out its requests in turn, each with all its
steps, and has finished them when it has made four steps for each. A copy looks at the flag as it
is. Once a stop is finished, the copies are empty, and will be, and no later snapshot says
otherwise, whatever was checked before the stop. The copies in a snapshot and its word on the
copying are those of one moment, the one in which the snapshot was begun. A request that nobody
interrupts comes to what the recorder does with it. -/
theorem stop_outlasts_appends (id : Uuid) (copying : Bool) (requests : Fin n → List Request)
    (past later : List (Fin n)) :
    let c₀ := start id copying requests
    let c := c₀.after past
    let c' := c.after later
    (c.recorder.copies.stopped = true →
        c.recorder.copies.read = [] ∧ c.recorder.copies.written = []) ∧
      (c.recorder.copying = true → c.recorder.copies.stopped = false) ∧
      (c.recorder.copies.stopped = false → ∀ direction,
        c.recorder.copies.of direction = (c₀.accesses past).flatMap (Access.appendedTo direction)) ∧
      (∀ i, (c.threads i).Follows (requests i) (c₀.accessesOf i past)) ∧
      (∀ i, 4 * (requests i).length ≤ past.count i → (c.threads i).unfinished = []) ∧
      (∀ i flag, (c.step i).1 = .checked flag → flag = c.recorder.copying) ∧
      (∀ i finished, requests i = finished ++ (c.threads i).unfinished → .stopCopying ∈ finished →
        c'.recorder.copying = false ∧
          c'.recorder.copies.read = [] ∧ c'.recorder.copies.written = [] ∧
          ∀ sniffing, (c'.recorder.snapshot sniffing).copying = false) ∧
      (∀ i s, (c.step i).1 = .returned s → c₀.Began i s 3 (past ++ [i])) ∧
      ∀ i request ahead, c.threads i = { ahead := request :: ahead } →
        c.CarriesOut i request ahead := by
  intro c₀ c c'
  have haccounted : Accounted c.recorder (c₀.accesses past) :=
    accounted_after id copying requests past
  have hfollows (i : Fin n) : (c.threads i).Follows (requests i) (c₀.accessesOf i past) :=
    follows_after id copying requests past i
  refine ⟨?_, (clearsFirst_after id copying requests past).flag, haccounted.held, hfollows, ?_,
    fun i flag => Thread.eq_copying_of_checked, ?_,
    fun i s => began_of_returned id copying requests past i, fun i _ _ => c.carriesOut i⟩
  · intro hstopped
    rw [haccounted.empty hstopped]
    exact ⟨rfl, rfl⟩
  · intro i henough
    rw [← c₀.length_accessesOf] at henough
    exact (hfollows i).unfinished_eq_nil henough
  · intro i finished hrequests hstop
    have hreleased := c₀.mem_accesses ((hfollows i).released_mem hrequests hstop)
    obtain ⟨hempty, hflag⟩ := released_after id copying requests hreleased later
    change c'.recorder.copies = .released at hempty
    refine ⟨hflag, ?_, ?_, ?_⟩
    · rw [hempty]
      rfl
    · rw [hempty]
      rfl
    · intro sniffing
      simp [snapshot, hempty, Copies.released]

end Shared

end PeekRelay.Recorder
