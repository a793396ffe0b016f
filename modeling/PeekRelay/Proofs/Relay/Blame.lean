import Mathlib.Logic.Relation
import PeekRelay.Proofs.Evidence
import PeekRelay.Proofs.Relay.Routes
/-!
# What a failed copy is to blame on

Of the copier of a session it is relied on that it stops at the first call that fails, and fails
with its error. If that was a read of the client, the recorder of the client has the error; if it
was anything else, no read of the client has failed before.
-/
namespace PeekRelay

def Poll.error? {α : Type} : Poll (Result α) → Option IoError
  | .ready (.error e) => some e
  | _ => none

namespace Route

variable {s : Type}

/-- A call of a route, with the error it failed with if it did. -/
inductive Called (route : Route s) (state : s) (failure : Option IoError) (next : s) : Prop where
  | read {buffer answer} (h : route.read buffer state = (answer, next))
      (he : answer.error? = failure)
  | write {data answer} (h : route.write data state = (answer, next))
      (he : answer.error? = failure)
  | flush {answer} (h : route.flush state = (answer, next)) (he : answer.error? = failure)
  | shutdown {answer} (h : route.shutdown state = (answer, next)) (he : answer.error? = failure)

/-- Calls on either of two routes, none of which failed. -/
def Calm (up down : Route s) : s → s → Prop :=
  Relation.ReflTransGen fun state next => up.Called state none next ∨ down.Called state none next

/-- The first call that fails after any number of calls that did not. -/
def FirstFailure (up down : Route s) (state : s) (e : IoError) (next : s) : Prop :=
  ∃ mid, up.Calm down state mid ∧ (up.Called mid (some e) next ∨ down.Called mid (some e) next)

/-- What the calls of a route leave behind: `P` as long as none failed, and `F` after one that
failed. -/
structure Blames (route : Route s) (P : s → Prop) (F : IoError → s → Prop) : Prop where
  weaken : ∀ {state} e, P state → F e state
  calm : ∀ {state next}, P state → route.Called state none next → P next
  failed : ∀ {state next e}, P state → route.Called state (some e) next → F e next

end Route

/-- A poll of the copier makes calls until it waits, is finished or fails, or until one of them
fails. Then it makes no other call, and fails with that error. -/
def Copier.ReturnsFirstError (copier : Copier) : Prop :=
  ∀ {s : Type} (up down : Route s) (budget : Nat) (copying : copier.State) (state : s),
    up.Calm down state (copier.poll up down budget copying state).2.2 ∨
      ∃ e, (copier.poll up down budget copying state).1 = .failed e ∧
        up.FirstFailure down state e (copier.poll up down budget copying state).2.2

/-- What a poll of a copier leaves behind. -/
def CopyTurn.Leaves {s : Type} (P : s → Prop) (F : IoError → s → Prop) (turn : CopyTurn)
    (state : s) : Prop :=
  match turn with
  | .failed e => F e state
  | _ => P state

section Copiers

variable {s : Type} {up down : Route s} {P : s → Prop} {F : IoError → s → Prop}

private theorem Route.Calm.keeps (hup : up.Blames P F) (hdown : down.Blames P F) {state next : s}
    (hcalm : up.Calm down state next) (h : P state) : P next := by
  induction hcalm with
  | refl => exact h
  | tail _ hcalled ih =>
    rcases hcalled with hcalled | hcalled
    · exact hup.calm ih hcalled
    · exact hdown.calm ih hcalled

theorem Copier.ReturnsFirstError.leaves {copier : Copier} (hcopier : copier.ReturnsFirstError)
    (hup : up.Blames P F) (hdown : down.Blames P F) (budget : Nat) (copying : copier.State)
    {state : s} (h : P state) : (copier.poll up down budget copying state).1.Leaves P F
      (copier.poll up down budget copying state).2.2 := by
  rcases hcopier up down budget copying state with hcalm | ⟨e, hturn, mid, hcalm, hfailed⟩
  · have hkept := hcalm.keeps hup hdown h
    unfold CopyTurn.Leaves
    split
    · exact hup.weaken _ hkept
    · exact hkept
  · have hkept := hcalm.keeps hup hdown h
    rw [hturn]
    rcases hfailed with hfailed | hfailed
    · exact hup.failed hkept hfailed
    · exact hdown.failed hkept hfailed

end Copiers

namespace Pump

/-! A copier of pumps that make no call again returns the first error. -/

def never (_ : IoError) : Bool := false

variable {s : Type} {P : s → Prop} {F : IoError → s → Prop}

private def Turn.Leaves (P : s → Prop) (F : IoError → s → Prop) (turn : Turn) (state : s) : Prop :=
  match turn with
  | .failed e => F e state
  | _ => P state

private def Move.Leaves (P : s → Prop) (F : IoError → s → Prop) : Move × Pump × s → Prop
  | (.next _, _, state) => P state
  | (.stop turn, _, state) => turn.Leaves P F state

section Steps

variable {route : Route s} (hroute : route.Blames P F) (p : Pump) {state : s} (h : P state)

include hroute h

private theorem fill_leaves : Move.Leaves P F (p.fill never route state) := by
  unfold fill
  split
  · rcases hread : route.read p.readBuffer state with ⟨_ | e | b, next⟩
    · have hnext := hroute.calm h (.read hread rfl)
      dsimp only
      split
      · exact hnext
      · split
        · rcases hflush : route.flush next with ⟨_ | e | _, last⟩
          · exact hroute.calm hnext (.flush hflush rfl)
          · exact hroute.failed hnext (.flush hflush rfl)
          · exact hroute.calm hnext (.flush hflush rfl)
        · exact hnext
    · exact hroute.failed h (.read hread rfl)
    · exact hroute.calm h (.read hread rfl)
  · exact h

private theorem topUp_leaves : Move.Leaves P F (p.topUp route state) := by
  unfold topUp
  split
  · rcases hread : route.read p.readBuffer state with ⟨_ | e | b, next⟩
    · exact hroute.calm h (.read hread rfl)
    · exact hroute.failed h (.read hread rfl)
    · exact hroute.calm h (.read hread rfl)
  · exact h

private theorem empty_leaves : Move.Leaves P F (p.empty never route state) := by
  unfold empty
  split
  · exact h
  · rcases hwrite : route.write p.unwritten state with ⟨_ | e | n, next⟩
    · exact topUp_leaves hroute p (hroute.calm h (.write hwrite rfl))
    · exact hroute.failed h (.write hwrite rfl)
    · have hnext := hroute.calm h (.write hwrite rfl)
      dsimp only
      split
      · exact hroute.weaken writeZero hnext
      · split <;> exact hnext

private theorem finish_leaves : Move.Leaves P F (p.finish route state) := by
  unfold finish
  rcases hflush : route.flush state with ⟨_ | e | _, next⟩
  · exact hroute.calm h (.flush hflush rfl)
  · exact hroute.failed h (.flush hflush rfl)
  · exact hroute.calm h (.flush hflush rfl)

private theorem close_leaves : Move.Leaves P F (p.close route state) := by
  unfold close
  rcases hshutdown : route.shutdown state with ⟨_ | e | _, next⟩
  · exact hroute.calm h (.shutdown hshutdown rfl)
  · exact hroute.failed h (.shutdown hshutdown rfl)
  · exact hroute.calm h (.shutdown hshutdown rfl)

private theorem step_leaves (stage : Stage) :
    Move.Leaves P F (step never route stage p state) := by
  cases stage with
  | fill => exact fill_leaves hroute p h
  | empty => exact empty_leaves hroute p h
  | finish => exact finish_leaves hroute p h
  | close => exact close_leaves hroute p h

private theorem run_leaves (budget : Nat) (stage : Stage) :
    (run never route budget stage p state).1.Leaves P F
      (run never route budget stage p state).2.2 := by
  induction budget generalizing stage p state with
  | zero => exact h
  | succ budget ih =>
    have hstep := step_leaves hroute p h stage
    unfold run
    split
    · next heq => rwa [heq] at hstep
    · next heq =>
      rw [heq] at hstep
      exact ih _ hstep _

private theorem poll_leaves (budget : Nat) :
    (p.poll never route budget state).1.Leaves P F (p.poll never route budget state).2.2 := by
  unfold poll
  split
  · exact run_leaves hroute p h budget .fill
  · exact run_leaves hroute p h budget .close
  · exact h

end Steps

variable {up down : Route s}

private theorem pollSecond_leaves (hdown : down.Blames P F) (budget : Nat) (first : Pump)
    (turn : Turn) (second : Pump) {state : s} (h : P state) :
    (pollSecond never down budget first turn second state).1.Leaves P F
      (pollSecond never down budget first turn second state).2.2 := by
  have hpoll := poll_leaves hdown second h budget
  unfold pollSecond
  rcases hturn : second.poll never down budget state with ⟨turn', second', next⟩
  rw [hturn] at hpoll
  cases turn' with
  | failed e => exact hpoll
  | panicked => exact hpoll
  | waits | spent | finished =>
    dsimp only [Turn.join]
    split <;> exact hpoll

private theorem pollBoth_leaves (hup : up.Blames P F) (hdown : down.Blames P F) (budget : Nat)
    (pumps : Pump × Pump) {state : s} (h : P state) :
    (pollBoth never up down budget pumps state).1.Leaves P F
      (pollBoth never up down budget pumps state).2.2 := by
  have hpoll := poll_leaves hup pumps.1 h budget
  unfold pollBoth
  rcases hturn : pumps.1.poll never up budget state with ⟨turn, first, next⟩
  rw [hturn] at hpoll
  cases turn with
  | failed e => exact hpoll
  | panicked => exact hpoll
  | waits | spent | finished => exact pollSecond_leaves hdown budget first _ pumps.2 hpoll

theorem copier_returnsFirstError : (copier never).ReturnsFirstError := by
  intro s up down budget pumps state
  -- Along each route, either no call failed so far, or the first one that did was the last call.
  let F := fun e next => up.Calm down state next ∨ up.FirstFailure down state e next
  have hup : up.Blames (up.Calm down state) F :=
    ⟨fun _ => .inl, fun h hcalled => h.tail (.inl hcalled),
      fun h hfailed => .inr ⟨_, h, .inl hfailed⟩⟩
  have hdown : down.Blames (up.Calm down state) F :=
    ⟨fun _ => .inl, fun h hcalled => h.tail (.inr hcalled),
      fun h hfailed => .inr ⟨_, h, .inr hfailed⟩⟩
  have hpoll := pollBoth_leaves hup hdown budget pumps Relation.ReflTransGen.refl
  change up.Calm down state (pollBoth never up down budget pumps state).2.2 ∨
    ∃ e, (pollBoth never up down budget pumps state).1 = .failed e ∧
      up.FirstFailure down state e (pollBoth never up down budget pumps state).2.2
  rcases hturn : (pollBoth never up down budget pumps state).1 with _ | _ | e | _ <;>
    rw [hturn] at hpoll
  case failed => exact hpoll.imp_right fun hfailed => ⟨e, rfl, hfailed⟩
  all_goals exact .inl hpoll

end Pump

namespace Relay

section Copying

variable {σ υ : Type} {kept : Bool} {e : IoError} {t : Tap (Logged σ)}

structure Copying (kept : Bool) (t : Tap (Logged σ)) : Prop where
  accurate : t.Accurate false kept
  unfailed : t.inner.Unfailed

/-- A client whose session failed while it was being copied. If that was a read of the client, it is
the last thing that happened to it. -/
structure CopyFailed (kept : Bool) (e : IoError) (t : Tap (Logged σ)) : Prop where
  accurate : t.Accurate false kept
  blame : t.inner.FailedReading e ∨ t.inner.Unfailed

/-- What holds of both sides as long as nobody asked for a stop. -/
def WhileQuiet (P : Tap (Logged σ) → Prop) (state : Tap (Logged σ) × Logged υ) : Prop :=
  state.1.inner.Quiet → state.2.Quiet → P state.1

private theorem Copying.weaken (h : Copying kept t) :
    CopyFailed kept e t := ⟨h.accurate, .inr h.unfailed⟩

variable [ByteStream σ] [ByteStream υ] (env : Surroundings)

private theorem Copying.call (h : Copying kept t) (c : Call)
    (hquiet : (c.onTap env t).2.inner.Quiet)
    (hnone : c.readError? (c.outcome (c.onTap env t).1) = none) :
    Copying kept (c.onTap env t).2 := by
  refine ⟨h.accurate.call env c hquiet, ?_⟩
  obtain ⟨as, hlog, has⟩ := Tap.call_unfailed env hnone
  intro a ha
  rw [hlog] at ha
  rcases List.mem_append.mp ha with ha | ha
  · exact h.unfailed a ha
  · exact (has a ha).2

private theorem Copying.failedRead (h : Copying kept t) {buffer : ReadBuffer}
    (hquiet : (t.pollRead env buffer).2.inner.Quiet)
    (he : (t.pollRead env buffer).1 = .ready (.error e)) :
    CopyFailed kept e (t.pollRead env buffer).2 := by
  obtain ⟨a, hlog, -, hfailed⟩ := Tap.pollRead_failed env he
  exact ⟨h.accurate.call env (.pollRead buffer) hquiet, .inl ⟨_, a, hlog, hfailed⟩⟩

private def targetCalled (c : Call) (t : Tap (Logged σ)) (u : Logged υ) :
    Tap (Logged σ) × Logged υ :=
  ({ t with monitor := t.monitor.heedAll (c.ask u).stops }, (c.ask u).next)

omit [ByteStream σ] in
private theorem whileQuiet_target {u : Logged υ} (c : Call)
    (h : WhileQuiet (Copying kept) (t, u)) : WhileQuiet (Copying kept) (targetCalled c t u) := by
  intro hclient htarget
  obtain ⟨hbefore, hstops⟩ := Logged.quiet_of_ask htarget
  rw [targetCalled, hstops]
  exact h hclient hbefore

omit [ByteStream υ] in
private theorem whileQuiet_client {u : Logged υ} {c : Call}
    (hnone : c.readError? (c.outcome (c.onTap env t).1) = none)
    (h : WhileQuiet (Copying kept) (t, u)) : WhileQuiet (Copying kept) ((c.onTap env t).2, u) := by
  intro hclient htarget
  exact (h (Tap.quiet_of_onTap env hclient) htarget).call env c hclient hnone

omit [ByteStream σ] [ByteStream υ] in
private theorem WhileQuiet.weaken {state : Tap (Logged σ) × Logged υ}
    (h : WhileQuiet (Copying kept) state) : WhileQuiet (CopyFailed kept e) state :=
  fun hclient htarget => (h hclient htarget).weaken

private theorem readError?_pollRead (buffer : ReadBuffer) (response : Poll (Result ReadBuffer)) :
    (Call.pollRead buffer).readError? ((Call.pollRead buffer).outcome response) =
      response.error? := by
  rcases response with _ | e | b <;> rfl

private theorem toTarget_called {u : Logged υ} {failure : Option IoError}
    {next : Tap (Logged σ) × Logged υ} (h : (toTarget env).Called (t, u) failure next) :
    (∃ buffer, next = ((t.pollRead env buffer).2, u) ∧
        (t.pollRead env buffer).1.error? = failure) ∨ ∃ c, next = targetCalled c t u := by
  cases h with
  | @read buffer answer h he =>
    obtain ⟨rfl, rfl⟩ := Prod.mk.inj h
    exact .inl ⟨buffer, rfl, he⟩
  | @write data answer h =>
    obtain ⟨-, rfl⟩ := Prod.mk.inj h
    exact .inr ⟨.pollWrite data, rfl⟩
  | flush h =>
    obtain ⟨-, rfl⟩ := Prod.mk.inj h
    exact .inr ⟨.pollFlush, rfl⟩
  | shutdown h =>
    obtain ⟨-, rfl⟩ := Prod.mk.inj h
    exact .inr ⟨.pollShutdown, rfl⟩

private theorem toClient_called {u : Logged υ} {failure : Option IoError}
    {next : Tap (Logged σ) × Logged υ} (h : (toClient env).Called (t, u) failure next) :
    (∃ c : Call, c.isRead = false ∧ next = ((c.onTap env t).2, u)) ∨
      ∃ c, next = targetCalled c t u := by
  cases h with
  | @read buffer answer h =>
    rw [toClient_read] at h
    obtain ⟨-, rfl⟩ := Prod.mk.inj h
    exact .inr ⟨.pollRead buffer, rfl⟩
  | @write data answer h =>
    obtain ⟨-, rfl⟩ := Prod.mk.inj h
    exact .inl ⟨.pollWrite data, rfl, rfl⟩
  | flush h =>
    obtain ⟨-, rfl⟩ := Prod.mk.inj h
    exact .inl ⟨.pollFlush, rfl, rfl⟩
  | shutdown h =>
    obtain ⟨-, rfl⟩ := Prod.mk.inj h
    exact .inl ⟨.pollShutdown, rfl, rfl⟩

theorem toTarget_blames : (toTarget (σ := Logged σ) (υ := Logged υ) env).Blames
    (WhileQuiet (Copying kept)) (fun e => WhileQuiet (CopyFailed kept e)) where
  weaken _ h := h.weaken
  calm h hcalled := by
    obtain ⟨buffer, rfl, hnone⟩ | ⟨c, rfl⟩ := toTarget_called env hcalled
    · exact whileQuiet_client (c := .pollRead buffer) env
        ((readError?_pollRead buffer _).trans hnone) h
    · exact whileQuiet_target c h
  failed {state next e} h hcalled := by
    obtain ⟨buffer, rfl, herror⟩ | ⟨c, rfl⟩ := toTarget_called env hcalled
    · intro hclient htarget
      have hbefore := h (Tap.quiet_of_onTap (c := .pollRead buffer) env hclient) htarget
      refine hbefore.failedRead env hclient ?_
      rcases hresponse : (state.1.pollRead env buffer).1 with _ | e' | b <;>
        rw [hresponse] at herror <;> cases herror
      rfl
    · exact (whileQuiet_target c h).weaken

theorem toClient_blames : (toClient (σ := Logged σ) (υ := Logged υ) env).Blames
    (WhileQuiet (Copying kept)) (fun e => WhileQuiet (CopyFailed kept e)) :=
  have hcalm {state next : Tap (Logged σ) × Logged υ} {failure : Option IoError}
      (h : WhileQuiet (Copying kept) state) (hcalled : (toClient env).Called state failure next) :
      WhileQuiet (Copying kept) next := by
    obtain ⟨c, hc, rfl⟩ | ⟨c, rfl⟩ := toClient_called env hcalled
    · exact whileQuiet_client env (if_neg (by rw [hc]; decide)) h
    · exact whileQuiet_target c h
  { weaken := fun _ h => h.weaken
    calm := hcalm
    failed := fun h hcalled => (hcalm h hcalled).weaken }

end Copying

end Relay

end PeekRelay
