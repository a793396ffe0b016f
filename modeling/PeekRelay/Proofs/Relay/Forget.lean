import PeekRelay.Proofs.Tap.Forget
import PeekRelay.Relay.Session
/-!
# Sessions without the logs

A session between logged streams is the session between the streams themselves: pumps only see what
the calls of their route answer, and these answer alike.
-/
namespace PeekRelay

section Map

variable {s s' : Type}

/-- Under this map between the states of two routes everything is answered alike. -/
structure Route.Map (f : s → s') (route : Route s) (route' : Route s') : Prop where
  read : ∀ buffer state, route'.read buffer (f state) =
    ((route.read buffer state).1, f (route.read buffer state).2)
  write : ∀ data state, route'.write data (f state) =
    ((route.write data state).1, f (route.write data state).2)
  flush : ∀ state, route'.flush (f state) = ((route.flush state).1, f (route.flush state).2)
  shutdown : ∀ state, route'.shutdown (f state) =
    ((route.shutdown state).1, f (route.shutdown state).2)

/-- A copier that knows of its streams only what their calls answer. -/
def Copier.Uniform (copier : Copier) : Prop :=
  ∀ {s s' : Type} (f : s → s') {up down : Route s} {up' down' : Route s'},
    Route.Map f up up' → Route.Map f down down' → ∀ budget copying state,
      copier.poll up' down' budget copying (f state) =
        ((copier.poll up down budget copying state).1,
          (copier.poll up down budget copying state).2.1,
          f (copier.poll up down budget copying state).2.2)

namespace Pump

variable (retries : IoError → Bool) {route : Route s} {route' : Route s'} {f : s → s'}
  (h : Route.Map f route route')

include h

private theorem fill_map (p : Pump) (state : s) : p.fill retries route' (f state) =
    ((p.fill retries route state).1, (p.fill retries route state).2.1,
      f (p.fill retries route state).2.2) := by
  unfold fill
  split
  · rw [h.read]
    rcases route.read p.readBuffer state with ⟨_ | e | b, state'⟩
    · dsimp only
      split
      · rfl
      · split
        · rw [h.flush]
          rcases route.flush state' with ⟨_ | e | _, state'⟩ <;> rfl
        · rfl
    · rfl
    · rfl
  · rfl

private theorem topUp_map (p : Pump) (state : s) : p.topUp route' (f state) =
    ((p.topUp route state).1, (p.topUp route state).2.1, f (p.topUp route state).2.2) := by
  unfold topUp
  split
  · rw [h.read]
    rcases route.read p.readBuffer state with ⟨_ | e | b, state'⟩ <;> rfl
  · rfl

private theorem empty_map (p : Pump) (state : s) : p.empty retries route' (f state) =
    ((p.empty retries route state).1, (p.empty retries route state).2.1,
      f (p.empty retries route state).2.2) := by
  unfold empty
  split
  · rfl
  · rw [h.write]
    rcases route.write p.unwritten state with ⟨_ | e | n, state'⟩
    · exact topUp_map h p state'
    · rfl
    · dsimp only
      split
      · rfl
      · split <;> rfl

private theorem step_map (stage : Stage) (p : Pump) (state : s) :
    step retries route' stage p (f state) =
    ((step retries route stage p state).1, (step retries route stage p state).2.1,
      f (step retries route stage p state).2.2) := by
  cases stage with
  | fill => exact fill_map retries h p state
  | empty => exact empty_map retries h p state
  | finish =>
    rw [step, step, finish, finish, h.flush]
    rcases route.flush state with ⟨_ | e | _, state'⟩ <;> rfl
  | close =>
    rw [step, step, close, close, h.shutdown]
    rcases route.shutdown state with ⟨_ | e | _, state'⟩ <;> rfl

private theorem run_map (budget : Nat) (stage : Stage) (p : Pump) (state : s) :
    run retries route' budget stage p (f state) = ((run retries route budget stage p state).1,
      (run retries route budget stage p state).2.1,
      f (run retries route budget stage p state).2.2) := by
  induction budget generalizing stage p state with
  | zero => rfl
  | succ budget ih =>
    rw [run, run, step_map retries h]
    rcases step retries route stage p state with ⟨stage' | turn, p', state'⟩
    · exact ih stage' p' state'
    · rfl

private theorem poll_map (budget : Nat) (p : Pump) (state : s) :
    p.poll retries route' budget (f state) = ((p.poll retries route budget state).1,
      (p.poll retries route budget state).2.1, f (p.poll retries route budget state).2.2) := by
  unfold poll
  split
  · exact run_map retries h budget .fill p state
  · exact run_map retries h budget .close p state
  · rfl

private theorem pollSecond_map (budget : Nat) (up : Pump) (turn : Turn) (down : Pump) (state : s) :
    pollSecond retries route' budget up turn down (f state) =
      ((pollSecond retries route budget up turn down state).1,
        (pollSecond retries route budget up turn down state).2.1,
        f (pollSecond retries route budget up turn down state).2.2) := by
  unfold pollSecond
  rw [poll_map retries h]
  rcases down.poll retries route budget state with ⟨_ | _ | _ | e | _, down', state'⟩ <;> rfl

omit h in
theorem copier_uniform : (copier retries).Uniform := by
  intro s s' f up down up' down' hup hdown budget pumps state
  change pollBoth retries up' down' budget pumps (f state) =
    ((pollBoth retries up down budget pumps state).1,
      (pollBoth retries up down budget pumps state).2.1,
      f (pollBoth retries up down budget pumps state).2.2)
  unfold pollBoth
  rw [poll_map retries hup]
  rcases pumps.1.poll retries up budget state with ⟨turn, first, state'⟩
  cases turn with
  | failed e => rfl
  | panicked => rfl
  | _ => exact pollSecond_map retries hdown budget first _ pumps.2 state'

end Pump

end Map

namespace Relay

variable {σ υ : Type} {copier : Copier}

def forget (r : Relay (Logged σ) (Logged υ) copier) : Relay σ υ copier :=
  { client := r.client.forget
    target := r.target.stream
    clientAddress := r.clientAddress
    settings := r.settings
    stage := r.stage }

private theorem handOff_forget (r : Relay (Logged σ) (Logged υ) copier) :
    r.forget.handOff = r.handOff.forget := by
  unfold handOff
  rw [show r.forget.settings = r.settings from rfl]
  cases r.settings.keepCopies <;> rfl

private theorem begin_forget (now : Nat) (r : Relay (Logged σ) (Logged υ) copier) :
    r.forget.begin now = (r.begin now).forget := by
  unfold begin
  rw [show r.forget.client.beginSniff r.forget.settings.sniffBytes =
    r.client.beginSniff r.settings.sniffBytes from rfl]
  rcases r.client.beginSniff r.settings.sniffBytes with (e | s) | _ <;> rfl

section Polls

variable [ByteStream σ] (env : Surroundings)

private theorem pollSniff_forget (now : Nat) (s : Sniff) (deadline : Nat)
    (r : Relay (Logged σ) (Logged υ) copier) :
    r.forget.pollSniff env now s deadline = (r.pollSniff env now s deadline).forget := by
  have hresume : r.forget.client.resumeSniff env s = ((r.client.resumeSniff env s).1,
      (r.client.resumeSniff env s).2.1, (r.client.resumeSniff env s).2.2.forget) :=
    Sniff.resume_map (Tap.forgetting env) s r.client
  unfold pollSniff
  rw [hresume]
  rcases r.client.resumeSniff env s with ⟨_ | e | bytes, s', client⟩
  · by_cases hlate : deadline ≤ now
    · simp only [if_pos hlate]
      refine .trans ?_ (handOff_forget _)
      rfl
    · simp only [if_neg hlate]
      rfl
  · rfl
  · refine .trans ?_ (handOff_forget _)
    rfl

private theorem advance_forget (now : Nat) (r : Relay (Logged σ) (Logged υ) copier) :
    r.forget.advance env now = (r.advance env now).forget := by
  unfold advance
  rw [show r.forget.stage = r.stage from rfl]
  split
  · exact pollSniff_forget env now _ _ r
  · rfl

private theorem lead_forget (now : Nat) (r : Relay (Logged σ) (Logged υ) copier) :
    r.forget.lead env now = (r.lead env now).forget := by
  unfold lead
  rw [show r.forget.stage = r.stage from rfl]
  split
  · rw [begin_forget, advance_forget]
  · exact advance_forget env now r

variable [ByteStream υ]

private theorem toTarget_map : Route.Map (fun state => (state.1.forget, state.2.stream))
    (toTarget (σ := Logged σ) (υ := Logged υ) env) (toTarget (σ := σ) (υ := υ) env) where
  read buffer state := congrArg (fun called => (called.1, called.2, state.2.stream))
    (Call.onTap_forget env (.pollRead buffer) state.1)
  write _ _ := rfl
  flush _ := rfl
  shutdown _ := rfl

private theorem toClient_map : Route.Map (fun state => (state.1.forget, state.2.stream))
    (toClient (σ := Logged σ) (υ := Logged υ) env) (toClient (σ := σ) (υ := υ) env) where
  read _ _ := rfl
  write data state := congrArg (fun called => (called.1, called.2, state.2.stream))
    (Call.onTap_forget env (.pollWrite data) state.1)
  flush _ := rfl
  shutdown _ := rfl

variable (huniform : copier.Uniform)

include huniform

private theorem pollCopy_forget (budget : Nat) (copying : copier.State)
    (r : Relay (Logged σ) (Logged υ) copier) : r.forget.pollCopy env budget copying =
      ((r.pollCopy env budget copying).1.forget, (r.pollCopy env budget copying).2) := by
  have hpoll := huniform _ (toTarget_map (σ := σ) (υ := υ) env) (toClient_map env) budget copying
    (r.client, r.target)
  unfold pollCopy
  rw [show (r.forget.client, r.forget.target) = (r.client.forget, r.target.stream) from rfl, hpoll]
  rcases copier.poll (toTarget env) (toClient env) budget copying (r.client, r.target) with
    ⟨_ | _ | _ | _, copying', client, target⟩ <;> rfl

/-- A poll of a session goes alike whether or not its streams keep logs. -/
theorem poll_forget (now budget : Nat) (r : Relay (Logged σ) (Logged υ) copier) :
    r.forget.poll env now budget =
      ((r.poll env now budget).1.forget, (r.poll env now budget).2) := by
  unfold poll
  rw [lead_forget]
  cases hstage : (r.lead env now).stage with
  | copying copying =>
    have hcopy := pollCopy_forget env huniform budget copying (r.lead env now)
    simp only [show (r.lead env now).forget.stage = _ from hstage, hstage]
    exact hcopy
  | _ =>
    simp only [show (r.lead env now).forget.stage = _ from hstage, hstage]

end Polls

end Relay

end PeekRelay
