import Mathlib.Control.Monad.Basic
import PeekRelay.Proofs.Relay.Forget
import PeekRelay.Proofs.Relay.Stages
import PeekRelay.Tap.Whole
/-!
# A session delivers both streams whole

A session is polled at any times, with any budgets, and may hear from handles in between. Unless
somebody stops the sniffing before the handoff, the target receives all that the client sends, the
sniffed bytes included, and the client receives all that the target sends.
-/
namespace PeekRelay

deriving instance DecidableEq for RelayStage

namespace Relay

/-- What a session meets with: it is polled, or a handle asks for a stop. -/
inductive Input where
  | poll (now budget : Nat)
  | stop (stop : Stop)

section Runs

variable {σ υ : Type} {copier : Copier}

def fresh (copier : Copier) (s : σ) (u : υ) (id : Uuid) (sniffing : SniffSettings)
    (clientAddress : SocketAddress) (settings : RelaySettings) : Relay σ υ copier :=
  { client := .wrap s id sniffing, target := u, clientAddress, settings }

variable [ByteStream σ] [ByteStream υ] (env : Surroundings)

def step (r : Relay σ υ copier) : Input → Relay σ υ copier
  | .poll now budget => (r.poll env now budget).1
  | .stop stop => { r with client := r.client.heed stop }

def after (r : Relay σ υ copier) (inputs : List Input) : Relay σ υ copier :=
  inputs.foldl (step env) r

theorem after_forget (huniform : copier.Uniform) (r : Relay (Logged σ) (Logged υ) copier)
    (inputs : List Input) : (r.after env inputs).forget = r.forget.after env inputs := by
  induction inputs generalizing r with
  | nil => rfl
  | cons input inputs ih =>
    change ((r.step env input).after env inputs).forget = (r.forget.step env input).after env inputs
    rw [ih]
    cases input with
    | poll now budget =>
      have hpoll := congrArg Prod.fst (poll_forget env huniform now budget r)
      exact congrArg (after env · inputs) hpoll.symm
    | stop stop => rfl

end Runs

section Sessions

variable {σ υ : Type} {retries : IoError → Bool} [ByteStream σ] [ByteStream υ] (env : Surroundings)

/-- Nobody else stops the sniffing before the handoff, neither a handle nor the client during one of
its calls. -/
def Undisturbed : Relay (Logged σ) (Logged υ) (Pump.copier retries) → List Input → Prop
  | _, [] => True
  | r, input :: inputs =>
    (r.beforeHandOff = true → match input with
      | .poll now _ => (r.lead env now).client.inner.Unstopped
      | .stop stop => stop ≠ .sniffing) ∧ Undisturbed (r.step env input) inputs

private theorem after_sound {r : Relay (Logged σ) (Logged υ) (Pump.copier retries)}
    (inputs : List Input) (h : r.Sound)
    (hundisturbed : Undisturbed env r inputs) : (r.after env inputs).Sound := by
  induction inputs generalizing r with
  | nil => exact h
  | cons input inputs ih =>
    obtain ⟨hinput, hrest⟩ := hundisturbed
    refine ih ?_ hrest
    cases input with
    | poll now budget => exact poll_sound env now budget h hinput
    | stop stop => exact stop_sound stop h hinput

/-- In every state of an undisturbed session, what either side accepted is a prefix of what the
other side delivered. A session that ends well has delivered and counted all of both inputs. -/
theorem session_delivers (retries : IoError → Bool) (s : σ) (u : υ) (id : Uuid)
    (sniffing : SniffSettings) (clientAddress : SocketAddress) (settings : RelaySettings)
    (inputs : List Input)
    (h : Undisturbed env (fresh (Pump.copier retries) (Logged.mk s []) (Logged.mk u []) id sniffing
      clientAddress settings) inputs) :
    let r := (fresh (Pump.copier retries) (Logged.mk s []) (Logged.mk u []) id sniffing
      clientAddress settings).after env inputs
    (fresh (Pump.copier retries) s u id sniffing clientAddress settings).after env inputs =
        r.forget ∧
      Prefixes r.client.inner r.target ∧
      ∀ toTarget toClient, r.stage = .over (.returned (.ok (toTarget, toClient))) →
        Whole r.client.inner r.target toTarget toClient := by
  intro r
  have hstart : Sound (fresh (Pump.copier retries) (Logged.mk s []) (Logged.mk u []) id sniffing
      clientAddress settings) :=
    ⟨⟨rfl, .wrap s id sniffing, rfl⟩, rfl⟩
  have hsound : r.Sound := after_sound env inputs hstart h
  have hforget : r.forget = _ := after_forget env (Pump.copier_uniform retries) _ inputs
  refine ⟨hforget.symm, hsound.prefixes, ?_⟩
  intro toTarget toClient hover
  rw [Sound, hover] at hsound
  exact hsound

end Sessions

/-- A client that sends two bytes, pauses for long, and sends two more. -/
def slowClient : Script :=
  { reads := [{ act := .data [1, 2] }, { act := .pending }, { act := .pending },
      { act := .data [3, 4] }] }

def slowTarget : Script :=
  { reads := [{ act := .pending }, { act := .data [5, 6, 7] }]
    writes := [{ act := .pending }, { act := .accept (some 1) 0 }] }

/-- The client is handed off at the deadline, and the target has all its four bytes in the end. -/
theorem session_delivers_slow :
    let env : Surroundings := .ticking
    let inputs : List Input := [.poll 0 100, .stop .copying, .poll 30 100, .stop .sniffing,
      .poll 60 3, .poll 60 100]
    let r := fresh .pumps (Logged.mk slowClient []) (Logged.mk slowTarget []) .zero {}
      (.v4 ⟨1, 2, 3, 4⟩ 5) ⟨4, 20, false⟩
    Undisturbed env r inputs ∧
      (r.after env inputs).stage = .over (.returned (.ok (4, 3))) ∧
      Whole (r.after env inputs).client.inner (r.after env inputs).target 4 3 := by
  intro env inputs r
  have hundisturbed : Undisturbed env r inputs := by
    refine ⟨?_, ?_, ?_, ?_, ?_, ?_, trivial⟩ <;> decide +kernel
  have hstage : (r.after env inputs).stage = .over (.returned (.ok (4, 3))) := by
    decide +kernel
  have hdelivers := session_delivers env IoError.isInterrupted slowClient slowTarget .zero {}
    (.v4 ⟨1, 2, 3, 4⟩ 5) ⟨4, 20, false⟩ inputs hundisturbed
  exact ⟨hundisturbed, hstage, hdelivers.2.2 4 3 hstage⟩

end Relay

end PeekRelay
