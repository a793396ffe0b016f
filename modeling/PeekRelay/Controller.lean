import PeekRelay.Config
import PeekRelay.Listener
/-!
# The controller

The controller listens, and relays each session to the target in a task of its own. It ends when the
listening does.
-/
namespace PeekRelay

/-- What the end of the listening task means for the controller. -/
def ControllerError.ofListening (joined : Except TaskFailure (Except NetworkError Unit)) :
    Except ControllerError Unit × List Notice :=
  match joined with
  | .ok result => (result.mapError ControllerError.network, [])
  | .error e => (.error (.task e), [.acceptLoopFailed e])

namespace Session

variable {σ υ : Type}

/-- Starts to relay once the target is connected. Without a target only the copies are released. -/
def toRelay (s : Session σ) (address : String) (settings : RelaySettings) (target : Result υ) :
    Except (NetworkError × Tap σ) (Relay σ υ) :=
  match target with
  | .error e => .error (.connect e, s.client.heed .copying)
  | .ok target =>
    .ok {
      client := s.client.recording fun r => r.note (.connected address)
      target, clientAddress := s.clientAddress, settings }

def report (t : Tap σ) (e : NetworkError) : Tap σ := t.recording fun r => r.note (.failed e.message)

end Session

end PeekRelay
