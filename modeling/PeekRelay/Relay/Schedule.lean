import PeekRelay.Relay.Session
import PeekRelay.Tap.Whole
/-!
# Scheduled sessions

A session between scripted streams, on a clock that stands still while there is work and jumps to
the next alarm when there is none.
-/
namespace PeekRelay.Relay

private def setTime (now : Nat) (r : Relay Script Script) : Relay Script Script :=
  { r with
    client := { r.client with inner := { r.client.inner with now, woken := false } }
    target := { r.target with now, woken := false } }

private def alarms (r : Relay Script Script) : List Nat :=
  (match r.stage with
    | .sniffing _ deadline => [deadline]
    | _ => []) ++ r.client.inner.due.toList ++ r.target.due.toList

private def nextAlarm? (now : Nat) (r : Relay Script Script) : Option Nat :=
  (r.alarms.filter (now < ·)).min?

private def isWoken (r : Relay Script Script) : Bool := r.client.inner.woken || r.target.woken

/-- Polls a session until it is over, at most so often; yields the time and the session then. -/
def drive (env : Surroundings) (budget : Nat) : Nat → Nat → Relay Script Script →
    Option (RelayEnd × Nat × Relay Script Script)
  | 0, _, _ => none
  | polls + 1, now, r =>
    let (r, again) := (r.setTime now).poll env now budget
    match r.stage with
    | .over result => some (result, now, r)
    | _ =>
      if again || r.isWoken then drive env budget polls now r
      else match r.nextAlarm? now with
        | some next => drive env budget polls next r
        | none => none

def reach (r : Relay Script Script) : Nat := r.client.attempts + r.target.reach

def runScripted (env : Surroundings) (r : Relay Script Script) :
    Option (RelayEnd × Nat × Relay Script Script) :=
  r.drive env (8 * r.reach + 16) (2 * r.reach + 8) 0

end PeekRelay.Relay
