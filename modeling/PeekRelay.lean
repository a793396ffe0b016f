import PeekRelay.Main
import PeekRelay.Machine
import PeekRelay.Relay.Schedule
import PeekRelay.Snapshot.Reader
import PeekRelay.Proofs.ReplayQueue
import PeekRelay.Proofs.Tap.Parts
import PeekRelay.Proofs.Call
import PeekRelay.Proofs.Tap.Calls
import PeekRelay.Proofs.Logged
import PeekRelay.Proofs.Sniff
import PeekRelay.Proofs.Fidelity
import PeekRelay.Proofs.Tap.Forget
import PeekRelay.Proofs.Trace
import PeekRelay.Proofs.Conservation
import PeekRelay.Proofs.StoppedSniff
import PeekRelay.Proofs.Transparency
import PeekRelay.Proofs.Relay.Pump
import PeekRelay.Proofs.Relay.Routes
import PeekRelay.Proofs.Relay.Stages
import PeekRelay.Proofs.Relay.Forget
import PeekRelay.Proofs.Relay.Delivery
import PeekRelay.Proofs.Copies
import PeekRelay.Proofs.Stopping
import PeekRelay.Proofs.Failures
import PeekRelay.Proofs.Intake
import PeekRelay.Proofs.Handoff
import PeekRelay.Proofs.SharedRecorder
import PeekRelay.Proofs.Parallel
import PeekRelay.Proofs.Unobtrusive
import PeekRelay.Proofs.Discretion
import PeekRelay.Proofs.Relay.PostMortem
import PeekRelay.Proofs.Draining
import PeekRelay.Proofs.Text.Decimal
import PeekRelay.Proofs.Text.Escaped
import PeekRelay.Proofs.Transcript
import PeekRelay.Proofs.SniffReads
import PeekRelay.Proofs.Interchange
import PeekRelay.Proofs.HostAddress
import PeekRelay.Proofs.Validation
import PeekRelay.Proofs.Timekeeping
import PeekRelay.Proofs.Tap.Checked
import PeekRelay.Proofs.Panics
import PeekRelay.Proofs.Time.Civil
import PeekRelay.Proofs.Time.Rfc3339
import PeekRelay.Proofs.Uuid
import PeekRelay.Proofs.Json
import PeekRelay.Proofs.Snapshot
import PeekRelay.Proofs.Gathered
import PeekRelay.Proofs.Defaults
import PeekRelay.Proofs.Fifo
