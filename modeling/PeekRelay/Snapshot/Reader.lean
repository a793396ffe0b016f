import PeekRelay.Snapshot.Codecs
/-!
# Snapshots from JSON

Times and failures that are not there count as absent; all other fields are needed.
-/
namespace PeekRelay

open Json

def Direction.decode : Decoder Direction :=
  Decoder.variant [(Direction.read.name, .read), (Direction.write.name, .write)]

namespace Timeline

abbrev Draft := List (String × Option Instant)

def time (codecs : Snapshot.Codecs) (name : String) : RecordField Draft :=
  .of name (fun d => d.lookup name) (fun d t => (name, t) :: d)
    (Decoder.optional codecs.time.decode)

def ofDraft (d : Draft) : Timeline where
  firstReadAt := (d.lookup "first_read_at").join
  firstWriteAt := (d.lookup "first_write_at").join
  lastReadStart := (d.lookup "last_read_start").join
  lastReadEnd := (d.lookup "last_read_end").join
  lastWriteStart := (d.lookup "last_write_start").join
  lastWriteEnd := (d.lookup "last_write_end").join

def decoder (codecs : Snapshot.Codecs) : Decoder Timeline :=
  Decoder.record "struct IoTimeline"
    [time codecs "first_read_at", time codecs "first_write_at", time codecs "last_read_start",
      time codecs "last_read_end", time codecs "last_write_start", time codecs "last_write_end"]
    [] fun d => .ok (ofDraft d)

def decode : Decoder Timeline := decoder .standard

end Timeline

namespace FailureTrace

structure Draft where
  capturedAt : Option Instant := none
  kind : Option String := none
  message : Option String := none
  backtrace : Option String := none

def ofDraft (d : Draft) : Except Fault FailureTrace := do
  pure {
    capturedAt := ← need "captured_at" d.capturedAt
    kind := ← need "kind" d.kind
    message := ← need "message" d.message
    backtrace := ← need "backtrace" d.backtrace }

def decoder (codecs : Snapshot.Codecs) : Decoder FailureTrace :=
  Decoder.record "struct FailureTrace"
    [.of "captured_at" Draft.capturedAt (fun d v => { d with capturedAt := some v })
        codecs.time.decode,
      .of "kind" Draft.kind (fun d v => { d with kind := some v }) codecs.text.decode,
      .of "message" Draft.message (fun d v => { d with message := some v }) codecs.text.decode,
      .of "backtrace" Draft.backtrace (fun d v => { d with backtrace := some v })
        codecs.text.decode]
    {} ofDraft

def decode : Decoder FailureTrace := decoder .standard

end FailureTrace

namespace Snapshot

structure Draft where
  connectionId : Option Uuid := none
  sniffing : Option Bool := none
  copying : Option Bool := none
  sniffCount : Option Nat := none
  readCopy : Option Bytes := none
  writeCopy : Option Bytes := none
  timeline : Option Timeline := none
  failure : Option (Option FailureTrace) := none

def ofDraft (d : Draft) : Except Fault Snapshot := do
  pure {
    connectionId := ← need "connection_id" d.connectionId
    sniffing := ← need "sniffing" d.sniffing
    copying := ← need "mirroring" d.copying
    sniffCount := UInt64.ofNat (← need "sniff_count" d.sniffCount)
    readCopy := ← need "read_mirror" d.readCopy
    writeCopy := ← need "write_mirror" d.writeCopy
    timeline := ← need "timeline" d.timeline
    failure := d.failure.join }

def decoder (codecs : Codecs) : Decoder Snapshot :=
  Decoder.record "struct CaptureSnapshot"
    [.of "connection_id" Draft.connectionId (fun d v => { d with connectionId := some v })
        codecs.id.decode,
      .of "sniffing" Draft.sniffing (fun d v => { d with sniffing := some v }) codecs.flag.decode,
      .of "mirroring" Draft.copying (fun d v => { d with copying := some v }) codecs.flag.decode,
      .of "sniff_count" Draft.sniffCount (fun d v => { d with sniffCount := some v })
        codecs.count.decode,
      .of "read_mirror" Draft.readCopy (fun d v => { d with readCopy := some v })
        codecs.payload.decode,
      .of "write_mirror" Draft.writeCopy (fun d v => { d with writeCopy := some v })
        codecs.payload.decode,
      .of "timeline" Draft.timeline (fun d v => { d with timeline := some v })
        (Timeline.decoder codecs),
      .of "failure_trace" Draft.failure (fun d v => { d with failure := some v })
        (Decoder.optional (FailureTrace.decoder codecs))]
    {} ofDraft

def decode : Decoder Snapshot := decoder .standard

def ofJson (s : String) : Except Fault Snapshot := decode.run s

end Snapshot

end PeekRelay
