import PeekRelay.Snapshot.Codecs
/-!
# Snapshots as JSON

The members of an object stand in the order of the fields.
-/
namespace PeekRelay

open Json

def Direction.toJson (d : Direction) : List Char := writeString d.name

namespace Timeline

def write (codecs : Snapshot.Codecs) (t : Timeline) : List Char :=
  writeObject (t.fields.map fun f => (f.1, writeOption codecs.time.write f.2))

def toJson : Timeline → List Char := write .standard

end Timeline

namespace FailureTrace

def write (codecs : Snapshot.Codecs) (t : FailureTrace) : List Char :=
  writeObject
    [("captured_at", codecs.time.write t.capturedAt), ("kind", codecs.text.write t.kind),
      ("message", codecs.text.write t.message), ("backtrace", codecs.text.write t.backtrace)]

def toJson : FailureTrace → List Char := write .standard

end FailureTrace

namespace Snapshot

def write (codecs : Codecs) (s : Snapshot) : List Char :=
  writeObject
    [("connection_id", codecs.id.write s.connectionId), ("sniffing", codecs.flag.write s.sniffing),
      ("mirroring", codecs.flag.write s.copying),
      ("sniff_count", codecs.count.write s.sniffCount.toNat),
      ("read_mirror", codecs.payload.write s.readCopy),
      ("write_mirror", codecs.payload.write s.writeCopy),
      ("timeline", s.timeline.write codecs),
      ("failure_trace", writeOption (FailureTrace.write codecs) s.failure)]

def toJson : Snapshot → List Char := write .standard

def text (s : Snapshot) : String := String.ofList s.toJson

end Snapshot

end PeekRelay
