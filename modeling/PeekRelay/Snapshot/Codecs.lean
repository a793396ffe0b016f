import PeekRelay.Json.Decoder
import PeekRelay.Json.Writer
import PeekRelay.Snapshot
/-!
# What snapshots are made of

A snapshot does not depend on how its flags, counts, texts, times and identifiers are written: that
is left to a codec for each. The standard ones write plain JSON, times as RFC 3339 asks for, and
identifiers with hyphens.
-/
namespace PeekRelay

open Json

structure Codec (α : Type) where
  write : α → List Char
  decode : Decoder α

def Instant.toJson (t : Instant) : List Char := writeString (Rfc3339.text t)

def Instant.decode : Decoder Instant :=
  Decoder.quoted "an RFC 3339 formatted date and time string" fun s => Rfc3339.read? s.toList

def Uuid.toJson (u : Uuid) : List Char := writeString u.toString

def Uuid.decode : Decoder Uuid := Decoder.quoted "a formatted UUID string" Uuid.ofString?

namespace Snapshot

structure Codecs where
  flag : Codec Bool
  /-- Counts below 2⁶⁴. -/
  count : Codec Nat
  payload : Codec Bytes
  text : Codec String
  time : Codec Instant
  id : Codec Uuid

def Codecs.standard : Codecs where
  flag := ⟨writeBool, Decoder.boolean⟩
  count := ⟨writeNat, Decoder.natural (Nat.pow 2 64) "u64"⟩
  payload := ⟨writeBytes, Decoder.list Decoder.byte⟩
  text := ⟨writeString, Decoder.text⟩
  time := ⟨Instant.toJson, Instant.decode⟩
  id := ⟨Uuid.toJson, Uuid.decode⟩

end Snapshot

end PeekRelay
