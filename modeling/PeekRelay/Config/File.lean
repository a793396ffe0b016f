import PeekRelay.Config.Record
import PeekRelay.Toml.Document
/-!
# Configuration files

A file holds a TOML document in UTF-8. A configuration is read, and then validated.
-/
namespace PeekRelay

inductive FileContent where
  | absent
  | directory
  | bytes (bs : Bytes)
  deriving DecidableEq, Repr

def FileContent.text : FileContent → Result String
  | absent => .error (.os 2)
  | directory => .error (.os 21)
  | bytes bs =>
    match String.fromUTF8? ⟨bs.toArray⟩ with
    | some s => .ok s
    | none => .error (.custom .invalidData "stream did not contain valid UTF-8")

namespace Config

def ofValidTable (t : Toml.Table) : Except ConfigError Config := do
  let c ← (ofTable t).mapError ConfigError.toml
  c.validate
  pure c

def ofToml (s : String) : Except ConfigError Config :=
  match Toml.Document.ofString? s with
  | none => .error (.toml .malformed)
  | some t => ofValidTable t

def ofFile (file : FileContent) : Except ConfigError Config := do
  let s ← file.text.mapError ConfigError.io
  ofToml s

end Config

end PeekRelay
