import PeekRelay.Config
import PeekRelay.Toml.Value
/-!
# Configurations from tables

The keys of a table are looked at in alphabetical order, and the first value that does not fit is
reported. Only when all fit, a key that is needed and missing is. Keys without a meaning are passed
over, and an integer under one may be of any size.
-/
namespace PeekRelay

namespace Toml.Value

def refused (v : Value) (wanted : String) : TomlReport :=
  match v with
  | text s => .unfit (.wrongType (.text s) wanted)
  | integer n =>
    if -Int.pow 2 63 ≤ n ∧ n < Int.pow 2 64 then .unfit (.wrongType (.integer n) wanted)
    else if -Int.pow 2 127 ≤ n ∧ n < Int.pow 2 127 then
      .unfit (.wrongType (.wideInteger n "i128") wanted)
    else if 0 ≤ n ∧ n < Int.pow 2 128 then .unfit (.wrongType (.wideInteger n "u128") wanted)
    else .oversized
  | float => .unfit (.wrongType .float wanted)
  | boolean b => .unfit (.wrongType (.boolean b) wanted)
  | array _ => .unfit (.wrongType .sequence wanted)
  | dateTime | table _ => .unfit (.wrongType .map wanted)

def asText : Value → Except TomlReport String
  | text s => .ok s
  | v => .error (v.refused "a string")

def asBoolean : Value → Except TomlReport Bool
  | boolean b => .ok b
  | v => .error (v.refused "a boolean")

/-- A number below 2⁶⁴; negative numbers that fit into 64 bits are values out of range. -/
def asNatural (wanted : String) : Value → Except TomlReport Nat
  | integer n =>
    if 0 ≤ n ∧ n < Int.pow 2 64 then .ok n.toNat
    else if -Int.pow 2 63 ≤ n ∧ n < 0 then .error (.unfit (.wrongValue n wanted))
    else .error ((integer n).refused wanted)
  | v => .error (v.refused wanted)

end Toml.Value

open Toml

/-- The value under a key, if there is one, read in the given way. -/
def Toml.Table.field {α : Type} (t : Table) (key : String) (read : Value → Except TomlReport α) :
    Except TomlReport (Option α) :=
  match t.get? key with
  | none => .ok none
  | some v => some <$> read v

namespace SniffSettings

private def ofOptions (copying showPayload keepCopies : Option Bool) : SniffSettings :=
  let default : SniffSettings := {}
  { copying := copying.getD default.copying
    showPayload := showPayload.getD default.showPayload
    keepCopies := keepCopies.getD default.keepCopies }

def ofTable (t : Table) : Except TomlReport SniffSettings := do
  let keepCopies ← t.field "keep_mirrors" Value.asBoolean
  let showPayload ← t.field "log_payload" Value.asBoolean
  let copying ← t.field "mirror" Value.asBoolean
  pure (ofOptions copying showPayload keepCopies)

/-- Settings in the order of their fields; those left out at the end have their defaults. -/
def ofItems (items : List Value) : Except TomlReport SniffSettings := do
  let copying ← items[0]?.mapM Value.asBoolean
  let showPayload ← items[1]?.mapM Value.asBoolean
  let keepCopies ← items[2]?.mapM Value.asBoolean
  pure (ofOptions copying showPayload keepCopies)

/-- A date counts as a table without known keys. -/
def ofValue : Value → Except TomlReport SniffSettings
  | .table t => ofTable t
  | .array items => ofItems items
  | .dateTime => .ok {}
  | v => .error (v.refused "struct SnifferConfig")

end SniffSettings

namespace Config

def ofTable (t : Table) : Except TomlReport Config := do
  let listenAddress ← t.field "listen_address" Value.asText
  let sniffBytes ← t.field "sniff_bytes" (Value.asNatural "usize")
  let sniffTimeout ← t.field "sniff_timeout_ms" (Value.asNatural "u64")
  let sniffer ← t.field "sniffer" SniffSettings.ofValue
  let targetAddress ← t.field "upstream_address" Value.asText
  match listenAddress, targetAddress with
  | none, _ => throw (.unfit (.missing "listen_address"))
  | _, none => throw (.unfit (.missing "upstream_address"))
  | some listenAddress, some targetAddress =>
    let c : Config := { listenAddress, targetAddress }
    pure { c with
      sniffBytes := sniffBytes.getD c.sniffBytes
      sniffTimeout := sniffTimeout.getD c.sniffTimeout
      sniffer := sniffer.getD c.sniffer }

end Config

end PeekRelay
