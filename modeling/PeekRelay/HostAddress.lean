import PeekRelay.Text.Numerals
/-!
# Host addresses

A host by any name, a colon, and the number of one of its services. The last colon counts, so that
the name may hold colons too. The number may have a plus sign and leading zeros.
-/
namespace PeekRelay

structure HostAddress where
  host : String
  service : UInt16
  deriving DecidableEq, Repr

namespace HostAddress

inductive Flaw where
  | noColon | badService
  deriving DecidableEq, Repr

def splitAtLastColon? : List Char → Option (List Char × List Char)
  | [] => none
  | c :: rest =>
    match splitAtLastColon? rest with
    | some (front, back) => some (c :: front, back)
    | none => if c = ':' then some ([], rest) else none

def dropPlus : List Char → List Char
  | '+' :: rest => rest
  | cs => cs

def service? (cs : List Char) : Option UInt16 := do
  let n ← Decimal.read? (dropPlus cs)
  if n < 65536 then pure (UInt16.ofNat n) else none

def read (cs : List Char) : Except Flaw HostAddress :=
  match splitAtLastColon? cs with
  | none => .error .noColon
  | some (host, back) =>
    match service? back with
    | none => .error .badService
    | some service => .ok ⟨String.ofList host, service⟩

def ofString (s : String) : Except Flaw HostAddress := read s.toList

/-- Whether a text is a host address with a name that is not empty. -/
def isNamed (s : String) : Bool :=
  match ofString s with
  | .ok a => !a.host.isEmpty
  | .error _ => false

end HostAddress

end PeekRelay
