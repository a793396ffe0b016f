import PeekRelay.Text.Numerals
/-!
# Socket addresses

An IPv4 or IPv6 address with a number that selects the service. IPv6 is written with the first
longest row of two or more zero groups cut out, and IPv4-mapped addresses end in a dotted quad.
-/
namespace PeekRelay

structure Ipv4 where
  a : UInt8
  b : UInt8
  c : UInt8
  d : UInt8
  deriving DecidableEq, Repr

structure Ipv6 where
  groups : List UInt16
  size : groups.length = 8
  deriving DecidableEq

inductive SocketAddress where
  | v4 (ip : Ipv4) (service : UInt16)
  | v6 (ip : Ipv6) (scope : UInt32) (service : UInt16)
  deriving DecidableEq

def Ipv4.toList (ip : Ipv4) : List Char :=
  Decimal.write ip.a.toNat ++ '.' :: Decimal.write ip.b.toNat ++ '.' :: Decimal.write ip.c.toNat ++
    '.' :: Decimal.write ip.d.toNat

namespace Ipv6

private def group (g : UInt16) : List Char := Nat.toDigits 16 g.toNat

private def colonSeparated : List UInt16 → List Char
  | [] => []
  | [g] => group g
  | g :: h :: rest => group g ++ ':' :: colonSeparated (h :: rest)

private def zeros (gs : List UInt16) : Nat := (gs.takeWhile (· = 0)).length

private def longestZeros : Nat → List UInt16 → Nat × Nat
  | _, [] => (0, 0)
  | start, g :: gs =>
    let here := zeros (g :: gs)
    let later := longestZeros (start + 1) gs
    if here ≠ 0 ∧ later.2 ≤ here then (start, here) else later

def mapped? (ip : Ipv6) : Option Ipv4 :=
  match ip.groups with
  | [0, 0, 0, 0, 0, 0xffff, x, y] =>
    some ⟨(x / 256).toUInt8, x.toUInt8, (y / 256).toUInt8, y.toUInt8⟩
  | _ => none

def toList (ip : Ipv6) : List Char :=
  match ip.mapped? with
  | some quad => "::ffff:".toList ++ quad.toList
  | none =>
    let (start, length) := longestZeros 0 ip.groups
    if 1 < length then
      colonSeparated (ip.groups.take start) ++ ':' :: ':' ::
        colonSeparated (ip.groups.drop (start + length))
    else colonSeparated ip.groups

end Ipv6

namespace SocketAddress

def toList : SocketAddress → List Char
  | v4 ip service => ip.toList ++ ':' :: Decimal.write service.toNat
  | v6 ip scope service =>
    '[' :: ip.toList ++ (if scope = 0 then [] else '%' :: Decimal.write scope.toNat) ++
      ']' :: ':' :: Decimal.write service.toNat

def toString (s : SocketAddress) : String := String.ofList s.toList

def host : SocketAddress → String
  | v4 ip _ => String.ofList ip.toList
  | v6 ip _ _ => String.ofList ip.toList

end SocketAddress

end PeekRelay
