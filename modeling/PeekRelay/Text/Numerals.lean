import PeekRelay.Bytes
/-!
# Numbers as text

Decimal digits written with leading zeros, digits read into a number, and the size of a number in
scientific form. Hexadecimal digits are written in lower case, two for each byte, and read in either
case.
-/
namespace PeekRelay.Decimal

def isDigit (c : Char) : Bool := '0' ≤ c && c ≤ '9'

def digitValue (c : Char) : Nat := c.toNat - 48

def value (ds : List Char) : Nat := ds.foldl (fun n c => 10 * n + digitValue c) 0

def write (n : Nat) : List Char := Nat.toDigits 10 n

def padded (width n : Nat) : List Char :=
  let ds := write n
  List.replicate (width - ds.length) '0' ++ ds

def signed (n : Int) : List Char :=
  if n < 0 then '-' :: write n.natAbs else write n.natAbs

def read? (ds : List Char) : Option Nat :=
  if ds ≠ [] ∧ ds.all isDigit then some (value ds) else none

/-- From this number on, rounding to a double leads to infinity. -/
def doubleLimit : Nat := Nat.pow 2 1024 - Nat.pow 2 970

def exceedsDouble (mantissa : Nat) (exponent : Int) : Bool :=
  if mantissa = 0 then false
  else if 400 ≤ exponent then true
  else if 0 ≤ exponent then doubleLimit ≤ mantissa * Nat.pow 10 exponent.toNat
  else if ((write mantissa).length : Int) + exponent ≤ 300 then false
  else doubleLimit * Nat.pow 10 exponent.natAbs ≤ mantissa

end PeekRelay.Decimal

namespace PeekRelay.Hex

def digit (n : Nat) : Char :=
  if n < 10 then Char.ofNat (48 + n) else Char.ofNat (87 + n)

def digitValue? (c : Char) : Option Nat :=
  if '0' ≤ c ∧ c ≤ '9' then some (c.toNat - 48)
  else if 'a' ≤ c ∧ c ≤ 'f' then some (c.toNat - 87)
  else if 'A' ≤ c ∧ c ≤ 'F' then some (c.toNat - 55)
  else none

def byte (b : UInt8) : List Char := [digit (b.toNat / 16), digit (b.toNat % 16)]

def write (bs : Bytes) : List Char := bs.flatMap byte

def read? : List Char → Option Bytes
  | [] => some []
  | [_] => none
  | h :: l :: rest => do
    let high ← digitValue? h
    let low ← digitValue? l
    let bytes ← read? rest
    pure (UInt8.ofNat (16 * high + low) :: bytes)

/-- The number that the first `width` characters stand for, all of them digits. -/
def number? (width : Nat) (cs : List Char) : Option Nat :=
  if width ≤ cs.length then
    (cs.take width).foldlM (fun n c => (digitValue? c).map (16 * n + ·)) 0
  else none

def scalar? (n : Nat) : Option Char := if n.isValidChar then some (Char.ofNat n) else none

end PeekRelay.Hex
