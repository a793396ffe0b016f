import PeekRelay.Text.Numerals
import PeekRelay.Time.Civil
import PeekRelay.Time.Instant
/-!
# RFC 3339 times

An instant is written with the fewest of zero, three, six or nine decimals that are exact. When
read, blanks may stand between the parts, decimals beyond the ninth are cut, the second 60 is a
leap second, and the result is moved to UTC.
-/
namespace PeekRelay

/-- The characters with the Unicode property White_Space. -/
def isBlank (c : Char) : Bool :=
  let n := c.toNat
  (9 ≤ n && n ≤ 13) || n = 0x20 || n = 0x85 || n = 0xA0 || n = 0x1680 ||
    (0x2000 ≤ n && n ≤ 0x200A) || n = 0x2028 || n = 0x2029 || n = 0x202F || n = 0x205F || n = 0x3000

def skipBlanks (cs : List Char) : List Char := cs.dropWhile isBlank

namespace Rfc3339

def year (y : Int) : List Char :=
  if 0 ≤ y ∧ y ≤ 9999 then Decimal.padded 4 y.natAbs
  else (if y < 0 then '-' else '+') :: Decimal.padded 4 y.natAbs

def fraction (nanos : Nat) : List Char :=
  if nanos = 0 then []
  else if nanos % 1000000 = 0 then '.' :: Decimal.padded 3 (nanos / 1000000)
  else if nanos % 1000 = 0 then '.' :: Decimal.padded 6 (nanos / 1000)
  else '.' :: Decimal.padded 9 nanos

/-- A leap second shows as the second 60. -/
def secondAndNanos (t : Instant) : Nat × Nat :=
  let second := (t.seconds % 60).toNat
  if t.nanos < 1000000000 then (second, t.nanos) else (second + 1, t.nanos - 1000000000)

/-- The instant in UTC, followed by the given sign of the zone. -/
def write (t : Instant) (zone : List Char) : List Char :=
  let date := CivilDate.ofDays (t.seconds / 86400)
  let ofDay := (t.seconds % 86400).toNat
  let (second, nanos) := secondAndNanos t
  year date.year ++ '-' :: Decimal.padded 2 date.month ++ '-' :: Decimal.padded 2 date.day ++
    'T' :: Decimal.padded 2 (ofDay / 3600) ++ ':' :: Decimal.padded 2 (ofDay / 60 % 60) ++
    ':' :: Decimal.padded 2 second ++ fraction nanos ++ zone

def text (t : Instant) : String := String.ofList (write t ['Z'])

def textWithOffset (t : Instant) : String := String.ofList (write t "+00:00".toList)

def number? (limit : Nat) (cs : List Char) : Option (Nat × List Char) :=
  let ds := (cs.take limit).takeWhile Decimal.isDigit
  if ds = [] then none else some (Decimal.value ds, cs.drop ds.length)

def literal? (c : Char) : List Char → Option (List Char)
  | [] => none
  | d :: rest => if c = d then some rest else none

/-- A year without a sign has at most four digits, a signed one any number. -/
def year? (cs : List Char) : Option (Int × List Char) :=
  match cs with
  | '-' :: rest => do
    let (n, rest) ← number? rest.length rest
    pure (-(n : Int), rest)
  | '+' :: rest => do
    let (n, rest) ← number? rest.length rest
    pure ((n : Int), rest)
  | cs => do
    let (n, rest) ← number? 4 cs
    pure ((n : Int), rest)

def two? (limit : Nat) (cs : List Char) : Option (Nat × List Char) := do
  let (n, rest) ← number? 2 (skipBlanks cs)
  if n ≤ limit then pure (n, rest) else none

def date? (cs : List Char) : Option (CivilDate × List Char) := do
  let (y, cs) ← year? (skipBlanks cs)
  let cs ← literal? '-' (skipBlanks cs)
  let (m, cs) ← two? 12 cs
  let cs ← literal? '-' (skipBlanks cs)
  let (d, cs) ← two? 31 cs
  let date : CivilDate := ⟨y, m, d⟩
  if date.isValid ∧ -262143 ≤ y ∧ y ≤ 262142 then pure (date, cs) else none

def separator? : List Char → Option (List Char)
  | 'T' :: rest | 't' :: rest | ' ' :: rest => some rest
  | _ => none

def fraction? (cs : List Char) : Option (Nat × List Char) :=
  match cs with
  | '.' :: rest =>
    let ds := (rest.take 9).takeWhile Decimal.isDigit
    if ds = [] then none
    else some (Decimal.value ds * Nat.pow 10 (9 - ds.length), rest.dropWhile Decimal.isDigit)
  | cs => some (0, cs)

def clock? (cs : List Char) : Option (Nat × Nat × List Char) := do
  let (h, cs) ← two? 23 cs
  let cs ← literal? ':' (skipBlanks cs)
  let (m, cs) ← two? 59 cs
  let cs ← literal? ':' (skipBlanks cs)
  let (s, cs) ← two? 60 cs
  let (nanos, cs) ← fraction? cs
  if s = 60 then pure (h * 3600 + m * 60 + 59, nanos + 1000000000, cs)
  else pure (h * 3600 + m * 60 + s, nanos, cs)

def pair? : List Char → Option (Nat × List Char)
  | a :: b :: rest =>
    if Decimal.isDigit a ∧ Decimal.isDigit b then
      some (10 * Decimal.digitValue a + Decimal.digitValue b, rest)
    else none
  | _ => none

def hoursAndMinutes? (cs : List Char) : Option (Nat × List Char) := do
  let (h, cs) ← pair? cs
  let (m, cs) ← pair? (cs.dropWhile fun c => c = ':' || isBlank c)
  if m < 60 then pure (h * 3600 + m * 60, cs) else none

def offset? (cs : List Char) : Option (Int × List Char) :=
  if (cs.take 3).map Char.toUpper = ['U', 'T', 'C'] then some (0, cs.drop 3)
  else match cs with
    | 'Z' :: rest | 'z' :: rest => some (0, rest)
    | '+' :: rest => do
      let (n, rest) ← hoursAndMinutes? rest
      pure ((n : Int), rest)
    | '-' :: rest | '\u2212' :: rest => do
      let (n, rest) ← hoursAndMinutes? rest
      pure (-(n : Int), rest)
    | _ => none

def read? (cs : List Char) : Option Instant := do
  let (date, cs) ← date? cs
  let cs ← separator? cs
  let (ofDay, nanos, cs) ← clock? cs
  let (offset, cs) ← offset? (skipBlanks cs)
  if skipBlanks cs = [] ∧ offset.natAbs < 86400 then
    Instant.ofUnix? (date.toDays * 86400 + ofDay - offset) nanos
  else none

end Rfc3339

end PeekRelay
