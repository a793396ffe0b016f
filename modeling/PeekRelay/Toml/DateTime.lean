import PeekRelay.Text.Numerals
import PeekRelay.Time.Civil
/-!
# Dates and times in TOML

A date, a time of day, or both with an optional distance from UTC. The date has to exist. Seconds
may be left out, and a blank may stand between date and time.
-/
namespace PeekRelay.Toml.DateTime

private def digits? (n : Nat) (cs : List Char) : Option (Nat × List Char) := do
  let v ← Decimal.read? (cs.take n)
  if n ≤ cs.length then pure (v, cs.drop n) else none

private def after? (c : Char) : List Char → Option (List Char)
  | [] => none
  | d :: rest => if c = d then some rest else none

private def date? (cs : List Char) : Option (List Char) := do
  let (y, cs) ← digits? 4 cs
  let cs ← after? '-' cs
  let (m, cs) ← digits? 2 cs
  let cs ← after? '-' cs
  let (d, cs) ← digits? 2 cs
  if CivilDate.isValid ⟨y, m, d⟩ then pure cs else none

private def fraction? (cs : List Char) : Option (List Char) :=
  match cs with
  | '.' :: rest =>
    if rest.takeWhile Decimal.isDigit = [] then none else some (rest.dropWhile Decimal.isDigit)
  | cs => some cs

private def seconds? (cs : List Char) : Option (List Char) :=
  match cs with
  | ':' :: rest => do
    let (s, rest) ← digits? 2 rest
    if s ≤ 60 then fraction? rest else none
  | cs => some cs

private def clock? (cs : List Char) : Option (List Char) := do
  let (h, cs) ← digits? 2 cs
  let cs ← after? ':' cs
  let (m, cs) ← digits? 2 cs
  if h ≤ 23 ∧ m ≤ 59 then seconds? cs else none

private def offset? (cs : List Char) : Option (List Char) :=
  match cs with
  | 'Z' :: rest | 'z' :: rest => some rest
  | '+' :: rest | '-' :: rest => do
    let (h, rest) ← digits? 2 rest
    let rest ← after? ':' rest
    let (m, rest) ← digits? 2 rest
    if m ≤ 59 ∧ h * 60 + m ≤ 1440 then pure rest else none
  | cs => some cs

private def separator? : List Char → Option (List Char)
  | 'T' :: rest | 't' :: rest | ' ' :: rest => some rest
  | _ => none

def isDate (cs : List Char) : Bool := date? cs = some []

def isDateTime (cs : List Char) : Bool :=
  match date? cs with
  | some [] => true
  | some rest => (separator? rest >>= clock? >>= offset?) = some []
  | none => clock? cs = some []

end PeekRelay.Toml.DateTime
