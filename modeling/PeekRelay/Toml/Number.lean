import PeekRelay.Text.Numerals
import PeekRelay.Toml.Value
/-!
# Numbers in TOML

Underscores may stand between two digits. Decimal integers have no leading zeros and may have a
sign; hexadecimal, octal and binary ones have a lower-case mark and no sign. Integers are not
limited in size, but a float has to fit into a double.
-/
namespace PeekRelay.Toml.Number

private def digitOf? (base : Nat) (c : Char) : Option Nat := do
  let d ← Hex.digitValue? c
  if d < base then pure d else none

/-- The digits of a text in which underscores stand between digits only. -/
private def digits? (base : Nat) : List Char → Option (List Nat)
  | [] => none
  | [c] => do
    let d ← digitOf? base c
    pure [d]
  | c :: '_' :: rest => do
    let d ← digitOf? base c
    let ds ← digits? base rest
    pure (d :: ds)
  | c :: rest => do
    let d ← digitOf? base c
    let ds ← digits? base rest
    pure (d :: ds)

private def valueOf (base : Nat) (ds : List Nat) : Nat := ds.foldl (fun n d => base * n + d) 0

private def whole? (base : Nat) (cs : List Char) : Option Nat :=
  (digits? base cs).map (valueOf base)

private def plain? (cs : List Char) : Option (List Nat) := do
  let ds ← digits? 10 cs
  if ds.head? = some 0 ∧ 1 < ds.length then none else pure ds

/-- Cuts off a sign; the flag tells a minus. -/
private def unsigned : List Char → Bool × List Char
  | '-' :: rest => (true, rest)
  | '+' :: rest => (false, rest)
  | cs => (false, cs)

def integer? (cs : List Char) : Option Int :=
  match cs with
  | '0' :: 'x' :: rest => (whole? 16 rest).map Int.ofNat
  | '0' :: 'o' :: rest => (whole? 8 rest).map Int.ofNat
  | '0' :: 'b' :: rest => (whole? 2 rest).map Int.ofNat
  | cs =>
    let (negative, body) := unsigned cs
    (plain? body).map fun ds =>
      let n : Int := valueOf 10 ds
      if negative then -n else n

private def splitAtAny (marks : List Char) (cs : List Char) : List Char × Option (List Char) :=
  let front := cs.takeWhile fun c => c ∉ marks
  match cs.drop front.length with
  | [] => (front, none)
  | _ :: rest => (front, some rest)

private def exponent? (cs : List Char) : Option Int :=
  let (negative, body) := unsigned cs
  (whole? 10 body).map fun n => if negative then -(n : Int) else n

private def isFinite (body : List Char) : Bool :=
  let (mantissa, power) := splitAtAny ['e', 'E'] body
  let (front, decimals) := splitAtAny ['.'] mantissa
  if power.isNone && decimals.isNone then false
  else
    (do
      let ds ← plain? front
      let fs ← match decimals with
        | none => pure []
        | some decimals => digits? 10 decimals
      let e ← match power with
        | none => pure 0
        | some power => exponent? power
      pure !(Decimal.exceedsDouble (valueOf 10 (ds ++ fs)) (e - fs.length))).getD false

def isFloat (cs : List Char) : Bool :=
  let body := (unsigned cs).2
  body = ['i', 'n', 'f'] || body = ['n', 'a', 'n'] || isFinite body

end PeekRelay.Toml.Number
