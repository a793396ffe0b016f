import PeekRelay.Mismatch
import PeekRelay.Text.Numerals
/-!
# Reading JSON

A text is read from left to right, and the first fault ends the reading: either the text is not
JSON, or a value is not of the kind that is wanted. A value that nobody wants is only passed over,
so its numbers may be of any size and its texts may hold halves of surrogate pairs.
-/
namespace PeekRelay.Json

inductive Fault where
  | malformed
  | unfit (mismatch : Mismatch)
  deriving DecidableEq, Repr

def isSpace (c : Char) : Bool := c = ' ' || c = '\n' || c = '\t' || c = '\r'

def skipSpace (cs : List Char) : List Char := cs.dropWhile isSpace

def word? (word cs : List Char) : Option (List Char) :=
  if word.isPrefixOf cs then some (cs.drop word.length) else none

/-! ## Texts -/

def isHighSurrogate (n : Nat) : Bool := 0xD800 ≤ n && n ≤ 0xDBFF

def isLowSurrogate (n : Nat) : Bool := 0xDC00 ≤ n && n ≤ 0xDFFF

/-- The character of an escape by number, and how many characters belong to it. Characters beyond
the first 65536 take two escapes. -/
def byNumber? (rest : List Char) : Option (Char × Nat) := do
  let n ← Hex.number? 4 rest
  if isHighSurrogate n then
    match rest.drop 4 with
    | '\\' :: 'u' :: rest => do
      let m ← Hex.number? 4 rest
      if isLowSurrogate m then
        pure (Char.ofNat ((n - 0xD800) * 1024 + (m - 0xDC00) + 0x10000), 10)
      else none
    | _ => none
  else do
    let c ← Hex.scalar? n
    pure (c, 4)

def escape? (letter : Char) (rest : List Char) : Option (Char × Nat) :=
  match letter with
  | '\x22' => some ('\x22', 0)
  | '\\' => some ('\\', 0)
  | '/' => some ('/', 0)
  | 'b' => some ('\x08', 0)
  | 'f' => some ('\x0c', 0)
  | 'n' => some ('\n', 0)
  | 'r' => some ('\r', 0)
  | 't' => some ('\t', 0)
  | 'u' => byNumber? rest
  | _ => none

def quotation? : List Char → Option (List Char × List Char)
  | [] => none
  | '\x22' :: rest => some ([], rest)
  | '\\' :: letter :: rest => do
    let (c, n) ← escape? letter rest
    let (cs, rest) ← quotation? (rest.drop n)
    pure (c :: cs, rest)
  | c :: rest => do
    if c.toNat < 32 then none
    else
      let (cs, rest) ← quotation? rest
      pure (c :: cs, rest)
termination_by cs => cs.length
decreasing_by all_goals (simp only [List.length_cons, List.length_drop]; omega)

private def skipEscape? (letter : Char) (rest : List Char) : Option (List Char) :=
  if letter = 'u' then (Hex.number? 4 rest).map fun _ => rest.drop 4
  else (escape? letter rest).map fun _ => rest

private theorem length_skipEscape? {letter : Char} {rest after : List Char}
    (h : skipEscape? letter rest = some after) : after.length ≤ rest.length := by
  unfold skipEscape? at h
  split at h
  all_goals
    obtain ⟨_, _, rfl⟩ := Option.map_eq_some_iff.1 h
    simp

private def skipQuotation? : List Char → Option (List Char)
  | [] => none
  | '\x22' :: rest => some rest
  | '\\' :: letter :: rest =>
    match _ : skipEscape? letter rest with
    | none => none
    | some after => skipQuotation? after
  | c :: rest => if c.toNat < 32 then none else skipQuotation? rest
termination_by cs => cs.length
decreasing_by
  all_goals simp only [List.length_cons]
  · have := length_skipEscape? (by assumption)
    omega
  · omega

/-! ## Numbers -/

/-- A number as written: the digits in front of the point, those behind it, and the exponent. -/
structure NumberText where
  negative : Bool
  whole : List Char
  decimals : List Char
  exponent : Option Int

def decimals? (cs : List Char) : Option (List Char × List Char) :=
  match cs with
  | '.' :: rest =>
    let ds := rest.takeWhile Decimal.isDigit
    if ds = [] then none else some (ds, rest.drop ds.length)
  | cs => some ([], cs)

def signed : List Char → Bool × List Char
  | '-' :: rest => (true, rest)
  | '+' :: rest => (false, rest)
  | cs => (false, cs)

def exponent? (cs : List Char) : Option (Option Int × List Char) :=
  match cs with
  | 'e' :: rest | 'E' :: rest =>
    let (negative, rest) := signed rest
    let ds := rest.takeWhile Decimal.isDigit
    if ds = [] then none
    else
      let e : Int := Decimal.value ds
      some (some (if negative then -e else e), rest.drop ds.length)
  | cs => some (none, cs)

def numberText? (cs : List Char) : Option (NumberText × List Char) := do
  let negative := cs.head? = some '-'
  let cs := if negative then cs.tail else cs
  let whole := cs.takeWhile Decimal.isDigit
  if whole = [] ∨ (whole.head? = some '0' ∧ 1 < whole.length) then none
  else
    let (decimals, cs) ← decimals? (cs.drop whole.length)
    let (exponent, cs) ← exponent? cs
    pure (⟨negative, whole, decimals, exponent⟩, cs)

namespace NumberText

def float? (t : NumberText) : Option Found :=
  let mantissa := Decimal.value (t.whole ++ t.decimals)
  let exponent := t.exponent.getD 0 - t.decimals.length
  if Decimal.exceedsDouble mantissa exponent then none else some .float

/-- Numbers without point and exponent are integers as far as 64 bits hold them; the negative zero
is not one. A float has to fit into a double. -/
def value? (t : NumberText) : Option Found :=
  let n := Decimal.value t.whole
  if t.decimals ≠ [] ∨ t.exponent ≠ none then t.float?
  else if t.negative then
    if 0 < n ∧ n ≤ Nat.pow 2 63 then some (.integer (-n)) else t.float?
  else if n < Nat.pow 2 64 then some (.integer n) else t.float?

end NumberText

def startsNumber (cs : List Char) : Bool :=
  cs.head?.any fun c => c = '-' || Decimal.isDigit c

def number? (cs : List Char) : Option (Found × List Char) := do
  let (t, rest) ← numberText? cs
  let found ← t.value?
  pure (found, rest)

/-! ## Values that nobody wants -/

mutual

private def skipValue? (fuel : Nat) (cs : List Char) : Option (List Char) :=
  match fuel with
  | 0 => none
  | fuel + 1 =>
    match skipSpace cs with
    | 'n' :: rest => word? ['u', 'l', 'l'] rest
    | 't' :: rest => word? ['r', 'u', 'e'] rest
    | 'f' :: rest => word? ['a', 'l', 's', 'e'] rest
    | '\x22' :: rest => skipQuotation? rest
    | '[' :: rest =>
      match skipSpace rest with
      | ']' :: rest => some rest
      | rest => skipItems? fuel rest
    | '\x7b' :: rest =>
      match skipSpace rest with
      | '\x7d' :: rest => some rest
      | rest => skipMembers? fuel rest
    | cs => (numberText? cs).map Prod.snd

private def skipItems? (fuel : Nat) (cs : List Char) : Option (List Char) :=
  match fuel with
  | 0 => none
  | fuel + 1 => do
    match skipSpace (← skipValue? fuel cs) with
    | ',' :: rest => skipItems? fuel rest
    | ']' :: rest => pure rest
    | _ => none

private def skipMembers? (fuel : Nat) (cs : List Char) : Option (List Char) :=
  match fuel with
  | 0 => none
  | fuel + 1 => do
    match skipSpace cs with
    | '\x22' :: rest =>
      match skipSpace (← skipQuotation? rest) with
      | ':' :: rest =>
        match skipSpace (← skipValue? fuel rest) with
        | ',' :: rest => skipMembers? fuel rest
        | '\x7d' :: rest => pure rest
        | _ => none
      | _ => none
    | _ => none

end

def skip? (cs : List Char) : Option (List Char) := skipValue? (2 * cs.length + 2) cs

/-! ## Faults -/

/-- The value at the front of a text; of arrays and objects it is enough to see that they begin. -/
def found? (cs : List Char) : Option Found :=
  match cs with
  | 'n' :: rest => (word? ['u', 'l', 'l'] rest).map fun _ => .null
  | 't' :: rest => (word? ['r', 'u', 'e'] rest).map fun _ => .boolean true
  | 'f' :: rest => (word? ['a', 'l', 's', 'e'] rest).map fun _ => .boolean false
  | '\x22' :: rest => (quotation? rest).map fun r => .text (String.ofList r.1)
  | '[' :: _ => some .sequence
  | '\x7b' :: _ => some .map
  | cs => (number? cs).map Prod.fst

/-- The fault of a text at whose front something else is wanted. -/
def refused (wanted : String) (cs : List Char) : Fault :=
  match found? cs with
  | some found => .unfit (.wrongType found wanted)
  | none => .malformed

def orMalformed {α : Type} : Option α → Except Fault α
  | some a => .ok a
  | none => .error .malformed

end PeekRelay.Json
