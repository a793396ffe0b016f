import PeekRelay.Json.Reader
/-!
# Decoders

How values of a wanted kind are read from JSON. A record is read from an object, whose unknown
members are passed over, or from an array that holds all its fields in order.
-/
namespace PeekRelay.Json

/-- Reads a value off the front of a text and yields the rest, or the first fault. -/
abbrev Decoder (α : Type) := List Char → Except Fault (α × List Char)

namespace Decoder

def boolean : Decoder Bool := fun cs =>
  match skipSpace cs with
  | 't' :: rest => orMalformed ((word? ['r', 'u', 'e'] rest).map fun rest => (true, rest))
  | 'f' :: rest => orMalformed ((word? ['a', 'l', 's', 'e'] rest).map fun rest => (false, rest))
  | cs => .error (refused "a boolean" cs)

def natural (limit : Nat) (wanted : String) : Decoder Nat := fun cs =>
  let cs := skipSpace cs
  if startsNumber cs then
    match number? cs with
    | some (.integer n, rest) =>
      if 0 ≤ n ∧ n < limit then .ok (n.toNat, rest) else .error (.unfit (.wrongValue n wanted))
    | some (found, _) => .error (.unfit (.wrongType found wanted))
    | none => .error .malformed
  else .error (refused wanted cs)

def quoted {α : Type} (wanted : String) (read? : String → Option α) : Decoder α := fun cs =>
  match skipSpace cs with
  | '\x22' :: rest => do
    let (text, rest) ← orMalformed (quotation? rest)
    let a ← orMalformed (read? (String.ofList text))
    pure (a, rest)
  | cs => .error (refused wanted cs)

def text : Decoder String := quoted "a string" some

def optional {α : Type} (decode : Decoder α) : Decoder (Option α) := fun cs =>
  match skipSpace cs with
  | 'n' :: rest => orMalformed ((word? ['u', 'l', 'l'] rest).map fun rest => (none, rest))
  | cs => do
    let (a, rest) ← decode cs
    pure (some a, rest)

def items {α : Type} (decode : Decoder α) (fuel : Nat) : Decoder (List α) := fun cs =>
  match fuel with
  | 0 => .error .malformed
  | fuel + 1 => do
    let (a, rest) ← decode cs
    match skipSpace rest with
    | ',' :: rest =>
      let (as, rest) ← items decode fuel rest
      pure (a :: as, rest)
    | ']' :: rest => pure ([a], rest)
    | _ => throw .malformed

def list {α : Type} (decode : Decoder α) : Decoder (List α) := fun cs =>
  match skipSpace cs with
  | '[' :: rest =>
    match skipSpace rest with
    | ']' :: rest => .ok ([], rest)
    | rest => items decode rest.length rest
  | cs => .error (refused "a sequence" cs)

def byte : Decoder UInt8 := fun cs => do
  let (n, rest) ← natural 256 "u8" cs
  pure (UInt8.ofNat n, rest)

end Decoder

/-- A field of a record, as it is read into a draft of the record. -/
structure RecordField (δ : Type) where
  name : String
  isSet : δ → Bool
  read : δ → Decoder δ

def RecordField.of {δ α : Type} (name : String) (get : δ → Option α) (set : δ → α → δ)
    (decode : Decoder α) : RecordField δ where
  name := name
  isSet d := (get d).isSome
  read d cs := do
    let (a, rest) ← decode cs
    pure (set d a, rest)

def need {α : Type} (name : String) : Option α → Except Fault α
  | some a => .ok a
  | none => .error (.unfit (.missing name))

namespace Decoder

def after (c : Char) (cs : List Char) : Except Fault (List Char) :=
  match skipSpace cs with
  | [] => .error .malformed
  | d :: rest => if c = d then .ok rest else .error .malformed

/-- All fields in order; in front of each but the first stands a comma. -/
def inOrder {δ : Type} (first : Bool) (d : δ) (cs : List Char) :
    List (RecordField δ) → Except Fault (δ × List Char)
  | [] => do
    let rest ← after ']' cs
    pure (d, rest)
  | field :: fields => do
    let cs ← if first then pure cs else after ',' cs
    let (d, rest) ← field.read d cs
    inOrder false d rest fields

def byName {δ : Type} (fields : List (RecordField δ)) (fuel : Nat) (d : δ) : Decoder δ := fun cs =>
  match fuel with
  | 0 => .error .malformed
  | fuel + 1 => do
    let rest ← after '\x22' cs
    let (name, rest) ← orMalformed (quotation? rest)
    let (d, rest) ← match fields.find? fun field => field.name = String.ofList name with
      | none => do
        let rest ← after ':' rest
        let rest ← orMalformed (skip? rest)
        pure (d, rest)
      | some field =>
        if field.isSet d then throw (.unfit (.duplicate field.name))
        else do
          let rest ← after ':' rest
          field.read d rest
    match skipSpace rest with
    | ',' :: rest => byName fields fuel d rest
    | '\x7d' :: rest => pure (d, rest)
    | _ => throw .malformed

/-- A record with its fields, read into a draft that is finished in the end. -/
def record {δ α : Type} (wanted : String) (fields : List (RecordField δ)) (empty : δ)
    (finish : δ → Except Fault α) : Decoder α := fun cs =>
  match skipSpace cs with
  | '[' :: rest => do
    let (d, rest) ← inOrder true empty rest fields
    pure (← finish d, rest)
  | '\x7b' :: rest => do
    let (d, rest) ← match skipSpace rest with
      | '\x7d' :: rest => pure (empty, rest)
      | rest => byName fields rest.length empty rest
    pure (← finish d, rest)
  | cs => .error (refused wanted cs)

/-- A name out of a list, as a text or as the only member of an object, with the value null. -/
def variant {α : Type} (known : List (String × α)) : Decoder α := fun cs =>
  let choose (name : List Char) : Except Fault α :=
    match known.lookup (String.ofList name) with
    | some a => .ok a
    | none => .error (.unfit (.unknownVariant (String.ofList name) (known.map Prod.fst)))
  match skipSpace cs with
  | '\x22' :: rest => do
    let (name, rest) ← orMalformed (quotation? rest)
    pure (← choose name, rest)
  | '\x7b' :: rest =>
    match skipSpace rest with
    | '\x22' :: rest => do
      let (name, rest) ← orMalformed (quotation? rest)
      let a ← choose name
      match skipSpace (← after ':' rest) with
      | 'n' :: rest =>
        let rest ← orMalformed (word? ['u', 'l', 'l'] rest)
        pure (a, ← after '\x7d' rest)
      | rest => throw (refused "unit" rest)
    | rest => .error (refused "variant identifier" rest)
  | _ => .error .malformed

/-- The value that a whole text stands for. -/
def run {α : Type} (decode : Decoder α) (s : String) : Except Fault α := do
  let (a, rest) ← decode s.toList
  if skipSpace rest = [] then pure a else throw .malformed

end Decoder

end PeekRelay.Json
