import PeekRelay.Toml.DateTime
import PeekRelay.Toml.Number
import PeekRelay.Toml.Quotation
import PeekRelay.Toml.Value
/-!
# TOML documents

A document is a row of headers and of keys with values, each on a line of its own. Arrays and inline
tables may hold line breaks, comments and a last comma.
-/
namespace PeekRelay.Toml.Document

open Quotation

private def skipSpace (cs : List Char) : List Char := cs.dropWhile isSpace

private def comment? : List Char → Option (List Char)
  | [] => some []
  | '\n' :: rest | '\r' :: '\n' :: rest => some rest
  | c :: rest => if isText c then comment? rest else none

private def endLine? (cs : List Char) : Option (List Char) :=
  match skipSpace cs with
  | [] => some []
  | '\n' :: rest | '\r' :: '\n' :: rest => some rest
  | '#' :: rest => comment? rest
  | _ => none

/-- Passes over blanks, line breaks and comments. The flag says that a comment has begun. -/
private def skipFiller? (inComment : Bool) : List Char → Option (List Char)
  | [] => some []
  | '\n' :: rest | '\r' :: '\n' :: rest => skipFiller? false rest
  | c :: rest =>
    if inComment then
      if isText c then skipFiller? true rest else none
    else if isSpace c then skipFiller? false rest
    else if c = '#' then skipFiller? true rest
    else some (c :: rest)

private def filler? (cs : List Char) : Option (List Char) := skipFiller? false cs

private def after? (c : Char) : List Char → Option (List Char)
  | [] => none
  | d :: rest => if c = d then some rest else none

private def isBare (c : Char) : Bool := c.isAlphanum || c = '_' || c = '-'

private def keyPart? (cs : List Char) : Option (String × List Char) :=
  match line? cs with
  | some (part, rest) => some (String.ofList part, rest)
  | none =>
    let part := cs.takeWhile isBare
    if part = [] then none else some (String.ofList part, cs.drop part.length)

private def keyPath? : Nat → List Char → Option (KeyPath × List Char)
  | 0, _ => none
  | fuel + 1, cs => do
    let (part, rest) ← keyPart? cs
    match skipSpace rest with
    | '.' :: rest =>
      let (k, rest) ← keyPath? fuel (skipSpace rest)
      pure ({ k with path := part :: k.path }, rest)
    | rest => pure (⟨[], part⟩, rest)

private def key? (cs : List Char) : Option (KeyPath × List Char) := keyPath? (cs.length + 1) cs

private def isScalar (c : Char) : Bool :=
  c.isAlphanum || c = '+' || c = '-' || c = '.' || c = '_' || c = ':'

/-- The characters of an unquoted value; behind a date, a blank and a time of day belong to it. -/
private def scalarText (cs : List Char) : List Char :=
  let front := cs.takeWhile isScalar
  match cs.drop front.length with
  | ' ' :: c :: rest =>
    if DateTime.isDate front && Decimal.isDigit c then
      front ++ ' ' :: (c :: rest).takeWhile isScalar
    else front
  | _ => front

private def scalar? (cs : List Char) : Option Value :=
  if cs = ['t', 'r', 'u', 'e'] then some (.boolean true)
  else if cs = ['f', 'a', 'l', 's', 'e'] then some (.boolean false)
  else if DateTime.isDateTime cs then some .dateTime
  else match Number.integer? cs with
    | some n => some (.integer n)
    | none => if Number.isFloat cs then some .float else none

private def simple? (cs : List Char) : Option (Value × List Char) :=
  match cs with
  | '\x22' :: _ | '\x27' :: _ => (Quotation.read? cs).map fun r => (.text (String.ofList r.1), r.2)
  | cs =>
    let text := scalarText cs
    (scalar? text).map fun v => (v, cs.drop text.length)

/-- Arrays and inline tables stand at most so deep inside each other. -/
def depthLimit : Nat := 80

mutual

private def value? (fuel depth : Nat) (cs : List Char) : Option (Value × List Char) :=
  match fuel with
  | 0 => none
  | fuel + 1 =>
    match cs with
    | '[' :: rest =>
      if depth < depthLimit then
        (items? fuel (depth + 1) rest).map fun r => (.array r.1, r.2)
      else none
    | '\x7b' :: rest =>
      if depth < depthLimit then
        (members? fuel (depth + 1) [] rest).map fun r => (.table (membersToTable r.1), r.2)
      else none
    | cs => simple? cs

private def items? (fuel depth : Nat) (cs : List Char) : Option (List Value × List Char) :=
  match fuel with
  | 0 => none
  | fuel + 1 => do
    match ← filler? cs with
    | ']' :: rest => pure ([], rest)
    | cs =>
      let (v, cs) ← value? fuel depth cs
      match ← filler? cs with
      | ']' :: rest => pure ([v], rest)
      | ',' :: rest =>
        let (vs, rest) ← items? fuel depth rest
        pure (v :: vs, rest)
      | _ => none

private def members? (fuel depth : Nat) (ms : Members) (cs : List Char) :
    Option (Members × List Char) :=
  match fuel with
  | 0 => none
  | fuel + 1 => do
    match ← filler? cs with
    | '\x7d' :: rest => pure (ms, rest)
    | cs =>
      let (k, cs) ← key? cs
      let cs ← after? '=' (skipSpace cs)
      let (v, cs) ← value? fuel depth (skipSpace cs)
      let ms ← Members.insert k v .header ms
      match ← filler? cs with
      | '\x7d' :: rest => pure (ms, rest)
      | ',' :: rest => members? fuel depth ms rest
      | _ => none

end

/-- What was read of a document, and the path of the table that takes the next value. -/
private structure Draft where
  root : Members := []
  path : List String := []

private def header? (d : Draft) (cs : List Char) : Option (Draft × List Char) := do
  let (k, cs) ← key? (skipSpace cs)
  let cs ← after? ']' (skipSpace cs)
  let cs ← endLine? cs
  pure ({ root := ← Members.openTable k d.root, path := k.path ++ [k.key] }, cs)

private def elementHeader? (d : Draft) (cs : List Char) : Option (Draft × List Char) := do
  let (k, cs) ← key? (skipSpace cs)
  let cs ← after? ']' (skipSpace cs)
  let cs ← after? ']' cs
  let cs ← endLine? cs
  pure ({ root := ← Members.openElement k d.root, path := k.path ++ [k.key] }, cs)

private def keyValue? (d : Draft) (cs : List Char) : Option (Draft × List Char) := do
  let (k, cs) ← key? cs
  let cs ← after? '=' (skipSpace cs)
  let (v, cs) ← value? (2 * cs.length + 2) 0 (skipSpace cs)
  let cs ← endLine? cs
  pure ({ d with root := ← Members.descend false (Members.insert k v) d.path .header d.root }, cs)

private def lines? (fuel : Nat) (d : Draft) (cs : List Char) : Option Members :=
  match fuel with
  | 0 => none
  | fuel + 1 => do
    match ← filler? cs with
    | [] => pure d.root
    | '[' :: '[' :: rest =>
      let (d, rest) ← elementHeader? d rest
      lines? fuel d rest
    | '[' :: rest =>
      let (d, rest) ← header? d rest
      lines? fuel d rest
    | cs =>
      let (d, rest) ← keyValue? d cs
      lines? fuel d rest

/-- The table that a text stands for. A byte order mark at the front is passed over. -/
def read? (cs : List Char) : Option Table :=
  let cs := match cs with
    | '\ufeff' :: rest => rest
    | cs => cs
  (lines? (cs.length + 1) {} cs).map membersToTable

def ofString? (s : String) : Option Table := read? s.toList

end PeekRelay.Toml.Document
