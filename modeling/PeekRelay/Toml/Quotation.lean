import PeekRelay.Text.Numerals
/-!
# Quoted text in TOML

Text between double quotes has escapes, text between single quotes has none. Three quotes instead of
one let the text run over several lines; its first line break is dropped, and up to two quotes may
stand right before the closing ones.
-/
namespace PeekRelay.Toml.Quotation

/-- Characters that stand for themselves: the tab, and all that are not control characters. -/
def isText (c : Char) : Bool := c = '\t' || (32 ≤ c.toNat && c.toNat ≠ 127)

def isSpace (c : Char) : Bool := c = ' ' || c = '\t'

private def byNumber? (width : Nat) (rest : List Char) : Option (Char × Nat) := do
  let c ← Hex.number? width rest >>= Hex.scalar?
  pure (c, width)

/-- What an escape stands for, and how many characters behind its letter belong to it. -/
def escape? (letter : Char) (rest : List Char) : Option (Char × Nat) :=
  match letter with
  | 'b' => some ('\x08', 0)
  | 't' => some ('\t', 0)
  | 'n' => some ('\n', 0)
  | 'f' => some ('\x0c', 0)
  | 'r' => some ('\r', 0)
  | 'e' => some ('\x1b', 0)
  | '\x22' => some ('\x22', 0)
  | '\\' => some ('\\', 0)
  | 'x' => byNumber? 2 rest
  | 'u' => byNumber? 4 rest
  | 'U' => byNumber? 8 rest
  | _ => none

def basic? : List Char → Option (List Char × List Char)
  | [] => none
  | '\x22' :: rest => some ([], rest)
  | '\\' :: letter :: rest => do
    let (c, n) ← escape? letter rest
    let (cs, rest) ← basic? (rest.drop n)
    pure (c :: cs, rest)
  | c :: rest => do
    let (cs, rest) ← basic? rest
    if isText c then pure (c :: cs, rest) else none
termination_by cs => cs.length
decreasing_by all_goals (simp only [List.length_cons, List.length_drop]; omega)

def literal? : List Char → Option (List Char × List Char)
  | [] => none
  | '\x27' :: rest => some ([], rest)
  | c :: rest => do
    let (cs, rest) ← literal? rest
    if isText c then pure (c :: cs, rest) else none

/-- The quotes, two at most, that belong to the text although they follow the closing ones. -/
private def spareQuotes (quote : Char) (rest : List Char) : List Char :=
  (rest.take 2).takeWhile (· = quote)

private def closing (quote : Char) (rest : List Char) : List Char × List Char :=
  let spare := spareQuotes quote rest
  (spare, rest.drop spare.length)

def skipBreaks : List Char → List Char
  | [] => []
  | '\r' :: '\n' :: rest => skipBreaks rest
  | c :: rest => if isSpace c || c = '\n' then skipBreaks rest else c :: rest

private theorem length_skipBreaks_le (cs : List Char) : (skipBreaks cs).length ≤ cs.length := by
  fun_induction skipBreaks cs <;> grind

/-- Passes over the blanks at the end of a line, its break, and the blank lines behind it. -/
private def skipLineEnd? (cs : List Char) : Option (List Char) :=
  match cs.dropWhile isSpace with
  | '\n' :: rest | '\r' :: '\n' :: rest => some (skipBreaks rest)
  | _ => none

private theorem length_skipLineEnd? {cs rest : List Char} (h : skipLineEnd? cs = some rest) :
    rest.length < cs.length := by
  have hle := (List.dropWhile_suffix (l := cs) isSpace).length_le
  unfold skipLineEnd? at h
  split at h
  all_goals grind [length_skipBreaks_le]

/-- Text of several lines up to three double quotes. A backslash at the end of a line leaves out the
line break and all blanks and line breaks behind it. -/
def basicLines? (cs : List Char) : Option (List Char × List Char) :=
  match cs with
  | [] => none
  | '\x22' :: '\x22' :: '\x22' :: rest => some (closing '\x22' rest)
  | '\r' :: '\n' :: rest => do
    let (cs, rest) ← basicLines? rest
    pure ('\r' :: '\n' :: cs, rest)
  | '\\' :: rest =>
    match _ : skipLineEnd? rest with
    | some rest => basicLines? rest
    | none =>
      match rest with
      | [] => none
      | letter :: rest => do
        let (c, n) ← escape? letter rest
        let (cs, rest) ← basicLines? (rest.drop n)
        pure (c :: cs, rest)
  | c :: rest => do
    let (cs, rest) ← basicLines? rest
    if isText c || c = '\n' then pure (c :: cs, rest) else none
termination_by cs.length
decreasing_by
  all_goals simp only [List.length_cons, List.length_drop]
  · omega
  · have := length_skipLineEnd? (by assumption)
    omega
  · omega
  · omega

def literalLines? : List Char → Option (List Char × List Char)
  | [] => none
  | '\x27' :: '\x27' :: '\x27' :: rest => some (closing '\x27' rest)
  | '\r' :: '\n' :: rest => do
    let (cs, rest) ← literalLines? rest
    pure ('\r' :: '\n' :: cs, rest)
  | c :: rest => do
    let (cs, rest) ← literalLines? rest
    if isText c || c = '\n' then pure (c :: cs, rest) else none

private def dropLineBreak : List Char → List Char
  | '\n' :: rest | '\r' :: '\n' :: rest => rest
  | cs => cs

def line? : List Char → Option (List Char × List Char)
  | '\x22' :: rest => basic? rest
  | '\x27' :: rest => literal? rest
  | _ => none

/-- Quoted text of one line or of several. -/
def read? : List Char → Option (List Char × List Char)
  | '\x22' :: '\x22' :: '\x22' :: rest => basicLines? (dropLineBreak rest)
  | '\x27' :: '\x27' :: '\x27' :: rest => literalLines? (dropLineBreak rest)
  | cs => line? cs

end PeekRelay.Toml.Quotation
