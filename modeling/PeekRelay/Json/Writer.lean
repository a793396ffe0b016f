import PeekRelay.Text.Numerals
/-!
# Writing JSON

Compact JSON text: no blanks, quotes and backslashes escaped, control characters by letter or by
number, all other characters as they are.
-/
namespace PeekRelay.Json

def escaped (c : Char) : List Char :=
  if c = '\x22' then ['\\', '\x22']
  else if c = '\\' then ['\\', '\\']
  else if c = '\x08' then ['\\', 'b']
  else if c = '\t' then ['\\', 't']
  else if c = '\n' then ['\\', 'n']
  else if c = '\x0c' then ['\\', 'f']
  else if c = '\r' then ['\\', 'r']
  else if c.toNat < 32 then ['\\', 'u', '0', '0'] ++ Hex.byte (UInt8.ofNat c.toNat)
  else [c]

def writeString (s : String) : List Char := '\x22' :: s.toList.flatMap escaped ++ ['\x22']

def writeNull : List Char := ['n', 'u', 'l', 'l']

def writeBool : Bool → List Char
  | true => ['t', 'r', 'u', 'e']
  | false => ['f', 'a', 'l', 's', 'e']

def writeNat (n : Nat) : List Char := Decimal.write n

def writeOption {α : Type} (write : α → List Char) : Option α → List Char
  | none => writeNull
  | some a => write a

def commaSeparated : List (List Char) → List Char
  | [] => []
  | [a] => a
  | a :: b :: rest => a ++ ',' :: commaSeparated (b :: rest)

def writeArray (items : List (List Char)) : List Char := '[' :: commaSeparated items ++ [']']

def member (name : String) (value : List Char) : List Char := writeString name ++ ':' :: value

def writeObject (members : List (String × List Char)) : List Char :=
  '\x7b' :: commaSeparated (members.map fun m => member m.1 m.2) ++ ['\x7d']

def writeBytes (bs : Bytes) : List Char := writeArray (bs.map fun b => writeNat b.toNat)

end PeekRelay.Json
