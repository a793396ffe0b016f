import PeekRelay.Text.Numerals
import PeekRelay.Text.Printable
/-!
# Payload and text between quotes

In a log record, payload stands between double quotes: printable ASCII as it is, quotes and
backslashes behind a backslash, three control bytes by letter, every other byte in hexadecimal. Text
stands in messages in the same way, but only four control characters have a letter, and other
characters that do not show are written by number, as in `\u{7f}`.
-/
namespace PeekRelay

namespace Escaped

def byte (b : UInt8) : List Char :=
  if b = 9 then ['\\', 't']
  else if b = 13 then ['\\', 'r']
  else if b = 10 then ['\\', 'n']
  else if b = 39 then ['\\', '\x27']
  else if b = 34 then ['\\', '\x22']
  else if b = 92 then ['\\', '\\']
  else if 32 ≤ b ∧ b ≤ 126 then [Char.ofNat b.toNat]
  else '\\' :: 'x' :: Hex.byte b

def write (bs : Bytes) : List Char := bs.flatMap byte

def text (bs : Bytes) : String := String.ofList (write bs)

end Escaped

namespace Quoted

private def hexDigits (n : Nat) : List Char := (Nat.toDigits 16 n)

def char (c : Char) : List Char :=
  if c = '\x00' then ['\\', '0']
  else if c = '\t' then ['\\', 't']
  else if c = '\r' then ['\\', 'r']
  else if c = '\n' then ['\\', 'n']
  else if c = '\x22' then ['\\', '\x22']
  else if c = '\\' then ['\\', '\\']
  else if Printable.shows c then [c]
  else ['\\', 'u', '\x7b'] ++ hexDigits c.toNat ++ ['\x7d']

def text (s : String) : String := String.ofList ('\x22' :: s.toList.flatMap char ++ ['\x22'])

end Quoted

end PeekRelay
