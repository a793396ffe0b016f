import PeekRelay.Text.Numerals
/-!
# Connection identifiers

A UUID is sixteen bytes. It is written in lower case with hyphens, and read hyphenated, plain, in
braces or as a URN.
-/
namespace PeekRelay

structure Uuid where
  bytes : Bytes
  size : bytes.length = 16
  deriving DecidableEq

namespace Uuid

def zero : Uuid := ⟨List.replicate 16 0, rfl⟩

instance : Inhabited Uuid := ⟨zero⟩

def toList (u : Uuid) : List Char :=
  let h := Hex.write u.bytes
  h.take 8 ++ '-' :: (h.drop 8).take 4 ++ '-' :: (h.drop 12).take 4 ++ '-' :: (h.drop 16).take 4 ++
    '-' :: h.drop 20

def toString (u : Uuid) : String := String.ofList u.toList

instance : ToString Uuid := ⟨toString⟩

def ofBytes? (bs : Bytes) : Option Uuid :=
  if h : bs.length = 16 then some ⟨bs, h⟩ else none

def readPlain? (cs : List Char) : Option Uuid := Hex.read? cs >>= ofBytes?

/-- Thirty-six characters with hyphens at four fixed places. -/
def readHyphenated? (cs : List Char) : Option Uuid :=
  if cs[8]? = some '-' ∧ cs[13]? = some '-' ∧ cs[18]? = some '-' ∧ cs[23]? = some '-' then
    readPlain? (cs.take 8 ++ (cs.drop 9).take 4 ++ (cs.drop 14).take 4 ++ (cs.drop 19).take 4 ++
      cs.drop 24)
  else none

def read? (cs : List Char) : Option Uuid :=
  if cs.length = 32 then readPlain? cs
  else if cs.length = 36 then readHyphenated? cs
  else if cs.length = 38 ∧ cs.head? = some '\x7b' ∧ cs.getLast? = some '\x7d' then
    readHyphenated? (cs.tail.take 36)
  else if cs.length = 45 ∧ cs.take 9 = "urn:uuid:".toList then readHyphenated? (cs.drop 9)
  else none

def ofString? (s : String) : Option Uuid := read? s.toList

end Uuid

end PeekRelay
