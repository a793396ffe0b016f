import Mathlib.Tactic.SplitIfs
import PeekRelay.Text.Quoted
/-!
# Escaped payload is read back

Escaped payload tells its bytes without fail, whatever they are. A quote in it stands behind a
backslash that escapes it, so a quoted field ends where its payload ends.
-/
namespace PeekRelay

namespace Hex

theorem digitValue?_digit {n : Nat} (h : n < 16) : digitValue? (digit n) = some n := by
  have hall : ∀ n < 16, digitValue? (digit n) = some n := by decide
  exact hall n h

section Bytes

variable (b : UInt8)

theorem high_lt : b.toNat / 16 < 16 := Nat.div_lt_of_lt_mul b.toNat_lt

theorem low_lt : b.toNat % 16 < 16 := Nat.mod_lt _ (by decide)

private theorem read?_byte_append (cs : List Char) :
    read? (byte b ++ cs) = (read? cs).map (b :: ·) := by
  have hbyte : UInt8.ofNat (16 * (b.toNat / 16) + b.toNat % 16) = b := by
    rw [Nat.div_add_mod, UInt8.ofNat_toNat]
  rw [byte, List.cons_append, List.cons_append, List.nil_append, read?,
    digitValue?_digit (high_lt b), digitValue?_digit (low_lt b)]
  cases read? cs with
  | none => rfl
  | some bs => exact congrArg (fun b => some (b :: bs)) hbyte

private theorem read?_byte : read? (byte b) = some [b] := read?_byte_append b []

variable (bs : Bytes)

/-- Bytes are read back from their digits. -/
theorem read?_write : read? (write bs) = some bs := by
  induction bs with
  | nil => rfl
  | cons b bs ih =>
    change read? (byte b ++ write bs) = _
    rw [read?_byte_append, ih]
    rfl

@[simp] theorem length_write : (write bs).length = 2 * bs.length := by
  induction bs with
  | nil => rfl
  | cons b bs ih =>
    change (byte b ++ write bs).length = _
    rw [List.length_append, ih, List.length_cons, Nat.mul_succ, Nat.add_comm]
    rfl

end Bytes

end Hex

namespace Escaped

def letter? (c : Char) : Option UInt8 :=
  if c = 't' then some 9
  else if c = 'r' then some 13
  else if c = 'n' then some 10
  else if c = '\x27' then some 39
  else if c = '\x22' then some 34
  else if c = '\\' then some 92
  else none

def isPlain (c : Char) : Bool := ' ' ≤ c && c ≤ '~' && c ≠ '\x27' && c ≠ '\x22' && c ≠ '\\'

def read? : List Char → Option Bytes
  | [] => some []
  | c :: rest =>
    if c = '\\' then
      match rest with
      | [] => none
      | 'x' :: high :: low :: rest => do
        let bs ← Hex.read? [high, low]
        let later ← read? rest
        pure (bs ++ later)
      | c :: rest => do
        let b ← letter? c
        let later ← read? rest
        pure (b :: later)
    else if isPlain c then (read? rest).map (UInt8.ofNat c.toNat :: ·)
    else none

/-- A field up to the first quote that no backslash escapes, and the text behind that quote. A
backslash escapes the character behind it, unless it is escaped itself. -/
def untilQuote : List Char → Option (List Char × List Char)
  | [] => none
  | c :: rest =>
    if c = '\x22' then some ([], rest)
    else if c = '\\' then
      match rest with
      | [] => none
      | d :: rest => (untilQuote rest).map fun (field, later) => (c :: d :: field, later)
    else (untilQuote rest).map fun (field, later) => (c :: field, later)

section Equations

variable {c : Char} (rest : List Char)

private theorem ne_of_isPlain (h : isPlain c = true) : c ≠ '\x22' ∧ c ≠ '\\' := by
  constructor <;> rintro rfl <;> cases h

private theorem read?_plain (h : isPlain c = true) :
    read? (c :: rest) = (read? rest).map (UInt8.ofNat c.toNat :: ·) := by
  rw [read?.eq_def]
  exact (if_neg (ne_of_isPlain h).2).trans (if_pos h)

private theorem untilQuote_quote : untilQuote ('\x22' :: rest) = some ([], rest) := by
  rw [untilQuote.eq_def]
  rfl

private theorem untilQuote_escape : untilQuote ('\\' :: c :: rest) =
    (untilQuote rest).map fun (field, later) => ('\\' :: c :: field, later) := by
  rw [untilQuote.eq_def]
  rfl

private theorem untilQuote_plain (h : isPlain c = true) : untilQuote (c :: rest) =
    (untilQuote rest).map fun (field, later) => (c :: field, later) := by
  obtain ⟨hquote, hback⟩ := ne_of_isPlain h
  rw [untilQuote.eq_def]
  exact (if_neg hquote).trans (if_neg hback)

end Equations

/-- The three ways in which a byte is written. -/
inductive Writes (b : UInt8) : List Char → Prop where
  | plain (c : Char) : isPlain c = true → UInt8.ofNat c.toNat = b → Writes b [c]
  | letter (c : Char) : c ≠ 'x' → letter? c = some b → Writes b ['\\', c]
  | hex (high low : Char) : isPlain high = true → isPlain low = true →
    Hex.read? [high, low] = some [b] → Writes b ['\\', 'x', high, low]

section Writes

variable {b : UInt8}

private theorem isPlain_digit {n : Nat} (h : n < 16) : isPlain (Hex.digit n) = true := by
  have hall : ∀ n < 16, isPlain (Hex.digit n) = true := by decide
  exact hall n h

private theorem writes_shown (hfirst : 32 ≤ b) (hlast : b ≤ 126) (hquote : b ≠ 39)
    (hquotes : b ≠ 34)
    (hback : b ≠ 92) : Writes b [Char.ofNat b.toNat] := by
  have hall : ∀ n < 127, 32 ≤ n ∧ n ≠ 39 ∧ n ≠ 34 ∧ n ≠ 92 →
      isPlain (Char.ofNat n) = true ∧ (Char.ofNat n).toNat = n := by decide
  have hne {c : UInt8} (h : b ≠ c) : b.toNat ≠ c.toNat := mt UInt8.toNat_inj.mp h
  obtain ⟨hplain, hsame⟩ := hall b.toNat (Nat.lt_succ_of_le (UInt8.le_iff_toNat_le.mp hlast))
    ⟨UInt8.le_iff_toNat_le.mp hfirst, hne hquote, hne hquotes, hne hback⟩
  refine .plain _ hplain ?_
  rw [hsame, UInt8.ofNat_toNat]

private theorem writes_byte (b : UInt8) : Writes b (byte b) := by
  unfold byte
  split_ifs with htab hreturn hnewline hquote hquotes hback hshown
  · exact .letter 't' (by decide) (htab ▸ rfl)
  · exact .letter 'r' (by decide) (hreturn ▸ rfl)
  · exact .letter 'n' (by decide) (hnewline ▸ rfl)
  · exact .letter '\x27' (by decide) (hquote ▸ rfl)
  · exact .letter '\x22' (by decide) (hquotes ▸ rfl)
  · exact .letter '\\' (by decide) (hback ▸ rfl)
  · exact writes_shown hshown.1 hshown.2 hquote hquotes hback
  · exact .hex _ _ (isPlain_digit (Nat.div_lt_of_lt_mul b.toNat_lt))
      (isPlain_digit (Nat.mod_lt _ (by decide))) (Hex.read?_byte b)

variable {cs : List Char} (h : Writes b cs) (rest : List Char)

include h

private theorem Writes.read?_append : read? (cs ++ rest) = (read? rest).map (b :: ·) := by
  cases h with
  | plain c hplain hsame => rw [List.singleton_append, read?_plain _ hplain, hsame]
  | letter c hx hletter => cases hrest : read? rest <;> simp [read?, hx, hletter, hrest]
  | hex high low _ _ hread => cases hrest : read? rest <;> simp [read?, hread, hrest]

private theorem Writes.untilQuote_append : untilQuote (cs ++ rest) =
    (untilQuote rest).map fun (field, later) => (cs ++ field, later) := by
  cases h with
  | plain c hplain _ => exact untilQuote_plain rest hplain
  | letter c _ _ => exact untilQuote_escape rest
  | hex high low hhigh hlow _ =>
    change untilQuote ('\\' :: 'x' :: high :: low :: rest) = _
    rw [untilQuote_escape, untilQuote_plain _ hhigh, untilQuote_plain _ hlow, Option.map_map,
      Option.map_map]
    rfl

end Writes

/-- Any bytes are read back from what is written of them. -/
theorem read?_write (bs : Bytes) : read? (write bs) = some bs := by
  induction bs with
  | nil => rfl
  | cons b bs ih =>
    change read? (byte b ++ write bs) = _
    rw [(writes_byte b).read?_append, ih]
    rfl

/-- A quoted field is what was written in front of the quote, whatever stands behind it. -/
theorem untilQuote_write (bs : Bytes) (rest : List Char) :
    untilQuote (write bs ++ '\x22' :: rest) = some (write bs, rest) := by
  induction bs with
  | nil => exact untilQuote_quote rest
  | cons b bs ih =>
    change untilQuote (byte b ++ write bs ++ _) = _
    rw [List.append_assoc, (writes_byte b).untilQuote_append, ih]
    rfl

end Escaped

end PeekRelay
