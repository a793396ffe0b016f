import PeekRelay.Text.Numerals
/-!
# Decimal numbers are read back

What is written as a row of digits is read as the number that it was, also at the front of a text,
as long as no digit follows.
-/
namespace PeekRelay.Decimal

theorem toList_toString (n : Nat) : (toString n).toList = write n := Nat.toList_repr

theorem write_ne_nil (n : Nat) : write n ≠ [] := Nat.toDigits_ne_nil

theorem isDigit_of_mem_write {n : Nat} {c : Char} (h : c ∈ write n) : isDigit c = true :=
  Nat.isDigit_of_mem_toDigits (by decide) (by decide) h

private theorem all_isDigit_write (n : Nat) : (write n).all isDigit = true :=
  List.all_eq_true.mpr fun _ => isDigit_of_mem_write

theorem value_write (n : Nat) : value (write n) = n :=
  Nat.ofDigitChars_toDigits (by decide) (by decide)

private theorem read?_write (n : Nat) : read? (write n) = some n := by
  rw [read?, if_pos ⟨write_ne_nil n, all_isDigit_write n⟩, value_write]

theorem head?_write {n : Nat} (h : 0 < n) : (write n).head? ≠ some '0' := by
  induction n using Nat.strongRecOn with
  | ind n ih =>
    rcases Nat.lt_or_ge n 10 with hsmall | hlarge
    · have hall : ∀ n < 10, 0 < n → (write n).head? ≠ some '0' := by decide
      exact hall n hsmall h
    · have hdigits : write n = write (n / 10) ++ [Nat.digitChar (n % 10)] :=
        Nat.toDigits_of_base_le (by decide) hlarge
      have hhead := ih (n / 10) (by omega) (by omega)
      obtain ⟨c, cs, hcs⟩ := List.exists_cons_of_ne_nil (write_ne_nil (n / 10))
      rw [hcs] at hhead
      rwa [hdigits, hcs]

section Padded

variable (width n : Nat)

theorem isDigit_of_mem_padded {c : Char} (h : c ∈ padded width n) : isDigit c = true := by
  rcases List.mem_append.mp h with hzero | hdigit
  · rw [List.eq_of_mem_replicate hzero]
    decide
  · exact isDigit_of_mem_write hdigit

theorem padded_ne_nil : padded width n ≠ [] := by
  intro hnone
  exact write_ne_nil n (List.append_eq_nil_iff.mp hnone).2

theorem value_padded : value (padded width n) = n := by
  have hzeros : ∀ k, (List.replicate k '0').foldl (fun n c => 10 * n + digitValue c) 0 = 0 := by
    intro k
    induction k with
    | zero => rfl
    | succ k ih => exact ih
  rw [value, padded, List.foldl_append, hzeros]
  exact value_write n

variable {width n}

theorem length_padded (hwidth : 0 < width) (h : n < Nat.pow 10 width) :
    (padded width n).length = width := by
  have hlength : (write n).length ≤ width :=
    (Nat.length_toDigits_le_iff (by decide) hwidth).mpr h
  rw [padded, List.length_append, List.length_replicate]
  omega

end Padded

def take? (cs : List Char) : Option (Nat × List Char) :=
  (read? (cs.takeWhile isDigit)).map fun n => (n, cs.dropWhile isDigit)

def Undigited (cs : List Char) : Prop := ∀ c ∈ cs.head?, isDigit c = false

theorem undigited_cons {c : Char} (h : isDigit c = false) (cs : List Char) :
    Undigited (c :: cs) := by
  intro d hd
  cases hd
  exact h

section Undigited

variable {rest : List Char} (h : Undigited rest)

include h

theorem Undigited.takeWhile_eq : rest.takeWhile isDigit = [] := by
  cases rest with
  | nil => rfl
  | cons c rest => exact List.takeWhile_cons_of_neg (Bool.eq_false_iff.mp (h c rfl))

theorem Undigited.dropWhile_eq : rest.dropWhile isDigit = rest := by
  cases rest with
  | nil => rfl
  | cons c rest => exact List.dropWhile_cons_of_neg (Bool.eq_false_iff.mp (h c rfl))

theorem Undigited.take (n : Nat) : Undigited (rest.take n) := by
  intro c hc
  rw [List.head?_take] at hc
  split at hc
  · cases hc
  · exact h c hc

end Undigited

theorem take?_write (n : Nat) {rest : List Char} (h : Undigited rest) :
    take? (write n ++ rest) = some (n, rest) := by
  have hdigits : ∀ c ∈ write n, isDigit c = true := fun _ => isDigit_of_mem_write
  rw [take?, List.takeWhile_append_of_pos hdigits, List.dropWhile_append_of_pos hdigits,
    h.takeWhile_eq, h.dropWhile_eq, List.append_nil, read?_write]
  rfl

end PeekRelay.Decimal
