import PeekRelay.Proofs.Text.Decimal
import PeekRelay.Proofs.Time.Civil
import PeekRelay.Time.Rfc3339
/-!
# Times are read back

What is written of an instant in UTC is read as the same instant, leap seconds and years of more
than four digits included.
-/
namespace PeekRelay

private theorem isBlank_of_isDigit {c : Char} (h : Decimal.isDigit c = true) :
    isBlank c = false := by
  obtain ⟨hlow, hhigh⟩ := Bool.and_eq_true_iff.mp h
  have hlow' : 48 ≤ c.toNat := of_decide_eq_true hlow
  have hhigh' : c.toNat ≤ 57 := of_decide_eq_true hhigh
  simp [isBlank]
  omega

private theorem skipBlanks_eq {cs : List Char} (h : ∀ c ∈ cs.head?, isBlank c = false) :
    skipBlanks cs = cs := by
  cases cs with
  | nil => rfl
  | cons c cs => exact List.dropWhile_cons_of_neg (Bool.eq_false_iff.mp (h c rfl))

private theorem Instant.ofUnix?_eq (t : Instant) : ofUnix? t.seconds t.nanos = some t :=
  dif_pos ⟨t.inRange, t.fraction⟩

namespace Rfc3339

open Decimal

section Numbers

variable {ds rest : List Char} {limit : Nat}

private theorem head?_digits (hne : ds ≠ []) (hdigits : ∀ c ∈ ds, isDigit c = true) :
    ∀ c ∈ (ds ++ rest).head?, isDigit c = true := by
  cases ds with
  | nil => exact absurd rfl hne
  | cons d ds =>
    rintro _ ⟨⟩
    exact hdigits d List.mem_cons_self

private theorem takeWhile_take_append (hdigits : ∀ c ∈ ds, isDigit c = true)
    (hend : ds.length = limit ∨ ds.length ≤ limit ∧ Undigited rest) :
    ((ds ++ rest).take limit).takeWhile isDigit = ds := by
  have hrest : (rest.take (limit - ds.length)).takeWhile isDigit = [] := by
    rcases hend with hfull | ⟨-, hrest⟩
    · rw [hfull, Nat.sub_self]
      rfl
    · exact (hrest.take _).takeWhile_eq
  have hlength : ds.length ≤ limit := by omega
  rw [List.take_append, List.take_of_length_le hlength, List.takeWhile_append_of_pos hdigits,
    hrest, List.append_nil]

private theorem number?_append (hne : ds ≠ []) (hdigits : ∀ c ∈ ds, isDigit c = true)
    (hend : ds.length = limit ∨ ds.length ≤ limit ∧ Undigited rest) :
    number? limit (ds ++ rest) = some (value ds, rest) := by
  rw [number?]
  simp only [takeWhile_take_append hdigits hend, if_neg hne, List.drop_left]

private theorem two?_padded {n : Nat} (hlimit : n ≤ limit) (hn : n < 100) :
    two? limit (padded 2 n ++ rest) = some (n, rest) := by
  have hdigits : ∀ c ∈ padded 2 n, isDigit c = true := fun _ => isDigit_of_mem_padded 2 n
  have hskip : skipBlanks (padded 2 n ++ rest) = padded 2 n ++ rest :=
    skipBlanks_eq fun c hc => isBlank_of_isDigit (head?_digits (padded_ne_nil 2 n) hdigits c hc)
  have hread : number? 2 (padded 2 n ++ rest) = some (value (padded 2 n), rest) :=
    number?_append (padded_ne_nil 2 n) hdigits (.inl (length_padded (by decide) hn))
  rw [value_padded] at hread
  simp [two?, hskip, hread, hlimit]

end Numbers

section Parts

variable (rest : List Char)

private theorem year?_unsigned {cs : List Char} (h : ∀ c ∈ cs.head?, isDigit c = true) :
    year? cs = (number? 4 cs).map fun (n, rest) => ((n : Int), rest) := by
  unfold year?
  split
  · exact absurd (h '-' rfl) (by decide)
  · exact absurd (h '+' rfl) (by decide)
  · cases number? 4 cs <;> rfl

private theorem year?_year (y : Int) : year? (year y ++ '-' :: rest) = some (y, '-' :: rest) := by
  have hdigits : ∀ c ∈ padded 4 y.natAbs, isDigit c = true := fun _ => isDigit_of_mem_padded 4 _
  have hne := padded_ne_nil 4 y.natAbs
  unfold year
  split
  · next hshort =>
    have hsmall : y.natAbs < 10000 := by omega
    have hlength : (padded 4 y.natAbs).length = 4 := length_padded (by decide) hsmall
    rw [year?_unsigned (head?_digits hne hdigits), number?_append hne hdigits (.inl hlength),
      value_padded]
    simp only [Option.map_some, Int.natAbs_of_nonneg hshort.1]
  · have hend : Undigited ('-' :: rest) := undigited_cons (by decide) rest
    have hlimit : (padded 4 y.natAbs).length ≤ (padded 4 y.natAbs ++ '-' :: rest).length := by
      rw [List.length_append]
      exact Nat.le_add_right ..
    have hread := number?_append hne hdigits (.inr ⟨hlimit, hend⟩)
    rw [value_padded] at hread
    split
    · next hnegative =>
      have hy : -(y.natAbs : Int) = y := by omega
      simp only [List.cons_append, year?, hread, Option.bind_eq_bind, Option.bind_some, hy]
      rfl
    · next hpositive =>
      have hy : (y.natAbs : Int) = y := by omega
      simp only [List.cons_append, year?, hread, Option.bind_eq_bind, Option.bind_some, hy]
      rfl

private theorem skipBlanks_year (y : Int) : skipBlanks (year y ++ rest) = year y ++ rest := by
  have hdigits : ∀ c ∈ padded 4 y.natAbs, isDigit c = true := fun _ => isDigit_of_mem_padded 4 _
  unfold year
  split
  · exact skipBlanks_eq fun c hc =>
      isBlank_of_isDigit (head?_digits (padded_ne_nil 4 y.natAbs) hdigits c hc)
  · split <;> rfl

private theorem date?_append {d : CivilDate} (hvalid : d.isValid = true)
    (hyear : -262143 ≤ d.year ∧ d.year ≤ 262142) :
    date? (year d.year ++ '-' :: (padded 2 d.month ++ '-' :: (padded 2 d.day ++ rest))) =
      some (d, rest) := by
  have hmonth : d.month ≤ 12 ∧ d.day ≤ 31 := by
    simp only [CivilDate.isValid, Bool.and_eq_true, decide_eq_true_eq] at hvalid
    have hlength := CivilDate.monthLength_le d.year d.month
    omega
  have hhyphen (cs : List Char) : skipBlanks ('-' :: cs) = '-' :: cs := rfl
  have hliteral (cs : List Char) : literal? '-' ('-' :: cs) = some cs := rfl
  have hm (rest : List Char) : two? 12 (padded 2 d.month ++ rest) = some (d.month, rest) :=
    two?_padded hmonth.1 (by omega)
  have hd (rest : List Char) : two? 31 (padded 2 d.day ++ rest) = some (d.day, rest) :=
    two?_padded hmonth.2 (by omega)
  simp only [date?, skipBlanks_year, year?_year, hhyphen, hliteral, hm, hd,
    Option.bind_eq_bind, Option.bind_some, hvalid, hyear, and_self, if_true]
  rfl

private theorem fraction?_padded {width n : Nat} (hwidth : 0 < width) (hlimit : width ≤ 9)
    (hn : n < Nat.pow 10 width) {rest : List Char} (h : Undigited rest) :
    fraction? ('.' :: (padded width n ++ rest)) = some (n * Nat.pow 10 (9 - width), rest) := by
  have hdigits : ∀ c ∈ padded width n, isDigit c = true := fun _ => isDigit_of_mem_padded width n
  have hlength : (padded width n).length = width := length_padded hwidth hn
  have htaken : ((padded width n ++ rest).take 9).takeWhile isDigit = padded width n :=
    takeWhile_take_append hdigits (.inr ⟨hlength.trans_le hlimit, h⟩)
  have hdropped : (padded width n ++ rest).dropWhile isDigit = rest := by
    rw [List.dropWhile_append_of_pos hdigits, h.dropWhile_eq]
  simp only [fraction?, htaken, hdropped, if_neg (padded_ne_nil width n), value_padded, hlength]

private theorem fraction?_fraction {nanos : Nat} (hnanos : nanos < 1000000000) :
    fraction? (fraction nanos ++ 'Z' :: rest) = some (nanos, 'Z' :: rest) := by
  have hend : Undigited ('Z' :: rest) := undigited_cons (by decide) rest
  unfold fraction
  split
  · next hnone =>
    rw [hnone]
    rfl
  split
  · next hthree =>
    have hexact : nanos / 1000000 * Nat.pow 10 (9 - 3) = nanos := Nat.div_mul_cancel
      (Nat.dvd_of_mod_eq_zero hthree)
    have hsmall : nanos / 1000000 < 1000 := by omega
    rw [List.cons_append, fraction?_padded (by decide) (by decide) hsmall hend, hexact]
  split
  · next hsix =>
    have hexact : nanos / 1000 * Nat.pow 10 (9 - 6) = nanos := Nat.div_mul_cancel
      (Nat.dvd_of_mod_eq_zero hsix)
    have hsmall : nanos / 1000 < 1000000 := by omega
    rw [List.cons_append, fraction?_padded (by decide) (by decide) hsmall hend, hexact]
  · have hexact : nanos * Nat.pow 10 (9 - 9) = nanos := Nat.mul_one nanos
    rw [List.cons_append, fraction?_padded (by decide) (by decide) hnanos hend, hexact]

private theorem clock?_append {h m s nanos : Nat} (hh : h ≤ 23) (hm : m ≤ 59) (hs : s ≤ 60)
    (hnanos : nanos < 1000000000) :
    clock? (padded 2 h ++ ':' :: (padded 2 m ++ ':' :: (padded 2 s ++
      (fraction nanos ++ 'Z' :: rest)))) =
      if s = 60 then some (h * 3600 + m * 60 + 59, nanos + 1000000000, 'Z' :: rest)
      else some (h * 3600 + m * 60 + s, nanos, 'Z' :: rest) := by
  -- The second 60 is a leap second: the one before it, with too many nanoseconds.
  have hcolon (cs : List Char) : skipBlanks (':' :: cs) = ':' :: cs := rfl
  have hliteral (cs : List Char) : literal? ':' (':' :: cs) = some cs := rfl
  have hhour (rest : List Char) : two? 23 (padded 2 h ++ rest) = some (h, rest) :=
    two?_padded hh (by omega)
  have hminute (rest : List Char) : two? 59 (padded 2 m ++ rest) = some (m, rest) :=
    two?_padded hm (by omega)
  have hsecond (rest : List Char) : two? 60 (padded 2 s ++ rest) = some (s, rest) :=
    two?_padded hs (by omega)
  simp only [clock?, hcolon, hliteral, hhour, hminute, hsecond, fraction?_fraction rest hnanos,
    Option.bind_eq_bind, Option.bind_some]
  split <;> rfl

end Parts

section Instants

variable (t : Instant)

private theorem clock?_write : clock? (padded 2 ((t.seconds % 86400).toNat / 3600) ++
      ':' :: (padded 2 ((t.seconds % 86400).toNat / 60 % 60) ++
        ':' :: (padded 2 (secondAndNanos t).1 ++ (fraction (secondAndNanos t).2 ++ ['Z'])))) =
    some ((t.seconds % 86400).toNat, t.nanos, ['Z']) := by
  have hfraction := t.fraction
  have hhour : (t.seconds % 86400).toNat / 3600 ≤ 23 := by omega
  have hminute : (t.seconds % 86400).toNat / 60 % 60 ≤ 59 := by omega
  unfold secondAndNanos
  split
  · next hplain =>
    have hsecond : (t.seconds % 60).toNat < 60 := by omega
    have hofDay : (t.seconds % 86400).toNat / 3600 * 3600 +
        (t.seconds % 86400).toNat / 60 % 60 * 60 + (t.seconds % 60).toNat =
        (t.seconds % 86400).toNat := by omega
    rw [clock?_append [] hhour hminute (Nat.le_of_lt hsecond) hplain, if_neg (by omega), hofDay]
  · next hleap =>
    have hlast : (t.seconds % 60).toNat + 1 = 60 := by omega
    have hofDay : (t.seconds % 86400).toNat / 3600 * 3600 +
        (t.seconds % 86400).toNat / 60 % 60 * 60 + 59 = (t.seconds % 86400).toNat := by omega
    have hnanos : t.nanos - 1000000000 + 1000000000 = t.nanos := by omega
    have hshown : t.nanos - 1000000000 < 1000000000 := by omega
    rw [clock?_append [] hhour hminute (Nat.le_of_eq hlast) hshown, if_pos hlast, hofDay, hnanos]

theorem read?_write : read? (write t ['Z']) = some t := by
  have hrange := t.inRange
  have hseconds : t.seconds / 86400 * 86400 + (t.seconds % 86400).toNat - 0 = t.seconds := by omega
  have hdate (rest : List Char) := date?_append rest (CivilDate.isValid_ofDays (t.seconds / 86400))
    (CivilDate.year_ofDays _ (by omega))
  have hseparator (cs : List Char) : separator? ('T' :: cs) = some cs := rfl
  have hoffset : offset? (skipBlanks ['Z']) = some (0, []) := rfl
  simp only [write, List.append_assoc, List.cons_append, read?, hdate, hseparator, clock?_write,
    hoffset, Option.bind_eq_bind, Option.bind_some, CivilDate.toDays_ofDays, hseconds]
  exact t.ofUnix?_eq

theorem read?_text : read? (text t).toList = some t := by
  rw [text, String.toList_ofList]
  exact read?_write t

end Instants

end Rfc3339

end PeekRelay
