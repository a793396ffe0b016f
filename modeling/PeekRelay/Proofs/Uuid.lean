import PeekRelay.Proofs.Text.Escaped
import PeekRelay.Uuid
/-!
# Connection identifiers are read back

Of the four ways in which an identifier can be read, the written one is told by its length.
-/
namespace PeekRelay.Uuid

section Hyphens

variable {a b c d : List Char} (e : List Char) (ha : a.length = 8) (hb : b.length = 4)
  (hc : c.length = 4) (hd : d.length = 4)

include ha hb hc hd

private theorem readHyphenated?_join :
    readHyphenated? (a ++ '-' :: b ++ '-' :: c ++ '-' :: d ++ '-' :: e) =
    readPlain? (a ++ b ++ c ++ d ++ e) := by
  generalize hjoined : a ++ '-' :: b ++ '-' :: c ++ '-' :: d ++ '-' :: e = joined
  have hhyphens : joined[8]? = some '-' ∧ joined[13]? = some '-' ∧ joined[18]? = some '-' ∧
      joined[23]? = some '-' := by
    simp [← hjoined, List.getElem?_append, ha, hb, hc, hd]
  have hdigits : joined.take 8 ++ (joined.drop 9).take 4 ++ (joined.drop 14).take 4 ++
      (joined.drop 19).take 4 ++ joined.drop 24 = a ++ b ++ c ++ d ++ e := by
    rw [← hjoined]
    have hgone {cs : List Char} {n : Nat} (h : cs.length ≤ n) : cs.drop n = [] :=
      List.drop_eq_nil_of_le h
    simp [List.drop_append, hgone, ha, hb, hc, hd]
  rw [readHyphenated?, if_pos hhyphens, hdigits]

end Hyphens

private theorem readPlain?_write (u : Uuid) : readPlain? (Hex.write u.bytes) = some u := by
  rw [readPlain?, Hex.read?_write]
  exact dif_pos u.size

private theorem read?_toList (u : Uuid) : read? u.toList = some u := by
  have hlength : (Hex.write u.bytes).length = 32 := by
    rw [Hex.length_write, u.size]
  have hwhole := readPlain?_write u
  have hsize : u.toList.length = 36 := by
    simp [toList, hlength]
  have hcut {n : Nat} : ((Hex.write u.bytes).drop n).take 4 ++ (Hex.write u.bytes).drop (n + 4) =
      (Hex.write u.bytes).drop n := by
    rw [← List.drop_drop, List.take_append_drop]
  rw [read?, if_neg (by simp [hsize]), if_pos hsize, toList, readHyphenated?_join _
    (by simp [hlength]) (by simp [hlength]) (by simp [hlength]) (by simp [hlength])]
  simp only [List.append_assoc, hcut, List.take_append_drop, hwhole]

theorem ofString?_toString (u : Uuid) : ofString? u.toString = some u := by
  rw [ofString?, toString, String.toList_ofList, read?_toList]

end PeekRelay.Uuid
