import PeekRelay.HostAddress
/-!
# Which texts are host addresses

A text is the address of a named host exactly if it is a name, a colon, and the number of a service.
The number holds no colon, so it is the last colon that divides the two.
-/
namespace PeekRelay.HostAddress

/-- How the number of a service may be written: a plus sign or none, then digits, any number of
zeros in front. -/
def IsService (cs : List Char) : Prop :=
  ∃ sign digits, cs = sign ++ digits ∧ (sign = [] ∨ sign = ['+']) ∧ digits ≠ [] ∧
    (∀ c ∈ digits, c.isDigit = true) ∧ Nat.ofDigitChars 10 digits 0 ≤ 65535

/-- A name that is not empty, a colon, and the number of a service. -/
def IsAddress (cs : List Char) : Prop :=
  ∃ host service, cs = host ++ ':' :: service ∧ host ≠ [] ∧ IsService service

section Split

private theorem splitAtLastColon?_eq_none {cs : List Char} (h : ':' ∉ cs) :
    splitAtLastColon? cs = none := by
  induction cs with
  | nil => rfl
  | cons c cs ih =>
    obtain ⟨hc, hcs⟩ := List.ne_and_not_mem_of_not_mem_cons h
    rw [splitAtLastColon?, ih hcs]
    exact if_neg hc.symm

private theorem splitAtLastColon?_append (host : List Char) {back : List Char} (h : ':' ∉ back) :
    splitAtLastColon? (host ++ ':' :: back) = some (host, back) := by
  induction host with
  | nil =>
    rw [List.nil_append, splitAtLastColon?, splitAtLastColon?_eq_none h]
    rfl
  | cons c host ih => rw [List.cons_append, splitAtLastColon?, ih]

private theorem eq_append_of_splitAtLastColon? {cs host back : List Char}
    (h : splitAtLastColon? cs = some (host, back)) : cs = host ++ ':' :: back := by
  induction cs generalizing host with
  | nil => cases h
  | cons c cs ih =>
    rw [splitAtLastColon?] at h
    split at h
    · next front _ hsplit =>
      cases h
      rw [ih hsplit]
      rfl
    · split at h
      · next hc =>
        cases h
        rw [hc]
        rfl
      · cases h

end Split

section Service

variable {cs digits : List Char}

private theorem dropPlus_of_isDigit (h : ∀ c ∈ digits, c.isDigit = true) :
    dropPlus digits = digits := by
  unfold dropPlus
  split
  · have hplus := h '+' List.mem_cons_self
    exact absurd hplus (by decide)
  · rfl

private theorem eq_append_dropPlus (cs : List Char) :
    ∃ sign, cs = sign ++ dropPlus cs ∧ (sign = [] ∨ sign = ['+']) := by
  unfold dropPlus
  split
  · exact ⟨['+'], rfl, .inr rfl⟩
  · exact ⟨[], rfl, .inl rfl⟩

private theorem read?_eq_some_iff {n : Nat} : Decimal.read? digits = some n ↔
    digits ≠ [] ∧ (∀ c ∈ digits, c.isDigit = true) ∧ Nat.ofDigitChars 10 digits 0 = n := by
  have hall : digits.all Decimal.isDigit = true ↔ ∀ c ∈ digits, c.isDigit = true :=
    List.all_eq_true
  unfold Decimal.read?
  split
  · next hdigits =>
    have hvalue : Decimal.value digits = Nat.ofDigitChars 10 digits 0 := rfl
    rw [hvalue, Option.some_inj]
    exact ⟨fun h => ⟨hdigits.1, hall.mp hdigits.2, h⟩, fun h => h.2.2⟩
  · next hdigits =>
    rw [hall] at hdigits
    simp only [reduceCtorEq, false_iff]
    intro h
    exact hdigits ⟨h.1, h.2.1⟩

private theorem service?_isSome_iff : (service? cs).isSome = true ↔ IsService cs := by
  constructor
  · intro h
    obtain ⟨service, hservice⟩ := Option.isSome_iff_exists.mp h
    obtain ⟨n, hread, hbound⟩ := Option.bind_eq_some_iff.mp hservice
    obtain ⟨hsome, hdigits, hvalue⟩ := read?_eq_some_iff.mp hread
    obtain ⟨sign, hcs, hsign⟩ := eq_append_dropPlus cs
    have hn : n < 65536 := by
      split at hbound
      · next hsmall => exact hsmall
      · cases hbound
    exact ⟨sign, dropPlus cs, hcs, hsign, hsome, hdigits, by omega⟩
  · rintro ⟨sign, digits, rfl, hsign, hsome, hdigits, hbound⟩
    have hdrop : dropPlus (sign ++ digits) = digits := by
      rcases hsign with rfl | rfl
      · exact dropPlus_of_isDigit hdigits
      · rfl
    have hread : Decimal.read? digits = some (Nat.ofDigitChars 10 digits 0) :=
      read?_eq_some_iff.mpr ⟨hsome, hdigits, rfl⟩
    rw [service?, hdrop, hread]
    simp [Nat.lt_succ_of_le hbound]

private theorem not_mem_of_isService (h : IsService cs) : ':' ∉ cs := by
  obtain ⟨sign, digits, rfl, hsign, -, hdigits, -⟩ := h
  intro hcolon
  rcases List.mem_append.mp hcolon with hcolon | hcolon
  · rcases hsign with rfl | rfl
    · cases hcolon
    · exact absurd hcolon (by decide)
  · exact absurd (hdigits ':' hcolon) (by decide)

end Service

/-- The texts of the grammar are read, and no others. -/
theorem isNamed_iff (s : String) : isNamed s = true ↔ IsAddress s.toList := by
  constructor
  · intro h
    unfold isNamed ofString HostAddress.read at h
    split at h
    · next a hread =>
      split at hread
      · cases hread
      · next host back hsplit =>
        split at hread
        · cases hread
        · next service hservice =>
          cases hread
          refine ⟨host, back, eq_append_of_splitAtLastColon? hsplit, ?_, ?_⟩
          · rintro rfl
            cases h
          · exact service?_isSome_iff.mp (Option.isSome_of_eq_some hservice)
    · cases h
  · rintro ⟨host, back, hs, hhost, hservice⟩
    have hsplit : splitAtLastColon? s.toList = some (host, back) := by
      rw [hs]
      exact splitAtLastColon?_append host (not_mem_of_isService hservice)
    obtain ⟨service, hread⟩ := Option.isSome_iff_exists.mp (service?_isSome_iff.mpr hservice)
    simp [isNamed, ofString, HostAddress.read, hsplit, hread, hhost]

end PeekRelay.HostAddress
