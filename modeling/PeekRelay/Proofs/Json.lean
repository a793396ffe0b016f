import PeekRelay.IoError
import PeekRelay.Json.Decoder
import PeekRelay.Json.Writer
import PeekRelay.Proofs.Text.Decimal
import PeekRelay.Proofs.Text.Escaped
/-!
# JSON is read back

What is written as JSON is read back by the decoder of its kind, whatever follows it in a larger
text.
-/
namespace PeekRelay

private theorem Hex.number?_byte (b : UInt8) (rest : List Char) :
    number? 4 ('0' :: '0' :: (byte b ++ rest)) = some b.toNat := by
  have hwhole : 16 * (b.toNat / 16) + b.toNat % 16 = b.toNat := Nat.div_add_mod ..
  have hzero : digitValue? '0' = some 0 := rfl
  simp [number?, byte, hzero, digitValue?_digit (high_lt b), digitValue?_digit (low_lt b), hwhole]

namespace Json

section Texts

variable (c : Char) (rest : List Char)

private theorem quotation?_quote : quotation? ('\x22' :: rest) = some ([], rest) := by
  rw [quotation?]

private theorem quotation?_letter {c letter : Char} (h : escape? letter rest = some (c, 0)) :
    quotation? ('\\' :: letter :: rest) =
      (quotation? rest).map fun (cs, rest) => (c :: cs, rest) := by
  rw [quotation?, h]
  simp only [Option.bind_eq_bind, Option.bind_some, List.drop_zero]
  cases quotation? rest <;> rfl

private theorem quotation?_plain {c : Char} (hquote : c ≠ '\x22') (hback : c ≠ '\\')
    (h : 32 ≤ c.toNat) :
    quotation? (c :: rest) = (quotation? rest).map fun (cs, rest) => (c :: cs, rest) := by
  rw [quotation?.eq_def]
  split
  · next heq => cases heq
  · next heq =>
    cases heq
    exact absurd rfl hquote
  · next heq =>
    cases heq
    exact absurd rfl hback
  · next heq =>
    cases heq
    rw [if_neg (by omega)]
    cases quotation? rest <;> rfl

private theorem escape?_control {c : Char} (h : c.toNat < 32) :
    escape? 'u' ('0' :: '0' :: (Hex.byte (UInt8.ofNat c.toNat) ++ rest)) = some (c, 4) := by
  have hbyte : (UInt8.ofNat c.toNat).toNat = c.toNat := by
    rw [UInt8.toNat_ofNat']
    omega
  have hsurrogate : isHighSurrogate c.toNat = false := by
    simp [isHighSurrogate]
    omega
  have hscalar : Hex.scalar? c.toNat = some c := by
    have hvalid : c.toNat.isValidChar := c.valid
    rw [Hex.scalar?, if_pos hvalid, Char.ofNat_toNat]
  change byNumber? _ = _
  rw [byNumber?, Hex.number?_byte, hbyte]
  simp [hsurrogate, hscalar]

private theorem quotation?_escaped : quotation? (escaped c ++ rest) =
    (quotation? rest).map fun (cs, rest) => (c :: cs, rest) := by
  unfold escaped
  split_ifs with hquote hback hbackspace htab hnewline hfeed hreturn hcontrol
  -- Seven characters have a letter of their own.
  iterate 7
    · subst_vars
      exact quotation?_letter rest rfl
  · change quotation? ('\\' :: 'u' :: '0' :: '0' :: (Hex.byte (UInt8.ofNat c.toNat) ++ rest)) = _
    rw [quotation?, escape?_control rest hcontrol]
    change (do
      let (cs, rest) ← quotation? rest
      pure (c :: cs, rest)) = _
    cases quotation? rest <;> rfl
  · exact quotation?_plain rest hquote hback (Nat.le_of_not_lt hcontrol)

private theorem quotation?_flatMap (cs : List Char) :
    quotation? (cs.flatMap escaped ++ '\x22' :: rest) = some (cs, rest) := by
  induction cs with
  | nil => exact quotation?_quote rest
  | cons c cs ih =>
    rw [List.flatMap_cons, List.append_assoc, quotation?_escaped, ih]
    rfl

end Texts

/-- What stands behind a value: the text ends, or the value is followed by a comma, or it is the
last one in an array or an object. -/
def Closed (rest : List Char) : Prop := ∀ c ∈ rest.head?, c = ',' ∨ c = ']' ∨ c = '\x7d'

/-- A decoder reads a value off its text, and leaves what stands behind it. -/
def Decoder.Reads {α : Type} (decode : Decoder α) (text : List Char) (a : α) : Prop :=
  ∀ rest, Closed rest → decode (text ++ rest) = .ok (a, rest)

private theorem closed_nil : Closed [] := nofun

private theorem closed_cons {c : Char} (h : c = ',' ∨ c = ']' ∨ c = '\x7d') (rest : List Char) :
    Closed (c :: rest) := by
  rintro _ ⟨⟩
  exact h

private theorem skipSpace_cons {c : Char} (h : isSpace c = false) (cs : List Char) :
    skipSpace (c :: cs) = c :: cs := List.dropWhile_cons_of_neg (Bool.eq_false_iff.mp h)

section Numbers

variable {rest : List Char} (h : Closed rest)

include h

private theorem Closed.undigited : Decimal.Undigited rest := by
  intro c hc
  rcases h c hc with rfl | rfl | rfl <;> rfl

private theorem Closed.decimals? : decimals? rest = some ([], rest) := by
  cases rest with
  | nil => rfl
  | cons c rest => rcases h c rfl with rfl | rfl | rfl <;> rfl

private theorem Closed.exponent? : exponent? rest = some (none, rest) := by
  cases rest with
  | nil => rfl
  | cons c rest => rcases h c rfl with rfl | rfl | rfl <;> rfl

omit h in
private theorem head?_writeNat (n : Nat) :
    ∃ c cs, writeNat n = c :: cs ∧ Decimal.isDigit c = true := by
  obtain ⟨c, cs, hcs⟩ := List.exists_cons_of_ne_nil (Decimal.write_ne_nil n)
  refine ⟨c, cs, hcs, Decimal.isDigit_of_mem_write (n := n) ?_⟩
  rw [hcs]
  exact List.mem_cons_self

omit h in
private theorem not_leadingZero (n : Nat) :
    ¬((writeNat n).head? = some '0' ∧ 1 < (writeNat n).length) := by
  rintro ⟨hzero, hmore⟩
  rcases Nat.eq_zero_or_pos n with rfl | hpos
  · exact absurd hmore (by decide)
  · exact Decimal.head?_write hpos hzero

private theorem numberText?_writeNat (n : Nat) :
    numberText? (writeNat n ++ rest) = some (⟨false, writeNat n, [], none⟩, rest) := by
  have hdigits : ∀ c ∈ writeNat n, Decimal.isDigit c = true :=
    fun _ => Decimal.isDigit_of_mem_write
  have hwhole : (writeNat n ++ rest).takeWhile Decimal.isDigit = writeNat n := by
    rw [List.takeWhile_append_of_pos hdigits, h.undigited.takeWhile_eq, List.append_nil]
  have hunsigned : (writeNat n ++ rest).head? ≠ some '-' := by
    obtain ⟨c, cs, hcs, hc⟩ := head?_writeNat n
    rw [hcs]
    rintro ⟨⟩
    exact absurd hc (by decide)
  have hplain : ¬(writeNat n = [] ∨
      (writeNat n).head? = some '0' ∧ 1 < (writeNat n).length) :=
    not_or.mpr ⟨Decimal.write_ne_nil n, not_leadingZero n⟩
  simp only [numberText?, hunsigned, if_false, hwhole, if_neg hplain, List.drop_left, h.decimals?,
    h.exponent?, Option.bind_eq_bind, Option.bind_some, decide_false]
  rfl

private theorem number?_writeNat {n : Nat} (hn : n < Nat.pow 2 64) :
    number? (writeNat n ++ rest) = some (.integer n, rest) := by
  have hvalue : Decimal.value (writeNat n) = n := Decimal.value_write n
  rw [number?, numberText?_writeNat h]
  simp [NumberText.value?, hvalue, hn]

end Numbers

namespace Decoder

private theorem isSpace_of_isDigit {c : Char} (h : Decimal.isDigit c = true) :
    isSpace c = false := by
  refine Bool.eq_false_iff.mpr ?_
  intro hspace
  simp only [isSpace, Bool.or_eq_true, decide_eq_true_eq] at hspace
  rcases hspace with ((rfl | rfl) | rfl) | rfl <;> cases h

theorem reads_writeBool (b : Bool) : boolean.Reads (writeBool b) b := by
  intro rest _
  cases b <;> rfl

theorem reads_writeNat {limit n : Nat} (wanted : String) (hlimit : limit ≤ Nat.pow 2 64)
    (hn : n < limit) : (natural limit wanted).Reads (writeNat n) n := by
  intro rest hrest
  obtain ⟨c, cs, hcs, hc⟩ := head?_writeNat n
  have hspace : isSpace c = false := isSpace_of_isDigit hc
  have hskip : skipSpace (writeNat n ++ rest) = writeNat n ++ rest := by
    rw [hcs]
    exact skipSpace_cons hspace _
  have hstarts : startsNumber (writeNat n ++ rest) = true := by
    rw [hcs]
    simp [startsNumber, hc]
  simp [natural, hskip, hstarts, number?_writeNat hrest (Nat.lt_of_lt_of_le hn hlimit), hn]

private theorem reads_byte (b : UInt8) : byte.Reads (writeNat b.toNat) b := by
  intro rest hrest
  have hread := reads_writeNat "u8" (by decide) b.toNat_lt rest hrest
  change (natural 256 "u8" _ >>= _) = _
  rw [hread]
  change Except.ok (UInt8.ofNat b.toNat, rest) = _
  rw [UInt8.ofNat_toNat]

theorem reads_writeString {α : Type} (wanted : String) {read? : String → Option α} {s : String}
    {a : α} (h : read? s = some a) : (quoted wanted read?).Reads (writeString s) a := by
  intro rest _
  have hskip : skipSpace (writeString s ++ rest) =
      '\x22' :: (s.toList.flatMap escaped ++ '\x22' :: rest) := by
    rw [writeString, List.cons_append, List.cons_append, List.append_assoc]
    exact skipSpace_cons rfl _
  simp only [quoted, hskip, quotation?_flatMap, orMalformed, ok_bind, String.ofList_toList, h]
  rfl

theorem reads_text (s : String) : text.Reads (writeString s) s := reads_writeString _ rfl

def Opens (text : List Char) (other : Char) : Prop :=
  ∃ c cs, text = c :: cs ∧ isSpace c = false ∧ c ≠ other

private theorem Opens.skipSpace_eq {text : List Char} {other : Char} (h : Opens text other)
    (rest : List Char) : skipSpace (text ++ rest) = text ++ rest := by
  obtain ⟨c, cs, rfl, hspace, -⟩ := h
  exact skipSpace_cons hspace _

private theorem Opens.ne {text : List Char} {other : Char} (h : Opens text other)
    (rest later : List Char) :
    text ++ rest ≠ other :: later := by
  obtain ⟨c, cs, rfl, -, hother⟩ := h
  intro heq
  exact hother (List.cons.inj heq).1

theorem reads_writeOption {α : Type} {decode : Decoder α} {write : α → List Char} (o : Option α)
    (h : ∀ a ∈ o, decode.Reads (write a) a ∧ Opens (write a) 'n') :
    (optional decode).Reads (writeOption write o) o := by
  intro rest hrest
  cases o with
  | none => rfl
  | some a =>
    obtain ⟨hread, hopens⟩ := h a rfl
    unfold optional
    split
    · next heq => exact absurd ((hopens.skipSpace_eq rest).symm.trans heq) (hopens.ne rest _)
    · rw [writeOption, hopens.skipSpace_eq, hread rest hrest]
      rfl

section Lists

private theorem length_le_commaSeparated (texts : List (List Char)) (c : Char) (rest : List Char) :
    texts.length ≤ (commaSeparated texts ++ c :: rest).length := by
  induction texts with
  | nil => exact Nat.zero_le _
  | cons text texts ih =>
    cases texts with
    | nil =>
      simp only [commaSeparated, List.length_append, List.length_cons, List.length_nil]
      omega
    | cons next texts =>
      simp only [commaSeparated, List.length_append, List.length_cons] at ih ⊢
      omega

private theorem Opens.commaSeparated {text : List Char} {other : Char} (h : Opens text other)
    (texts : List (List Char)) : Opens (commaSeparated (text :: texts)) other := by
  obtain ⟨c, cs, rfl, hc⟩ := h
  cases texts with
  | nil => exact ⟨c, cs, rfl, hc⟩
  | cons next texts => exact ⟨c, _, rfl, hc⟩

variable {α : Type} {decode : Decoder α} {write : α → List Char} {as : List α}
  (h : ∀ a ∈ as, decode.Reads (write a) a)

include h

private theorem items_commaSeparated (hne : as ≠ []) {fuel : Nat} (hfuel : as.length ≤ fuel)
    (rest : List Char) : items decode fuel (commaSeparated (as.map write) ++ ']' :: rest) =
      .ok (as, rest) := by
  induction as generalizing fuel with
  | nil => exact absurd rfl hne
  | cons a as ih =>
    obtain ⟨fuel, rfl⟩ := Nat.exists_eq_add_of_le' (Nat.le_trans (Nat.le_add_left 1 _) hfuel)
    have hread := h a List.mem_cons_self
    cases as with
    | nil =>
      have hlast := hread (']' :: rest) (closed_cons (by decide) rest)
      simp only [List.map, commaSeparated, items, hlast, ok_bind]
      rfl
    | cons b as =>
      have hfirst (rest : List Char) := hread (',' :: rest) (closed_cons (by decide) rest)
      have hshort : (b :: as).length ≤ fuel := Nat.le_of_succ_le_succ hfuel
      have hlater := ih (fun a ha => h a (List.mem_cons_of_mem _ ha)) (List.cons_ne_nil b as) hshort
      have hcomma (rest : List Char) : skipSpace (',' :: rest) = ',' :: rest := rfl
      simp only [List.map, commaSeparated, List.append_assoc, List.cons_append, items, hfirst,
        ok_bind, hcomma] at hlater ⊢
      rw [hlater]
      rfl

private theorem reads_writeArray (hopens : ∀ a ∈ as, Opens (write a) ']') :
    (list decode).Reads (writeArray (as.map write)) as := by
  intro rest _
  cases as with
  | nil => rfl
  | cons a as =>
    have hfirst := (hopens a List.mem_cons_self).commaSeparated (as.map write)
    have hlength := length_le_commaSeparated ((a :: as).map write) ']' rest
    rw [List.length_map] at hlength
    have hread := items_commaSeparated h (List.cons_ne_nil a as) hlength rest
    rw [List.map_cons] at hread
    generalize htext : commaSeparated (write a :: as.map write) = text at hfirst hread
    have hskip : skipSpace (writeArray ((a :: as).map write) ++ rest) =
        '[' :: (text ++ ']' :: rest) := by
      rw [writeArray, List.map_cons, htext, List.cons_append, List.cons_append, List.append_assoc]
      exact skipSpace_cons rfl _
    simp only [list, hskip]
    split
    · next heq => exact absurd ((hfirst.skipSpace_eq _).symm.trans heq) (hfirst.ne _ _)
    · rw [hfirst.skipSpace_eq]
      exact hread

end Lists

theorem reads_writeBytes (bs : Bytes) : (list byte).Reads (writeBytes bs) bs := by
  refine reads_writeArray (fun b _ => reads_byte b) ?_
  intro b _
  obtain ⟨c, cs, hcs, hc⟩ := head?_writeNat b.toNat
  refine ⟨c, cs, hcs, isSpace_of_isDigit hc, ?_⟩
  rintro rfl
  cases hc

section Records

variable {δ : Type}

theorem reads_field {α : Type} {name : String} {get : δ → Option α} {set : δ → α → δ}
    {decode : Decoder α} {text : List Char} {a : α} (h : decode.Reads text a) (d : δ) :
    Reads ((RecordField.of name get set decode).read d) text (set d a) := by
  intro rest hrest
  simp only [RecordField.of, h rest hrest, ok_bind]
  rfl

/-- Members whose values are read into a draft, one after the other, each for a field that was not
set before. -/
inductive Members (fields : List (RecordField δ)) : List (String × List Char) → δ → δ → Prop
  | nil (d : δ) : Members fields [] d d
  | cons {name : String} {text : List Char} {members : List (String × List Char)}
      {field : RecordField δ} {d next last : δ} :
      fields.find? (fun field => field.name = name) = some field → field.isSet d = false →
      Reads (field.read d) text next → Members fields members next last →
      Members fields ((name, text) :: members) d last

variable {fields : List (RecordField δ)} {members : List (String × List Char)} {d last : δ}

private theorem byName_commaSeparated (h : Members fields members d last) (hne : members ≠ [])
    {fuel : Nat} (hfuel : members.length ≤ fuel) (rest : List Char) :
    byName fields fuel d (commaSeparated (members.map fun m => member m.1 m.2) ++ '\x7d' :: rest) =
      .ok (last, rest) := by
  induction h generalizing fuel with
  | nil => exact absurd rfl hne
  | @cons name text members field d next last hfind hunset hread hlater ih =>
    obtain ⟨fuel, rfl⟩ := Nat.exists_eq_add_of_le' (Nat.le_trans (Nat.le_add_left 1 _) hfuel)
    have hname (cs : List Char) : after '\x22' (member name text ++ cs) =
        .ok (name.toList.flatMap escaped ++ '\x22' :: ':' :: (text ++ cs)) := by
      simp only [member, writeString, List.cons_append, List.append_assoc, List.nil_append]
      rfl
    have hcolon (cs : List Char) : after ':' (':' :: cs) = .ok cs := rfl
    cases members with
    | nil =>
      cases hlater
      have hvalue := hread _ (closed_cons (.inr (.inr rfl)) rest)
      simp only [List.map, commaSeparated, byName, hname, ok_bind, quotation?_flatMap, orMalformed,
        String.ofList_toList, hfind, hunset, hcolon, hvalue]
      rfl
    | cons m members =>
      have hvalue (cs : List Char) := hread (',' :: cs) (closed_cons (.inl rfl) cs)
      have hshort : (m :: members).length ≤ fuel := Nat.le_of_succ_le_succ hfuel
      have hmembers := ih (List.cons_ne_nil m members) hshort
      simp only [List.map, commaSeparated, List.append_assoc, List.cons_append] at hmembers ⊢
      simp only [byName, hname, ok_bind, quotation?_flatMap, orMalformed,
        String.ofList_toList, hfind, hunset, hcolon, hvalue]
      exact hmembers

/-- A record is read back from the members that its fields were written to. -/
theorem reads_writeObject {α : Type} {wanted : String} {empty : δ} {finish : δ → Except Fault α}
    {a : α} (h : Members fields members empty last) (hne : members ≠ [])
    (hfinish : finish last = .ok a) :
    (record wanted fields empty finish).Reads (writeObject members) a := by
  intro rest _
  obtain ⟨m, others, rfl⟩ := List.exists_cons_of_ne_nil hne
  have hopens : Opens (member m.1 m.2) '\x7d' := ⟨'\x22', _, rfl, rfl, by decide⟩
  have hfirst := hopens.commaSeparated (others.map fun m => member m.1 m.2)
  have hlength :=
    length_le_commaSeparated ((m :: others).map fun m => member m.1 m.2) '\x7d' rest
  rw [List.length_map] at hlength
  have hread := byName_commaSeparated h hne hlength rest
  rw [List.map_cons] at hread
  generalize htext : commaSeparated (member m.1 m.2 :: others.map fun m => member m.1 m.2) = text
    at hfirst hread
  have hskip : skipSpace (writeObject (m :: others) ++ rest) =
      '\x7b' :: (text ++ '\x7d' :: rest) := by
    rw [writeObject, List.map_cons, htext, List.cons_append, List.cons_append, List.append_assoc]
    exact skipSpace_cons rfl _
  simp only [record, hskip]
  split
  · next heq => exact absurd ((hfirst.skipSpace_eq _).symm.trans heq) (hfirst.ne _ _)
  · rw [hfirst.skipSpace_eq, hread]
    simp only [ok_bind, hfinish]
    rfl

end Records

theorem run_ofList {α : Type} {decode : Decoder α} {text : List Char} {a : α}
    (h : decode.Reads text a) : run decode (String.ofList text) = .ok a := by
  have hread := h [] closed_nil
  rw [List.append_nil] at hread
  simp only [run, String.toList_ofList, hread, ok_bind]
  rfl

end Decoder

end Json

end PeekRelay
