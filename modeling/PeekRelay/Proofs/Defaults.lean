import Mathlib.Logic.Relation
import PeekRelay.Config.File
/-!
# What a configuration file leaves unsaid

A key that is left out reads as if its default stood there, and a key without a meaning is not read.
So neither changes what a file says when it is added, be the file accepted or refused. And what a
configuration holds stands in its file, or is the default of a key that is left out.
-/
namespace PeekRelay

namespace Toml

/-- Every integer in a value fits into 64 bits. -/
inductive Value.Fits : Value → Prop where
  | text (s : String) : Fits (.text s)
  | integer {n : Int} (h : -Int.pow 2 63 ≤ n ∧ n < Int.pow 2 63) : Fits (.integer n)
  | float : Fits .float
  | boolean (b : Bool) : Fits (.boolean b)
  | dateTime : Fits .dateTime
  | array {items : List Value} (h : ∀ v ∈ items, Fits v) : Fits (.array items)
  | table {members : Table} (h : ∀ m ∈ members, Fits m.2) : Fits (.table members)

namespace Table

def getOr (t : Table) (key : String) (default : Value) : Value := (t.get? key).getD default

/-- A key that is not there is put in, at any place. -/
inductive Adds (key : String) (v : Value) : Table → Table → Prop where
  | mk (front back : Table) : get? (front ++ back) key = none →
    Adds key v (front ++ back) (front ++ (key, v) :: back)

/-- A key with its default, or a key without a meaning. -/
def Idle (needed : List String) (defaults : Table) (key : String) (v : Value) : Prop :=
  defaults.get? key = some v ∨ (defaults.get? key = none ∧ key ∉ needed ∧ v.Fits)

variable {t t' : Table} {key k : String} {v d : Value}

private theorem get?_cons : get? ((key, v) :: t) k = if key = k then some v else t.get? k := by
  by_cases h : key = k <;> simp [get?, h]

private theorem get?_append (front back : Table) :
    get? (front ++ back) k = (front.get? k).or (back.get? k) := by
  simp only [get?, List.find?_append, Option.map_or]

private theorem get?_insert_of_ne (front back : Table) (h : key ≠ k) :
    get? (front ++ (key, v) :: back) k = get? (front ++ back) k := by
  rw [get?_append, get?_append, get?_cons, if_neg h]

private theorem getOr_eq_iff (hne : d ≠ v) : t.getOr k d = v ↔ t.get? k = some v := by
  unfold getOr
  cases t.get? k with
  | none => exact iff_of_false hne nofun
  | some v' => exact Option.some_inj.symm

private theorem Adds.get?_of_ne (h : Adds key v t t') (hne : key ≠ k) : t'.get? k = t.get? k := by
  obtain ⟨front, back, -⟩ := h
  exact get?_insert_of_ne front back hne

private theorem Adds.get?_self (h : Adds key v t t') :
    t.get? key = none ∧ t'.get? key = some v := by
  obtain ⟨front, back, hnone⟩ := h
  refine ⟨hnone, ?_⟩
  rw [get?_append, Option.or_eq_none_iff] at hnone
  rw [get?_append, hnone.1, get?_cons, if_pos rfl, Option.none_or]

section Idle

variable {needed : List String} {defaults : Table}

private theorem Adds.getOr (h : Adds key v t t') (hidle : Idle needed defaults key v)
    (hd : defaults.get? k = some d) : t'.getOr k d = t.getOr k d := by
  unfold Table.getOr
  by_cases hkey : key = k
  · subst hkey
    obtain ⟨habsent, hadded⟩ := h.get?_self
    -- the key that is put in has a default, so it is put in with this one
    rcases hidle with hdefault | ⟨hunknown, -⟩
    · rw [hd] at hdefault
      cases hdefault
      rw [habsent, hadded]
      rfl
    · rw [hd] at hunknown
      cases hunknown
  · rw [h.get?_of_ne hkey]

private theorem Adds.get?_needed (h : Adds key v t t') (hidle : Idle needed defaults key v)
    (hk : k ∈ needed) (hd : defaults.get? k = none) : t'.get? k = t.get? k := by
  refine h.get?_of_ne ?_
  rintro rfl
  rcases hidle with hdefault | ⟨-, hunknown⟩
  · rw [hd] at hdefault
    cases hdefault
  · exact hunknown.1 hk

end Idle

end Table

section Filled

variable {α β : Type} {read : Value → Except TomlReport α} {v₀ : Value} {d : α}
  {g : Option α → Except TomlReport β} {f : α → Except TomlReport β}

private theorem mapM_filled (o : Option Value) (hd : read v₀ = .ok d)
    (hg : ∀ a?, g a? = f (a?.getD d)) :
    (o.mapM read >>= g) = (read (o.getD v₀) >>= f) := by
  cases o with
  | none =>
    rw [Option.getD_none, hd]
    exact hg none
  | some v =>
    change (some <$> read v >>= g) = _
    rw [Option.getD_some]
    cases read v with
    | error e => rfl
    | ok a => exact hg (some a)

private theorem Table.field_eq_mapM (t : Table) (key : String) :
    t.field key read = (t.get? key).mapM read := by
  unfold field
  cases t.get? key <;> rfl

private theorem Table.field_filled (t : Table) (key : String) (hd : read v₀ = .ok d)
    (hg : ∀ a?, g a? = f (a?.getD d)) :
    (t.field key read >>= g) = (read (t.getOr key v₀) >>= f) := by
  rw [field_eq_mapM]
  exact mapM_filled _ hd hg

end Filled

namespace Value

variable {v : Value}

private theorem eq_of_asText {s : String} (h : v.asText = .ok s) : v = .text s := by
  cases v <;> cases h
  rfl

private theorem eq_of_asBoolean {b : Bool} (h : v.asBoolean = .ok b) : v = .boolean b := by
  cases v <;> cases h
  rfl

private theorem eq_of_asNatural {wanted : String} {n : Nat} (h : v.asNatural wanted = .ok n) :
    v = .integer n := by
  cases v with
  | integer i =>
    simp only [asNatural] at h
    split at h
    case isTrue hnat =>
      cases h
      rw [Int.toNat_of_nonneg hnat.1]
    case isFalse => split at h <;> cases h
  | _ => cases h

end Value

private theorem Table.get?_of_field {t : Table} {key s : String}
    (h : t.field key Value.asText = .ok (some s)) : t.get? key = some (.text s) := by
  rw [field_eq_mapM] at h
  cases hv : t.get? key with
  | none =>
    rw [hv] at h
    cases h
  | some v =>
    rw [hv] at h
    change (v.asText >>= fun a => .ok (some a)) = _ at h
    obtain ⟨a, hs, ha⟩ := bind_eq_ok _ h
    cases ha
    rw [Value.eq_of_asText hs]

end Toml

open Toml

namespace SniffSettings

def defaults : Table :=
  [("mirror", .boolean true), ("log_payload", .boolean true), ("keep_mirrors", .boolean false)]

private theorem ofTable_eq (t : Table) : ofTable t = (do
    let keepCopies ← Value.asBoolean (t.getOr "keep_mirrors" (.boolean false))
    let showPayload ← Value.asBoolean (t.getOr "log_payload" (.boolean true))
    let copying ← Value.asBoolean (t.getOr "mirror" (.boolean true))
    pure { copying, showPayload, keepCopies }) :=
  t.field_filled _ rfl fun _ => t.field_filled _ rfl fun _ => t.field_filled _ rfl fun _ => rfl

private theorem ofItems_eq (items : List Value) : ofItems items = (do
    let copying ← Value.asBoolean (items[0]?.getD (.boolean true))
    let showPayload ← Value.asBoolean (items[1]?.getD (.boolean true))
    let keepCopies ← Value.asBoolean (items[2]?.getD (.boolean false))
    pure { copying, showPayload, keepCopies }) :=
  mapM_filled _ rfl fun _ => mapM_filled _ rfl fun _ => mapM_filled _ rfl fun _ => rfl

private theorem ofTable_adds {t t' : Table} {key : String} {v : Value} (h : t.Adds key v t')
    (hidle : Table.Idle [] defaults key v) : ofTable t' = ofTable t := by
  rw [ofTable_eq, ofTable_eq, h.getOr hidle rfl, h.getOr hidle rfl, h.getOr hidle rfl]

/-- What settings a value says: those of a table under their keys, those of an array in their order.
What is left out has its default. -/
inductive Written : Value → SniffSettings → Prop where
  | table (t : Table) (s : SniffSettings) :
    t.getOr "mirror" (.boolean true) = .boolean s.copying →
    t.getOr "log_payload" (.boolean true) = .boolean s.showPayload →
    t.getOr "keep_mirrors" (.boolean false) = .boolean s.keepCopies → Written (.table t) s
  | array (items : List Value) (s : SniffSettings) :
    items[0]?.getD (.boolean true) = .boolean s.copying →
    items[1]?.getD (.boolean true) = .boolean s.showPayload →
    items[2]?.getD (.boolean false) = .boolean s.keepCopies → Written (.array items) s

private theorem written_iff_of_ofValue {v : Value} {s : SniffSettings} (h : ofValue v = .ok s) :
    Written v s ↔ v ≠ .dateTime := by
  cases v with
  | table t =>
    rw [ofValue, ofTable_eq] at h
    obtain ⟨keepCopies, hkeep, h⟩ := bind_eq_ok _ h
    obtain ⟨showPayload, hshow, h⟩ := bind_eq_ok _ h
    obtain ⟨copying, hcopying, h⟩ := bind_eq_ok _ h
    cases h
    exact iff_of_true (.table t _ (Value.eq_of_asBoolean hcopying) (Value.eq_of_asBoolean hshow)
      (Value.eq_of_asBoolean hkeep)) nofun
  | array items =>
    rw [ofValue, ofItems_eq] at h
    obtain ⟨copying, hcopying, h⟩ := bind_eq_ok _ h
    obtain ⟨showPayload, hshow, h⟩ := bind_eq_ok _ h
    obtain ⟨keepCopies, hkeep, h⟩ := bind_eq_ok _ h
    cases h
    exact iff_of_true (.array items _ (Value.eq_of_asBoolean hcopying) (Value.eq_of_asBoolean hshow)
      (Value.eq_of_asBoolean hkeep)) nofun
  | dateTime => exact iff_of_false nofun fun h => h rfl
  | _ => cases h

end SniffSettings

namespace Config

def needed : List String := ["listen_address", "upstream_address"]

def defaults : Table :=
  [("sniff_bytes", .integer 16), ("sniff_timeout_ms", .integer 5000), ("sniffer", .table [])]

/-- A key that is not there is put in with its default, or with any value that fits if it has no
meaning: among those of the configuration, or among the settings for sniffing if these are a
table. -/
inductive Pads : Table → Table → Prop where
  | key {key : String} {v : Value} {t t' : Table} : Table.Idle needed defaults key v →
    t.Adds key v t' → Pads t t'
  | setting {key : String} {v : Value} {u u' : Table} (front back : Table) :
    Table.Idle [] SniffSettings.defaults key v → u.Adds key v u' →
    Pads (front ++ ("sniffer", .table u) :: back) (front ++ ("sniffer", .table u') :: back)

private def ofFields (listenAddress : Option String) (sniffBytes sniffTimeout : Nat)
    (sniffer : SniffSettings) (targetAddress : Option String) : Except TomlReport Config :=
  match listenAddress, targetAddress with
  | none, _ => throw (.unfit (.missing "listen_address"))
  | _, none => throw (.unfit (.missing "upstream_address"))
  | some listenAddress, some targetAddress =>
    pure { listenAddress, targetAddress, sniffBytes, sniffTimeout, sniffer }

private theorem ofTable_eq (t : Table) : ofTable t = (do
    let listenAddress ← t.field "listen_address" Value.asText
    let sniffBytes ← Value.asNatural "usize" (t.getOr "sniff_bytes" (.integer 16))
    let sniffTimeout ← Value.asNatural "u64" (t.getOr "sniff_timeout_ms" (.integer 5000))
    let sniffer ← SniffSettings.ofValue (t.getOr "sniffer" (.table []))
    let targetAddress ← t.field "upstream_address" Value.asText
    ofFields listenAddress sniffBytes sniffTimeout sniffer targetAddress) := by
  unfold ofTable
  congr 1
  funext listenAddress
  refine t.field_filled "sniff_bytes" rfl fun _ => t.field_filled "sniff_timeout_ms" rfl fun _ => ?_
  exact t.field_filled "sniffer" rfl fun _ => rfl

private theorem ofTable_congr {t t' : Table}
    (hlisten : t'.get? "listen_address" = t.get? "listen_address")
    (hbytes : t'.getOr "sniff_bytes" (.integer 16) = t.getOr "sniff_bytes" (.integer 16))
    (htimeout : t'.getOr "sniff_timeout_ms" (.integer 5000) =
      t.getOr "sniff_timeout_ms" (.integer 5000))
    (hsniffer : SniffSettings.ofValue (t'.getOr "sniffer" (.table [])) =
      SniffSettings.ofValue (t.getOr "sniffer" (.table [])))
    (htarget : t'.get? "upstream_address" = t.get? "upstream_address") :
    ofTable t' = ofTable t := by
  simp only [ofTable_eq, Table.field_eq_mapM, hlisten, hbytes, htimeout, hsniffer, htarget]

private theorem Pads.ofTable {t t' : Table} (h : Pads t t') : ofTable t' = ofTable t := by
  cases h with
  | key hidle hadds =>
    refine ofTable_congr ?_ (hadds.getOr hidle rfl) (hadds.getOr hidle rfl) ?_ ?_
    · exact hadds.get?_needed hidle (.head _) rfl
    · rw [hadds.getOr hidle rfl]
    · exact hadds.get?_needed hidle (.tail _ (.head _)) rfl
  | @setting key v u u' front back hidle hadds =>
    have hother (k : String) (hk : "sniffer" ≠ k) :
        Table.get? (front ++ ("sniffer", .table u') :: back) k =
          Table.get? (front ++ ("sniffer", .table u) :: back) k := by
      rw [Table.get?_insert_of_ne _ _ hk, Table.get?_insert_of_ne _ _ hk]
    refine ofTable_congr (hother _ (by decide)) ?_ ?_ ?_ (hother _ (by decide))
    · rw [Table.getOr, hother _ (by decide), Table.getOr]
    · rw [Table.getOr, hother _ (by decide), Table.getOr]
    · simp only [Table.getOr, Table.get?_append, Table.get?_cons]
      -- settings that stand further in front would be read in the place of these
      cases Table.get? front "sniffer" with
      | some v => rfl
      | none => exact SniffSettings.ofTable_adds hadds hidle

private theorem ofTable_padded {t t' : Table} (h : Relation.ReflTransGen Pads t t') :
    ofTable t' = ofTable t := by
  induction h with
  | refl => rfl
  | tail _ hpads ih => rw [hpads.ofTable, ih]

/-- What is in a configuration stands in the table, or is the default of a key that is not there.
Only a date in the place of the settings for sniffing says nothing of them, and they have their
defaults. -/
structure Written (t : Table) (c : Config) : Prop where
  listenAddress : t.get? "listen_address" = some (.text c.listenAddress)
  targetAddress : t.get? "upstream_address" = some (.text c.targetAddress)
  sniffBytes : t.getOr "sniff_bytes" (.integer 16) = .integer c.sniffBytes
  sniffTimeout : t.getOr "sniff_timeout_ms" (.integer 5000) = .integer c.sniffTimeout
  sniffer : SniffSettings.Written (t.getOr "sniffer" (.table [])) c.sniffer ↔
    t.get? "sniffer" ≠ some .dateTime
  dated : t.get? "sniffer" = some .dateTime → c.sniffer = {}

private theorem written_of_ofTable {t : Table} {c : Config} (h : ofTable t = .ok c) :
    Written t c := by
  rw [ofTable_eq] at h
  obtain ⟨listenAddress, hlisten, h⟩ := bind_eq_ok _ h
  obtain ⟨sniffBytes, hbytes, h⟩ := bind_eq_ok _ h
  obtain ⟨sniffTimeout, htimeout, h⟩ := bind_eq_ok _ h
  obtain ⟨sniffer, hsniffer, h⟩ := bind_eq_ok _ h
  obtain ⟨targetAddress, htarget, h⟩ := bind_eq_ok _ h
  cases listenAddress with
  | none => cases h
  | some listenAddress =>
    cases targetAddress with
    | none => cases h
    | some targetAddress =>
      cases h
      refine ⟨Table.get?_of_field hlisten, Table.get?_of_field htarget,
        Value.eq_of_asNatural hbytes, Value.eq_of_asNatural htimeout, ?_, ?_⟩
      · have hdated : t.getOr "sniffer" (.table []) = .dateTime ↔
            t.get? "sniffer" = some .dateTime := Table.getOr_eq_iff Value.noConfusion
        rw [SniffSettings.written_iff_of_ofValue hsniffer]
        exact not_congr hdated
      · intro hdate
        rw [Table.getOr, hdate] at hsniffer
        cases hsniffer
        rfl

private theorem ofTable_of_ofValidTable {t : Table} {c : Config} (h : ofValidTable t = .ok c) :
    ofTable t = .ok c ∧ c.validate = .ok () := by
  unfold ofValidTable at h
  cases hread : ofTable t with
  | error e =>
    rw [hread] at h
    cases h
  | ok c' =>
    rw [hread] at h
    change (c'.validate >>= fun _ => .ok c') = .ok c at h
    obtain ⟨_, hvalid, h⟩ := bind_eq_ok _ h
    cases h
    exact ⟨rfl, hvalid⟩

/-- Keys without a meaning, and defaults of keys that are not there, may be put into a file in any
number, among those of the configuration and among the settings for sniffing: the answer stays the
same, be it a configuration or an error. A configuration that is accepted is valid, and what is in
it stands in the file or is the default of a key that is not there; for the settings for sniffing
this is so just if the file has no date in their place. -/
theorem ofToml_padded {s : String} {t : Table} (h : Document.ofString? s = some t) :
    (∀ t', Relation.ReflTransGen Pads t t' → ofValidTable t' = ofToml s ∧
      ∀ s', Document.ofString? s' = some t' → ofToml s' = ofToml s) ∧
    ∀ c, ofToml s = .ok c → c.validate = .ok () ∧ Written t c := by
  have hread {s : String} {t : Table} (h : Document.ofString? s = some t) :
      ofToml s = ofValidTable t := by
    rw [ofToml, h]
  rw [hread h]
  constructor
  · intro t' hpads
    have hsame : ofValidTable t' = ofValidTable t := by
      rw [ofValidTable, ofTable_padded hpads, ofValidTable]
    refine ⟨hsame, ?_⟩
    intro s' h'
    rw [hread h', hsame]
  · intro c hc
    obtain ⟨hfields, hvalid⟩ := ofTable_of_ofValidTable hc
    exact ⟨hvalid, written_of_ofTable hfields⟩

/-- A file turns copying off. A default is put in front, and a key without a meaning among the
settings for sniffing. -/
theorem ofToml_padded_uncopied :
    let s := "listen_address='[::]:1'\nupstream_address='b:1'\nsniffer=\x7bmirror=false\x7d"
    let addresses : Table := [("listen_address", .text "[::]:1"), ("upstream_address", .text "b:1")]
    let t := addresses ++ [("sniffer", .table [("mirror", .boolean false)])]
    let t' := ("sniff_bytes", .integer 16) :: addresses ++
      [("sniffer", .table [("mirror", .boolean false), ("colour", .array [.float, .integer 7])])]
    let c : Config :=
      { listenAddress := "[::]:1", targetAddress := "b:1", sniffer := { copying := false } }
    Document.ofString? s = some t ∧ Relation.ReflTransGen Pads t t' ∧ ofToml s = .ok c ∧
      ofValidTable t' = .ok c ∧ c.validate = .ok () ∧ Written t c := by
  intro s addresses t t' c
  have hread : Document.ofString? s = some t := by
    simp only [s, Document.ofString?, String.reduceToList]
    rfl
  have hbytes : Pads t (("sniff_bytes", .integer 16) :: t) := .key (.inl rfl) (.mk [] t rfl)
  have hfits : (Value.array [.float, .integer 7]).Fits := .array <| List.forall_mem_cons.mpr
    ⟨.float, List.forall_mem_cons.mpr ⟨.integer (by decide), nofun⟩⟩
  have hcolour : Pads (("sniff_bytes", .integer 16) :: t) t' :=
    .setting (("sniff_bytes", .integer 16) :: addresses) [] (.inr ⟨rfl, nofun, hfits⟩)
      (.mk [("mirror", .boolean false)] [] rfl)
  have hpads := (Relation.ReflTransGen.single hbytes).tail hcolour
  have hanswer : ofToml s = .ok c := by
    rw [ofToml, hread]
    rfl
  obtain ⟨hpadded, hkept⟩ := ofToml_padded hread
  exact ⟨hread, hpads, hanswer, (hpadded t' hpads).1.trans hanswer, hkept c hanswer⟩

/-- A date in the place of the settings for sniffing is accepted, though it is none. -/
theorem ofToml_dated : ¬∀ (s : String) (t : Table) (c : Config), Document.ofString? s = some t →
    ofToml s = .ok c → SniffSettings.Written (t.getOr "sniffer" (.table [])) c.sniffer := by
  intro hwritten
  have hread : Document.ofString?
      "listen_address = '127.0.0.1:80'\nupstream_address = 'b:1'\nsniffer = 1979-05-27" =
        some [("listen_address", .text "127.0.0.1:80"), ("upstream_address", .text "b:1"),
          ("sniffer", .dateTime)] := by
    simp only [Document.ofString?, String.reduceToList]
    rfl
  have hdate := hwritten _ _ { listenAddress := "127.0.0.1:80", targetAddress := "b:1" } hread (by
    rw [ofToml, hread]
    rfl)
  cases hdate

end Config

end PeekRelay
