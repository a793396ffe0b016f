import Mathlib.Data.List.Induction
import PeekRelay.Config
import PeekRelay.Proofs.HostAddress
/-!
# Which configurations are valid

A configuration is valid exactly if it meets four conditions, and the error of one that is not names
the first condition that it fails to meet. Addresses that are put in take the place of earlier ones
whether or not the result is valid, so a bad address stays until another takes its place.
-/
namespace PeekRelay

def Overrides.last? (address : Overrides → Option String) (os : List Overrides) : Option String :=
  (os.filterMap address).getLast?

private theorem Overrides.last?_concat (address : Overrides → Option String) (os : List Overrides)
    (o : Overrides) : last? address (os ++ [o]) = (address o).or (last? address os) := by
  rw [last?, List.filterMap_append, List.getLast?_append]
  cases h : address o <;> simp [h, last?]

namespace Config

variable (c : Config)

/-- What a valid configuration has to meet, each condition with the error that reports it. -/
def conditions : List (Prop × ConfigError) :=
  [((SocketAddress.ofString? c.listenAddress).isSome = true,
      .badAddress ("listen_address '" ++ c.listenAddress ++ "' is not a socket address")),
    (HostAddress.IsAddress c.targetAddress.toList,
      .badAddress ("upstream_address '" ++ c.targetAddress ++ "' is not host:port")),
    (1 ≤ c.sniffBytes ∧ c.sniffBytes ≤ 65536,
      .outOfRange ("sniff_bytes must be between 1 and 65536, got " ++ toString c.sniffBytes)),
    (1 ≤ c.sniffTimeout, .outOfRange "sniff_timeout_ms must be greater than 0")]

def Valid : Prop := ∀ q ∈ c.conditions, q.1

/-- The error reports the first condition that is not met. -/
def Blames (e : ConfigError) : Prop :=
  ∃ met p later, c.conditions = met ++ (p, e) :: later ∧ (∀ q ∈ met, q.1) ∧ ¬p

/-- Checks one condition after the other. -/
def Checked : List (Prop × ConfigError) → Except ConfigError Unit → Prop
  | [], r => r = .ok ()
  | (p, e) :: rest, r => (p ∧ Checked rest r) ∨ (¬p ∧ r = .error e)

section Checked

variable {conditions : List (Prop × ConfigError)} {r : Except ConfigError Unit}

private theorem Checked.ite {p fails : Prop} [Decidable fails] {e : ConfigError} (hp : fails ↔ ¬p)
    (h : Checked conditions r) :
    Checked ((p, e) :: conditions) (if fails then .error e else r) := by
  by_cases hfails : fails
  · rw [if_pos hfails]
    exact .inr ⟨hp.mp hfails, rfl⟩
  · rw [if_neg hfails]
    exact .inl ⟨Classical.not_not.mp (mt hp.mpr hfails), h⟩

private theorem Checked.ok_iff (h : Checked conditions r) : r = .ok () ↔ ∀ q ∈ conditions, q.1 := by
  induction conditions with
  | nil => simp [show r = .ok () from h]
  | cons q rest ih =>
    rcases h with ⟨hp, hrest⟩ | ⟨hp, rfl⟩
    · simp [ih hrest, hp]
    · simp [hp]

private theorem Checked.error_iff (h : Checked conditions r) (e : ConfigError) : r = .error e ↔
    ∃ met p later, conditions = met ++ (p, e) :: later ∧ (∀ q ∈ met, q.1) ∧ ¬p := by
  induction conditions with
  | nil => simp [show r = .ok () from h]
  | cons q rest ih =>
    obtain ⟨p, e'⟩ := q
    constructor
    · rintro rfl
      rcases h with ⟨hp, hrest⟩ | ⟨hp, heq⟩
      · obtain ⟨met, p', later, rfl, hmet, hp'⟩ := (ih hrest).mp rfl
        refine ⟨(p, e') :: met, p', later, rfl, ?_, hp'⟩
        intro q hq
        rcases List.mem_cons.mp hq with rfl | hq
        · exact hp
        · exact hmet q hq
      · cases heq
        exact ⟨[], p, rest, rfl, nofun, hp⟩
    · rintro ⟨met, p', later, heq, hmet, hp'⟩
      cases met with
      | nil =>
        cases heq
        rcases h with ⟨hp, -⟩ | ⟨-, hr⟩
        · exact absurd hp hp'
        · exact hr
      | cons q met =>
        cases heq
        rcases h with ⟨-, hrest⟩ | ⟨hp, -⟩
        · refine (ih hrest).mpr ⟨met, p', later, rfl, ?_, hp'⟩
          exact fun q hq => hmet q (List.mem_cons_of_mem _ hq)
        · exact absurd (hmet _ List.mem_cons_self) hp

end Checked

/-- Validation checks the four conditions in their order. -/
theorem validate_checked : Checked c.conditions c.validate := by
  have hlisten : (SocketAddress.ofString? c.listenAddress).isNone = true ↔
      ¬(SocketAddress.ofString? c.listenAddress).isSome = true := by simp
  have htarget : (!HostAddress.isNamed c.targetAddress) = true ↔
      ¬HostAddress.IsAddress c.targetAddress.toList := by
    rw [← HostAddress.isNamed_iff]
    simp
  have hbytes : (c.sniffBytes = 0 ∨ maxSniffBytes < c.sniffBytes) ↔
      ¬(1 ≤ c.sniffBytes ∧ c.sniffBytes ≤ 65536) := by
    unfold maxSniffBytes
    omega
  have htimeout : c.sniffTimeout = 0 ↔ ¬1 ≤ c.sniffTimeout := by omega
  exact .ite hlisten (.ite htarget (.ite hbytes (.ite htimeout rfl)))

private theorem validate_eq_ok_iff : c.validate = .ok () ↔ c.Valid := c.validate_checked.ok_iff

private theorem validate_eq_error_iff (e : ConfigError) : c.validate = .error e ↔ c.Blames e :=
  c.validate_checked.error_iff e

private theorem validate_of_listenAddress (h : SocketAddress.ofString? c.listenAddress = none) :
    c.validate = .error (.badAddress
      ("listen_address '" ++ c.listenAddress ++ "' is not a socket address")) :=
  if_pos (Option.isNone_iff_eq_none.mpr h)

private theorem validate_of_targetAddress (h : ¬HostAddress.IsAddress c.targetAddress.toList) :
    ∃ e, c.validate = .error e := by
  cases hanswer : c.validate with
  | error e => exact ⟨e, rfl⟩
  | ok u => exact absurd (c.validate_eq_ok_iff.mp hanswer _ (.tail _ (.head _))) h

/-- The configuration after several overrides, those included that were refused. -/
def after (c : Config) (os : List Overrides) : Config := os.foldl (fun c o => (c.apply o).2) c

/-- The configuration with the last address given for each end. -/
def merged (c : Config) (os : List Overrides) : Config :=
  { c with
    listenAddress := (Overrides.last? Overrides.listenAddress os).getD c.listenAddress
    targetAddress := (Overrides.last? Overrides.targetAddress os).getD c.targetAddress }

private theorem merged_concat (os : List Overrides) (o : Overrides) :
    c.merged (os ++ [o]) = (c.merged os).overriding o := by
  simp only [merged, overriding, Overrides.last?_concat, Option.getD_or]

private theorem after_eq_merged (os : List Overrides) : c.after os = c.merged os := by
  induction os using List.reverseRecOn with
  | nil => rfl
  | append_singleton os o ih =>
    rw [merged_concat, ← ih]
    exact List.foldl_append

private theorem apply_after (os : List Overrides) (o : Overrides) :
    (c.after os).apply o = ((c.merged (os ++ [o])).validate, c.merged (os ++ [o])) := by
  rw [after_eq_merged, merged_concat]
  rfl

section Kept

variable {os : List Overrides}

private theorem listenAddress_merged (h : ∀ o ∈ os, o.listenAddress = none) :
    (c.merged os).listenAddress = c.listenAddress := by
  have hnone : os.filterMap Overrides.listenAddress = [] := List.filterMap_eq_nil_iff.mpr h
  simp [merged, Overrides.last?, hnone]

private theorem targetAddress_merged (h : ∀ o ∈ os, o.targetAddress = none) :
    (c.merged os).targetAddress = c.targetAddress := by
  have hnone : os.filterMap Overrides.targetAddress = [] := List.filterMap_eq_nil_iff.mpr h
  simp [merged, Overrides.last?, hnone]

end Kept

/-- After any overrides, refused ones included, each address is the last one that was given for its
end, and all else is as it was. An override is accepted exactly if the result is valid, and
otherwise refused with the error of the first condition that the result does not meet. So an address
that is none stays, and every later override is refused that does not put another in its place. -/
theorem overrides_accepted_iff (os : List Overrides) (o : Overrides) :
    let given := os ++ [o]
    let (answer, result) := (c.after os).apply o
    result = { c with
        listenAddress := (Overrides.last? Overrides.listenAddress given).getD c.listenAddress
        targetAddress := (Overrides.last? Overrides.targetAddress given).getD c.targetAddress } ∧
      (answer = .ok () ↔ result.Valid) ∧
      (∀ e, answer = .error e ↔ result.Blames e) ∧
      ∀ later o', let (answer', _) := (result.after later).apply o'
        (SocketAddress.ofString? result.listenAddress = none →
          (∀ o ∈ later ++ [o'], o.listenAddress = none) → answer' = .error (.badAddress
            ("listen_address '" ++ result.listenAddress ++ "' is not a socket address"))) ∧
        (¬HostAddress.IsAddress result.targetAddress.toList →
          (∀ o ∈ later ++ [o'], o.targetAddress = none) → ∃ e, answer' = .error e) := by
  intro given
  simp only [apply_after]
  refine ⟨rfl, validate_eq_ok_iff _, validate_eq_error_iff _, ?_⟩
  intro later o'
  refine ⟨?_, ?_⟩
  · intro hlisten hkept
    rw [← listenAddress_merged (c.merged given) hkept] at hlisten ⊢
    exact validate_of_listenAddress _ hlisten
  · intro htarget hkept
    rw [← targetAddress_merged (c.merged given) hkept] at htarget
    exact validate_of_targetAddress _ htarget

/-- A name that is no address is put in and refused. The next override is refused for it as well,
though the target that it gives is one, and the one after that puts an address in its place. -/
theorem overrides_accepted_iff_nowhere :
    let c : Config := { listenAddress := "127.0.0.1:80", targetAddress := "backend:443" }
    let unnamed : Overrides := { listenAddress := some "nowhere" }
    let target : Overrides := { targetAddress := some "fe80::1:+080" }
    let listen : Overrides := { listenAddress := some "[::1]:0080" }
    (c.after [unnamed, target]).listenAddress = "nowhere" ∧
      ((c.after [unnamed]).apply target).1 =
        .error (.badAddress "listen_address 'nowhere' is not a socket address") ∧
      ((c.after [unnamed, target]).apply listen).1 = .ok () := by
  intro c unnamed target listen
  have hunnamed : SocketAddress.ofString? "nowhere" = none := by decide
  have hlisten : (SocketAddress.ofString? "[::1]:0080").isSome = true := by decide
  have htarget : HostAddress.IsAddress "fe80::1:+080".toList :=
    (HostAddress.isNamed_iff _).mp (by decide)
  obtain ⟨-, -, -, hlater⟩ := c.overrides_accepted_iff [] unnamed
  obtain ⟨hresult, haccepted, -, -⟩ := c.overrides_accepted_iff [unnamed, target] listen
  have hrefused := (hlater [] target).1 hunnamed (by decide)
  refine ⟨rfl, hrefused, haccepted.mpr ?_⟩
  intro q hq
  rcases hq with _ | ⟨_, _ | ⟨_, _ | ⟨_, _ | ⟨_, hnone⟩⟩⟩⟩
  · exact hlisten
  · exact htarget
  · decide
  · decide
  · cases hnone

end Config

end PeekRelay
