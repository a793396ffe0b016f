import Mathlib.Tactic.IntervalCases
import PeekRelay.Time.Civil
/-!
# Days and dates

Every day has a date, which is in the calendar and tells the day. The place of a day is looked up in
eras of 400 years, centuries, cycles of four years and years that begin in March; both ways between
days and dates are followed through these places.
-/
namespace PeekRelay.CivilDate

/-- The place of a day among the years that begin in March. A leap day ends the last year of a
cycle; the last cycle of a century has none, unless the century is the last of its era. -/
structure Place where
  era : Int
  century : Int
  cycle : Int
  year : Int
  day : Int
  century_mem : 0 ≤ century ∧ century ≤ 3
  cycle_mem : 0 ≤ cycle ∧ cycle ≤ 24
  year_mem : 0 ≤ year ∧ year ≤ 3
  day_mem : 0 ≤ day ∧ day ≤ 365
  leapDay : day = 365 → year = 3 ∧ (cycle < 24 ∨ century = 3)

namespace Place

variable (p : Place)

def dayOfEra : Int := 36524 * p.century + 1461 * p.cycle + 365 * p.year + p.day

def yearOfEra : Int := 100 * p.century + 4 * p.cycle + p.year

/-- The number of the month, counted from March. -/
def month : Int := (5 * p.day + 2) / 153

def days : Int := 146097 * p.era + p.dayOfEra - 719468

private theorem exists_days_eq (days : Int) : ∃ p : Place, p.days = days := by
  let z := days + 719468
  let century := min (z % 146097 / 36524) 3
  let ofCentury := z % 146097 - 36524 * century
  let year := min (ofCentury % 1461 / 365) 3
  refine ⟨⟨z / 146097, century, ofCentury / 1461, year, ofCentury % 1461 - 365 * year,
    ?_, ?_, ?_, ?_, ?_⟩, ?_⟩
  · omega
  · omega
  · omega
  · omega
  · omega
  · simp only [Place.days, dayOfEra]
    omega

private theorem dayOfEra_mem : 0 ≤ p.dayOfEra ∧ p.dayOfEra ≤ 146096 := by
  obtain ⟨era, century, cycle, year, day, hcentury, hcycle, hyear, hday, hleap⟩ := p
  simp only [dayOfEra]
  omega

private theorem yearOfEra_mem : 0 ≤ p.yearOfEra ∧ p.yearOfEra ≤ 399 := by
  obtain ⟨era, century, cycle, year, day, hcentury, hcycle, hyear, -, -⟩ := p
  simp only [yearOfEra]
  omega

private theorem month_mem : 0 ≤ p.month ∧ p.month ≤ 11 := by
  have hday := p.day_mem
  simp only [month]
  omega

private theorem dayOfEra_eq : p.dayOfEra =
    365 * p.yearOfEra + p.yearOfEra / 4 - p.yearOfEra / 100 + p.day := by
  obtain ⟨era, century, cycle, year, day, hcentury, hcycle, hyear, -, -⟩ := p
  simp only [dayOfEra, yearOfEra]
  omega

private theorem yearOfEra_eq : (p.dayOfEra - p.dayOfEra / 1460 + p.dayOfEra / 36524 -
    p.dayOfEra / 146096) / 365 = p.yearOfEra := by
  -- The year is found by leaving out the leap days, as many as there can have been.
  obtain ⟨era, century, cycle, year, day, hcentury, hcycle, hyear, hday, hleap⟩ := p
  simp only [yearOfEra]
  generalize he : dayOfEra _ = e
  simp only [dayOfEra] at he
  have hcenturies : e / 36524 - e / 146096 = century := by
    by_cases hlast : e = 146096
    · omega
    · have hbelow : 1461 * cycle + 365 * year + day ≤ 36523 := by
        by_cases hleapDay : day = 365
        · omega
        · omega
      omega
  -- Late in a century, the leap day of the present year is left out a little early.
  let early : Int := if 1460 ≤ 24 * century + cycle + 365 * year + day then 1 else 0
  have hcycles : e / 1460 = 25 * century + cycle + early := by
    simp only [early]
    split <;> omega
  have hyears : e - e / 1460 + e / 36524 - e / 146096 =
      365 * (100 * century + 4 * cycle + year) + (day - early) := by
    omega
  rw [hyears]
  simp only [early]
  split <;> omega

private theorem ofDays_days : ofDays p.days =
    ⟨400 * p.era + p.yearOfEra + if p.month < 10 then 0 else 1,
      (if p.month < 10 then p.month + 3 else p.month - 9).toNat,
      (p.day - (153 * p.month + 2) / 5 + 1).toNat⟩ := by
  have hmem := p.dayOfEra_mem
  have hera : (p.days + 719468) / 146097 = p.era := by
    rw [days]
    omega
  have hdayOfEra : (p.days + 719468) % 146097 = p.dayOfEra := by
    rw [days]
    omega
  have hday : p.dayOfEra - (365 * p.yearOfEra + p.yearOfEra / 4 - p.yearOfEra / 100) = p.day := by
    rw [dayOfEra_eq]
    omega
  have hmonth : (5 * p.day + 2) / 153 = p.month := rfl
  have hmonths := p.month_mem
  simp only [ofDays, hera, hdayOfEra, yearOfEra_eq, hday, hmonth]
  congr 1
  by_cases hspring : p.month < 10
  · rw [if_pos hspring, if_neg (by omega), if_pos hspring]
    omega
  · rw [if_neg hspring, if_pos (by omega), if_neg hspring]
    omega

private theorem toDays_ofDays : (ofDays p.days).toDays = p.days := by
  have hmonths := p.month_mem
  have hyears := p.yearOfEra_mem
  have hday : 0 ≤ p.day - (153 * p.month + 2) / 5 := by
    have hdays := p.day_mem
    simp only [month]
    omega
  rw [ofDays_days, days, dayOfEra_eq]
  simp only [toDays]
  by_cases hspring : p.month < 10
  · rw [if_pos hspring, if_pos hspring, if_neg (by omega)]
    have hyear : (400 * p.era + p.yearOfEra + 0) / 400 = p.era := by omega
    have hmonth : (((p.month + 3).toNat + 9) % 12 : Nat) = p.month := by omega
    omega
  · rw [if_neg hspring, if_neg hspring, if_pos (by omega)]
    omega

private theorem isLeap_of_leapDay (h : p.day = 365) :
    isLeap (400 * p.era + p.yearOfEra + 1) = true := by
  obtain ⟨hyear, hcycle⟩ := p.leapDay h
  have := p.cycle_mem
  have := p.century_mem
  simp only [isLeap, yearOfEra, hyear, Bool.or_eq_true, Bool.and_eq_true, decide_eq_true_eq]
  omega

private theorem isValid_ofDays : (ofDays p.days).isValid = true := by
  have hdays := p.day_mem
  obtain ⟨hfirst, hlast⟩ := p.month_mem
  have hmonth : p.month = (5 * p.day + 2) / 153 := rfl
  have hleap := p.isLeap_of_leapDay
  rw [ofDays_days]
  generalize 400 * p.era + p.yearOfEra = y at hleap ⊢
  generalize p.month = m at *
  simp only [isValid, Bool.and_eq_true, decide_eq_true_eq]
  interval_cases m
  case «11» =>
    by_cases hleapDay : p.day = 365
    · simp [monthLength, hleap hleapDay, hleapDay]
    · have hday : p.day ≤ 364 := by omega
      have hlength : 28 ≤ monthLength (y + 1) 2 := by
        simp only [monthLength]
        split <;> decide
      simp
      omega
  all_goals
    simp only [monthLength]
    simp
    omega

private theorem year_ofDays (hdays : -96465292 ≤ p.days ∧ p.days ≤ 95026236) :
    -262143 ≤ (ofDays p.days).year ∧ (ofDays p.days).year ≤ 262142 := by
  have hyears := p.yearOfEra_mem
  have hday := p.day_mem
  have hmonth : p.month = (5 * p.day + 2) / 153 := rfl
  rw [days, dayOfEra_eq] at hdays
  rw [ofDays_days]
  simp only
  -- Only the first era and the last one are not held in full.
  obtain hfirst | hmiddle | hlast : p.era = -656 ∨ (-656 < p.era ∧ p.era < 655) ∨ p.era = 655 := by
    omega
  · split <;> omega
  · split <;> omega
  · split <;> omega

end Place

section Days

variable (days : Int)

/-- The date of a day tells the day. -/
theorem toDays_ofDays : (ofDays days).toDays = days := by
  obtain ⟨p, rfl⟩ := Place.exists_days_eq days
  exact p.toDays_ofDays

theorem isValid_ofDays : (ofDays days).isValid = true := by
  obtain ⟨p, rfl⟩ := Place.exists_days_eq days
  exact p.isValid_ofDays

theorem year_ofDays (h : -96465292 ≤ days ∧ days ≤ 95026236) :
    -262143 ≤ (ofDays days).year ∧ (ofDays days).year ≤ 262142 := by
  obtain ⟨p, rfl⟩ := Place.exists_days_eq days
  exact p.year_ofDays h

theorem monthLength_le (year : Int) (month : Nat) : monthLength year month ≤ 31 := by
  unfold monthLength
  split
  · split <;> decide
  all_goals decide

end Days

end PeekRelay.CivilDate
