import Mathlib.Algebra.BigOperators.Intervals
import Mathlib.Tactic.IntervalCases
import TripleIndex.Calendar

/-!
The calendar told by the lengths of its months and years. Days are counted by adding up the years and the months that
have passed, as far back as the year 1; the day numbers of the calendar are these counts.
-/

namespace TripleIndex

namespace Gregorian

/-- Every fourth year is a leap year, but of those that end a century only every fourth. -/
def IsLeap (year : Nat) : Prop := 4 ∣ year ∧ (100 ∣ year → 400 ∣ year)

instance (year : Nat) : Decidable (IsLeap year) := inferInstanceAs (Decidable (_ ∧ _))

def monthLength (year : Nat) : Nat → Nat
  | 1 | 3 | 5 | 7 | 8 | 10 | 12 => 31
  | 4 | 6 | 9 | 11 => 30
  | 2 => if IsLeap year then 29 else 28
  | _ => 0

def yearLength (year : Nat) : Nat := ∑ month ∈ Finset.Icc 1 12, monthLength year month

/-- A date of the years 1 to 9999. -/
structure IsDate (d : Date) : Prop where
  year : 1 ≤ d.year ∧ d.year ≤ 9999
  month : 1 ≤ d.month ∧ d.month ≤ 12
  day : 1 ≤ d.day ∧ d.day ≤ monthLength d.year d.month

/-- Days from the first day of the year 1 to a date. -/
def daysBefore (d : Date) : Nat :=
  ∑ year ∈ Finset.Ico 1 d.year, yearLength year + ∑ month ∈ Finset.Ico 1 d.month, monthLength d.year month + (d.day - 1)

/-- Days from the first of January 1970 to a date. -/
def dayNumber (d : Date) : Int := daysBefore d - daysBefore ⟨1970, 1, 1⟩

variable {year month : Nat} {d : Date}

theorem isLeapYear_iff : isLeapYear year = true ↔ IsLeap year := by
  simp only [isLeapYear, IsLeap, Bool.and_eq_true, Bool.or_eq_true, decide_eq_true_eq]
  omega

theorem daysOfMonth_eq (hfirst : 1 ≤ month) (hlast : month ≤ 12) : daysOfMonth year month = monthLength year month := by
  have hleap : (if isLeapYear year = true then 29 else 28) = if IsLeap year then 29 else 28 :=
    if_congr isLeapYear_iff rfl rfl
  interval_cases month <;> first | exact hleap | rfl

theorem yearLength_eq (year : Nat) : yearLength year = if IsLeap year then 366 else 365 := by
  have hmonths : Finset.Icc 1 12 = {1, 2, 3, 4, 5, 6, 7, 8, 9, 10, 11, 12} := by decide
  rw [yearLength, hmonths]
  by_cases hleap : IsLeap year <;> simp [monthLength, hleap]

/-- A leap day for every fourth year, taken back for the centuries and given again for every fourth of these. -/
theorem leapDay (year : Nat) : (if IsLeap year then 366 else 365) + (if 100 ∣ year then 1 else 0) =
    365 + (if 4 ∣ year then 1 else 0) + if 400 ∣ year then 1 else 0 := by
  have hquarter : 100 ∣ year → 4 ∣ year := Nat.dvd_trans (by decide)
  have hcentury : 400 ∣ year → 100 ∣ year := Nat.dvd_trans (by decide)
  by_cases h4 : 4 ∣ year <;> by_cases h100 : 100 ∣ year <;> by_cases h400 : 400 ∣ year <;> simp_all [IsLeap]

theorem daysBeforeYear_succ (year : Nat) :
    Date.daysBeforeYear (year + 2) = Date.daysBeforeYear (year + 1) + yearLength (year + 1) := by
  have hleap := leapDay (year + 1)
  have hcenturies : year / 100 ≤ year / 4 := Nat.div_le_div_left (by decide) (by decide)
  unfold Date.daysBeforeYear
  dsimp only
  rw [yearLength_eq, Nat.add_sub_cancel, show year + 2 - 1 = year + 1 from rfl, Nat.succ_div, Nat.succ_div,
    Nat.succ_div]
  have hcentury : (if 100 ∣ year + 1 then 1 else 0) ≤ 1 := by split <;> decide
  generalize (if IsLeap (year + 1) then 366 else 365) = days, (if 4 ∣ year + 1 then 1 else 0) = fourth,
    (if 100 ∣ year + 1 then 1 else 0) = hundredth, (if 400 ∣ year + 1 then 1 else 0) = fourHundredth,
    year / 4 = quarters, year / 100 = centuries, year / 400 = eras at *
  omega

theorem daysBeforeYear_eq (hyear : 1 ≤ year) : Date.daysBeforeYear year = ∑ y ∈ Finset.Ico 1 year, yearLength y := by
  induction year, hyear using Nat.le_induction with
  | base => rfl
  | succ year hyear ih =>
    obtain ⟨past, rfl⟩ := Nat.exists_eq_add_of_le' hyear
    rw [Finset.sum_Ico_succ_top hyear, ← ih]
    exact daysBeforeYear_succ past

theorem daysBeforeMonth_eq (hmonth : month ≤ 12) :
    Date.daysBeforeMonth year month = ∑ m ∈ Finset.Ico 1 month, monthLength year m := by
  unfold Date.daysBeforeMonth
  induction month with
  | zero => rfl
  | succ month ih =>
    cases month with
    | zero => rfl
    | succ month =>
      have hfirst : 1 ≤ month + 1 := Nat.le_add_left 1 month
      have hstep : total ((List.range (month + 1)).map fun m => daysOfMonth year (m + 1)) =
          total ((List.range month).map fun m => daysOfMonth year (m + 1)) + daysOfMonth year (month + 1) := by
        rw [List.range_succ, List.map_append, total_append]
        rfl
      rw [Finset.sum_Ico_succ_top hfirst, ← ih (by omega), ← daysOfMonth_eq hfirst (by omega)]
      exact hstep

theorem isValid_iff : d.isValid = true ↔ IsDate d := by
  simp only [Date.isValid, Bool.and_eq_true, decide_eq_true_eq]
  constructor
  · rintro ⟨⟨⟨⟨⟨hyear, hyear'⟩, hmonth⟩, hmonth'⟩, hday⟩, hday'⟩
    exact ⟨⟨hyear, hyear'⟩, ⟨hmonth, hmonth'⟩, hday, daysOfMonth_eq hmonth hmonth' ▸ hday'⟩
  · rintro ⟨⟨hyear, hyear'⟩, ⟨hmonth, hmonth'⟩, hday, hday'⟩
    exact ⟨⟨⟨⟨⟨hyear, hyear'⟩, hmonth⟩, hmonth'⟩, hday⟩, (daysOfMonth_eq hmonth hmonth').symm ▸ hday'⟩

theorem epochDay_eq (hd : IsDate d) : d.epochDay = dayNumber d := by
  have hdays : ∀ {d : Date}, IsDate d → d.ordinal = daysBefore d + 1 := by
    intro d hd
    have hday := hd.day.1
    rw [Date.ordinal, daysBefore, daysBeforeYear_eq hd.year.1, daysBeforeMonth_eq hd.month.2]
    omega
  have hepoch : Date.ordinal ⟨1970, 1, 1⟩ = daysBefore ⟨1970, 1, 1⟩ + 1 := hdays ⟨by decide, by decide, by decide⟩
  have hordinal : Date.ordinal ⟨1970, 1, 1⟩ = Date.epochOrdinal := by decide
  rw [Date.epochDay, dayNumber, hdays hd, ← hordinal, hepoch]
  push_cast
  omega

end Gregorian

end TripleIndex
