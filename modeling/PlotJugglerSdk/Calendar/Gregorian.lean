import Mathlib.Algebra.Order.Group.Int
import Mathlib.Tactic.Common

/-!
# The Gregorian calendar

Dates of the proleptic Gregorian calendar and the days since 1970-01-01. Years are counted
with a year zero, and may be negative.

* `sysDays_yearMonthDay` — the date of a day count has this day count
* `valid_yearMonthDay`   — and it is a date
-/

namespace Calendar

structure Date where
  year : Int
  month : Nat
  day : Nat
  deriving DecidableEq

def IsLeap (year : Int) : Prop := year % 4 = 0 ∧ (year % 100 ≠ 0 ∨ year % 400 = 0)

instance (year : Int) : Decidable (IsLeap year) := inferInstanceAs (Decidable (_ ∧ _))

/-- The days of the months 1 to 12. -/
def daysInMonth (year : Int) (month : Nat) : Nat :=
  if month = 2 then if IsLeap year then 29 else 28
  else if month = 4 ∨ month = 6 ∨ month = 9 ∨ month = 11 then 30
  else 31

def daysInYear (year : Int) : Nat := if IsLeap year then 366 else 365

/-- A date that the calendar has. -/
def Date.Valid (date : Date) : Prop :=
  1 ≤ date.month ∧ date.month ≤ 12 ∧ 1 ≤ date.day ∧ date.day ≤ daysInMonth date.year date.month

instance (date : Date) : Decidable date.Valid := inferInstanceAs (Decidable (_ ∧ _))

/-- The days of the first months of a year. -/
def daysOfMonths (year : Int) : Nat → Nat
  | 0 => 0
  | months + 1 => daysOfMonths year months + daysInMonth year (months + 1)

/-- The days from the year one on. -/
def daysBeforeYear (year : Int) : Int :=
  365 * (year - 1) + (year - 1) / 4 - (year - 1) / 100 + (year - 1) / 400

/-- The days since 1970-01-01. -/
def sysDays (date : Date) : Int :=
  daysBeforeYear date.year - daysBeforeYear 1970 + daysOfMonths date.year (date.month - 1) +
    date.day - 1

/-! ## The date of a day count -/

/-- The year of a count of days from the year one on, and the days that passed in it: whole
cycles of 400, 100, 4 years and years, of which the last may be one day longer. -/
def yearOfDays (days : Int) : Int × Int :=
  let century := min (days % 146097 / 36524) 3
  let inCentury := days % 146097 - 36524 * century
  let single := min (inCentury % 1461 / 365) 3
  (400 * (days / 146097) + 100 * century + 4 * (inCentury / 1461) + single + 1,
    inCentury % 1461 - 365 * single)

/-- The month that a day of the year falls into, counted from `months + 1` on. -/
def monthOfDays (year : Int) (rounds months days : Nat) : Nat × Nat :=
  match rounds with
  | 0 => (months + 1, days + 1)
  | rounds + 1 =>
    if days < daysInMonth year (months + 1) then (months + 1, days + 1)
    else monthOfDays year rounds (months + 1) (days - daysInMonth year (months + 1))

/-- The date that many days after 1970-01-01. -/
def yearMonthDay (days : Int) : Date :=
  let year := (yearOfDays (days + daysBeforeYear 1970)).1
  let day := (yearOfDays (days + daysBeforeYear 1970)).2.toNat
  { year, month := (monthOfDays year 11 0 day).1, day := (monthOfDays year 11 0 day).2 }

/-! ## Years -/

theorem daysBeforeYear_cycles {era century quad single : Int} (hcentury : 0 ≤ century ∧ century ≤ 3)
    (hquad : 0 ≤ quad ∧ quad ≤ 24) (hsingle : 0 ≤ single ∧ single ≤ 3) :
    daysBeforeYear (400 * era + 100 * century + 4 * quad + single + 1) =
      146097 * era + 36524 * century + 1461 * quad + 365 * single := by
  unfold daysBeforeYear
  omega

/-- The year of a day count begins no later than the day, and the day falls into the year. -/
theorem yearOfDays_spec (days : Int) :
    daysBeforeYear (yearOfDays days).1 + (yearOfDays days).2 = days ∧
      0 ≤ (yearOfDays days).2 ∧ (yearOfDays days).2 < daysInYear (yearOfDays days).1 := by
  unfold yearOfDays
  dsimp only
  have hera : days = 146097 * (days / 146097) + days % 146097 := by omega
  have hlow : 0 ≤ days % 146097 := by omega
  have hhigh : days % 146097 < 146097 := by omega
  generalize days / 146097 = era at hera ⊢
  generalize days % 146097 = rest at hera hlow hhigh ⊢
  have hcentury : 0 ≤ min (rest / 36524) 3 ∧ min (rest / 36524) 3 ≤ 3 := by omega
  have hrest : 0 ≤ rest - 36524 * min (rest / 36524) 3 ∧
      (rest - 36524 * min (rest / 36524) 3 < 36524 ∨
        min (rest / 36524) 3 = 3 ∧ rest - 36524 * min (rest / 36524) 3 = 36524) := by omega
  generalize hcenturyDef : min (rest / 36524) 3 = century at hcentury hrest ⊢
  generalize hinDef : rest - 36524 * century = inCentury at hrest ⊢
  have hquad : 0 ≤ inCentury / 1461 ∧ inCentury / 1461 ≤ 24 := by omega
  have hsingle : 0 ≤ min (inCentury % 1461 / 365) 3 ∧ min (inCentury % 1461 / 365) 3 ≤ 3 := by omega
  rw [daysBeforeYear_cycles hcentury hquad hsingle]
  refine ⟨by omega, by omega, ?_⟩
  generalize hyear : 400 * era + 100 * century + 4 * (inCentury / 1461) +
    min (inCentury % 1461 / 365) 3 + 1 = year
  unfold daysInYear
  by_cases hleap : IsLeap year
  · rw [if_pos hleap]
    omega
  · -- the last day of a cycle of four years is in a leap year
    rw [if_neg hleap]
    unfold IsLeap at hleap
    omega

theorem daysBeforeYear_succ (year : Int) :
    daysBeforeYear (year + 1) = daysBeforeYear year + daysInYear year := by
  unfold daysBeforeYear daysInYear
  by_cases hleap : IsLeap year
  · rw [if_pos hleap]
    unfold IsLeap at hleap
    omega
  · rw [if_neg hleap]
    unfold IsLeap at hleap
    omega

theorem daysBeforeYear_mono {first last : Int} (h : first ≤ last) :
    daysBeforeYear first ≤ daysBeforeYear last := by
  refine monotone_int_of_le_succ (fun year => ?_) h
  rw [daysBeforeYear_succ]
  omega

/-! ## Months -/

theorem daysInMonth_le (year : Int) (month : Nat) : daysInMonth year month ≤ 31 := by
  unfold daysInMonth
  split
  · split <;> decide
  · split <;> decide

theorem daysOfMonths_le (year : Int) (months : Nat) : daysOfMonths year months ≤ 31 * months := by
  induction months with
  | zero => exact Nat.le_refl 0
  | succ months ih =>
    have hmonth : daysInMonth year (months + 1) ≤ 31 := daysInMonth_le year (months + 1)
    rw [daysOfMonths]
    omega

theorem daysOfMonths_twelve (year : Int) : daysOfMonths year 12 = daysInYear year := by
  unfold daysInYear
  by_cases h : IsLeap year
  · simp [daysOfMonths, daysInMonth, h]
  · simp [daysOfMonths, daysInMonth, h]

/-- The months that passed are taken off, and the day is one of the month that is left. -/
theorem monthOfDays_spec (year : Int) (rounds months days : Nat) (hmonths : rounds + months = 11)
    (hdays : daysOfMonths year months + days < daysInYear year) :
    months < (monthOfDays year rounds months days).1 ∧
      (monthOfDays year rounds months days).1 ≤ 12 ∧
      1 ≤ (monthOfDays year rounds months days).2 ∧
      (monthOfDays year rounds months days).2 ≤
        daysInMonth year (monthOfDays year rounds months days).1 ∧
      daysOfMonths year ((monthOfDays year rounds months days).1 - 1) +
        (monthOfDays year rounds months days).2 = daysOfMonths year months + days + 1 := by
  induction rounds generalizing months days with
  | zero =>
    -- only December is left
    obtain rfl : months = 11 := by omega
    have hlast : daysOfMonths year 11 + daysInMonth year 12 = daysInYear year :=
      daysOfMonths_twelve year
    show 11 < 12 ∧ 12 ≤ 12 ∧ 1 ≤ days + 1 ∧ days + 1 ≤ daysInMonth year 12 ∧
      daysOfMonths year 11 + (days + 1) = daysOfMonths year 11 + days + 1
    omega
  | succ rounds ih =>
    rw [monthOfDays]
    by_cases hin : days < daysInMonth year (months + 1)
    · rw [if_pos hin]
      dsimp only
      rw [Nat.add_sub_cancel]
      exact ⟨by omega, by omega, by omega, by omega, by omega⟩
    · rw [if_neg hin]
      have hpassed : daysOfMonths year (months + 1) =
          daysOfMonths year months + daysInMonth year (months + 1) := by rw [daysOfMonths]
      obtain ⟨hlow, hhigh, hfirst, hlast, hsum⟩ := ih (months + 1)
        (days - daysInMonth year (months + 1)) (by omega) (by omega)
      exact ⟨by omega, hhigh, hfirst, hlast, by omega⟩

/-! ## Dates -/

theorem valid_yearMonthDay (days : Int) : (yearMonthDay days).Valid := by
  obtain ⟨-, hlow, hhigh⟩ := yearOfDays_spec (days + daysBeforeYear 1970)
  unfold yearMonthDay Date.Valid
  dsimp only
  generalize (yearOfDays (days + daysBeforeYear 1970)).1 = year at hhigh ⊢
  generalize (yearOfDays (days + daysBeforeYear 1970)).2 = inYear at hlow hhigh ⊢
  obtain ⟨hmonth, hmonths, hday, hdays, -⟩ := monthOfDays_spec year 11 0 inYear.toNat rfl
    (by rw [daysOfMonths]; omega)
  exact ⟨hmonth, hmonths, hday, hdays⟩

theorem sysDays_yearMonthDay (days : Int) : sysDays (yearMonthDay days) = days := by
  obtain ⟨hsum, hlow, hhigh⟩ := yearOfDays_spec (days + daysBeforeYear 1970)
  unfold yearMonthDay sysDays
  dsimp only
  generalize (yearOfDays (days + daysBeforeYear 1970)).1 = year at hsum hhigh ⊢
  generalize (yearOfDays (days + daysBeforeYear 1970)).2 = inYear at hsum hlow hhigh ⊢
  obtain ⟨-, -, -, -, hmonth⟩ := monthOfDays_spec year 11 0 inYear.toNat rfl
    (by rw [daysOfMonths]; omega)
  rw [daysOfMonths] at hmonth
  omega

/-- The years of a range of day counts. -/
theorem year_yearMonthDay {days low high : Int}
    (hlow : daysBeforeYear low ≤ days + daysBeforeYear 1970)
    (hhigh : days + daysBeforeYear 1970 < daysBeforeYear high) :
    low ≤ (yearMonthDay days).year ∧ (yearMonthDay days).year < high := by
  obtain ⟨hsum, hnonneg, hin⟩ := yearOfDays_spec (days + daysBeforeYear 1970)
  unfold yearMonthDay
  dsimp only
  generalize (yearOfDays (days + daysBeforeYear 1970)).1 = year at hsum hin ⊢
  constructor
  · by_contra hlt
    have hmono : daysBeforeYear (year + 1) ≤ daysBeforeYear low := daysBeforeYear_mono (by omega)
    rw [daysBeforeYear_succ] at hmono
    omega
  · by_contra hle
    have hmono : daysBeforeYear high ≤ daysBeforeYear year := daysBeforeYear_mono (by omega)
    omega

end Calendar
