import Mathlib.Data.Nat.Basic
import Mathlib.Tactic.Common

/-!
# The proleptic Gregorian calendar

Dates as days since 1 January of the year 1, which is day 1. `ordToYmd` finds the year, month and
day of such an ordinal through the 400-, 100- and 4-year cycles; `ymdToOrd_ordToYmd` says that the
date has this ordinal.
-/

namespace Calendar

/-- The days before 1 January of a year. -/
def daysBeforeYear (year : ℕ) : ℕ :=
  (year - 1) * 365 + (year - 1) / 4 - (year - 1) / 100 + (year - 1) / 400

def isLeap (year : ℕ) : Bool := year % 4 = 0 ∧ (year % 100 ≠ 0 ∨ year % 400 = 0)

/-- The days before a month in a year that is no leap year. -/
def daysBefore : ℕ → ℕ
  | 2 => 31
  | 3 => 59
  | 4 => 90
  | 5 => 120
  | 6 => 151
  | 7 => 181
  | 8 => 212
  | 9 => 243
  | 10 => 273
  | 11 => 304
  | 12 => 334
  | _ => 0

def daysBeforeMonth (leap : Bool) (month : ℕ) : ℕ :=
  daysBefore month + if 2 < month ∧ leap = true then 1 else 0

/-- The ordinal of a date. -/
def ymdToOrd (year month day : ℕ) : ℕ :=
  daysBeforeYear year + daysBeforeMonth (isLeap year) month + day

/-- The month and day of a day of the year, counted from 0. -/
def monthDay (leap : Bool) (n : ℕ) : ℕ × ℕ :=
  let month := (n + 50) / 32
  let preceding := daysBeforeMonth leap month
  if n < preceding then (month - 1, n - daysBeforeMonth leap (month - 1) + 1)
  else (month, n - preceding + 1)

/-- The date that the counts of complete cycles and the remaining days give. -/
def ofCycles (n400 n100 n4 n1 n : ℕ) : ℕ × ℕ × ℕ :=
  let year := n400 * 400 + 1 + n100 * 100 + n4 * 4 + n1
  if n1 = 4 ∨ n100 = 4 then (year - 1, 12, 31)
  else (year, monthDay (n1 = 3 ∧ (n4 ≠ 24 ∨ n100 = 3)) n)

/-- The year, month and day of an ordinal. -/
def ordToYmd (ordinal : ℕ) : ℕ × ℕ × ℕ :=
  ofCycles ((ordinal - 1) / 146097) ((ordinal - 1) % 146097 / 36524)
    ((ordinal - 1) % 146097 % 36524 / 1461) ((ordinal - 1) % 146097 % 36524 % 1461 / 365)
    ((ordinal - 1) % 146097 % 36524 % 1461 % 365)

/-- Every day of a year lies in a month. -/
theorem monthDay_spec : ∀ leap, ∀ n < 366, (leap = false → n < 365) →
    1 ≤ (monthDay leap n).1 ∧ (monthDay leap n).1 ≤ 12
      ∧ 1 ≤ (monthDay leap n).2 ∧ (monthDay leap n).2 ≤ 31
      ∧ daysBeforeMonth leap (monthDay leap n).1 + (monthDay leap n).2 = n + 1 := by
  decide +kernel

/-- The leap years of a 400-year cycle. -/
theorem isLeap_of_cycle {n400 n100 n4 n1 : ℕ} (h100 : n100 < 4) (h4 : n4 < 25) (h1 : n1 < 4) :
    isLeap (n400 * 400 + 1 + n100 * 100 + n4 * 4 + n1)
      = decide (n1 = 3 ∧ (n4 ≠ 24 ∨ n100 = 3)) := by
  unfold isLeap
  rw [decide_eq_decide]
  omega

theorem daysBeforeYear_cycle {n400 n100 n4 n1 : ℕ} (h100 : n100 < 4) (h4 : n4 < 25) (h1 : n1 < 4) :
    daysBeforeYear (n400 * 400 + 1 + n100 * 100 + n4 * 4 + n1)
      = n400 * 146097 + n100 * 36524 + n4 * 1461 + n1 * 365 := by
  unfold daysBeforeYear
  omega

/-- The counts of cycles that a number of days has. -/
structure Cycles (n100 n4 n1 n : ℕ) : Prop where
  n100_le : n100 ≤ 4
  n4_le : n4 ≤ 24
  n1_le : n1 ≤ 4
  days_lt : n < 365
  leap_day : n1 = 4 → n100 < 4 ∧ n4 < 24 ∧ n = 0
  century_day : n100 = 4 → n4 = 0 ∧ n1 = 0 ∧ n = 0

theorem cycles_of_days (days : ℕ) :
    Cycles (days % 146097 / 36524) (days % 146097 % 36524 / 1461)
      (days % 146097 % 36524 % 1461 / 365) (days % 146097 % 36524 % 1461 % 365) := by
  constructor <;> omega

/-- The date has the number of days that the cycles hold. -/
theorem ymdToOrd_ofCycles {n400 n100 n4 n1 n : ℕ} (h : Cycles n100 n4 n1 n) :
    ymdToOrd (ofCycles n400 n100 n4 n1 n).1 (ofCycles n400 n100 n4 n1 n).2.1
        (ofCycles n400 n100 n4 n1 n).2.2
      = n400 * 146097 + n100 * 36524 + n4 * 1461 + n1 * 365 + n + 1 := by
  obtain ⟨h100, h4, h1, hdays, hleap, hcentury⟩ := h
  unfold ofCycles
  dsimp only
  split_ifs with hlast
  · -- The last day of a leap year closes a 4-year or a 400-year cycle.
    have hisLeap : isLeap (n400 * 400 + 1 + n100 * 100 + n4 * 4 + n1 - 1) = true := by
      unfold isLeap
      rw [decide_eq_true_iff]
      omega
    have hdecember : daysBeforeMonth true 12 = 335 := rfl
    dsimp only
    rw [ymdToOrd, hisLeap, hdecember, daysBeforeYear]
    omega
  · obtain ⟨hne1, hne100⟩ := not_or.1 hlast
    have hspec := monthDay_spec (decide (n1 = 3 ∧ (n4 ≠ 24 ∨ n100 = 3))) n (by omega)
      fun _ => hdays
    dsimp only
    rw [ymdToOrd, isLeap_of_cycle (by omega) (by omega) (by omega),
      daysBeforeYear_cycle (by omega) (by omega) (by omega)]
    omega

/-- The date of an ordinal has this ordinal. -/
theorem ymdToOrd_ordToYmd {ordinal : ℕ} (h : 1 ≤ ordinal) :
    ymdToOrd (ordToYmd ordinal).1 (ordToYmd ordinal).2.1 (ordToYmd ordinal).2.2 = ordinal := by
  rw [ordToYmd, ymdToOrd_ofCycles (cycles_of_days _)]
  omega

theorem ofCycles_lt {n400 n100 n4 n1 n : ℕ} (h : Cycles n100 n4 n1 n)
    (hmax : n400 * 146097 + n100 * 36524 + n4 * 1461 + n1 * 365 + n < 3652059) :
    (ofCycles n400 n100 n4 n1 n).1 < 10000 ∧ (ofCycles n400 n100 n4 n1 n).2.1 < 100
      ∧ (ofCycles n400 n100 n4 n1 n).2.2 < 100 := by
  obtain ⟨h100, h4, h1, hdays, hleap, hcentury⟩ := h
  unfold ofCycles
  dsimp only
  split_ifs with hlast
  · dsimp only
    omega
  · obtain ⟨hne1, hne100⟩ := not_or.1 hlast
    obtain ⟨_, hmonth, _, hday, _⟩ := monthDay_spec
      (decide (n1 = 3 ∧ (n4 ≠ 24 ∨ n100 = 3))) n (by omega) fun _ => hdays
    dsimp only
    omega

/-- The date of an ordinal up to 31 December 9999 is written with four, two and two digits. -/
theorem ordToYmd_lt {ordinal : ℕ} (h : 1 ≤ ordinal) (hmax : ordinal ≤ 3652059) :
    (ordToYmd ordinal).1 < 10000 ∧ (ordToYmd ordinal).2.1 < 100
      ∧ (ordToYmd ordinal).2.2 < 100 := by
  refine ofCycles_lt (cycles_of_days _) ?_
  omega

end Calendar
