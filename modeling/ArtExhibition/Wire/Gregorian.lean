import Mathlib.Algebra.Ring.Nat
import Mathlib.Data.List.GetD
import Mathlib.Tactic.Common

/-!
# The Gregorian calendar

Its days are numbered from the first day of the year 0 on, the rule of leap years continued back to
it. A cycle of 400 years is a row of runs, the years, and a year is one of months: `locate` finds the
run of a day. `ofDayNumber_eq_iff`: every date has its day and every day its date.
-/

namespace Gregorian

/-! ## Runs, one behind the other -/

/-- In which of the runs of these lengths the `n`-th element is, and at which place. -/
def locate : List ℕ → ℕ → ℕ × ℕ
  | [], n => (0, n)
  | length :: lengths, n =>
    if n < length then (0, n)
    else ((locate lengths (n - length)).1 + 1, (locate lengths (n - length)).2)

variable {lengths : List ℕ} {n i place : ℕ}

theorem locate_spec (h : n < lengths.sum) :
    (locate lengths n).2 < lengths.getD (locate lengths n).1 0 ∧
      (lengths.take (locate lengths n).1).sum + (locate lengths n).2 = n := by
  induction lengths generalizing n with
  | nil => exact absurd h (Nat.not_lt_zero n)
  | cons length lengths ih =>
    rw [locate]
    split_ifs with hlt
    · exact ⟨hlt, Nat.zero_add n⟩
    · rw [List.sum_cons] at h
      obtain ⟨hplace, hsum⟩ := ih (n := n - length) (by omega)
      refine ⟨hplace, ?_⟩
      rw [List.take_succ_cons, List.sum_cons]
      omega

theorem locate_sum (h : place < lengths.getD i 0) :
    (lengths.take i).sum + place < lengths.sum ∧
      locate lengths ((lengths.take i).sum + place) = (i, place) := by
  induction lengths generalizing i with
  | nil => exact absurd h (Nat.not_lt_zero place)
  | cons length lengths ih =>
    cases i with
    | zero =>
      rw [List.getD_cons_zero] at h
      rw [List.take_zero, List.sum_nil, Nat.zero_add, List.sum_cons, locate, if_pos h]
      exact ⟨by omega, rfl⟩
    | succ i =>
      obtain ⟨hlt, hlocate⟩ := ih h
      have hrest : length + (lengths.take i).sum + place - length = (lengths.take i).sum + place := by
        omega
      rw [List.take_succ_cons, List.sum_cons, List.sum_cons, locate, if_neg (by omega), hrest, hlocate]
      exact ⟨by omega, rfl⟩

/-! ## Years and months -/

def IsLeap (year : ℕ) : Prop := year % 4 = 0 ∧ (year % 100 ≠ 0 ∨ year % 400 = 0)

instance (year : ℕ) : Decidable (IsLeap year) := inferInstanceAs (Decidable (_ ∧ _))

def monthLengths (year : ℕ) : List ℕ :=
  [31, if IsLeap year then 29 else 28, 31, 30, 31, 30, 31, 31, 30, 31, 30, 31]

/-- The lengths of the years of a cycle. -/
def yearLengths : List ℕ := (List.range 400).map fun year => (monthLengths year).sum

theorem yearLengths_sum : yearLengths.sum = 146097 := by decide +kernel

theorem yearLengths_getD (hi : i < 400) : yearLengths.getD i 0 = (monthLengths i).sum := by
  rw [yearLengths, List.getD_eq_getElem _ _ (by simpa), List.getElem_map, List.getElem_range]

theorem yearLengths_lt (h : place < yearLengths.getD i 0) : i < 400 := by
  by_contra hge
  rw [List.getD_eq_default _ _ (by simpa [yearLengths] using hge)] at h
  exact Nat.not_lt_zero place h

theorem monthLengths_mod (year : ℕ) : monthLengths (year % 400) = monthLengths year := by
  have hleap : IsLeap (year % 400) ↔ IsLeap year := by
    rw [IsLeap, IsLeap]
    omega
  rw [monthLengths, monthLengths]
  simp only [hleap]

/-! ## Dates -/

/-- Behind the twelfth month no month has a day. -/
@[ext] structure CivilDate where
  year : ℕ
  month : ℕ
  day : ℕ
  month_pos : 1 ≤ month
  day_pos : 1 ≤ day
  day_le : day ≤ (monthLengths year).getD (month - 1) 0
  deriving DecidableEq, Repr

variable {date : CivilDate}

/-- The days before a date in its year. -/
def CivilDate.dayOfYear (date : CivilDate) : ℕ :=
  ((monthLengths date.year).take (date.month - 1)).sum + (date.day - 1)

/-- The days before a date. -/
def CivilDate.dayNumber (date : CivilDate) : ℕ :=
  146097 * (date.year / 400) + ((yearLengths.take (date.year % 400)).sum + date.dayOfYear)

/-- The year of the cycle in which a day is, and the days before it in this year. -/
def placeInCycle (n : ℕ) : ℕ × ℕ := locate yearLengths (n % 146097)

/-- Month and day, counted from 0. -/
def placeInYear (n : ℕ) : ℕ × ℕ := locate (monthLengths (placeInCycle n).1) (placeInCycle n).2

theorem placeInCycle_spec (n : ℕ) : (placeInCycle n).2 < (monthLengths (placeInCycle n).1).sum ∧
    (placeInCycle n).1 < 400 ∧
      (yearLengths.take (placeInCycle n).1).sum + (placeInCycle n).2 = n % 146097 := by
  have hlt : n % 146097 < yearLengths.sum := by
    rw [yearLengths_sum]
    exact Nat.mod_lt n (by decide)
  obtain ⟨hplace, hsum⟩ := locate_spec hlt
  have hyear := yearLengths_lt hplace
  exact ⟨yearLengths_getD hyear ▸ hplace, hyear, hsum⟩

/-- The date of a day. -/
def ofDayNumber (n : ℕ) : CivilDate where
  year := 400 * (n / 146097) + (placeInCycle n).1
  month := (placeInYear n).1 + 1
  day := (placeInYear n).2 + 1
  month_pos := Nat.le_add_left 1 _
  day_pos := Nat.le_add_left 1 _
  day_le := by
    obtain ⟨hplace, hyear, -⟩ := placeInCycle_spec n
    rw [← monthLengths_mod, Nat.mul_add_mod, Nat.mod_eq_of_lt hyear]
    exact (locate_spec hplace).1

theorem dayNumber_ofDayNumber (n : ℕ) : (ofDayNumber n).dayNumber = n := by
  obtain ⟨hplace, hyear, hcycle⟩ := placeInCycle_spec n
  have hyears : (400 * (n / 146097) + (placeInCycle n).1) % 400 = (placeInCycle n).1 := by
    rw [Nat.mul_add_mod, Nat.mod_eq_of_lt hyear]
  have hday : (ofDayNumber n).dayOfYear = (placeInCycle n).2 := by
    rw [CivilDate.dayOfYear, ofDayNumber, ← monthLengths_mod, hyears]
    exact (locate_spec hplace).2
  rw [CivilDate.dayNumber, hday]
  simp only [ofDayNumber, hyears, hcycle]
  omega

theorem ofDayNumber_dayNumber (date : CivilDate) : ofDayNumber date.dayNumber = date := by
  have hday : date.day - 1 < (monthLengths date.year).getD (date.month - 1) 0 := by
    have hpos := date.day_pos
    have hle := date.day_le
    omega
  have hdayOfYear : date.dayOfYear < yearLengths.getD (date.year % 400) 0 := by
    rw [yearLengths_getD (Nat.mod_lt _ (by decide)), monthLengths_mod]
    exact (locate_sum hday).1
  have hlt : (yearLengths.take (date.year % 400)).sum + date.dayOfYear < 146097 := by
    rw [← yearLengths_sum]
    exact (locate_sum hdayOfYear).1
  have hcycle : placeInCycle date.dayNumber = (date.year % 400, date.dayOfYear) := by
    rw [placeInCycle, CivilDate.dayNumber, Nat.mul_add_mod, Nat.mod_eq_of_lt hlt,
      (locate_sum hdayOfYear).2]
  have hmonth : placeInYear date.dayNumber = (date.month - 1, date.day - 1) := by
    rw [placeInYear, hcycle, monthLengths_mod]
    exact (locate_sum hday).2
  refine CivilDate.ext ?_ ?_ ?_
  · change 400 * (date.dayNumber / 146097) + (placeInCycle date.dayNumber).1 = date.year
    rw [hcycle, CivilDate.dayNumber, Nat.mul_add_div (by decide), Nat.div_eq_of_lt hlt]
    exact Nat.div_add_mod date.year 400
  · change (placeInYear date.dayNumber).1 + 1 = date.month
    rw [hmonth]
    exact Nat.sub_add_cancel date.month_pos
  · change (placeInYear date.dayNumber).2 + 1 = date.day
    rw [hmonth]
    exact Nat.sub_add_cancel date.day_pos

/-- **Every date has its day, and every day its date.** -/
theorem ofDayNumber_eq_iff : ofDayNumber n = date ↔ n = date.dayNumber := by
  constructor
  · rintro rfl
    exact (dayNumber_ofDayNumber n).symm
  · rintro rfl
    exact ofDayNumber_dayNumber date

end Gregorian
