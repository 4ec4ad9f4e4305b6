import Mathlib.Algebra.BigOperators.Intervals
import Mathlib.Algebra.Order.BigOperators.Group.Finset
import Mathlib.Logic.Function.Iterate

/-! The Gregorian calendar. A day has a number, which goes up by one from a date to the next, and a date that
exists is known by its number. -/

namespace Calendar
open Finset

/-! ### Counters -/

/-- One more in a counter below `base`: it goes up, or starts again and carries. -/
theorem succ_carry (base t : Nat) (positive : 0 < base) :
    (t % base + 1 < base ∧ (t + 1) / base = t / base ∧ (t + 1) % base = t % base + 1) ∨
      (t % base + 1 = base ∧ (t + 1) / base = t / base + 1 ∧ (t + 1) % base = 0) := by
  have whole := Nat.mod_add_div t base
  obtain more | last := Nat.lt_or_eq_of_le (show t % base + 1 ≤ base from Nat.mod_lt t positive)
  · refine Or.inl ⟨more, (Nat.div_mod_unique positive).mpr ⟨?_, more⟩⟩
    omega
  · refine Or.inr ⟨last, (Nat.div_mod_unique positive).mpr ⟨?_, positive⟩⟩
    rw [Nat.mul_add_one]
    omega

/-! ### Places in a row of stretches -/

/-- Where the stretch `i` begins. -/
def start (length : Nat → Nat) (i : Nat) : Nat := ∑ k ∈ range i, length k

/-- The stretch in which place `n` is, and the place within it. -/
def locate (length : Nat → Nat) : Nat → Nat → Nat × Nat
  | 0, n => (0, n)
  | fuel + 1, n =>
    if n < length 0 then (0, n)
    else
      let place := locate (fun k => length (k + 1)) fuel (n - length 0)
      (place.1 + 1, place.2)

variable {length : Nat → Nat}

theorem start_succ (i : Nat) : start length (i + 1) = start length i + length i := sum_range_succ length i

theorem start_succ_first (i : Nat) : start length (i + 1) = start (fun k => length (k + 1)) i + length 0 :=
  sum_range_succ' length i

theorem start_mono {i j : Nat} (ordered : i ≤ j) : start length i ≤ start length j :=
  sum_le_sum_of_subset (range_mono ordered)

theorem locate_spec {fuel n : Nat} (inside : n < start length (fuel + 1)) :
    (locate length fuel n).1 ≤ fuel ∧ (locate length fuel n).2 < length (locate length fuel n).1 ∧
      start length (locate length fuel n).1 + (locate length fuel n).2 = n := by
  induction fuel generalizing length n with
  | zero =>
    rw [start_succ] at inside
    exact ⟨Nat.le_refl 0, by simpa [start, locate] using inside, by simp [start, locate]⟩
  | succ fuel ih =>
    rw [locate]
    split
    case isTrue here => exact ⟨Nat.zero_le _, here, by simp [start]⟩
    case isFalse later =>
      rw [start_succ_first] at inside
      obtain ⟨bound, within, same⟩ := ih (show n - length 0 < start (fun k => length (k + 1)) (fuel + 1) by omega)
      refine ⟨Nat.succ_le_succ bound, within, ?_⟩
      dsimp only
      rw [start_succ_first]
      omega

theorem le_of_start_le {i j r s : Nat} (within : s < length j) (ordered : start length i + r ≤ start length j + s) :
    i ≤ j := by
  by_contra later
  have beyond := @start_mono length _ _ (show j + 1 ≤ i by omega)
  rw [start_succ] at beyond
  omega

theorem start_inj {i j r s : Nat} (first : r < length i) (second : s < length j)
    (same : start length i + r = start length j + s) : i = j ∧ r = s := by
  have equal : i = j := Nat.le_antisymm (le_of_start_le second same.le) (le_of_start_le first same.ge)
  subst equal
  exact ⟨rfl, Nat.add_left_cancel same⟩

/-! ### Dates -/

def IsLeap (year : Nat) : Prop := year % 4 = 0 ∧ (year % 100 ≠ 0 ∨ year % 400 = 0)

instance (year : Nat) : Decidable (IsLeap year) := inferInstanceAs (Decidable (_ ∧ _))

/-- The length of a month, counted from 1. -/
def daysInMonth (year month : Nat) : Nat :=
  if month = 2 then if IsLeap year then 29 else 28
  else if month = 4 ∨ month = 6 ∨ month = 9 ∨ month = 11 then 30
  else 31

def daysInYear (year : Nat) : Nat := if IsLeap year then 366 else 365

theorem daysInMonth_pos (year month : Nat) : 0 < daysInMonth year month := by
  unfold daysInMonth
  split_ifs <;> decide

theorem daysInMonth_le (year month : Nat) : daysInMonth year month ≤ 31 := by
  unfold daysInMonth
  split_ifs <;> decide

theorem daysInYear_pos (year : Nat) : 0 < daysInYear year := by
  unfold daysInYear
  split_ifs <;> decide

/-- The lengths of the months of a year, the first at 0. -/
def months (year month : Nat) : Nat := daysInMonth year (month + 1)

theorem start_months (year : Nat) : start (months year) 12 = daysInYear year := by
  unfold daysInYear start
  split
  case isTrue leap => simp [sum_range_succ, months, daysInMonth, leap]
  case isFalse common => simp [sum_range_succ, months, daysInMonth, common]

structure Date where
  year : Nat
  month : Nat
  day : Nat
  deriving DecidableEq

namespace Date

structure Valid (date : Date) : Prop where
  month_pos : 1 ≤ date.month
  month_le : date.month ≤ 12
  day_pos : 1 ≤ date.day
  day_le : date.day ≤ daysInMonth date.year date.month

theorem valid_iff {date : Date} :
    date.Valid ↔ 1 ≤ date.month ∧ date.month ≤ 12 ∧ 1 ≤ date.day ∧ date.day ≤ daysInMonth date.year date.month :=
  ⟨fun valid => ⟨valid.month_pos, valid.month_le, valid.day_pos, valid.day_le⟩, fun ⟨a, b, c, d⟩ => ⟨a, b, c, d⟩⟩

instance (date : Date) : Decidable date.Valid := decidable_of_iff _ valid_iff.symm

def next (date : Date) : Date :=
  if date.day < daysInMonth date.year date.month then { date with day := date.day + 1 }
  else if date.month < 12 then { date with month := date.month + 1, day := 1 }
  else ⟨date.year + 1, 1, 1⟩

/-- Days since the first of January of the year 0. -/
def number (date : Date) : Nat :=
  start daysInYear date.year + (start (months date.year) (date.month - 1) + (date.day - 1))

variable {date other : Date}

theorem months_pred (pos : 1 ≤ date.month) : months date.year (date.month - 1) = daysInMonth date.year date.month := by
  rw [months, Nat.sub_add_cancel pos]

theorem day_lt (valid : date.Valid) : date.day - 1 < months date.year (date.month - 1) := by
  rw [months_pred valid.month_pos]
  have := valid.day_le
  have := valid.day_pos
  omega

theorem dayOfYear_lt (valid : date.Valid) :
    start (months date.year) (date.month - 1) + (date.day - 1) < daysInYear date.year := by
  have within := @start_mono (months date.year) (date.month - 1 + 1) 12 (by have := valid.month_le; omega)
  rw [start_succ, start_months] at within
  have := day_lt valid
  omega

theorem number_inj (first : date.Valid) (second : other.Valid) (same : date.number = other.number) : date = other := by
  obtain ⟨sameYear, sameDay⟩ := start_inj (dayOfYear_lt first) (dayOfYear_lt second) same
  have day := day_lt second
  rw [← sameYear] at sameDay day
  obtain ⟨sameMonth, sameDate⟩ := start_inj (day_lt first) day sameDay
  obtain ⟨month_pos, _, day_pos, _⟩ := first
  obtain ⟨month_pos', _, day_pos', _⟩ := second
  obtain ⟨year, month, day⟩ := date
  obtain ⟨year', month', day'⟩ := other
  simp only [mk.injEq] at *
  omega

theorem year_le (valid : other.Valid) (ordered : date.number ≤ other.number) : date.year ≤ other.year :=
  le_of_start_le (dayOfYear_lt valid) ordered

/-! ### One day on -/

theorem next_cases (valid : date.Valid) :
    (date.day < daysInMonth date.year date.month ∧ date.next = { date with day := date.day + 1 }) ∨
      (date.day = daysInMonth date.year date.month ∧ date.month < 12 ∧
        date.next = { date with month := date.month + 1, day := 1 }) ∨
      (date.day = daysInMonth date.year date.month ∧ date.month = 12 ∧ date.next = ⟨date.year + 1, 1, 1⟩) := by
  obtain ⟨_, _, _, _⟩ := valid
  unfold next
  split
  case isTrue inside => exact Or.inl ⟨inside, rfl⟩
  case isFalse last =>
    split
    case isTrue more => exact Or.inr (Or.inl ⟨by omega, more, rfl⟩)
    case isFalse => exact Or.inr (Or.inr ⟨by omega, by omega, rfl⟩)

theorem valid_next (valid : date.Valid) : date.next.Valid := by
  obtain ⟨inside, same⟩ | ⟨_, more, same⟩ | ⟨_, _, same⟩ := next_cases valid
  · rw [same]
    exact ⟨valid.month_pos, valid.month_le, Nat.le_add_left 1 _, inside⟩
  · rw [same]
    exact ⟨Nat.le_add_left 1 _, more, Nat.le_refl 1, daysInMonth_pos _ _⟩
  · rw [same]
    exact ⟨Nat.le_refl 1, Nat.le_add_left 1 11, Nat.le_refl 1, daysInMonth_pos _ _⟩

theorem number_next (valid : date.Valid) : date.next.number = date.number + 1 := by
  have first := valid.day_pos
  obtain ⟨_, same⟩ | ⟨last, _, same⟩ | ⟨last, december, same⟩ := next_cases valid
  · rw [same]
    show start daysInYear date.year + (start (months date.year) (date.month - 1) + date.day) = date.number + 1
    unfold number
    omega
  · rw [same]
    show start daysInYear date.year + (start (months date.year) date.month + 0) = date.number + 1
    have begins := @start_succ (months date.year) (date.month - 1)
    rw [months_pred valid.month_pos, Nat.sub_add_cancel valid.month_pos] at begins
    unfold number
    omega
  · rw [same]
    show start daysInYear (date.year + 1) + (0 + 0) = date.number + 1
    have begins := @start_succ (months date.year) 11
    rw [start_months] at begins
    have length : months date.year 11 = date.day := by rw [last, december, months]
    rw [start_succ, number, december, show 12 - 1 = 11 from rfl]
    omega

theorem iterate_next (valid : date.Valid) (n : Nat) :
    (next^[n] date).Valid ∧ (next^[n] date).number = date.number + n := by
  induction n generalizing date with
  | zero => exact ⟨valid, rfl⟩
  | succ n ih =>
    obtain ⟨later, number⟩ := ih (valid_next valid)
    rw [number_next valid] at number
    exact ⟨later, by rw [Function.iterate_succ_apply, number]; omega⟩

/-! ### The same day of the month before -/

/-- This day of the month before, which may not exist. -/
def inMonthBefore (date : Date) : Date := { date with month := date.month - 1 }

/-- The number of days by which the two are apart. -/
theorem number_inMonthBefore (more : 2 ≤ date.month) :
    date.number = date.inMonthBefore.number + daysInMonth date.year (date.month - 1) := by
  have begins := @start_succ (months date.year) (date.month - 1 - 1)
  have length : months date.year (date.month - 1 - 1) = daysInMonth date.year (date.month - 1) := by
    rw [months, Nat.sub_add_cancel (by omega)]
  rw [length, Nat.sub_add_cancel (by omega)] at begins
  show start daysInYear date.year + (start (months date.year) (date.month - 1) + (date.day - 1)) =
    start daysInYear date.year + (start (months date.year) (date.month - 1 - 1) + (date.day - 1)) + _
  omega

theorem two_le_month (before : date.inMonthBefore.Valid) : 2 ≤ date.month := by
  have positive : 1 ≤ date.month - 1 := before.month_pos
  omega

theorem inMonthBefore_inj (first : 1 ≤ date.month) (second : 1 ≤ other.month)
    (same : date.inMonthBefore = other.inMonthBefore) : date = other := by
  obtain ⟨year, month, day⟩ := date
  obtain ⟨year', month', day'⟩ := other
  simp only [inMonthBefore, mk.injEq] at *
  omega

/-- Counted on from the same day of the month before, a date stays one month behind only as long as the month
before is as long as it was at first. -/
theorem iterate_inMonthBefore (valid : date.Valid) (before : date.inMonthBefore.Valid) (n : Nat) :
    next^[n] date.inMonthBefore = (next^[n] date).inMonthBefore ↔
      (next^[n] date).inMonthBefore.Valid ∧
        daysInMonth (next^[n] date).year ((next^[n] date).month - 1) = daysInMonth date.year (date.month - 1) := by
  obtain ⟨_, number⟩ := iterate_next valid n
  obtain ⟨behindValid, behindNumber⟩ := iterate_next before n
  have apart := number_inMonthBefore (two_le_month before)
  constructor
  · intro same
    rw [same] at behindValid behindNumber
    have stillApart := number_inMonthBefore (two_le_month behindValid)
    exact ⟨behindValid, by omega⟩
  · rintro ⟨there, length⟩
    have stillApart := number_inMonthBefore (two_le_month there)
    exact number_inj behindValid there (by omega)

end Date

/-! ### Dates by their number -/

/-- The date so many days after the first of January 1970. -/
def dateOf (days : Nat) : Date :=
  let year := locate (fun k => daysInYear (1970 + k)) days days
  let month := locate (months (1970 + year.1)) 11 year.2
  ⟨1970 + year.1, month.1 + 1, month.2 + 1⟩

theorem lt_start_years (days : Nat) : days < start (fun k => daysInYear (1970 + k)) (days + 1) := by
  induction days with
  | zero => exact daysInYear_pos 1970
  | succ days ih =>
    have := daysInYear_pos (1970 + (days + 1))
    rw [start_succ]
    omega

theorem start_years (i : Nat) :
    start daysInYear (1970 + i) = start daysInYear 1970 + start (fun k => daysInYear (1970 + k)) i :=
  sum_range_add daysInYear 1970 i

theorem dateOf_spec (days : Nat) : (dateOf days).Valid ∧ (dateOf days).number = start daysInYear 1970 + days := by
  obtain ⟨_, inYear, year⟩ := locate_spec (lt_start_years days)
  rw [← start_months] at inYear
  obtain ⟨bound, inMonth, month⟩ := locate_spec inYear
  constructor
  · refine ⟨Nat.le_add_left 1 _, Nat.succ_le_succ bound, Nat.le_add_left 1 _, inMonth⟩
  · unfold dateOf Date.number
    dsimp only
    rw [Nat.add_sub_cancel, Nat.add_sub_cancel, month, start_years, Nat.add_assoc, year]

theorem dateOf_add (days n : Nat) : dateOf (days + n) = Date.next^[n] (dateOf days) := by
  obtain ⟨valid, number⟩ := dateOf_spec days
  obtain ⟨validLater, numberLater⟩ := dateOf_spec (days + n)
  obtain ⟨validNext, numberNext⟩ := Date.iterate_next valid n
  apply Date.number_inj validLater validNext
  omega

example : dateOf 11016 = ⟨2000, 2, 29⟩ := by decide

end Calendar
