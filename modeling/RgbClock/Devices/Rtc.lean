import RgbClock.Lib.Calendar

/-! The real-time clock: how `RTC` stores the time in a DS1338 and reads it back. The weekday is moved to the
chip's counting and back again; the month is stored as `tm_mon` has it, from 0, where the chip counts from 1. -/

namespace RgbClock.Devices
open Calendar

/-- The fields of `std::tm` that are stored. -/
structure Tm where
  tm_sec : Int
  tm_min : Int
  tm_hour : Int
  tm_wday : Int
  tm_mday : Int
  tm_mon : Int
  tm_year : Int
  deriving DecidableEq

/-- The first of January 1970 was a Thursday. -/
def gmtime (t : Nat) : Tm :=
  let date := dateOf (t / 86400)
  { tm_sec := ((t % 60 : Nat) : Int)
    tm_min := ((t / 60 % 60 : Nat) : Int)
    tm_hour := ((t / 3600 % 24 : Nat) : Int)
    tm_wday := (((t / 86400 + 4) % 7 : Nat) : Int)
    tm_mday := (date.day : Int)
    tm_mon := (date.month : Int) - 1
    tm_year := (date.year : Int) - 1900 }

def bcdToInt (bcd : UInt8) : UInt8 := (bcd &&& (0x0F : UInt8)) + (bcd >>> 4) * 10

def intToBcd (value : UInt8) : UInt8 := ((value / 10) <<< 4) + value % 10

/-- From the eight bytes that the chip sends; the last is its control register, which is only logged. -/
def readRTCTime (response : Vector UInt8 8) : Tm where
  tm_sec := ((bcdToInt (response[0] &&& 0x7F)).toNat : Int)
  tm_min := ((bcdToInt response[1]).toNat : Int)
  tm_hour := ((bcdToInt response[2]).toNat : Int)
  tm_wday := ((bcdToInt response[3]).toNat : Int) - 1
  tm_mday := ((bcdToInt response[4]).toNat : Int)
  tm_mon := ((bcdToInt response[5]).toNat : Int)
  tm_year := ((bcdToInt response[6]).toNat : Int) + (2000 - 1900)

/-- The bytes that are sent at the time `t`. -/
def writeRTCTime (t : Nat) : List UInt8 :=
  let utc := gmtime t
  [0,
    intToBcd (.ofInt utc.tm_sec),
    intToBcd (.ofInt utc.tm_min),
    intToBcd (.ofInt utc.tm_hour),
    intToBcd (.ofInt (utc.tm_wday + 1)),
    intToBcd (.ofInt utc.tm_mday),
    intToBcd (.ofInt utc.tm_mon),
    intToBcd (.ofInt (utc.tm_year - (2000 - 1900)))]

/-! ### The chip -/

/-- What the two digits of a register stand for. -/
def bcdNumber (byte : UInt8) : Nat := byte.toNat / 16 * 10 + byte.toNat % 16

def bcdByte (number : Nat) : UInt8 := .ofNat (number / 10 * 16 + number % 10)

/-- The counters of the chip, in this century. -/
structure Ds1338 where
  seconds : Nat
  minutes : Nat
  hours : Nat
  day : Nat
  date : Date
  control : UInt8

/-- How a chip counts dates: by the calendar as long as the date in its registers is one. -/
structure DateCounter where
  next : Date → Date
  counts : ∀ date : Date, date.Valid → date.next.year < 2100 → next date = date.next

namespace Ds1338

def registers (chip : Ds1338) : Vector UInt8 8 :=
  #v[bcdByte chip.seconds, bcdByte chip.minutes, bcdByte chip.hours, bcdByte chip.day, bcdByte chip.date.day,
    bcdByte chip.date.month, bcdByte (chip.date.year - 2000), chip.control]

/-- A message begins with the register from which on it is stored; only the one that sets the time is sent. -/
def write (chip : Ds1338) (message : List UInt8) : Ds1338 :=
  match message with
  | [0, seconds, minutes, hours, day, date, month, year] =>
    { chip with
      seconds := bcdNumber seconds
      minutes := bcdNumber minutes
      hours := bcdNumber hours
      day := bcdNumber day
      date := ⟨2000 + bcdNumber year, bcdNumber month, bcdNumber date⟩ }
  | _ => chip

/-- One second. -/
def count (counter : DateCounter) (chip : Ds1338) : Ds1338 :=
  if chip.seconds < 59 then { chip with seconds := chip.seconds + 1 }
  else if chip.minutes < 59 then { chip with seconds := 0, minutes := chip.minutes + 1 }
  else if chip.hours < 23 then { chip with seconds := 0, minutes := 0, hours := chip.hours + 1 }
  else
    { chip with
      seconds := 0
      minutes := 0
      hours := 0
      day := chip.day % 7 + 1
      date := counter.next chip.date }

end Ds1338

/-- Stored at `t` and read `n` seconds later, the time is right, whichever way the chip counts dates that do
not exist. -/
def BringsBack (t n : Nat) : Prop :=
  ∀ (counter : DateCounter) (chip : Ds1338),
    readRTCTime ((Ds1338.count counter)^[n] (chip.write (writeRTCTime t))).registers = gmtime (t + n)

/-! ### Storing, counting and reading -/

theorem bcd_read : ∀ number < 100, (bcdToInt (bcdByte number)).toNat = number := by decide

theorem bcd_read_seconds : ∀ number < 60, (bcdToInt (bcdByte number &&& 0x7F)).toNat = number := by decide

theorem bcd_stored : ∀ number < 100, bcdNumber (intToBcd (.ofInt (number : Nat))) = number := by decide

/-- The chip has counted up to the time `t`, with some date in its registers. -/
structure Shows (chip : Ds1338) (t : Nat) (date : Date) : Prop where
  seconds : chip.seconds = t % 60
  minutes : chip.minutes = t / 60 % 60
  hours : chip.hours = t / 3600 % 24
  day : chip.day = (t / 86400 + 4) % 7 + 1
  date : chip.date = date

variable {chip : Ds1338} {counter : DateCounter} {t n : Nat} {date : Date}

theorem hours_eq (t : Nat) : t / 3600 = t / 60 / 60 := (Nat.div_div_eq_div_mul t 60 60).symm

theorem days_eq (t : Nat) : t / 86400 = t / 60 / 60 / 24 := by
  rw [← hours_eq, Nat.div_div_eq_div_mul]

/-- The carries of the chip are those of the divisions: a day ends when all three counters start again. -/
theorem shows_count (shows : Shows chip t date) :
    Shows (chip.count counter) (t + 1) (counter.next^[(t + 1) / 86400 - t / 86400] date) := by
  obtain ⟨seconds, minutes, hours, day, rfl⟩ := shows
  rw [hours_eq] at hours
  rw [days_eq] at day
  rw [days_eq, days_eq]
  unfold Ds1338.count
  obtain ⟨more, minute, second⟩ | ⟨last, minute, second⟩ := succ_carry 60 t (by decide)
  · rw [if_pos (by omega), minute, Nat.sub_self]
    exact ⟨by rw [second, seconds], by rw [minute, minutes], by rw [hours_eq, minute, hours],
      by rw [days_eq, minute, day], rfl⟩
  · rw [if_neg (by omega), minute]
    obtain ⟨more, hour, minuteNext⟩ | ⟨last, hour, minuteNext⟩ := succ_carry 60 (t / 60) (by decide)
    · rw [if_pos (by omega), hour, Nat.sub_self]
      exact ⟨by rw [second], by rw [minute, minuteNext, minutes], by rw [hours_eq, minute, hour, hours],
        by rw [days_eq, minute, hour, day], rfl⟩
    · rw [if_neg (by omega), hour]
      obtain ⟨more, days, hourNext⟩ | ⟨last, days, hourNext⟩ := succ_carry 24 (t / 60 / 60) (by decide)
      · rw [if_pos (by omega), days, Nat.sub_self]
        exact ⟨by rw [second], by rw [minute, minuteNext], by rw [hours_eq, minute, hour, hourNext, hours],
          by rw [days_eq, minute, hour, days, day], rfl⟩
      · rw [if_neg (by omega), days, Nat.add_sub_cancel_left]
        refine ⟨by rw [second], by rw [minute, minuteNext], by rw [hours_eq, minute, hour, hourNext], ?_, rfl⟩
        show chip.day % 7 + 1 = _
        rw [days_eq, minute, hour, days]
        omega

theorem shows_counts (shows : Shows chip t date) (n : Nat) :
    Shows ((Ds1338.count counter)^[n] chip) (t + n) (counter.next^[(t + n) / 86400 - t / 86400] date) := by
  induction n with
  | zero => simpa using shows
  | succ n ih =>
    have later := @shows_count _ counter _ _ ih
    rw [← Function.iterate_add_apply] at later
    rw [Function.iterate_succ_apply', show (t + (n + 1)) / 86400 - t / 86400 =
      (t + n + 1) / 86400 - (t + n) / 86400 + ((t + n) / 86400 - t / 86400) by omega]
    exact later

/-- A date whose fields have two digits. -/
structure InRegisters (date : Date) : Prop where
  day : date.day < 100
  month : date.month < 100
  since : 2000 ≤ date.year
  year : date.year < 2100

theorem inRegisters_of_valid (valid : date.Valid) (since : 2000 ≤ date.year) (year : date.year < 2100) :
    InRegisters date := by
  have := valid.day_le
  have := daysInMonth_le date.year date.month
  have := valid.month_le
  exact ⟨by omega, by omega, since, year⟩

/-- The date is stored with the month before its own. -/
theorem shows_write (fits : InRegisters (dateOf (t / 86400))) :
    Shows (chip.write (writeRTCTime t)) t (dateOf (t / 86400)).inMonthBefore := by
  obtain ⟨valid, _⟩ := dateOf_spec (t / 86400)
  have positive := valid.month_pos
  obtain ⟨day, month, since, year⟩ := fits
  constructor
  · exact bcd_stored (t % 60) (by omega)
  · exact bcd_stored (t / 60 % 60) (by omega)
  · exact bcd_stored (t / 3600 % 24) (by omega)
  · exact bcd_stored ((t / 86400 + 4) % 7 + 1) (by omega)
  · have storedMonth : ((dateOf (t / 86400)).month : Int) - 1 = ((dateOf (t / 86400)).month - 1 : Nat) := by omega
    have storedYear : ((dateOf (t / 86400)).year : Int) - 1900 - (2000 - 1900) =
        ((dateOf (t / 86400)).year - 2000 : Nat) := by
      omega
    show Date.mk (2000 + bcdNumber (intToBcd (.ofInt (((dateOf (t / 86400)).year : Int) - 1900 - (2000 - 1900)))))
      (bcdNumber (intToBcd (.ofInt (((dateOf (t / 86400)).month : Int) - 1))))
      (bcdNumber (intToBcd (.ofInt (dateOf (t / 86400)).day))) = _
    rw [storedMonth, storedYear, bcd_stored _ (by omega), bcd_stored _ (by omega), bcd_stored _ day,
      Nat.add_sub_cancel' since]
    rfl

theorem readRTCTime_shows (shows : Shows chip t date) (fits : InRegisters date) :
    readRTCTime chip.registers =
      { gmtime t with
        tm_mday := (date.day : Int)
        tm_mon := (date.month : Int)
        tm_year := (date.year : Int) - 1900 } := by
  obtain ⟨seconds, minutes, hours, day, rfl⟩ := shows
  obtain ⟨dayFits, monthFits, since, yearFits⟩ := fits
  show Tm.mk (bcdToInt (bcdByte chip.seconds &&& 0x7F)).toNat (bcdToInt (bcdByte chip.minutes)).toNat
    (bcdToInt (bcdByte chip.hours)).toNat ((bcdToInt (bcdByte chip.day)).toNat - 1)
    (bcdToInt (bcdByte chip.date.day)).toNat (bcdToInt (bcdByte chip.date.month)).toNat
    ((bcdToInt (bcdByte (chip.date.year - 2000))).toNat + (2000 - 1900)) = _
  rw [bcd_read_seconds _ (by omega), bcd_read _ (by omega), bcd_read _ (by omega), bcd_read _ (by omega),
    bcd_read _ dayFits, bcd_read _ monthFits, bcd_read _ (by omega)]
  simp only [gmtime, seconds, minutes, hours, day, Tm.mk.injEq, true_and]
  omega

theorem month_pos (t : Nat) : 1 ≤ (dateOf (t / 86400)).month := (dateOf_spec _).1.month_pos

/-- What is read is right if the date in the registers is the real one with the month before its own. -/
theorem readRTCTime_eq_iff (shows : Shows chip t date) (fits : InRegisters date) :
    readRTCTime chip.registers = gmtime t ↔ date = (dateOf (t / 86400)).inMonthBefore := by
  have positive := month_pos t
  rw [readRTCTime_shows shows fits]
  obtain ⟨year, month, day⟩ := date
  simp only [gmtime, Date.inMonthBefore, Tm.mk.injEq, Date.mk.injEq, true_and]
  omega

/-! ### Which times come back -/

/-- A date in the calendar is counted as the calendar has it. -/
theorem counter_iterate (valid : date.Valid) {k : Nat} (bound : (Date.next^[k] date).year < 2100) :
    counter.next^[k] date = Date.next^[k] date := by
  induction k with
  | zero => rfl
  | succ k ih =>
    obtain ⟨earlier, number⟩ := Date.iterate_next valid k
    rw [Function.iterate_succ_apply'] at bound
    have increasing : (Date.next^[k] date).number ≤ (Date.next^[k] date).next.number := by
      rw [Date.number_next earlier]
      exact Nat.le_succ _
    have year := Date.year_le (Date.valid_next earlier) increasing
    rw [Function.iterate_succ_apply', Function.iterate_succ_apply', ih (by omega)]
    exact counter.counts _ earlier bound

/-- A chip that stays at a date that does not exist; the assumptions allow it. -/
def stuckCounter : DateCounter where
  next date := if date.Valid then date.next else date
  counts _ valid _ := if_pos valid

theorem stuck_iterate (missing : ¬ date.Valid) (k : Nat) : stuckCounter.next^[k] date = date := by
  have fixed : stuckCounter.next date = date := if_neg missing
  exact Function.iterate_fixed fixed k

/-- The length of the month before the one of this time. -/
def Tm.monthBefore (utc : Tm) : Nat := daysInMonth (1900 + utc.tm_year).toNat utc.tm_mon.toNat

/-- The month before has this day too, and is in the same year. -/
def Tm.InMonthBefore (utc : Tm) : Prop := 1 ≤ utc.tm_mon ∧ utc.tm_mday ≤ utc.monthBefore

instance (utc : Tm) : Decidable utc.InMonthBefore := inferInstanceAs (Decidable (_ ∧ _))

theorem monthBefore_gmtime (t : Nat) :
    (gmtime t).monthBefore = daysInMonth (dateOf (t / 86400)).year ((dateOf (t / 86400)).month - 1) := by
  have year : (1900 + (gmtime t).tm_year).toNat = (dateOf (t / 86400)).year := by
    simp only [gmtime]
    omega
  have month : (gmtime t).tm_mon.toNat = (dateOf (t / 86400)).month - 1 := by
    simp only [gmtime]
    omega
  rw [Tm.monthBefore, year, month]

theorem inMonthBefore_gmtime (t : Nat) : (gmtime t).InMonthBefore ↔ (dateOf (t / 86400)).inMonthBefore.Valid := by
  obtain ⟨valid, _⟩ := dateOf_spec (t / 86400)
  have := valid.month_le
  have := valid.day_pos
  rw [Tm.InMonthBefore, monthBefore_gmtime, Date.valid_iff]
  simp only [gmtime, Date.inMonthBefore]
  omega

theorem dateOf_later (t n : Nat) :
    dateOf ((t + n) / 86400) = Date.next^[(t + n) / 86400 - t / 86400] (dateOf (t / 86400)) := by
  rw [← dateOf_add]
  congr 1
  omega

theorem year_later (t n : Nat) : (dateOf (t / 86400)).year ≤ (dateOf ((t + n) / 86400)).year := by
  obtain ⟨_, number⟩ := dateOf_spec (t / 86400)
  obtain ⟨valid, later⟩ := dateOf_spec ((t + n) / 86400)
  apply Date.year_le valid
  have := Nat.div_le_div_right (c := 86400) (Nat.le_add_right t n)
  omega

section
variable (since : 2000 ≤ (dateOf (t / 86400)).year) (ends : (dateOf ((t + n) / 86400)).year < 2100)
include since ends

theorem inRegisters_stored : InRegisters (dateOf (t / 86400)).inMonthBefore := by
  obtain ⟨valid, _⟩ := dateOf_spec (t / 86400)
  obtain ⟨day, month, _, _⟩ := inRegisters_of_valid valid since (Nat.lt_of_le_of_lt (year_later t n) ends)
  exact ⟨day, Nat.lt_of_le_of_lt (Nat.sub_le _ 1) month, since, Nat.lt_of_le_of_lt (year_later t n) ends⟩

theorem readBack_iff (counter : DateCounter) (chip : Ds1338)
    (fits : InRegisters (counter.next^[(t + n) / 86400 - t / 86400] (dateOf (t / 86400)).inMonthBefore)) :
    readRTCTime ((Ds1338.count counter)^[n] (chip.write (writeRTCTime t))).registers = gmtime (t + n) ↔
      counter.next^[(t + n) / 86400 - t / 86400] (dateOf (t / 86400)).inMonthBefore =
        (dateOf ((t + n) / 86400)).inMonthBefore := by
  obtain ⟨valid, _⟩ := dateOf_spec (t / 86400)
  have stored := inRegisters_of_valid valid since (Nat.lt_of_le_of_lt (year_later t n) ends)
  exact readRTCTime_eq_iff (shows_counts (shows_write stored) n) fits

theorem bringsBack_within_day (same : t / 86400 = (t + n) / 86400) : BringsBack t n := by
  intro counter chip
  have fits := inRegisters_stored since ends
  have none : (t + n) / 86400 - t / 86400 = 0 := by omega
  apply (readBack_iff since ends counter chip (by rw [none]; exact fits)).mpr
  rw [none, ← same]
  rfl

theorem bringsBack_of_monthBefore (first : (dateOf (t / 86400)).inMonthBefore.Valid)
    (last : (dateOf ((t + n) / 86400)).inMonthBefore.Valid)
    (length : (gmtime t).monthBefore = (gmtime (t + n)).monthBefore) : BringsBack t n := by
  intro counter chip
  obtain ⟨valid, _⟩ := dateOf_spec (t / 86400)
  have behind : Date.next^[(t + n) / 86400 - t / 86400] (dateOf (t / 86400)).inMonthBefore =
      (dateOf ((t + n) / 86400)).inMonthBefore := by
    rw [monthBefore_gmtime, monthBefore_gmtime, dateOf_later] at length
    rw [dateOf_later] at last ⊢
    exact (Date.iterate_inMonthBefore valid first _).mpr ⟨last, length.symm⟩
  have counted : counter.next^[(t + n) / 86400 - t / 86400] (dateOf (t / 86400)).inMonthBefore =
      (dateOf ((t + n) / 86400)).inMonthBefore := by
    rw [← behind]
    exact counter_iterate first (behind ▸ ends)
  apply (readBack_iff since ends counter chip ?_).mpr counted
  rw [counted]
  exact inRegisters_of_valid last (Nat.le_trans since (year_later t n)) ends

theorem monthBefore_of_bringsBack (back : BringsBack t n) (apart : t / 86400 ≠ (t + n) / 86400) :
    (dateOf (t / 86400)).inMonthBefore.Valid ∧ (dateOf ((t + n) / 86400)).inMonthBefore.Valid ∧
      (gmtime t).monthBefore = (gmtime (t + n)).monthBefore := by
  obtain ⟨valid, number⟩ := dateOf_spec (t / 86400)
  obtain ⟨validLater, numberLater⟩ := dateOf_spec ((t + n) / 86400)
  have read := back stuckCounter ⟨0, 0, 0, 1, ⟨2000, 1, 1⟩, 0⟩
  by_cases first : (dateOf (t / 86400)).inMonthBefore.Valid
  · obtain ⟨behindValid, behindNumber⟩ := Date.iterate_next first ((t + n) / 86400 - t / 86400)
    have behind := Date.number_inMonthBefore (Date.two_le_month first)
    have upper : (Date.next^[(t + n) / 86400 - t / 86400] (dateOf (t / 86400)).inMonthBefore).year < 2100 :=
      Nat.lt_of_le_of_lt (Date.year_le validLater (by omega)) ends
    have lower : (dateOf (t / 86400)).inMonthBefore.year ≤ _ :=
      Date.year_le behindValid (behindNumber ▸ Nat.le_add_right _ _)
    have counted := @counter_iterate stuckCounter _ first _ upper
    have same := (readBack_iff since ends stuckCounter _
      (by rw [counted]; exact inRegisters_of_valid behindValid (Nat.le_trans since lower) upper)).mp read
    rw [counted, dateOf_later] at same
    rw [monthBefore_gmtime, monthBefore_gmtime, dateOf_later]
    obtain ⟨last, length⟩ := (Date.iterate_inMonthBefore valid first _).mp same
    exact ⟨first, last, length.symm⟩
  · -- the chip is still at the date that was stored, which is not the date any more
    have still := stuck_iterate first ((t + n) / 86400 - t / 86400)
    have same := (readBack_iff since ends stuckCounter _ (by rw [still]; exact inRegisters_stored since ends)).mp read
    rw [still] at same
    have equal := Date.inMonthBefore_inj valid.month_pos validLater.month_pos same
    rw [equal] at number
    omega

end

/-- The time is right again within the day in which it was stored, and otherwise exactly if the months before
the two dates have the same length and both have the day of the date. -/
theorem bringsBack_iff (since : 101 ≤ (gmtime t).tm_year) (ends : (gmtime (t + n)).tm_year ≤ 199) :
    BringsBack t n ↔
      t / 86400 = (t + n) / 86400 ∨
        (gmtime t).InMonthBefore ∧ (gmtime (t + n)).InMonthBefore ∧
          (gmtime t).monthBefore = (gmtime (t + n)).monthBefore := by
  have sinceYear : 2000 ≤ (dateOf (t / 86400)).year := by
    simp only [gmtime] at since
    omega
  have endsYear : (dateOf ((t + n) / 86400)).year < 2100 := by
    simp only [gmtime] at ends
    omega
  rw [inMonthBefore_gmtime, inMonthBefore_gmtime]
  constructor
  · intro back
    by_cases same : t / 86400 = (t + n) / 86400
    · exact Or.inl same
    · exact Or.inr (monthBefore_of_bringsBack sinceYear endsYear back same)
  · rintro (same | ⟨first, last, length⟩)
    · exact bringsBack_within_day sinceYear endsYear same
    · exact bringsBack_of_monthBefore sinceYear endsYear first last length

/-- From the last second of August 2024 into September: July is as long as August. -/
theorem august_brought_back : BringsBack 1725148799 1 :=
  (bringsBack_iff (by decide) (by decide)).mpr (Or.inr ⟨by decide, by decide, by decide⟩)

/-- From the last second of February 2001 into March: a chip that reads January goes on to its 29th. -/
theorem february_not_brought_back :
    gmtime 983404800 = ⟨0, 0, 0, 4, 1, 2, 101⟩ ∧
      readRTCTime ((Ds1338.count stuckCounter)^[1]
        (Ds1338.write ⟨0, 0, 0, 1, ⟨2000, 1, 1⟩, 0⟩ (writeRTCTime 983404799))).registers = ⟨0, 0, 0, 4, 29, 1, 101⟩ ∧
      ¬ BringsBack 983404799 1 := by
  refine ⟨by decide, by decide, fun back => ?_⟩
  exact absurd (back stuckCounter ⟨0, 0, 0, 1, ⟨2000, 1, 1⟩, 0⟩) (by decide)

end RgbClock.Devices
