import Mathlib.Data.BitVec

/-! Alarms and the local clock they are compared with. -/

namespace RgbClock.Alarms

/-- The enumerators keep the spelling and the values of the source, which are those of `tm_wday`. -/
inductive DayOfWeek where
  | Sunday | Monday | Thuesday | Wednesday | Thursday | Friday | Saturday
  deriving DecidableEq

namespace DayOfWeek

def wday : DayOfWeek → Nat
  | Sunday => 0
  | Monday => 1
  | Thuesday => 2
  | Wednesday => 3
  | Thursday => 4
  | Friday => 5
  | Saturday => 6

def ofWday (n : Nat) : DayOfWeek :=
  match n % 7 with
  | 0 => Sunday
  | 1 => Monday
  | 2 => Thuesday
  | 3 => Wednesday
  | 4 => Thursday
  | 5 => Friday
  | _ => Saturday

theorem wday_ofWday (n : Nat) : (ofWday n).wday = n % 7 := by
  have bound : n % 7 < 7 := Nat.mod_lt _ (by decide)
  unfold ofWday
  generalize n % 7 = r at bound ⊢
  match r, bound with
  | 0, _ | 1, _ | 2, _ | 3, _ | 4, _ | 5, _ | 6, _ => rfl

end DayOfWeek

structure LocalTime where
  mDay : DayOfWeek
  mHour : Nat
  mMin : Nat
  deriving DecidableEq

def DAY_MINUTES : Nat := 24 * 60

/-- What `SystemClock::localTime` returns in a given minute, counted from a Sunday midnight. -/
def localTimeAt (minute : Nat) : LocalTime where
  mDay := .ofWday (minute / DAY_MINUTES)
  mHour := minute % DAY_MINUTES / 60
  mMin := minute % DAY_MINUTES % 60

inductive AlarmType where
  | Daily | OnTimeSmooth | OnTimeLoud
  deriving DecidableEq

structure Alarm where
  mEnabled : Bool := true
  mHour : Int := 7
  mMinutes : Int := 0
  mAlarmType : AlarmType := .Daily
  mDays : BitVec 7 := 0
  mUnit : String := ""
  mVolume : Int := 40
  mSignalled : Bool := false
  deriving DecidableEq

namespace Alarm

def typeString (alarm : Alarm) : String :=
  match alarm.mAlarmType with
  | .Daily => "D"
  | .OnTimeLoud => "L"
  | .OnTimeSmooth => "E"

def oneTimeAlarm (alarm : Alarm) : Bool :=
  alarm.mAlarmType = .OnTimeLoud || alarm.mAlarmType = .OnTimeSmooth

def smooth (alarm : Alarm) : Bool :=
  alarm.mAlarmType = .Daily || alarm.mAlarmType = .OnTimeSmooth

def Clocked (alarm : Alarm) : Prop :=
  0 ≤ alarm.mHour ∧ alarm.mHour ≤ 23 ∧ 0 ≤ alarm.mMinutes ∧ alarm.mMinutes ≤ 59

instance (alarm : Alarm) : Decidable alarm.Clocked := inferInstanceAs (Decidable (_ ∧ _))

end Alarm

/-- `minutesUntilFired`; `time` is the value that its call of `localTime` returns. A disabled
alarm returns before that call. -/
def minutesUntilFired (alarm : Alarm) (time : LocalTime) : Int :=
  if !alarm.mEnabled then -1
  else
    let nextDay := if time.mDay.wday < DayOfWeek.Saturday.wday then time.mDay.wday + 1 else 0
    let nowMinutes : Int := time.mHour * 60 + time.mMin
    let almMinutes : Int := alarm.mHour * 60 + alarm.mMinutes
    let today := alarm.mDays.getLsbD time.mDay.wday
    let tomorrow := alarm.mDays.getLsbD nextDay
    -- Not a one time alarm: already passed or no alarm today, and not for tomorrow.
    if !alarm.oneTimeAlarm && ((today && almMinutes < nowMinutes) || !today) && !tomorrow then -1
    else if alarm.oneTimeAlarm && almMinutes < nowMinutes then almMinutes + 24 * 60 - nowMinutes
    -- If not today but tomorrow.
    else if !alarm.oneTimeAlarm && !(today && almMinutes ≥ nowMinutes) && tomorrow then
      almMinutes + 60 * 24 - nowMinutes
    else almMinutes - nowMinutes

end RgbClock.Alarms
