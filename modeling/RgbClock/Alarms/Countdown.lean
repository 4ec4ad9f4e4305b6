import Mathlib.Order.Bounds.Basic
import RgbClock.Alarms.Due

/-! What `minutesUntilFired` counts: the minutes to the next moment, today or tomorrow, at which the
alarm is due. -/

namespace RgbClock.Alarms

namespace LocalTime

/-- What `localtime` returns. -/
structure Valid (time : LocalTime) : Prop where
  hour : time.mHour ≤ 23
  minute : time.mMin ≤ 59

/-- The minutes since Sunday midnight. -/
def minuteOfWeek (time : LocalTime) : Nat := time.mDay.wday * DAY_MINUTES + time.mHour * 60 + time.mMin

theorem localTimeAt_minuteOfWeek {time : LocalTime} (valid : time.Valid) : localTimeAt time.minuteOfWeek = time := by
  obtain ⟨day, hour, minute⟩ := time
  obtain ⟨hourRange, minuteRange⟩ := valid
  dsimp only at hourRange minuteRange
  have sinceMidnight : (day.wday * DAY_MINUTES + hour * 60 + minute) % DAY_MINUTES = hour * 60 + minute := by
    unfold DAY_MINUTES
    omega
  have days : (day.wday * DAY_MINUTES + hour * 60 + minute) / DAY_MINUTES = day.wday := by
    unfold DAY_MINUTES
    omega
  have same : DayOfWeek.ofWday day.wday = day := by cases day <;> rfl
  unfold localTimeAt minuteOfWeek
  dsimp only
  rw [sinceMidnight, days, same]
  congr 1 <;> omega

end LocalTime

/-- The moment `d` minutes from now is today or tomorrow, has the alarm's time, and is on a day that the
alarm admits. -/
def Alarm.Comes (alarm : Alarm) (now : LocalTime) (d : Nat) : Prop :=
  (now.minuteOfWeek + d) / DAY_MINUTES ≤ now.minuteOfWeek / DAY_MINUTES + 1 ∧ alarm.DueAt (now.minuteOfWeek + d)

instance (alarm : Alarm) (now : LocalTime) (d : Nat) : Decidable (alarm.Comes now d) :=
  inferInstanceAs (Decidable (_ ∧ _))

section
variable {alarm : Alarm}

/-- There is one candidate today, if the time has not passed, and one tomorrow. -/
theorem comes_iff (clocked : alarm.Clocked) (now : LocalTime) (d : Nat) :
    alarm.Comes now d ↔
      (d : Int) = alarm.minuteOfDay - (now.minuteOfWeek % 1440 : Nat) ∧
        (alarm.oneTimeAlarm = true ∨ alarm.mDays.getLsbD (now.minuteOfWeek / 1440 % 7) = true) ∨
      (d : Int) = alarm.minuteOfDay + 1440 - (now.minuteOfWeek % 1440 : Nat) ∧
        (alarm.oneTimeAlarm = true ∨ alarm.mDays.getLsbD ((now.minuteOfWeek / 1440 + 1) % 7) = true) := by
  have range : 0 ≤ alarm.minuteOfDay ∧ alarm.minuteOfDay < 1440 := by
    obtain ⟨_, _, _, _⟩ := clocked
    unfold Alarm.minuteOfDay
    omega
  rw [Alarm.Comes, dueAt_iff clocked, DAY_MINUTES]
  generalize now.minuteOfWeek = minute
  generalize alarm.minuteOfDay = alm at range
  by_cases today : (minute + d) / 1440 = minute / 1440
  · rw [today]
    have clock : (minute + d) % 1440 = minute % 1440 + d := by omega
    rw [clock]
    constructor
    · intro given
      obtain ⟨-, time, admits⟩ := given
      exact Or.inl ⟨by omega, admits⟩
    · intro given
      obtain ⟨left, admits⟩ | ⟨left, -⟩ := given
      · exact ⟨by omega, by omega, admits⟩
      · omega
  · by_cases tomorrow : (minute + d) / 1440 = minute / 1440 + 1
    · rw [tomorrow]
      have clock : (minute + d) % 1440 = minute % 1440 + d - 1440 := by omega
      rw [clock]
      constructor
      · intro given
        obtain ⟨-, time, admits⟩ := given
        exact Or.inr ⟨by omega, admits⟩
      · intro given
        obtain ⟨left, -⟩ | ⟨left, admits⟩ := given
        · omega
        · exact ⟨by omega, by omega, admits⟩
    · refine iff_of_false (fun given => ?_) fun given => ?_
      · obtain ⟨near, -⟩ := given
        omega
      · obtain ⟨left, -⟩ | ⟨left, -⟩ := given <;> omega

/-- The alarm is counted for today if it is still to come, else for tomorrow. -/
theorem minutesUntilFired_days (enabled : alarm.mEnabled = true) (minute : Nat) :
    minutesUntilFired alarm (localTimeAt minute) =
      if (alarm.oneTimeAlarm = true ∨ alarm.mDays.getLsbD (minute / 1440 % 7) = true) ∧
          (minute % 1440 : Nat) ≤ alarm.minuteOfDay then
        alarm.minuteOfDay - (minute % 1440 : Nat)
      else if alarm.oneTimeAlarm = true ∨ alarm.mDays.getLsbD ((minute / 1440 + 1) % 7) = true then
        alarm.minuteOfDay + 1440 - (minute % 1440 : Nat)
      else -1 := by
  rw [minutesUntilFired_eq, enabled]
  generalize minute % 1440 = clock
  cases alarm.oneTimeAlarm with
  | false => simp
  | true =>
    by_cases passed : alarm.minuteOfDay < clock
    · simp [passed]
    · simp [passed, Int.not_lt.mp passed]

/-- `minutesUntilFired` returns the least number of minutes after which the alarm comes. -/
theorem minutesUntilFired_least (clocked : alarm.Clocked) {now : LocalTime} (valid : now.Valid) :
    (alarm.mEnabled = false → minutesUntilFired alarm now = -1) ∧
    (alarm.mEnabled = true →
      ((∃ d, alarm.Comes now d) → ∃ d : Nat, minutesUntilFired alarm now = d ∧ IsLeast {d | alarm.Comes now d} d) ∧
      ((¬ ∃ d, alarm.Comes now d) → minutesUntilFired alarm now = -1)) := by
  have range : 0 ≤ alarm.minuteOfDay ∧ alarm.minuteOfDay < 1440 := by
    obtain ⟨_, _, _, _⟩ := clocked
    unfold Alarm.minuteOfDay
    omega
  refine ⟨fun disabled => by rw [minutesUntilFired, disabled]; rfl, fun enabled => ?_⟩
  have counted := minutesUntilFired_days enabled now.minuteOfWeek
  rw [LocalTime.localTimeAt_minuteOfWeek valid] at counted
  have comes := comes_iff clocked now
  have inDay : now.minuteOfWeek % 1440 < 1440 := Nat.mod_lt _ (by decide)
  generalize now.minuteOfWeek % 1440 = minute at counted comes inDay
  generalize alarm.minuteOfDay = alm at range counted comes
  split at counted
  · rename_i today
    obtain ⟨d, left⟩ := Int.eq_ofNat_of_zero_le (show 0 ≤ alm - (minute : Int) by omega)
    refine ⟨fun _ => ⟨d, counted.trans left, ?_, ?_⟩, fun never => ?_⟩
    · exact (comes d).mpr (Or.inl ⟨left.symm, today.1⟩)
    · intro other later
      obtain ⟨same, -⟩ | ⟨next, -⟩ := (comes other).mp later <;> omega
    · exact absurd ⟨d, (comes d).mpr (Or.inl ⟨left.symm, today.1⟩)⟩ never
  · rename_i passed
    split at counted
    · rename_i tomorrow
      obtain ⟨d, left⟩ := Int.eq_ofNat_of_zero_le (show 0 ≤ alm + 1440 - (minute : Int) by omega)
      refine ⟨fun _ => ⟨d, counted.trans left, ?_, ?_⟩, fun never => ?_⟩
      · exact (comes d).mpr (Or.inr ⟨left.symm, tomorrow⟩)
      · intro other later
        obtain ⟨same, admits⟩ | ⟨next, -⟩ := (comes other).mp later
        · exact absurd ⟨admits, by omega⟩ passed
        · omega
      · exact absurd ⟨d, (comes d).mpr (Or.inr ⟨left.symm, tomorrow⟩)⟩ never
    · rename_i neither
      refine ⟨fun some => ?_, fun _ => counted⟩
      obtain ⟨d, later⟩ := some
      obtain ⟨same, admits⟩ | ⟨-, admits⟩ := (comes d).mp later
      · exact absurd ⟨admits, by omega⟩ passed
      · exact absurd admits neither

/-- On Saturday evening a daily alarm for Sunday and Saturday mornings comes on Sunday. -/
theorem sunday_alarm_on_saturday_evening :
    let alarm : Alarm := { mHour := 8, mDays := 0b1000001 }
    minutesUntilFired alarm ⟨.Saturday, 22, 30⟩ = 570 ∧ IsLeast {d | alarm.Comes ⟨.Saturday, 22, 30⟩ d} 570 := by
  have counted : minutesUntilFired { mHour := 8, mDays := 0b1000001 } ⟨.Saturday, 22, 30⟩ = 570 := by decide
  have clocked : Alarm.Clocked { mHour := 8, mDays := 0b1000001 } := by decide
  have valid : LocalTime.Valid ⟨.Saturday, 22, 30⟩ := ⟨by decide, by decide⟩
  obtain ⟨d, left, least⟩ := ((minutesUntilFired_least clocked valid).2 rfl).1 ⟨570, by decide⟩
  obtain rfl : d = 570 := by
    have same := left.symm.trans counted
    omega
  exact ⟨counted, least⟩

end

end RgbClock.Alarms
