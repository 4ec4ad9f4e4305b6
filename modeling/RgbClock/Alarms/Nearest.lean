import RgbClock.Alarms.Announcement
import RgbClock.Alarms.Countdown

/-! The map of next alarms says for every unit with an observer which of its alarms is nearest. The order
of the alarms and of the observers does not show in it. -/

namespace RgbClock.Alarms

/-- The minutes that are left to the alarms of a unit, or of all units, that lie ahead. -/
def Ahead (alarms : List Alarm) (now : LocalTime) (u : String) : Set Int :=
  {left | 0 < left ∧ ∃ alarm ∈ alarms, (alarm.mUnit = u ∨ alarm.mUnit = "") ∧ minutesUntilFired alarm now = left}

/-- The entry of a unit: the nearest of its alarms, with its time. -/
structure Entry (alarms : List Alarm) (now : LocalTime) (u : String) (entry : NextAlarm) : Prop where
  least : IsLeast (Ahead alarms now u) entry.mIntervalMinutes
  attained : ∃ alarm ∈ alarms, (alarm.mUnit = u ∨ alarm.mUnit = "") ∧
    minutesUntilFired alarm now = entry.mIntervalMinutes ∧ entry.mHour = alarm.mHour ∧ entry.mMinutes = alarm.mMinutes

namespace AlarmManager

/-- An iteration during which the clock does not move. -/
def iterateAt (m : AlarmManager) (now : LocalTime) : AlarmManager := (m.alarmThread fun _ => ⟨now, now⟩).1

def Named (m : AlarmManager) (u : String) : Prop := ∃ o ∈ m.mAlarmObservers.inOrder, o.name = u

variable {m : AlarmManager} {now : LocalTime} {u : String}

theorem iterateAt_eq (valid : now.Valid) : m.iterateAt now = m.iterate (inMinute now.minuteOfWeek) := by
  unfold iterateAt iterate inMinute readsAt
  rw [LocalTime.localTimeAt_minuteOfWeek valid]

theorem reachesUnit_iff {alarm : Alarm} : ReachesUnit m u alarm ↔ m.Named u ∧ (alarm.mUnit = u ∨ alarm.mUnit = "") := by
  unfold ReachesUnit Alarm.reaches
  simp only [Bool.or_eq_true, decide_eq_true_eq]
  constructor
  · intro given
    obtain ⟨o, registered, reaches, rfl⟩ := given
    exact ⟨⟨o, registered, rfl⟩, reaches.imp_left Eq.symm⟩
  · intro given
    obtain ⟨⟨o, registered, rfl⟩, unit⟩ := given
    exact ⟨o, registered, unit.imp_left Eq.symm, rfl⟩

theorem entry_of_known (free : m.mCurrentEditor = "") (valid : now.Valid) {entry : NextAlarm}
    (known : (m.iterateAt now).mNextAlarmMap u = some entry) :
    m.Named u ∧ entry.mIntervalMinutes < 23 * 60 ∧ Entry m.mAlarmList now u entry := by
  rw [iterateAt_eq valid] at known
  obtain ⟨i, alarm, found, reached, rfl, ahead, near, lowest⟩ := (nextAlarmMap_spec free now.minuteOfWeek u).1 entry known
  rw [LocalTime.localTimeAt_minuteOfWeek valid] at ahead near lowest ⊢
  obtain ⟨named, unit⟩ := reachesUnit_iff.mp reached
  have present := List.mem_of_getElem? found
  refine ⟨named, near, ⟨⟨ahead, alarm, present, unit, rfl⟩, ?_⟩, alarm, present, unit, rfl, rfl, rfl⟩
  intro left others
  obtain ⟨positive, other, member, unitToo, rfl⟩ := others
  obtain ⟨j, foundToo⟩ := List.mem_iff_getElem?.mp member
  exact lowest j other foundToo (reachesUnit_iff.mpr ⟨named, unitToo⟩) positive

theorem known_of_near (free : m.mCurrentEditor = "") (valid : now.Valid) (named : m.Named u) {least : Int}
    (ahead : least ∈ Ahead m.mAlarmList now u) (near : least < 23 * 60) :
    ((m.iterateAt now).mNextAlarmMap u).isSome = true := by
  obtain ⟨positive, alarm, member, unit, left⟩ := ahead
  cases absent : (m.iterateAt now).mNextAlarmMap u with
  | some entry => rfl
  | none =>
    rw [iterateAt_eq valid] at absent
    obtain ⟨j, found⟩ := List.mem_iff_getElem?.mp member
    have far := (nextAlarmMap_spec free now.minuteOfWeek u).2 absent j alarm found (reachesUnit_iff.mpr ⟨named, unit⟩)
    rw [LocalTime.localTimeAt_minuteOfWeek valid, left] at far
    have away := far positive
    omega

end AlarmManager

/-- The minutes that are left tell the time of the alarm. -/
theorem time_of_left {first second : Alarm} {now : LocalTime} (valid : now.Valid) (clocked : first.Clocked)
    (clockedToo : second.Clocked) {left : Int} (ahead : 0 < left) (near : left < 23 * 60)
    (leftFirst : minutesUntilFired first now = left) (leftSecond : minutesUntilFired second now = left) :
    first.mHour = second.mHour ∧ first.mMinutes = second.mMinutes := by
  obtain ⟨d, rfl⟩ := Int.eq_ofNat_of_zero_le (Int.le_of_lt ahead)
  rw [← LocalTime.localTimeAt_minuteOfWeek valid] at leftFirst leftSecond
  have within : d < 1440 := by omega
  obtain ⟨-, ⟨hour, minutes⟩, -⟩ := (minutesUntilFired_iff clocked _ within).mp leftFirst
  obtain ⟨-, ⟨hourToo, minutesToo⟩, -⟩ := (minutesUntilFired_iff clockedToo _ within).mp leftSecond
  exact ⟨hour.trans hourToo.symm, minutes.trans minutesToo.symm⟩

theorem ahead_perm {alarms others : List Alarm} (reordered : others.Perm alarms) (now : LocalTime) (u : String) :
    Ahead others now u = Ahead alarms now u := by
  unfold Ahead
  simp only [reordered.mem_iff]

/-- Two entries for the same alarms show the same time. -/
theorem Entry.to_string_eq {alarms : List Alarm} {now : LocalTime} {u : String} {first second : NextAlarm}
    (valid : now.Valid) (clocked : ∀ alarm ∈ alarms, alarm.Clocked) (entry : Entry alarms now u first)
    (near : first.mIntervalMinutes < 23 * 60) (other : Entry alarms now u second) :
    first.to_string = second.to_string := by
  have same := entry.least.unique other.least
  obtain ⟨alarm, member, -, left, hour, minutes⟩ := entry.attained
  obtain ⟨alarmToo, memberToo, -, leftToo, hourToo, minutesToo⟩ := other.attained
  obtain ⟨ahead, -⟩ := entry.least.1
  obtain ⟨sameHour, sameMinutes⟩ := time_of_left valid (clocked alarm member) (clocked alarmToo memberToo) ahead near
    left (leftToo.trans same.symm)
  unfold NextAlarm.to_string
  rw [hour, minutes, hourToo, minutesToo, sameHour, sameMinutes]

/-- After an iteration a unit has an entry exactly if an observer has its name and its nearest alarm is
less than 23 hours away; the entry is that alarm, and the text does not depend on any order. -/
theorem nextAlarm_is_nearest {m : AlarmManager} {now : LocalTime} (free : m.mCurrentEditor = "")
    (clocked : ∀ alarm ∈ m.mAlarmList, alarm.Clocked) (valid : now.Valid) (u : String) :
    (((m.iterateAt now).mNextAlarmMap u).isSome = true ↔
      m.Named u ∧ ∃ least, IsLeast (Ahead m.mAlarmList now u) least ∧ least < 23 * 60) ∧
    (∀ entry, (m.iterateAt now).mNextAlarmMap u = some entry → Entry m.mAlarmList now u entry) ∧
    ∀ m' : AlarmManager, m'.mCurrentEditor = "" → m'.mAlarmList.Perm m.mAlarmList →
      m'.mAlarmObservers.inOrder.Perm m.mAlarmObservers.inOrder →
      (m'.iterateAt now).nextAlarm u = (m.iterateAt now).nextAlarm u := by
  have exists_iff : ∀ m : AlarmManager, m.mCurrentEditor = "" →
      (((m.iterateAt now).mNextAlarmMap u).isSome = true ↔
        m.Named u ∧ ∃ least, IsLeast (Ahead m.mAlarmList now u) least ∧ least < 23 * 60) := by
    intro m free
    constructor
    · intro known
      obtain ⟨entry, found⟩ := Option.isSome_iff_exists.mp known
      obtain ⟨named, near, nearest⟩ := AlarmManager.entry_of_known free valid found
      exact ⟨named, _, nearest.least, near⟩
    · intro given
      obtain ⟨named, least, lowest, near⟩ := given
      exact AlarmManager.known_of_near free valid named lowest.1 near
  refine ⟨exists_iff m free, fun entry known => (AlarmManager.entry_of_known free valid known).2.2, ?_⟩
  intro m' free' alarms observers
  have named : m'.Named u ↔ m.Named u := by
    unfold AlarmManager.Named
    simp only [observers.mem_iff]
  have sameKnown : ((m'.iterateAt now).mNextAlarmMap u).isSome = ((m.iterateAt now).mNextAlarmMap u).isSome := by
    rw [Bool.eq_iff_iff, exists_iff m' free', exists_iff m free, named, ahead_perm alarms]
  have freeAfter : ∀ m : AlarmManager, m.mCurrentEditor = "" → (m.iterateAt now).mCurrentEditor = "" := by
    intro m free
    rw [AlarmManager.iterateAt, AlarmManager.alarmThread_mCurrentEditor, free]
  unfold AlarmManager.nextAlarm
  rw [freeAfter m' free', freeAfter m free]
  cases known : (m.iterateAt now).mNextAlarmMap u with
  | none =>
    rw [known, Option.isSome_none, Option.isSome_eq_false_iff, Option.isNone_iff_eq_none] at sameKnown
    rw [sameKnown]
  | some entry =>
    rw [known, Option.isSome_some] at sameKnown
    obtain ⟨other, found⟩ := Option.isSome_iff_exists.mp sameKnown
    rw [found]
    obtain ⟨-, near, nearest⟩ := AlarmManager.entry_of_known free valid known
    obtain ⟨-, nearToo, nearestToo⟩ := AlarmManager.entry_of_known free' valid found
    obtain ⟨least, attained⟩ := nearestToo
    rw [ahead_perm alarms] at least
    obtain ⟨alarm, member, rest⟩ := attained
    exact Entry.to_string_eq valid clocked ⟨least, alarm, alarms.mem_iff.mp member, rest⟩ nearToo nearest

/-- Two alarms of the bedroom in either order. -/
theorem either_order_announces_the_earlier :
    let alarms : List Alarm := [{ mHour := 7, mDays := 0b1111111 }, { mHour := 6, mMinutes := 30, mDays := 0b1111111 }]
    let observers : ObserverSet := ⟨[⟨0, "Bedroom"⟩], by decide⟩
    let m : AlarmManager := { mUnitList := ["Bedroom"], mAlarmList := alarms, mAlarmObservers := observers }
    (m.iterateAt ⟨.Monday, 6, 0⟩).nextAlarm "Bedroom" = "06:30" ∧
      ({ m with mAlarmList := alarms.reverse }.iterateAt ⟨.Monday, 6, 0⟩).nextAlarm "Bedroom" =
        (m.iterateAt ⟨.Monday, 6, 0⟩).nextAlarm "Bedroom" := by
  refine ⟨by decide +kernel, ?_⟩
  exact (nextAlarm_is_nearest rfl (by decide) ⟨by decide, by decide⟩ "Bedroom").2.2 _ rfl (List.reverse_perm _)
    (List.Perm.refl _)

end RgbClock.Alarms
