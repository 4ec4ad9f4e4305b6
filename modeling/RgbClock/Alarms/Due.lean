import RgbClock.Alarms.Manager
import Mathlib.Data.List.Basic

/-! When an alarm is due, in terms of the minute count, and what one iteration of `alarmThread`
does to each alarm. -/

namespace RgbClock.Alarms

/-! ### Due minutes -/

namespace Alarm

def minuteOfDay (alarm : Alarm) : Int := alarm.mHour * 60 + alarm.mMinutes

def Shows (alarm : Alarm) (time : LocalTime) : Prop :=
  alarm.mHour = time.mHour ∧ alarm.mMinutes = time.mMin

instance (alarm : Alarm) (time : LocalTime) : Decidable (alarm.Shows time) :=
  inferInstanceAs (Decidable (_ ∧ _))

def Admits (alarm : Alarm) (day : DayOfWeek) : Prop :=
  alarm.oneTimeAlarm = true ∨ alarm.mDays.getLsbD day.wday = true

instance (alarm : Alarm) (day : DayOfWeek) : Decidable (alarm.Admits day) :=
  inferInstanceAs (Decidable (_ ∨ _))

def DueAt (alarm : Alarm) (minute : Nat) : Prop :=
  alarm.Shows (localTimeAt minute) ∧ alarm.Admits (localTimeAt minute).mDay

instance (alarm : Alarm) (minute : Nat) : Decidable (alarm.DueAt minute) :=
  inferInstanceAs (Decidable (_ ∧ _))

end Alarm

section
variable {alarm : Alarm}

theorem wday_at (minute : Nat) : (localTimeAt minute).mDay.wday = minute / 1440 % 7 :=
  DayOfWeek.wday_ofWday (minute / 1440)

theorem shows_iff (clocked : alarm.Clocked) (minute : Nat) :
    alarm.Shows (localTimeAt minute) ↔ alarm.minuteOfDay = (minute % 1440 : Nat) := by
  obtain ⟨_, _, _, _⟩ := clocked
  simp only [Alarm.Shows, Alarm.minuteOfDay, localTimeAt, DAY_MINUTES]
  omega

theorem dueAt_iff (clocked : alarm.Clocked) (minute : Nat) :
    alarm.DueAt minute ↔ alarm.minuteOfDay = (minute % 1440 : Nat) ∧
      (alarm.oneTimeAlarm = true ∨ alarm.mDays.getLsbD (minute / 1440 % 7) = true) := by
  rw [Alarm.DueAt, shows_iff clocked, Alarm.Admits, wday_at]

theorem next_day (day : Nat) :
    (if day % 7 < DayOfWeek.Saturday.wday then day % 7 + 1 else 0) = (day + 1) % 7 := by
  have saturday : DayOfWeek.Saturday.wday = 6 := rfl
  rw [saturday]
  split <;> omega

theorem now_minutes (minute : Nat) :
    ((localTimeAt minute).mHour : Int) * 60 + (localTimeAt minute).mMin = (minute % 1440 : Nat) := by
  simp only [localTimeAt, DAY_MINUTES]
  omega

theorem minutesUntilFired_eq (alarm : Alarm) (minute : Nat) :
    minutesUntilFired alarm (localTimeAt minute) =
      if alarm.mEnabled = false then -1
      else if alarm.oneTimeAlarm = true then
        if alarm.minuteOfDay < (minute % 1440 : Nat) then alarm.minuteOfDay + 1440 - (minute % 1440 : Nat)
        else alarm.minuteOfDay - (minute % 1440 : Nat)
      else if alarm.mDays.getLsbD (minute / 1440 % 7) = true ∧ (minute % 1440 : Nat) ≤ alarm.minuteOfDay then
        alarm.minuteOfDay - (minute % 1440 : Nat)
      else if alarm.mDays.getLsbD ((minute / 1440 + 1) % 7) = true then
        alarm.minuteOfDay + 1440 - (minute % 1440 : Nat)
      else -1 := by
  unfold minutesUntilFired
  simp only [wday_at, next_day, now_minutes]
  simp only [Alarm.minuteOfDay]
  cases alarm.mEnabled <;> cases alarm.oneTimeAlarm <;>
    cases alarm.mDays.getLsbD (minute / 1440 % 7) <;>
    cases alarm.mDays.getLsbD ((minute / 1440 + 1) % 7) <;> simp <;> grind

/-- Within a day ahead, the minutes left are those to the due minute. -/
theorem minutesUntilFired_iff (clocked : alarm.Clocked) (minute : Nat) {left : Nat} (within : left < 1440) :
    minutesUntilFired alarm (localTimeAt minute) = left ↔
      alarm.mEnabled = true ∧ alarm.DueAt (minute + left) := by
  have range : 0 ≤ alarm.minuteOfDay ∧ alarm.minuteOfDay < 1440 := by
    obtain ⟨_, _, _, _⟩ := clocked
    unfold Alarm.minuteOfDay
    omega
  rw [minutesUntilFired_eq, dueAt_iff clocked]
  generalize alarm.minuteOfDay = alm at range
  rcases Nat.lt_or_ge (minute % 1440 + left) 1440 with today | tomorrow
  · have day : (minute + left) / 1440 = minute / 1440 := by omega
    have clock : (minute + left) % 1440 = minute % 1440 + left := by omega
    rw [day, clock]
    grind
  · have day : (minute + left) / 1440 = minute / 1440 + 1 := by omega
    have clock : (minute + left) % 1440 = minute % 1440 + left - 1440 := by omega
    rw [day, clock]
    grind

theorem fires_iff (clocked : alarm.Clocked) (minute : Nat) :
    alarm.fires (localTimeAt minute) = true ↔
      alarm.mEnabled = true ∧ alarm.DueAt minute ∧ alarm.mSignalled = false := by
  have now := minutesUntilFired_iff clocked minute (show 0 < 1440 by decide)
  simp only [Nat.cast_zero, Nat.add_zero] at now
  simp only [Alarm.fires, Bool.and_eq_true, decide_eq_true_eq, now, Bool.not_eq_true', and_assoc]

/-- Two minutes that show the same alarm are a whole number of days apart. -/
theorem shows_apart (clocked : alarm.Clocked) {s t : Nat} (first : alarm.Shows (localTimeAt s))
    (second : alarm.Shows (localTimeAt t)) (later : s < t) : s + 1440 ≤ t := by
  rw [shows_iff clocked] at first second
  omega

end

/-! ### One iteration, alarm by alarm -/

namespace Alarm

def passed (alarm : Alarm) (reads : Reads) : Alarm :=
  (if alarm.fires reads.first then alarm.fired else alarm).resetSignalled reads.second

def notices (observers : List AlarmObserver) (time : LocalTime) (i : Nat) (alarm : Alarm) : List Call :=
  if alarm.fires time then
    (observers.filter alarm.reaches).map (.alarmNotify i · alarm.mVolume alarm.smooth)
  else []

end Alarm

def Call.notifies (source : Nat) (observer : AlarmObserver) : Call → Bool
  | .alarmNotify i o _ _ => i = source && o = observer
  | _ => false

section
variable {observers : List AlarmObserver} {reads : Nat → Reads}

theorem checkAlarm_alarm (one : Reads) (i : Nat) (alarm : Alarm) (sweep : Sweep) :
    (checkAlarm observers one i alarm sweep).1 = alarm.passed one := by
  unfold checkAlarm Alarm.passed
  dsimp only
  split
  · rfl
  · split <;> rfl

theorem checkAlarm_saveAlm (one : Reads) (i : Nat) (alarm : Alarm) (sweep : Sweep) :
    (checkAlarm observers one i alarm sweep).2.saveAlm =
      (sweep.saveAlm || (alarm.fires one.first && alarm.oneTimeAlarm)) := by
  unfold checkAlarm
  dsimp only
  split
  · rename_i fires
    simp [fires]
  · rename_i quiet
    split <;> simp [quiet]

theorem checkAlarm_notified (one : Reads) (i : Nat) (alarm : Alarm) (sweep : Sweep) :
    (checkAlarm observers one i alarm sweep).2.notified =
      sweep.notified ++ alarm.notices observers one.first i := by
  unfold checkAlarm Alarm.notices
  dsimp only
  split
  · rfl
  · split <;> simp

theorem alarmLoop_alarms (observers : List AlarmObserver) (reads : Nat → Reads) (i : Nat) (alarms : List Alarm)
    (sweep : Sweep) :
    (alarmLoop observers reads i alarms sweep).1 =
      alarms.mapIdx fun j alarm => alarm.passed (reads (i + j)) := by
  induction alarms generalizing i sweep with
  | nil => rfl
  | cons alarm rest ih =>
    simp only [alarmLoop, ih, checkAlarm_alarm, List.mapIdx_cons, Nat.add_zero, List.cons.injEq, true_and]
    congr 1
    funext j
    rw [Nat.add_assoc, Nat.add_comm 1 j]

theorem alarmLoop_saveAlm (i : Nat) (alarms : List Alarm) (sweep : Sweep) :
    (alarmLoop observers reads i alarms sweep).2.saveAlm = true ↔
      sweep.saveAlm = true ∨ ∃ (j : Nat) (alarm : Alarm), alarms[j]? = some alarm ∧
        alarm.fires (reads (i + j)).first = true ∧ alarm.oneTimeAlarm = true := by
  induction alarms generalizing i sweep with
  | nil => simp [alarmLoop]
  | cons alarm rest ih =>
    simp only [alarmLoop, ih, checkAlarm_saveAlm, Bool.or_eq_true, Bool.and_eq_true, or_assoc]
    refine or_congr_right ⟨?_, ?_⟩
    · intro given
      obtain ⟨fires, once⟩ | ⟨j, later, found, fires, once⟩ := given
      · exact ⟨0, alarm, rfl, fires, once⟩
      · refine ⟨j + 1, later, found, ?_, once⟩
        rwa [Nat.add_comm j 1, ← Nat.add_assoc]
    · intro given
      obtain ⟨j, later, found, fires, once⟩ := given
      cases j with
      | zero =>
        obtain rfl := Option.some.inj found
        exact Or.inl ⟨fires, once⟩
      | succ j =>
        refine Or.inr ⟨j, later, found, ?_, once⟩
        rwa [Nat.add_comm j 1, ← Nat.add_assoc] at fires

theorem alarmLoop_notified (i : Nat) (alarms : List Alarm) (sweep : Sweep) :
    (alarmLoop observers reads i alarms sweep).2.notified =
      sweep.notified ++ (alarms.zipIdx i).flatMap
        fun entry => entry.1.notices observers (reads entry.2).first entry.2 := by
  induction alarms generalizing i sweep with
  | nil => simp [alarmLoop]
  | cons alarm rest ih =>
    simp only [alarmLoop, ih, checkAlarm_notified, List.zipIdx_cons, List.flatMap_cons, List.append_assoc]

theorem mem_notices {time : LocalTime} {i : Nat} {alarm : Alarm} {call : Call} :
    call ∈ alarm.notices observers time i ↔ alarm.fires time = true ∧ ∃ o ∈ observers,
      alarm.reaches o = true ∧ call = .alarmNotify i o alarm.mVolume alarm.smooth := by
  unfold Alarm.notices
  split
  · rename_i fires
    simp only [fires, List.mem_map, List.mem_filter, true_and]
    exact exists_congr fun o => by simp only [and_assoc, eq_comm]
  · rename_i quiet
    simp [quiet]

theorem countP_notices (nodup : observers.Nodup) (time : LocalTime) (i : Nat) (alarm : Alarm) (o : AlarmObserver) :
    (alarm.notices observers time i).countP (Call.notifies i o) =
      if alarm.fires time = true ∧ alarm.reaches o = true ∧ o ∈ observers then 1 else 0 := by
  unfold Alarm.notices
  by_cases fires : alarm.fires time = true
  · have same : (Call.notifies i o ∘ fun x => Call.alarmNotify i x alarm.mVolume alarm.smooth) = (· == o) := by
      funext x
      by_cases equal : x = o <;> simp [Call.notifies, equal]
    rw [if_pos fires, List.countP_map, same, ← List.count, List.Nodup.count (nodup.filter _)]
    simp only [fires, List.mem_filter, true_and, and_comm]
  · simp [fires]

theorem countP_notices_other {time : LocalTime} {i j : Nat} (other : j ≠ i) (alarm : Alarm) (o : AlarmObserver) :
    (alarm.notices observers time j).countP (Call.notifies i o) = 0 := by
  rw [List.countP_eq_zero]
  intro call member
  obtain ⟨_, x, _, _, rfl⟩ := mem_notices.mp member
  simp [Call.notifies, other]

theorem countP_flatMap_notices (observers : List AlarmObserver) (reads : Nat → Reads) (k i : Nat)
    (alarms : List Alarm) (o : AlarmObserver) :
    ((alarms.zipIdx k).flatMap fun entry => entry.1.notices observers (reads entry.2).first entry.2).countP
        (Call.notifies (k + i) o) =
      match alarms[i]? with
      | some alarm => (alarm.notices observers (reads (k + i)).first (k + i)).countP (Call.notifies (k + i) o)
      | none => 0 := by
  induction alarms generalizing k i with
  | nil => simp
  | cons alarm rest ih =>
    rw [List.zipIdx_cons, List.flatMap_cons, List.countP_append]
    cases i with
    | zero =>
      have later : ((rest.zipIdx (k + 1)).flatMap fun entry =>
          entry.1.notices observers (reads entry.2).first entry.2).countP (Call.notifies (k + 0) o) = 0 := by
        rw [List.countP_eq_zero]
        intro call member
        obtain ⟨entry, present, made⟩ := List.mem_flatMap.mp member
        obtain ⟨_, x, _, _, rfl⟩ := mem_notices.mp made
        have above := List.le_snd_of_mem_zipIdx present
        have differs : entry.2 ≠ k := by omega
        simp [Call.notifies, differs]
      rw [later]
      simp
    | succ i =>
      rw [countP_notices_other (by omega), Nat.zero_add, show k + (i + 1) = k + 1 + i by omega, ih]
      simp

end

theorem ObserverSet.nodup (set : ObserverSet) : set.inOrder.Nodup := List.Nodup.of_map _ set.distinct

namespace AlarmManager

section
variable (m : AlarmManager) (reads : Nat → Reads)

@[simp] theorem alarmThread_mCurrentEditor : (m.alarmThread reads).1.mCurrentEditor = m.mCurrentEditor := by
  unfold alarmThread
  split
  · dsimp only
    split <;> rfl
  · rfl

@[simp] theorem alarmThread_mAlarmObservers : (m.alarmThread reads).1.mAlarmObservers = m.mAlarmObservers := by
  unfold alarmThread
  split
  · dsimp only
    split <;> rfl
  · rfl

@[simp] theorem alarmThread_mUnitList : (m.alarmThread reads).1.mUnitList = m.mUnitList := by
  unfold alarmThread
  split
  · dsimp only
    split <;> rfl
  · rfl

theorem alarmNotify_not_mem_broadcasts {i : Nat} {o : AlarmObserver} {volume : Int} {smooth : Bool} :
    Call.alarmNotify i o volume smooth ∉ m.broadcasts := by
  unfold broadcasts
  split <;> split <;> simp

theorem mem_sweepAlarms_notified {call : Call} (member : call ∈ (m.sweepAlarms reads).2.notified) :
    ∃ i o volume smooth, call = .alarmNotify i o volume smooth := by
  rw [sweepAlarms, alarmLoop_notified, List.nil_append, List.mem_flatMap] at member
  obtain ⟨⟨alarm, i⟩, -, made⟩ := member
  obtain ⟨-, o, -, -, same⟩ := mem_notices.mp made
  exact ⟨i, o, _, _, same⟩

end

section
variable {m : AlarmManager} {reads : Nat → Reads}

theorem alarmThread_edited (edited : m.mCurrentEditor ≠ "") : m.alarmThread reads = (m, []) :=
  if_neg edited

variable (free : m.mCurrentEditor = "")
include free

theorem alarmThread_calls : (m.alarmThread reads).2 = (m.sweepAlarms reads).2.notified ++ m.broadcasts := by
  unfold alarmThread
  rw [if_pos free]

theorem alarmThread_mAlarmList :
    (m.alarmThread reads).1.mAlarmList = m.mAlarmList.mapIdx fun i alarm => alarm.passed (reads i) := by
  have swept := alarmLoop_alarms m.mAlarmObservers.inOrder reads 0 m.mAlarmList {}
  simp only [Nat.zero_add] at swept
  rw [← swept]
  unfold alarmThread
  rw [if_pos free]
  dsimp only
  split <;> rfl

theorem alarmThread_alarm (i : Nat) :
    (m.alarmThread reads).1.mAlarmList[i]? = m.mAlarmList[i]?.map fun alarm => alarm.passed (reads i) := by
  rw [alarmThread_mAlarmList free, List.getElem?_mapIdx]

theorem alarmThread_mNextAlarmMap :
    (m.alarmThread reads).1.mNextAlarmMap = (m.sweepAlarms reads).2.mNextAlarmMap := by
  unfold alarmThread
  rw [if_pos free]
  dsimp only
  split <;> rfl

theorem alarmThread_requests : (m.alarmThread reads).1.mSendAlarmSnooze = false ∧
    (m.alarmThread reads).1.mSendAlarmOff = false := by
  unfold alarmThread
  rw [if_pos free]
  exact ⟨rfl, rfl⟩

/-- A one-time alarm that fires has the list written to the file in the same iteration. -/
theorem alarmThread_saves {i : Nat} {alarm : Alarm} (found : m.mAlarmList[i]? = some alarm)
    (fires : alarm.fires (reads i).first = true) (once : alarm.oneTimeAlarm = true) :
    (m.alarmThread reads).1.mAlarmFile = some (saveDocument (m.alarmThread reads).1.mAlarmList) := by
  have saves : (m.sweepAlarms reads).2.saveAlm = true :=
    (alarmLoop_saveAlm 0 _ _).mpr (Or.inr ⟨i, alarm, found, by simpa using fires, once⟩)
  unfold alarmThread
  rw [if_pos free]
  dsimp only
  rw [if_pos saves]
  rfl

theorem alarmThread_keeps_file
    (quiet : ∀ (i : Nat) (alarm : Alarm), m.mAlarmList[i]? = some alarm →
      alarm.fires (reads i).first = true → alarm.oneTimeAlarm = false) :
    (m.alarmThread reads).1.mAlarmFile = m.mAlarmFile := by
  have keeps : (m.sweepAlarms reads).2.saveAlm ≠ true := by
    intro saves
    rcases (alarmLoop_saveAlm 0 _ _).mp saves with start | ⟨i, alarm, found, fires, once⟩
    · cases start
    · rw [Nat.zero_add] at fires
      rw [quiet i alarm found fires] at once
      cases once
  unfold alarmThread
  rw [if_pos free]
  dsimp only
  rw [if_neg keeps]

theorem mem_alarmThread_notify {i : Nat} {o : AlarmObserver} {volume : Int} {smooth : Bool} :
    Call.alarmNotify i o volume smooth ∈ (m.alarmThread reads).2 ↔
      ∃ alarm, m.mAlarmList[i]? = some alarm ∧ alarm.fires (reads i).first = true ∧
        o ∈ m.mAlarmObservers.inOrder ∧ alarm.reaches o = true ∧
        volume = alarm.mVolume ∧ smooth = alarm.smooth := by
  rw [alarmThread_calls free, List.mem_append, or_iff_left m.alarmNotify_not_mem_broadcasts, sweepAlarms,
    alarmLoop_notified, List.nil_append, List.mem_flatMap]
  constructor
  · intro given
    obtain ⟨⟨alarm, j⟩, present, made⟩ := given
    obtain ⟨fires, x, registered, reaches, same⟩ := mem_notices.mp made
    injection same with source observer loud soft
    subst source observer loud soft
    exact ⟨alarm, List.mem_zipIdx_iff_getElem?.mp present, fires, registered, reaches, rfl, rfl⟩
  · intro given
    obtain ⟨alarm, found, fires, registered, reaches, rfl, rfl⟩ := given
    exact ⟨(alarm, i), List.mem_zipIdx_iff_getElem?.mpr found,
      mem_notices.mpr ⟨fires, o, registered, reaches, rfl⟩⟩

/-- An iteration notifies an observer for the alarm at index `i` once if that alarm fires and
reaches it, and not at all otherwise. -/
theorem countP_alarmThread (i : Nat) (o : AlarmObserver) :
    (m.alarmThread reads).2.countP (Call.notifies i o) =
      match m.mAlarmList[i]? with
      | some alarm => if alarm.fires (reads i).first = true ∧ alarm.reaches o = true ∧
          o ∈ m.mAlarmObservers.inOrder then 1 else 0
      | none => 0 := by
  have requests : m.broadcasts.countP (Call.notifies i o) = 0 := by
    rw [List.countP_eq_zero]
    intro call member
    have sent : (∃ x, call = .alarmSnooze x) ∨ ∃ x, call = .alarmOff x := by
      unfold broadcasts at member
      split at member <;> split at member <;> simp only [List.mem_append, List.mem_map, List.not_mem_nil,
        or_false, false_or] at member <;> grind
    rcases sent with ⟨x, rfl⟩ | ⟨x, rfl⟩ <;> simp [Call.notifies]
  have counted := countP_flatMap_notices m.mAlarmObservers.inOrder reads 0 i m.mAlarmList o
  rw [Nat.zero_add] at counted
  rw [alarmThread_calls free, List.countP_append, requests, sweepAlarms, alarmLoop_notified, List.nil_append,
    Nat.add_zero, counted]
  cases m.mAlarmList[i]? with
  | none => rfl
  | some alarm => exact countP_notices m.mAlarmObservers.nodup _ _ _ _

end

end AlarmManager

end RgbClock.Alarms
