import RgbClock.Alarms.Document

/-! `AlarmManager`: the alarm list with its editor, the observers, the announced next alarms,
and one iteration of `alarmThread`. An iteration returns the calls it makes on the observers,
in order; the observers do not call back into the manager. -/

namespace RgbClock.Alarms

structure AlarmObserver where
  id : Nat
  name : String
  deriving DecidableEq

/-- `std::set<AlarmObserverIf*>`: every observer once, in the order of the addresses. -/
structure ObserverSet where
  inOrder : List AlarmObserver
  distinct : (inOrder.map AlarmObserver.id).Nodup

namespace ObserverSet

def empty : ObserverSet := ⟨[], List.nodup_nil⟩

theorem distinct_insertIdx {observers : List AlarmObserver} {observer : AlarmObserver} {place : Nat}
    (distinct : (observers.map AlarmObserver.id).Nodup)
    (new : observer.id ∉ observers.map AlarmObserver.id) (inside : place ≤ observers.length) :
    ((observers.insertIdx place observer).map AlarmObserver.id).Nodup := by
  have shuffled := (List.perm_insertIdx observer observers inside).map AlarmObserver.id
  rw [shuffled.nodup_iff, List.map_cons, List.nodup_cons]
  exact ⟨new, distinct⟩

/-- `place` is where the address of the new observer falls among the others. -/
def insert (set : ObserverSet) (observer : AlarmObserver) (place : Nat) : ObserverSet :=
  if fresh : observer.id ∉ set.inOrder.map AlarmObserver.id then
    ⟨set.inOrder.insertIdx (min place set.inOrder.length) observer,
      distinct_insertIdx set.distinct fresh (Nat.min_le_right _ _)⟩
  else set

def erase (set : ObserverSet) (id : Nat) : ObserverSet :=
  ⟨set.inOrder.filter (·.id ≠ id), set.distinct.sublist (List.filter_sublist.map _)⟩

end ObserverSet

structure NextAlarm where
  mIntervalMinutes : Int := 0
  mHour : Int := 0
  mMinutes : Int := 0
  deriving DecidableEq

def hourMinutes (hour minutes : Int) : String :=
  String.ofList (Decimal.padded hour ++ ':' :: Decimal.padded minutes)

def NextAlarm.to_string (next : NextAlarm) : String := hourMinutes next.mHour next.mMinutes

abbrev NextAlarmMap := String → Option NextAlarm

structure AlarmManager where
  mUnitList : List String
  mAlarmList : List Alarm
  mAlarmObservers : ObserverSet := .empty
  mCurrentEditor : String := ""
  mNextAlarmMap : NextAlarmMap := fun _ => none
  mSendAlarmSnooze : Bool := false
  mSendAlarmOff : Bool := false
  /-- The document that was last written to the alarm file, if the file exists. -/
  mAlarmFile : Option XMLDocument := none

/-- A call on an observer. A notification also carries the index of the alarm that caused it. -/
inductive Call where
  | alarmNotify (source : Nat) (observer : AlarmObserver) (volume : Int) (smooth : Bool)
  | alarmSnooze (observer : AlarmObserver)
  | alarmOff (observer : AlarmObserver)
  deriving DecidableEq

/-- The two calls of `localTime` that an iteration makes for one alarm. -/
structure Reads where
  -- In `minutesUntilFired`.
  first : LocalTime
  -- Where the signalled flag is reset.
  second : LocalTime

namespace Alarm

/-- The condition on an observer that both loops over the observers test. -/
def reaches (alarm : Alarm) (observer : AlarmObserver) : Bool :=
  observer.name = alarm.mUnit || alarm.mUnit = ""

def fires (alarm : Alarm) (time : LocalTime) : Bool :=
  minutesUntilFired alarm time = 0 && !alarm.mSignalled

def fired (alarm : Alarm) : Alarm :=
  { alarm with mSignalled := true, mEnabled := if alarm.oneTimeAlarm then false else alarm.mEnabled }

def resetSignalled (alarm : Alarm) (time : LocalTime) : Alarm :=
  if alarm.mHour ≠ time.mHour ∨ alarm.mMinutes ≠ time.mMin then { alarm with mSignalled := false } else alarm

end Alarm

structure Sweep where
  mNextAlarmMap : NextAlarmMap := fun _ => none
  saveAlm : Bool := false
  notified : List Call := []

def storeNext (alarm : Alarm) (minutesLeft : Int) (nextMap : NextAlarmMap) (observer : AlarmObserver) :
    NextAlarmMap :=
  let entry : NextAlarm := ⟨minutesLeft, alarm.mHour, alarm.mMinutes⟩
  match nextMap observer.name with
  | some known =>
    if known.mIntervalMinutes > minutesLeft then Function.update nextMap observer.name (some entry) else nextMap
  | none =>
    if minutesLeft < 23 * 60 then Function.update nextMap observer.name (some entry) else nextMap

def checkAlarm (observers : List AlarmObserver) (reads : Reads) (i : Nat) (alarm : Alarm) (sweep : Sweep) :
    Alarm × Sweep :=
  let minutesLeft := minutesUntilFired alarm reads.first
  let reached := observers.filter alarm.reaches
  let (alarm, sweep) :=
    if alarm.fires reads.first then
      (alarm.fired,
        { sweep with
          notified := sweep.notified ++ reached.map (.alarmNotify i · alarm.mVolume alarm.smooth)
          saveAlm := sweep.saveAlm || alarm.oneTimeAlarm })
    else if minutesLeft > 0 then
      (alarm, { sweep with mNextAlarmMap := reached.foldl (storeNext alarm minutesLeft) sweep.mNextAlarmMap })
    else (alarm, sweep)
  (alarm.resetSignalled reads.second, sweep)

def alarmLoop (observers : List AlarmObserver) (reads : Nat → Reads) :
    Nat → List Alarm → Sweep → List Alarm × Sweep
  | _, [], sweep => ([], sweep)
  | i, alarm :: rest, sweep =>
    let (checked, sweep) := checkAlarm observers (reads i) i alarm sweep
    let (later, sweep) := alarmLoop observers reads (i + 1) rest sweep
    (checked :: later, sweep)

namespace AlarmManager

def registerAlarmObserver (m : AlarmManager) (observer : AlarmObserver) (place : Nat) : AlarmManager :=
  { m with mAlarmObservers := m.mAlarmObservers.insert observer place }

def unRegisterAlarmObserver (m : AlarmManager) (id : Nat) : AlarmManager :=
  { m with mAlarmObservers := m.mAlarmObservers.erase id }

/-- The second component says whether the caller gets the list or a null pointer. -/
def editAlarms (m : AlarmManager) (unitName : String) : AlarmManager × Bool :=
  if m.mCurrentEditor = "" ∨ m.mCurrentEditor = unitName then ({ m with mCurrentEditor := unitName }, true)
  else (m, false)

/-- `saveAlarms()`. -/
def writeAlarms (m : AlarmManager) : AlarmManager :=
  { m with mAlarmFile := some (saveDocument m.mAlarmList) }

def saveAlarms (m : AlarmManager) (unitName : String) : AlarmManager :=
  if m.mCurrentEditor = unitName then writeAlarms { m with mCurrentEditor := "" } else m

def nextAlarm (m : AlarmManager) (unitName : String) : String :=
  match m.mNextAlarmMap unitName with
  | some next => if m.mCurrentEditor = "" then next.to_string else ""
  | none => ""

/-- `front()` and the successor are taken of a list with at least one unit. -/
def nextUnitName (mUnitList : List String) (currentUnitName : String) : String :=
  match mUnitList.dropWhile (· ≠ currentUnitName) with
  | [] => mUnitList.headD ""
  | _ :: after => if currentUnitName = "" then mUnitList.headD "" else after.headD ""

def sendAlarmSnooze (m : AlarmManager) : AlarmManager := { m with mSendAlarmSnooze := true }

def sendAlarmOff (m : AlarmManager) : AlarmManager := { m with mSendAlarmOff := true }

def sweepAlarms (m : AlarmManager) (reads : Nat → Reads) : List Alarm × Sweep :=
  alarmLoop m.mAlarmObservers.inOrder reads 0 m.mAlarmList {}

/-- The parked requests are sent to every observer, whatever its alarm is doing. -/
def broadcasts (m : AlarmManager) : List Call :=
  (if m.mSendAlarmSnooze then m.mAlarmObservers.inOrder.map .alarmSnooze else []) ++
  (if m.mSendAlarmOff then m.mAlarmObservers.inOrder.map .alarmOff else [])

def alarmThread (m : AlarmManager) (reads : Nat → Reads) : AlarmManager × List Call :=
  if m.mCurrentEditor = "" then
    let (alarms, sweep) := m.sweepAlarms reads
    let swept := { m with mAlarmList := alarms, mNextAlarmMap := sweep.mNextAlarmMap }
    let saved := if sweep.saveAlm then swept.writeAlarms else swept
    ({ saved with mSendAlarmSnooze := false, mSendAlarmOff := false }, sweep.notified ++ m.broadcasts)
  else (m, [])

end AlarmManager

end RgbClock.Alarms
