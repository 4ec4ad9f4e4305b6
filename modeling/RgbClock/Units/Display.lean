import RgbClock.Alarms.Manager
import RgbClock.Keys.Keyboard

/-! The display of a unit with its alarm editor. What is drawn is left out; the calls on the
keyboard and on the alarm manager are kept. -/

namespace RgbClock.Units
open Keys Alarms

inductive ClockState where
  | clkNormal | clkAlarm | clkSnooze
  deriving DecidableEq

inductive DisplayState where
  | stNormal | stEditAlarms
  deriving DecidableEq

inductive EditState where
  | edUndefined | edListAlarms | edConfirmDelete | edEditAlarm
  deriving DecidableEq

inductive EditPos where
  | posEnable | posUnit | posHourT | posHourE | posMinT | posMinE | posOneTime
  | posDaySu | posDayMo | posDayTu | posDayWe | posDayTh | posDayFr | posDaySa | posVol
  deriving DecidableEq

def EDIT_TIMEOUT_MILLISECONDS : Int := 1 * 60 * 1000
def THREAD_INTERVAL_MS : Int := 250

structure ClockDisplay where
  mDisplayState : DisplayState := .stNormal
  mEditState : EditState := .edUndefined
  mEditPos : EditPos := .posEnable
  mRefreshThreadRunning : Bool := true
  mForceRefresh : Bool := false
  mUnitName : String
  mAlarmEditIndex : Nat := 0
  mConfirmDelete : Bool := false
  mClockState : ClockState := .clkNormal
  mUpdateEditDisplay : Bool := false
  mEditAlarmsTimer : Int := 0

/-! ### Editing one alarm -/

namespace EditPos

/-- The position to the right; none leaves the alarm. -/
def right (alarm : Alarm) : EditPos → Option EditPos
  | posEnable => some posUnit
  | posUnit => some posHourT
  | posHourT => some posHourE
  | posHourE => some posMinT
  | posMinT => some posMinE
  | posMinE => some posOneTime
  | posOneTime => some (if alarm.mAlarmType = .Daily then posDaySu else posVol)
  | posDaySu => some posDayMo
  | posDayMo => some posDayTu
  | posDayTu => some posDayWe
  | posDayWe => some posDayTh
  | posDayTh => some posDayFr
  | posDayFr => some posDaySa
  | posDaySa => some posVol
  | posVol => none

def left (alarm : Alarm) : EditPos → Option EditPos
  | posEnable => none
  | posUnit => some posEnable
  | posHourT => some posUnit
  | posHourE => some posHourT
  | posMinT => some posHourE
  | posMinE => some posMinT
  | posOneTime => some posMinE
  | posDaySu => some posOneTime
  | posDayMo => some posDaySu
  | posDayTu => some posDayMo
  | posDayWe => some posDayTu
  | posDayTh => some posDayWe
  | posDayFr => some posDayTh
  | posDaySa => some posDayFr
  | posVol => some (if alarm.mAlarmType = .Daily then posDaySa else posOneTime)

end EditPos

def lowered (value step : Int) : Int := if value - step < 0 then value - step + step else value - step

def raised (value step limit : Int) : Int := if value + step > limit then value + step - step else value + step

def flipDay (alarm : Alarm) (day : DayOfWeek) : Alarm :=
  { alarm with mDays := alarm.mDays ^^^ (1#7 <<< day.wday) }

/-- What both keys do at a position whose value has only one way to change. -/
def toggled (mUnitList : List String) (alarm : Alarm) : EditPos → Alarm
  | .posEnable => { alarm with mEnabled := !alarm.mEnabled }
  | .posUnit => { alarm with mUnit := AlarmManager.nextUnitName mUnitList alarm.mUnit }
  | .posDaySu => flipDay alarm .Sunday
  | .posDayMo => flipDay alarm .Monday
  | .posDayTu => flipDay alarm .Thuesday
  | .posDayWe => flipDay alarm .Wednesday
  | .posDayTh => flipDay alarm .Thursday
  | .posDayFr => flipDay alarm .Friday
  | .posDaySa => flipDay alarm .Saturday
  | _ => alarm

def keyDown (mUnitList : List String) (alarm : Alarm) : EditPos → Alarm
  | .posHourT => { alarm with mHour := lowered alarm.mHour 10 }
  | .posHourE => { alarm with mHour := lowered alarm.mHour 1 }
  | .posMinT => { alarm with mMinutes := lowered alarm.mMinutes 10 }
  | .posMinE => { alarm with mMinutes := lowered alarm.mMinutes 1 }
  | .posOneTime =>
    match alarm.mAlarmType with
    | .Daily => { alarm with mAlarmType := .OnTimeSmooth }
    | .OnTimeSmooth => { alarm with mAlarmType := .OnTimeLoud }
    | .OnTimeLoud => { alarm with mAlarmType := .Daily }
  | .posVol => { alarm with mVolume := lowered alarm.mVolume 1 }
  | pos => toggled mUnitList alarm pos

def keyUp (mUnitList : List String) (alarm : Alarm) : EditPos → Alarm
  | .posHourT => { alarm with mHour := raised alarm.mHour 10 23 }
  | .posHourE => { alarm with mHour := raised alarm.mHour 1 23 }
  | .posMinT => { alarm with mMinutes := raised alarm.mMinutes 10 59 }
  | .posMinE => { alarm with mMinutes := raised alarm.mMinutes 1 59 }
  | .posOneTime =>
    match alarm.mAlarmType with
    | .Daily => { alarm with mAlarmType := .OnTimeLoud }
    | .OnTimeLoud => { alarm with mAlarmType := .OnTimeSmooth }
    | .OnTimeSmooth => { alarm with mAlarmType := .Daily }
  | .posVol => { alarm with mVolume := raised alarm.mVolume 1 99 }
  | pos => toggled mUnitList alarm pos

/-! ### The keys of the editor -/

namespace ClockDisplay

def signalClockState (d : ClockDisplay) (state : ClockState) : ClockDisplay := { d with mClockState := state }

def moveTo (d : ClockDisplay) : Option EditPos → ClockDisplay
  | some pos => { d with mEditPos := pos, mUpdateEditDisplay := true }
  | none => { d with
      mEditPos := .posEnable, mEditState := .edListAlarms, mAlarmEditIndex := 0, mUpdateEditDisplay := true }

def listAlarmsKeys (d : ClockDisplay) (alarms : List Alarm) (info : KeyboardInfo) : ClockDisplay × List Alarm :=
  let longPress := fun key => (info.mKeyInfo key).mLongPress && !(info.mKeyInfo key).mRepeat
  if (longPress KEY_CENTRAL_L || longPress KEY_CENTRAL_R) && d.mAlarmEditIndex < alarms.length then
    ({ d with mEditState := .edConfirmDelete, mConfirmDelete := false, mUpdateEditDisplay := true }, alarms)
  else if (info.mKeyInfo KEY_CENTRAL_R).mShortPressed then
    ({ d with mEditPos := .posEnable, mEditState := .edEditAlarm, mUpdateEditDisplay := true },
      -- the entry behind the last alarm adds a new one
      if d.mAlarmEditIndex = alarms.length then alarms ++ [({} : Alarm)] else alarms)
  else if (info.mKeyInfo KEY_DOWN).mShortPressed then
    ({ d with mAlarmEditIndex := min (d.mAlarmEditIndex + 1) alarms.length, mUpdateEditDisplay := true }, alarms)
  else if (info.mKeyInfo KEY_UP).mShortPressed then
    ({ d with mAlarmEditIndex := d.mAlarmEditIndex - 1, mUpdateEditDisplay := true }, alarms)
  else (d, alarms)

def confirmDeleteKeys (d : ClockDisplay) (alarms : List Alarm) (info : KeyboardInfo) : ClockDisplay × List Alarm :=
  if (info.mKeyInfo KEY_DOWN).mShortPressed || (info.mKeyInfo KEY_UP).mShortPressed then
    ({ d with mConfirmDelete := !d.mConfirmDelete, mUpdateEditDisplay := true }, alarms)
  else if (info.mKeyInfo KEY_CENTRAL_L).mShortPressed || (info.mKeyInfo KEY_CENTRAL_R).mShortPressed then
    ({ d with
        mAlarmEditIndex := 0, mEditState := .edListAlarms, mEditPos := .posEnable, mUpdateEditDisplay := true },
      if d.mConfirmDelete then alarms.eraseIdx d.mAlarmEditIndex else alarms)
  else (d, alarms)

/-- The four keys act one after the other on the alarm that was selected before the first of them. -/
def editAlarmKeys (d : ClockDisplay) (mUnitList : List String) (alarms : List Alarm) (info : KeyboardInfo) :
    ClockDisplay × List Alarm :=
  match alarms[d.mAlarmEditIndex]? with
  | none => (d, alarms)
  | some selected =>
    let alarm := { selected with mSignalled := false }
    let moved := if (info.mKeyInfo KEY_CENTRAL_R).mShortPressed then d.moveTo (d.mEditPos.right alarm) else d
    let moved :=
      if (info.mKeyInfo KEY_CENTRAL_L).mShortPressed then moved.moveTo (moved.mEditPos.left alarm) else moved
    let down := (info.mKeyInfo KEY_DOWN).mShortPressed
    let up := (info.mKeyInfo KEY_UP).mShortPressed
    let alarm := if down then keyDown mUnitList alarm moved.mEditPos else alarm
    let alarm := if up then keyUp mUnitList alarm moved.mEditPos else alarm
    ({ moved with mUpdateEditDisplay := moved.mUpdateEditDisplay || down || up },
      alarms.set d.mAlarmEditIndex alarm)

/-- The keys of the editor. A branch for one state leaves the states of the others untouched. -/
def editKeys (d : ClockDisplay) (mUnitList : List String) (alarms : List Alarm) (info : KeyboardInfo) :
    ClockDisplay × List Alarm :=
  match d.mEditState with
  | .edListAlarms => d.listAlarmsKeys alarms info
  | .edConfirmDelete => d.confirmDeleteKeys alarms info
  | .edEditAlarm => d.editAlarmKeys mUnitList alarms info
  | .edUndefined => (d, alarms)

end ClockDisplay

/-! ### The display with the keyboard and the alarm manager it calls -/

structure Desk where
  mDisplay : ClockDisplay
  mKeyboard : Keyboard
  mAlarmManager : AlarmManager

namespace Desk

def exitEditAlarms (s : Desk) : Desk where
  mKeyboard := s.mKeyboard.keyboardState .stNormal
  mAlarmManager := s.mAlarmManager.saveAlarms s.mDisplay.mUnitName
  mDisplay := { s.mDisplay with mDisplayState := .stNormal, mEditState := .edListAlarms, mForceRefresh := true }

def enterEditAlarms (s : Desk) : Desk :=
  let (manager, granted) := s.mAlarmManager.editAlarms s.mDisplay.mUnitName
  if granted then
    { mAlarmManager := manager
      mKeyboard := s.mKeyboard.keyboardState .stAlarmEdit
      mDisplay := { s.mDisplay with
        mAlarmEditIndex := 0
        mDisplayState := .stEditAlarms
        mEditState := .edListAlarms
        mEditPos := .posEnable
        mUpdateEditDisplay := true } }
  else { s with mAlarmManager := manager }

/-- A long press of `KEY_LEFT` opens and closes the editor, by the keyboard state in the message. -/
def longPressLeft (s : Desk) (info : KeyboardInfo) : Desk :=
  if (info.mKeyInfo KEY_LEFT).mLongPress && !(info.mKeyInfo KEY_LEFT).mRepeat then
    match info.mState with
    | .stNormal => s.enterEditAlarms
    | .stAlarmEdit => s.exitEditAlarms
    | .stAlarmActive => s
  else s

def editorKeys (s : Desk) (info : KeyboardInfo) : Desk :=
  if s.mDisplay.mDisplayState = .stEditAlarms then
    let display := { s.mDisplay with mEditAlarmsTimer := EDIT_TIMEOUT_MILLISECONDS }
    let (manager, granted) := s.mAlarmManager.editAlarms s.mDisplay.mUnitName
    if granted then
      let (edited, alarms) := display.editKeys manager.mUnitList manager.mAlarmList info
      { s with mDisplay := edited, mAlarmManager := { manager with mAlarmList := alarms } }
    else { s with mDisplay := display, mAlarmManager := manager }
  else s

def keyboardPressed (s : Desk) (info : KeyboardInfo) : Desk := (s.longPressLeft info).editorKeys info

def updateEditDisplay (s : Desk) : Desk :=
  { s with
    mAlarmManager := (s.mAlarmManager.editAlarms s.mDisplay.mUnitName).1
    mDisplay := { s.mDisplay with mUpdateEditDisplay := false } }

def refreshThread (s : Desk) : Desk :=
  if s.mDisplay.mDisplayState = .stNormal then { s with mDisplay := { s.mDisplay with mForceRefresh := false } }
  else
    let s := if s.mDisplay.mUpdateEditDisplay then s.updateEditDisplay else s
    let left := s.mDisplay.mEditAlarmsTimer - THREAD_INTERVAL_MS
    let s := { s with mDisplay := { s.mDisplay with mEditAlarmsTimer := left } }
    if left ≤ 0 then s.exitEditAlarms else s

/-- The destructor. The refresh thread is joined, so it makes the pass it is waiting for. -/
def destroyDisplay (s : Desk) : Desk :=
  let s := { s with mKeyboard := s.mKeyboard.unRegisterKeyboardObserver .display }
  let s := s.refreshThread
  { s with mDisplay := { s.mDisplay with mRefreshThreadRunning := false } }

end Desk

end RgbClock.Units
