import RgbClock.Devices.Radio
import RgbClock.Devices.Light
import RgbClock.Units.Display

/-! One clock unit, and the handlers that reach its radio. A handler is one atomic step on the unit
and on the DAB receiver that the units share. -/

namespace RgbClock.Units
open Keys Alarms Devices

def SNOOZE_TIME : Nat := 9 * 60
def ALARM_TIME : Nat := 30 * 60

structure AlarmClock where
  -- The identity of the unit: of the observer at the alarm manager and of its display.
  id : Nat
  mKeyboard : Keyboard := {}
  mRadio : Radio := {}
  mDisplay : ClockDisplay
  mLight : Option Light := none
  mClockState : ClockState := .clkNormal
  mAlarmMaintenanceThreadRunning : Bool := false
  mAlarmCounter : Nat := 0
  mAlarmVolume : Int := 0
  mAlarmOff : Bool := false
  -- False once the destructor has run.
  alive : Bool := true

namespace AlarmClock

def name (c : AlarmClock) : String := c.mDisplay.mUnitName

def create (id : Nat) (unitName : String) : AlarmClock :=
  let keyboard : Keyboard := {}
  { id
    mKeyboard := (((keyboard.registerKeyboardObserver .display).registerKeyboardObserver .alarmClock
      ).registerKeyboardObserver .radio).registerKeyboardObserver .mainboardControl
    mRadio := Radio.registerRadioObserver {} id
    mDisplay := { mUnitName := unitName } }

def registerLight (c : AlarmClock) (light : Light) : AlarmClock :=
  { c with mLight := some light, mKeyboard := c.mKeyboard.registerKeyboardObserver .light }

def unRegisterLight (c : AlarmClock) : AlarmClock :=
  { c with mLight := none, mKeyboard := c.mKeyboard.unRegisterKeyboardObserver .light }

def keyboardPressed (c : AlarmClock) (m : AlarmManager) (info : KeyboardInfo) : AlarmManager :=
  let left := info.mKeyInfo KEY_LEFT
  if c.mClockState = .clkAlarm ∨ c.mClockState = .clkSnooze then
    let m := if left.mShortPressed || left.mLongPress then m.sendAlarmOff else m
    if (info.mKeyInfo KEY_CENTRAL_L).mShortPressed || (info.mKeyInfo KEY_CENTRAL_R).mShortPressed then
      if c.mClockState = .clkAlarm then m.sendAlarmSnooze else m
    else m
  else m

def startAlarm (c : AlarmClock) (dab : DABReceiver) (smooth : Bool) : AlarmClock × DABReceiver :=
  let (radio, receiver) := c.mRadio.pwrOn dab smooth c.mAlarmVolume
  ({ c with
      mClockState := .clkAlarm
      mDisplay := c.mDisplay.signalClockState .clkAlarm
      mAlarmCounter := 0
      mKeyboard := c.mKeyboard.keyboardState .stAlarmActive
      mRadio := radio
      mLight := c.mLight.map (·.pwrOn smooth) },
    receiver)

def endAlarm (c : AlarmClock) (dab : DABReceiver) : AlarmClock × DABReceiver :=
  let (radio, receiver) := c.mRadio.pwrOff dab
  ({ c with
      mAlarmOff := false
      mClockState := .clkNormal
      mDisplay := c.mDisplay.signalClockState .clkNormal
      mKeyboard := c.mKeyboard.keyboardState .stNormal
      mRadio := radio
      mLight := c.mLight.map (·.pwrOff)
      mAlarmMaintenanceThreadRunning := false },
    receiver)

def alarmMaintenanceThread (c : AlarmClock) (dab : DABReceiver) : AlarmClock × DABReceiver :=
  let c := { c with mAlarmCounter := c.mAlarmCounter + 1 }
  -- If the alarm needs to be turned off but we are in snooze state, force the state to alarm.
  let c := if c.mAlarmOff ∧ c.mClockState = .clkSnooze then { c with mClockState := .clkAlarm } else c
  match c.mClockState with
  | .clkNormal => (c, dab)
  | .clkAlarm => if c.mAlarmCounter ≥ ALARM_TIME ∨ c.mAlarmOff then c.endAlarm dab else (c, dab)
  | .clkSnooze => if c.mAlarmCounter ≥ SNOOZE_TIME then c.startAlarm dab false else (c, dab)

/-- A running thread is joined, so it makes the pass it is waiting for. -/
def stopAlarmMaintenanceThread (c : AlarmClock) (dab : DABReceiver) : AlarmClock × DABReceiver :=
  let stopped := { c with mAlarmMaintenanceThreadRunning := false }
  if c.mAlarmMaintenanceThreadRunning then stopped.alarmMaintenanceThread dab else (stopped, dab)

def startAlarmMaintenanceThread (c : AlarmClock) (dab : DABReceiver) : AlarmClock × DABReceiver :=
  let (c, dab) := c.stopAlarmMaintenanceThread dab
  ({ c with mAlarmMaintenanceThreadRunning := true }, dab)

def alarmNotify (c : AlarmClock) (dab : DABReceiver) (volume : Int) (smooth : Bool) : AlarmClock × DABReceiver :=
  let (c, dab) := startAlarm { c with mAlarmVolume := volume, mAlarmOff := false } dab smooth
  c.startAlarmMaintenanceThread dab

def alarmSnooze (c : AlarmClock) (dab : DABReceiver) : AlarmClock × DABReceiver :=
  if c.mClockState = .clkAlarm then
    let (radio, receiver) := c.mRadio.pwrOff dab
    ({ c with
        mClockState := .clkSnooze
        mDisplay := c.mDisplay.signalClockState .clkSnooze
        mRadio := radio
        mLight := c.mLight.map (·.pwrOff)
        mAlarmCounter := 0 },
      receiver)
  else (c, dab)

def alarmOff (c : AlarmClock) : AlarmClock := { c with mAlarmOff := true }

def tick (c : AlarmClock) (dab : DABReceiver) : AlarmClock × DABReceiver :=
  if c.mAlarmMaintenanceThreadRunning then c.alarmMaintenanceThread dab else (c, dab)

/-- The destructor of a unit: its body, then the members from the last to the first. The
maintenance thread is neither stopped nor joined. -/
def destroy (c : AlarmClock) (m : AlarmManager) (dab : DABReceiver) :
    AlarmClock × AlarmManager × DABReceiver :=
  let keyboard := ((c.mKeyboard.unRegisterKeyboardObserver .mainboardControl).unRegisterKeyboardObserver .radio
    ).unRegisterKeyboardObserver .alarmClock
  let keyboard := if c.mLight.isSome then keyboard.unRegisterKeyboardObserver .light else keyboard
  let desk := Desk.destroyDisplay ⟨c.mDisplay, keyboard, m.unRegisterAlarmObserver c.id⟩
  let (radio, receiver) := (c.mRadio.unRegisterRadioObserver c.id).destroy dab
  ({ c with
      mDisplay := desk.mDisplay, mKeyboard := desk.mKeyboard, mRadio := radio, mLight := none, alive := false },
    desk.mAlarmManager, receiver)

/-- The pass that `alarmNotify` waits for only counts: the alarm has just been started. -/
theorem alarmNotify_eq (c : AlarmClock) (dab : DABReceiver) (volume : Int) (smooth : Bool) :
    c.alarmNotify dab volume smooth =
      let started := startAlarm { c with mAlarmVolume := volume, mAlarmOff := false } dab smooth
      ({ started.1 with
          mAlarmMaintenanceThreadRunning := true
          mAlarmCounter := if c.mAlarmMaintenanceThreadRunning then 1 else 0 },
        started.2) := by
  unfold alarmNotify startAlarmMaintenanceThread stopAlarmMaintenanceThread
  cases running : c.mAlarmMaintenanceThreadRunning with
  | false => simp [startAlarm]
  | true => simp [startAlarm, alarmMaintenanceThread, ALARM_TIME]

end AlarmClock

/-! ### Units that share the receiver -/

/-- The handlers of one unit that change the unit or the receiver without the alarm manager. -/
inductive Handler where
  | alarmNotify (volume : Int) (smooth : Bool)
  | alarmSnooze
  | alarmOff
  | maintenance
  | radioKeys (info : KeyboardInfo)
  | radioAutoOff
  | radioDimmer
  | lightKeys (now : Int) (info : KeyboardInfo)
  | lightAutoOff
  | lightDimmer

namespace Handler

def called : Handler → Bool
  | .alarmNotify _ _ | .alarmSnooze | .alarmOff => true
  | _ => false

def maintains : Handler → Bool
  | .maintenance => true
  | _ => false

end Handler

def AlarmClock.handle (c : AlarmClock) (dab : DABReceiver) : Handler → AlarmClock × DABReceiver
  | .alarmNotify volume smooth => c.alarmNotify dab volume smooth
  | .alarmSnooze => c.alarmSnooze dab
  | .alarmOff => (c.alarmOff, dab)
  | .maintenance => c.tick dab
  | .radioKeys info =>
    let (radio, receiver) := c.mRadio.keyboardPressed dab info
    ({ c with mRadio := radio }, receiver)
  | .radioAutoOff =>
    let (radio, receiver) := c.mRadio.autoOffThread dab
    ({ c with mRadio := radio }, receiver)
  | .radioDimmer => ({ c with mRadio := c.mRadio.dimmerThread }, dab)
  | .lightKeys now info => ({ c with mLight := c.mLight.map (·.keyboardPressed now info) }, dab)
  | .lightAutoOff => ({ c with mLight := c.mLight.map (·.autoOffThread) }, dab)
  | .lightDimmer => ({ c with mLight := c.mLight.map (·.dimmerThread) }, dab)

structure Home where
  units : List AlarmClock
  mDabReceiver : DABReceiver := {}

structure Step where
  unit : Nat
  handler : Handler

def Home.handle (h : Home) (step : Step) : Home :=
  match h.units[step.unit]? with
  | some c =>
    let (c, dab) := c.handle h.mDabReceiver step.handler
    { units := h.units.set step.unit c, mDabReceiver := dab }
  | none => h

end RgbClock.Units
