import RgbClock.Devices.Timers
import RgbClock.Keys.Keyboard

/-! The radio of a unit and the DAB receiver that all radios share. The receiver runs its read
thread while its power counter says that some radio needs it; it publishes to the displays that
the radios have registered with it. -/

namespace RgbClock.Devices
open Keys

/-- The identity of a `ClockDisplay`: that of the unit it belongs to. -/
abbrev DisplayId := Nat

structure DABReceiver where
  mPowerCounter : Int := 0
  mReadThreadRunning : Bool := false
  mRadioObservers : List DisplayId := []
  deriving DecidableEq

namespace DABReceiver

def registerRadioObserver (dab : DABReceiver) (observer : DisplayId) : DABReceiver :=
  { dab with mRadioObservers := dab.mRadioObservers.insert observer }

def unRegisterRadioObserver (dab : DABReceiver) (observer : DisplayId) : DABReceiver :=
  { dab with mRadioObservers := dab.mRadioObservers.filter (· ≠ observer) }

def powerOn (dab : DABReceiver) : DABReceiver :=
  -- `internalPowerOn` starts the read thread.
  { dab with
    mReadThreadRunning := if dab.mPowerCounter = 0 then true else dab.mReadThreadRunning
    mPowerCounter := dab.mPowerCounter + 1 }

def powerOff (dab : DABReceiver) : DABReceiver :=
  -- `internalPowerOff` stops the read thread and waits for its end.
  { dab with
    mReadThreadRunning := if dab.mPowerCounter ≤ 1 then false else dab.mReadThreadRunning
    mPowerCounter := dab.mPowerCounter - 1 }

end DABReceiver

def AUTO_OFF_MINUTES : Int := 60
def STARTUP_VOLUME : UInt8 := 30
def SLOWUP_MINUTES : Int := 5
def SLOW_VOLUME_START_VOLUME : UInt8 := 5

inductive RadioState where
  | PwrOff | PwrOn
  deriving DecidableEq

structure Radio where
  mCurrentVolume : UInt8 := STARTUP_VOLUME
  mStoredVolume : UInt8 := 0
  mRadioObservers : List DisplayId := []
  mState : RadioState := .PwrOff
  mUpDownTimer : UpDownTimer := {}
  mAutoPowerOffTimer : AutoPowerOffTimer := {}
  /-- How often this radio has called `powerOn` on the receiver, less its calls of `powerOff`. The
  source does not keep this number. -/
  powerRefs : Int := 0

namespace Radio

def registerRadioObserver (r : Radio) (observer : DisplayId) : Radio :=
  { r with mRadioObservers := r.mRadioObservers.insert observer }

def unRegisterRadioObserver (r : Radio) (observer : DisplayId) : Radio :=
  { r with mRadioObservers := r.mRadioObservers.filter (· ≠ observer) }

def registerFMReceiver (r : Radio) (dab : DABReceiver) : DABReceiver :=
  r.mRadioObservers.foldl DABReceiver.registerRadioObserver dab

def unRegisterFMReceiver (r : Radio) (dab : DABReceiver) : DABReceiver :=
  r.mRadioObservers.foldl DABReceiver.unRegisterRadioObserver dab

def volumeByte (volume : Int) : UInt8 := (volume % 256).toNat.toUInt8

def setVolume (r : Radio) (smooth : Bool) (volume : Int) : Radio :=
  if volume > 0 then
    if smooth then { r with mUpDownTimer := r.mUpDownTimer.initiateUp volume (SLOWUP_MINUTES * 60) }
    else { r with mCurrentVolume := volumeByte volume }
  else { r with mCurrentVolume := r.mStoredVolume }

def pwrOn (r : Radio) (dab : DABReceiver) (smooth : Bool) (volume : Int) : Radio × DABReceiver :=
  let receiver := (r.registerFMReceiver dab).powerOn
  let started := { r with
    mState := .PwrOn
    mCurrentVolume := SLOW_VOLUME_START_VOLUME
    powerRefs := r.powerRefs + 1 }
  ({ started.setVolume smooth volume with mAutoPowerOffTimer := .startAutoPowerOff AUTO_OFF_MINUTES }, receiver)

def pwrOff (r : Radio) (dab : DABReceiver) : Radio × DABReceiver :=
  ({ r with
      mAutoPowerOffTimer := r.mAutoPowerOffTimer.cancelAutoPowerOff
      mUpDownTimer := r.mUpDownTimer.cancelDimmer
      mStoredVolume := r.mCurrentVolume
      mState := .PwrOff
      powerRefs := r.powerRefs - 1 },
    r.unRegisterFMReceiver dab.powerOff)

/-- `up` and `down` move the volume by one, whatever the step. -/
def up (r : Radio) : Radio := if r.mCurrentVolume < 99 then { r with mCurrentVolume := r.mCurrentVolume + 1 } else r

def down (r : Radio) : Radio := if r.mCurrentVolume > 1 then { r with mCurrentVolume := r.mCurrentVolume - 1 } else r

def volumeKeys (r : Radio) (keyboardInfo : KeyboardInfo) : Radio :=
  let upKey := (keyboardInfo.mKeyInfo KEY_UP).mShortPressed || (keyboardInfo.mKeyInfo KEY_UP).mLongPress
  let downKey := (keyboardInfo.mKeyInfo KEY_DOWN).mShortPressed || (keyboardInfo.mKeyInfo KEY_DOWN).mLongPress
  if (keyboardInfo.mState = .stNormal ∨ keyboardInfo.mState = .stAlarmActive) ∧ r.mState = .PwrOn then
    let r := if upKey then { r.up with mUpDownTimer := r.mUpDownTimer.cancelDimmer } else r
    if downKey then { r.down with mUpDownTimer := r.mUpDownTimer.cancelDimmer } else r
  else r

def powerKey (r : Radio) (dab : DABReceiver) (keyboardInfo : KeyboardInfo) : Radio × DABReceiver :=
  if keyboardInfo.mState = .stNormal ∧ (keyboardInfo.mKeyInfo KEY_LEFT).mShortPressed = true then
    match r.mState with
    | .PwrOff => r.pwrOn dab false 0
    | .PwrOn => r.pwrOff dab
  else (r, dab)

def keyboardPressed (r : Radio) (dab : DABReceiver) (keyboardInfo : KeyboardInfo) : Radio × DABReceiver :=
  (r.volumeKeys keyboardInfo).powerKey dab keyboardInfo

/-- The handler of the radio reaches `writeRegisters`, which informs the observers of the radio. -/
def writesRegisters (r : Radio) (keyboardInfo : KeyboardInfo) : Bool :=
  let upKey := (keyboardInfo.mKeyInfo KEY_UP).mShortPressed || (keyboardInfo.mKeyInfo KEY_UP).mLongPress
  let downKey := (keyboardInfo.mKeyInfo KEY_DOWN).mShortPressed || (keyboardInfo.mKeyInfo KEY_DOWN).mLongPress
  let volumeKeys := (keyboardInfo.mState = .stNormal ∨ keyboardInfo.mState = .stAlarmActive) ∧ r.mState = .PwrOn
  let raises := upKey && r.mCurrentVolume < 99
  let lowers := downKey && (if upKey then r.up else r).mCurrentVolume > 1
  (volumeKeys && (raises || lowers)) || (keyboardInfo.mState = .stNormal && (keyboardInfo.mKeyInfo KEY_LEFT).mShortPressed)

def dimmerThread (r : Radio) : Radio :=
  let (timer, dimming) := r.mUpDownTimer.dimmerThread
  let r := { r with mUpDownTimer := timer }
  match dimming with
  | some (.up _) => r.up
  | some (.down _) => r.down
  | none => r

def autoOffThread (r : Radio) (dab : DABReceiver) : Radio × DABReceiver :=
  let (timer, expired) := r.mAutoPowerOffTimer.autoOffThread
  let r := { r with mAutoPowerOffTimer := timer }
  if expired then r.pwrOff dab else (r, dab)

def destroy (r : Radio) (dab : DABReceiver) : Radio × DABReceiver :=
  let (r, dab) := if r.mState = .PwrOn then r.pwrOff dab else (r, dab)
  ({ r with
      mAutoPowerOffTimer := r.mAutoPowerOffTimer.cancelAutoPowerOff
      mUpDownTimer := r.mUpDownTimer.cancelDimmer },
    dab)

end Radio

end RgbClock.Devices
