import RgbClock.Devices.Timers
import RgbClock.Keys.Keyboard

/-! The light of a unit. -/

namespace RgbClock.Devices
open Keys

def MIN_DIMMER_INTENSITY : Int := 40
def SUNRISE_DIMMER_INTENSITY : Int := 1500
def MAX_DIMMER_INTENSITY : Int := 4000
def DIMMER_STEP : Int := 20
def LIGHT_AUTO_OFF_MINUTES : Int := 60
def LIGHT_SLOWUP_MINUTES : Int := 15

/-- The last luminance and the last power command that the LED got. -/
structure RgbLed where
  mLum : Int := 0
  mPower : Bool := false
  deriving DecidableEq

structure Light where
  mPowerOn : Bool := false
  mPowerDownInitiated : Bool := false
  mRGBLed : RgbLed := {}
  mCurrentLuminance : Int := 0
  mStoredLuminance : Int := SUNRISE_DIMMER_INTENSITY
  mLastLong : Int
  mDimDown : Bool := true
  mUpDownTimer : UpDownTimer := {}
  mAutoPowerOffTimer : AutoPowerOffTimer := {}
  deriving DecidableEq

namespace Light

def internalPwrOn (l : Light) : Light :=
  { l with mCurrentLuminance := MIN_DIMMER_INTENSITY, mRGBLed := ⟨MIN_DIMMER_INTENSITY, true⟩, mPowerOn := true }

def internalPwrOff (l : Light) : Light :=
  { l with mCurrentLuminance := 0, mRGBLed := ⟨0, false⟩, mPowerOn := false }

def initiateFastUp (l : Light) : Light :=
  let stored := if l.mStoredLuminance < MIN_DIMMER_INTENSITY then MIN_DIMMER_INTENSITY else l.mStoredLuminance
  let stored := if stored > MAX_DIMMER_INTENSITY then MAX_DIMMER_INTENSITY else stored
  { l with
    mStoredLuminance := stored
    mUpDownTimer := l.mUpDownTimer.initiateUp (stored - MIN_DIMMER_INTENSITY) 1 }

def initiateSlowUp (l : Light) : Light :=
  { l with mUpDownTimer :=
      l.mUpDownTimer.initiateUp (SUNRISE_DIMMER_INTENSITY - MIN_DIMMER_INTENSITY) (LIGHT_SLOWUP_MINUTES * 60) }

def initiateFastDown (l : Light) : Light :=
  { l with mUpDownTimer := l.mUpDownTimer.initiateDown l.mCurrentLuminance 1 }

def pwrOn (l : Light) (slow : Bool) : Light :=
  let l := { l with
    mAutoPowerOffTimer := l.mAutoPowerOffTimer.cancelAutoPowerOff
    mUpDownTimer := l.mUpDownTimer.cancelDimmer }
  if l.mPowerOn then l
  else
    let started := internalPwrOn { l with mPowerDownInitiated := false }
    let ramping := if slow then started.initiateSlowUp else started.initiateFastUp
    { ramping with mAutoPowerOffTimer := .startAutoPowerOff LIGHT_AUTO_OFF_MINUTES }

def pwrOff (l : Light) : Light :=
  let l := { l with mAutoPowerOffTimer := l.mAutoPowerOffTimer.cancelAutoPowerOff }
  if l.mPowerOn && !l.mPowerDownInitiated then
    initiateFastDown { l with
      mUpDownTimer := l.mUpDownTimer.cancelDimmer
      mStoredLuminance := l.mCurrentLuminance
      mPowerDownInitiated := true }
  else l

def pwrToggle (l : Light) : Light := if l.mPowerOn then l.pwrOff else l.pwrOn false

def up (l : Light) (step : Int) : Light :=
  if l.mPowerOn then
    let raised := l.mCurrentLuminance + step
    let lum := if raised > MAX_DIMMER_INTENSITY then MAX_DIMMER_INTENSITY else raised
    { l with mCurrentLuminance := lum, mRGBLed := { l.mRGBLed with mLum := lum } }
  else l

def down (l : Light) (step : Int) : Light :=
  if l.mPowerOn then
    let lowered := l.mCurrentLuminance - step
    let lum := if lowered ≤ MIN_DIMMER_INTENSITY then MIN_DIMMER_INTENSITY else lowered
    let l := { l with mCurrentLuminance := lum, mRGBLed := { l.mRGBLed with mLum := lum } }
    if lum ≤ MIN_DIMMER_INTENSITY ∧ l.mPowerDownInitiated then
      internalPwrOff { l with mUpDownTimer := l.mUpDownTimer.cancelDimmer }
    else l
  else l

/-- `now` is the value of `time(nullptr)`. -/
def keyboardPressed (l : Light) (now : Int) (keyboardInfo : KeyboardInfo) : Light :=
  let left := keyboardInfo.mKeyInfo KEY_CENTRAL_L
  let right := keyboardInfo.mKeyInfo KEY_CENTRAL_R
  if keyboardInfo.mState ≠ .stNormal then l
  else
    let l := if left.mShortPressed || right.mShortPressed then l.pwrToggle else l
    let l := if left.mReleased || right.mReleased then { l with mDimDown := !l.mDimDown } else l
    if left.mLongPress || right.mLongPress then
      if l.mPowerOn then
        let l := { l with mDimDown := l.mDimDown || decide (now - l.mLastLong > 5), mLastLong := now }
        if l.mDimDown then l.down DIMMER_STEP else l.up DIMMER_STEP
      else l.pwrOn true
    else l

def dimmerThread (l : Light) : Light :=
  let (timer, dimming) := l.mUpDownTimer.dimmerThread
  let l := { l with mUpDownTimer := timer }
  match dimming with
  | some (.up step) => l.up step
  | some (.down step) => l.down step
  | none => l

def autoOffThread (l : Light) : Light :=
  let (timer, expired) := l.mAutoPowerOffTimer.autoOffThread
  let l := { l with mAutoPowerOffTimer := timer }
  if expired then l.pwrOff else l

end Light

end RgbClock.Devices
