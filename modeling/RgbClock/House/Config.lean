import RgbClock.Alarms.Loading
import RgbClock.Lib.Iteration

/-! The settings file: the numbers of the house and the clock units, each with the addresses of its devices. An exception
leaves the load where it is, so that the units before it stay configured, and `errorFree` is then false. -/

namespace RgbClock
open Std Alarms

/-- An element below `settings`: its `name` attribute, its text and the elements below it. -/
structure SettingsElement where
  name : String
  nameAttribute : Option String := none
  text : Option String := none
  children : List XMLElement := []

structure SettingsDocument where
  root : String
  children : List SettingsElement

structure UnitConfig where
  mName : String := ""
  mLight : UInt8 := 0
  mKeyboard : UInt8 := 0
  mAmplifier : UInt8 := 0
  mLightSensor : UInt8 := 0
  mBackLight : UInt8 := 0
  mLCD : UInt8 := 0
  deriving DecidableEq

structure SystemConfig where
  mHardwareRevision : UInt8 := 0
  mRtc : UInt8 := 0
  mRadio : UInt8 := 0
  mCentralIO : UInt8 := 0
  mFrequencyId : Int := 0
  mServiceId : Int := 0
  mComponentId : Int := 0
  deriving DecidableEq

structure Config where
  mErrorFree : Bool := false
  mConfiguredUnits : TreeMap String UnitConfig := ∅
  mSystemConfig : SystemConfig := {}

/-! ### Reading -/

/-- `FirstChildElement` with its `GetText`. -/
def SettingsDocument.child (settings : SettingsDocument) (name : String) : Option (Option String) :=
  (settings.children.find? fun e => e.name = name).map SettingsElement.text

def SettingsElement.child (unit : SettingsElement) (name : String) : Option (Option String) :=
  (unit.children.find? fun e => e.name = name).map XMLElement.text

def getInteger (integerElement : Option (Option String)) (defaultVal : Int) : Except LoadFault Int :=
  match integerElement with
  | some (some text) => stoi text
  | some none => .error .nullText
  | none => .ok defaultVal

/-- The number is cut to its lowest byte. -/
def getByte (integerElement : Option (Option String)) : Except LoadFault UInt8 :=
  (getInteger integerElement 0).map UInt8.ofInt

/-- The first revision of the hardware has no backlight. -/
def readBackLight (mHardwareRevision : UInt8) (unit : SettingsElement) : Except LoadFault UInt8 :=
  if mHardwareRevision > 1 then getByte (unit.child "backlight_addr") else .ok 0

def readUnit (mHardwareRevision : UInt8) (name : String) (unit : SettingsElement) : Except LoadFault UnitConfig := do
  let mLight ← getByte (unit.child "light_addr")
  let mKeyboard ← getByte (unit.child "keyboard_addr")
  let mAmplifier ← getByte (unit.child "amplifier_addr")
  let mLCD ← getByte (unit.child "lcd_addr")
  let mLightSensor ← getByte (unit.child "lightsensor_addr")
  let mBackLight ← readBackLight mHardwareRevision unit
  return { mName := name, mLight, mKeyboard, mAmplifier, mLightSensor, mBackLight, mLCD }

def Config.units (config : Config) : List String := config.mConfiguredUnits.keys

/-! ### What is configured -/

section
variable (mHardwareRevision : UInt8)

/-- The element names no unit, or its addresses can be read. -/
def readable (unit : SettingsElement) : Bool :=
  match unit.nameAttribute with
  | none => true
  | some name => (readUnit mHardwareRevision name unit).isOk

end

end RgbClock
