import Mathlib.Data.List.Perm.Basic
import RgbClock.Units.AlarmClock

/-! A key message on its way through the observers of a keyboard. The observers are kept in the order
of their addresses; each of them decides by the keyboard state in the message. -/

namespace RgbClock.Units
open Keys Alarms Devices

/-! ### The observers -/

def RL_U17 : Nat := 0
def RL_U16 : Nat := 1
def RL_U15 : Nat := 2
def RL_U14 : Nat := 3

/-- The relais of the mainboard. -/
structure MainboardControl where
  mHwRevision : UInt8
  mRelaisBus : BitVec 8 := 0
  deriving DecidableEq

namespace MainboardControl

def setRelais (bus : BitVec 8) (relais : Nat) (on : Bool) : BitVec 8 :=
  if on then bus ||| (1#8 <<< relais) else bus &&& ~~~(1#8 <<< relais)

def keyboardPressed (m : MainboardControl) (info : KeyboardInfo) : MainboardControl :=
  if m.mHwRevision = 1 then m
  else
    let bus := setRelais m.mRelaisBus RL_U17 (info.mKeyInfo KEY_REL1).mPressed
    let bus := setRelais bus RL_U16 (info.mKeyInfo KEY_REL2).mPressed
    let bus := setRelais bus RL_U15 (info.mKeyInfo KEY_REL3).mPressed
    { m with mRelaisBus := setRelais bus RL_U14 (info.mKeyInfo KEY_REL4).mPressed }

end MainboardControl

def USERACTIVITY_TIMER : UInt16 := 10

/-- What the radio has last told the display. -/
structure RadioInfo where
  mVolume : UInt8 := 0
  mRadioOn : Bool := false
  deriving DecidableEq

/-- One unit with everything that its keyboard handlers can reach. -/
structure Station where
  clock : AlarmClock
  mRadioInfo : RadioInfo := {}
  mUserActivityTimer : UInt16 := 0
  mMainboardControl : MainboardControl
  mAlarmManager : AlarmManager
  mDabReceiver : DABReceiver := {}

namespace Station

def radioStateUpdate (s : Station) (radio : Radio) : RadioInfo :=
  if s.clock.id ∈ radio.mRadioObservers then ⟨radio.mCurrentVolume, radio.mState = .PwrOn⟩ else s.mRadioInfo

/-- `now` is the value of `time(nullptr)`. -/
def keyboardPressed (now : Int) (info : KeyboardInfo) (s : Station) : KeyboardObserver → Station
  | .alarmClock => { s with mAlarmManager := s.clock.keyboardPressed s.mAlarmManager info }
  | .radio =>
    let (radio, receiver) := s.clock.mRadio.keyboardPressed s.mDabReceiver info
    { s with
      clock := { s.clock with mRadio := radio }
      mDabReceiver := receiver
      mRadioInfo := if s.clock.mRadio.writesRegisters info then s.radioStateUpdate radio else s.mRadioInfo }
  | .mainboardControl => { s with mMainboardControl := s.mMainboardControl.keyboardPressed info }
  | .display =>
    let desk := Desk.keyboardPressed ⟨s.clock.mDisplay, s.clock.mKeyboard, s.mAlarmManager⟩ info
    { s with
      clock := { s.clock with mDisplay := desk.mDisplay, mKeyboard := desk.mKeyboard }
      mAlarmManager := desk.mAlarmManager
      mUserActivityTimer := USERACTIVITY_TIMER }
  | .light => { s with clock := { s.clock with mLight := s.clock.mLight.map (·.keyboardPressed now info) } }

end Station

/-! ### The order of the observers -/

/-- The requests that the alarm clock parks at the alarm manager. -/
def parked (m : AlarmManager) (off snooze : Bool) : AlarmManager :=
  { m with mSendAlarmOff := m.mSendAlarmOff || off, mSendAlarmSnooze := m.mSendAlarmSnooze || snooze }

/-- What the alarm clock parks does not depend on the alarm manager. -/
theorem keyboardPressed_parks (c : AlarmClock) (info : KeyboardInfo) :
    ∃ off snooze, ∀ m, c.keyboardPressed m info = parked m off snooze := by
  have kept : ∀ m, m = parked m false false := by
    intro m
    simp [parked]
  have off : ∀ m, m.sendAlarmOff = parked m true false := by
    intro m
    simp [parked, AlarmManager.sendAlarmOff]
  have snooze : ∀ m, m.sendAlarmSnooze = parked m false true := by
    intro m
    simp [parked, AlarmManager.sendAlarmSnooze]
  have both : ∀ m, m.sendAlarmOff.sendAlarmSnooze = parked m true true := by
    intro m
    simp [parked, AlarmManager.sendAlarmOff, AlarmManager.sendAlarmSnooze]
  unfold AlarmClock.keyboardPressed
  dsimp only
  split_ifs
  all_goals
    first
    | exact ⟨false, false, kept⟩
    | exact ⟨true, false, off⟩
    | exact ⟨false, true, snooze⟩
    | exact ⟨true, true, both⟩

theorem parked_mCurrentEditor (m : AlarmManager) (off snooze : Bool) :
    (parked m off snooze).mCurrentEditor = m.mCurrentEditor := rfl

theorem editAlarms_parked (m : AlarmManager) (off snooze : Bool) (unitName : String) :
    (parked m off snooze).editAlarms unitName =
      (parked (m.editAlarms unitName).1 off snooze, (m.editAlarms unitName).2) := by
  unfold AlarmManager.editAlarms
  by_cases free : m.mCurrentEditor = "" ∨ m.mCurrentEditor = unitName
  · rw [parked_mCurrentEditor, if_pos free, if_pos free]
    rfl
  · rw [parked_mCurrentEditor, if_neg free, if_neg free]

theorem saveAlarms_parked (m : AlarmManager) (off snooze : Bool) (unitName : String) :
    (parked m off snooze).saveAlarms unitName = parked (m.saveAlarms unitName) off snooze := by
  unfold AlarmManager.saveAlarms
  by_cases mine : m.mCurrentEditor = unitName
  · rw [parked_mCurrentEditor, if_pos mine, if_pos mine]
    rfl
  · rw [parked_mCurrentEditor, if_neg mine, if_neg mine]

namespace Desk

def park (s : Desk) (off snooze : Bool) : Desk := { s with mAlarmManager := parked s.mAlarmManager off snooze }

variable (s : Desk) (info : KeyboardInfo) (off snooze : Bool)

theorem exitEditAlarms_park : (s.park off snooze).exitEditAlarms = s.exitEditAlarms.park off snooze := by
  simp only [exitEditAlarms, park, saveAlarms_parked]

theorem enterEditAlarms_park : (s.park off snooze).enterEditAlarms = s.enterEditAlarms.park off snooze := by
  simp only [enterEditAlarms, park, editAlarms_parked]
  split <;> rfl

theorem longPressLeft_park : (s.park off snooze).longPressLeft info = (s.longPressLeft info).park off snooze := by
  unfold longPressLeft
  split
  · cases info.mState with
    | stNormal => exact enterEditAlarms_park s off snooze
    | stAlarmEdit => exact exitEditAlarms_park s off snooze
    | stAlarmActive => rfl
  · rfl

theorem editorKeys_park : (s.park off snooze).editorKeys info = (s.editorKeys info).park off snooze := by
  simp only [editorKeys, park, editAlarms_parked]
  split
  · split <;> rfl
  · rfl

/-- The display does not look at the parked requests. -/
theorem keyboardPressed_park : (s.park off snooze).keyboardPressed info = (s.keyboardPressed info).park off snooze := by
  rw [keyboardPressed, longPressLeft_park, editorKeys_park]
  rfl

end Desk

namespace Station

theorem clock_display_comm (now : Int) (info : KeyboardInfo) (s : Station) :
    keyboardPressed now info (keyboardPressed now info s .alarmClock) .display =
      keyboardPressed now info (keyboardPressed now info s .display) .alarmClock := by
  obtain ⟨off, snooze, parks⟩ := keyboardPressed_parks s.clock info
  have parked := Desk.keyboardPressed_park ⟨s.clock.mDisplay, s.clock.mKeyboard, s.mAlarmManager⟩ info off snooze
  have unmoved : ∀ (m : AlarmManager) (display : ClockDisplay) (keyboard : Keyboard),
      AlarmClock.keyboardPressed { s.clock with mDisplay := display, mKeyboard := keyboard } m info =
        s.clock.keyboardPressed m info := fun _ _ _ => rfl
  simp only [keyboardPressed, unmoved, parks]
  rw [Desk.park] at parked
  rw [parked]
  rfl

/-- Two observers can be called in either order: no two of them write the same part of the unit, and only
the alarm clock and the display share one, the alarm manager. -/
theorem keyboardPressed_comm (now : Int) (info : KeyboardInfo) (s : Station) (first second : KeyboardObserver) :
    keyboardPressed now info (keyboardPressed now info s first) second =
      keyboardPressed now info (keyboardPressed now info s second) first := by
  cases first with
  | alarmClock => cases second <;> first | rfl | exact clock_display_comm now info s
  | display => cases second <;> first | rfl | exact (clock_display_comm now info s).symm
  | radio | mainboardControl | light => cases second <;> rfl

/-- The observers of a keyboard can be called in any order. -/
theorem dispatch_order (now : Int) (info : KeyboardInfo) (s : Station) {first second : List KeyboardObserver}
    (reordered : first.Perm second) :
    first.foldl (keyboardPressed now info) s = second.foldl (keyboardPressed now info) s :=
  reordered.foldl_eq' (fun x _ y _ z => keyboardPressed_comm now info z x y) s

/-- A unit that has just been started. -/
def started (unitName : String) : Station where
  clock := .create 0 unitName
  mMainboardControl := { mHwRevision := 2 }
  mAlarmManager := { mUnitList := [unitName], mAlarmList := [] }

/-- A long press of the left key: the display opens the editor before or after the other four are called. -/
theorem display_first_or_last :
    let info : KeyboardInfo := ⟨fun key => { mLongPress := key = KEY_LEFT }, .stNormal⟩
    [.display, .alarmClock, .radio, .mainboardControl, .light].foldl (keyboardPressed 0 info) (started "Living") =
      [.alarmClock, .radio, .mainboardControl, .light, .display].foldl (keyboardPressed 0 info) (started "Living") :=
  dispatch_order 0 _ _ (by decide)

end Station

end RgbClock.Units
