import Mathlib.Data.Fintype.Pi

/-! The touch keyboard of a unit: one pass of `Keyboard::readThread` shifts the newest
sample of each of the nine keys into that key's 16-bit history, derives the key's flags
from the history, and queues them with the keyboard state of that moment. -/

namespace RgbClock.Keys

def LONG_MASK : UInt16 := 0x80
def LONG_MASKREPEAT : UInt16 := 0x100
def MONITORED_KEYS : Nat := 9

abbrev Key := Fin MONITORED_KEYS

def KEY_LEFT : Key := ⟨0, by decide⟩
def KEY_CENTRAL_L : Key := ⟨1, by decide⟩
def KEY_CENTRAL_R : Key := ⟨2, by decide⟩
def KEY_UP : Key := ⟨3, by decide⟩
def KEY_DOWN : Key := ⟨4, by decide⟩
def KEY_REL1 : Key := ⟨5, by decide⟩
def KEY_REL2 : Key := ⟨6, by decide⟩
def KEY_REL3 : Key := ⟨7, by decide⟩
def KEY_REL4 : Key := ⟨8, by decide⟩

inductive KeyboardState where
  | stNormal | stAlarmEdit | stAlarmActive
  deriving DecidableEq

structure KeyInfo where
  mShortPressed : Bool := false
  mLongPress : Bool := false
  mReleased : Bool := false
  mPressed : Bool := false
  mRepeat : Bool := false
  deriving DecidableEq

structure KeyboardInfo where
  mKeyInfo : Key → KeyInfo
  mState : KeyboardState

def longPress (key : Key) (state : KeyboardState) : KeyboardInfo where
  mKeyInfo k := { mLongPress := k = key }
  mState := state

def shortPress (key : Key) (state : KeyboardState) : KeyboardInfo where
  mKeyInfo k := { mShortPressed := k = key }
  mState := state

inductive KeyboardObserver where
  | alarmClock | radio | mainboardControl | display | light
  deriving DecidableEq

structure Keyboard where
  mAttached : Bool := true
  mKeyboardState : KeyboardState := .stNormal
  mKeyHistory : Key → UInt16 := fun _ => 0
  mKeyboardQueue : List KeyboardInfo := []
  mKeyboardObservers : List KeyboardObserver := []

namespace Keyboard

/-- `std::set::insert`: an observer that is already registered stays registered once. -/
def registerKeyboardObserver (k : Keyboard) (observer : KeyboardObserver) : Keyboard :=
  { k with mKeyboardObservers := k.mKeyboardObservers.insert observer }

def unRegisterKeyboardObserver (k : Keyboard) (observer : KeyboardObserver) : Keyboard :=
  { k with mKeyboardObservers := k.mKeyboardObservers.filter (· ≠ observer) }

def keyboardState (k : Keyboard) (state : KeyboardState) : Keyboard :=
  { k with mKeyboardState := state }

end Keyboard

structure KeyPass where
  mKeyHistory : UInt16
  info : KeyInfo
  stateChange : Bool

def scanKey (history : UInt16) (bit : UInt16) : KeyPass :=
  -- Shift history 1 to the left, add 1 bit to the history.
  let h := (history <<< 1) ||| (bit &&& 0x01)
  -- Key just pressed, or released.
  let edge := (decide (h &&& 0b10 > 0)) != (decide (h &&& 0b01 > 0))
  let released := h &&& 0x01 = 0
  -- The comment in the source reads: at least two bits set.
  let counted := released ∧ h > 0b110
  let kept := if released then 0 else h
  let long := kept > LONG_MASK
  { mKeyHistory := kept
    info :=
      { mShortPressed := counted ∧ h < LONG_MASK
        mReleased := counted ∧ ¬ h < LONG_MASK
        mLongPress := long
        mRepeat := long ∧ kept > LONG_MASKREPEAT
        mPressed := h &&& 0x01 ≠ 0 }
    stateChange := edge || long }

/-- One read of the touch status: whether the bus transfer succeeded, and the word read. -/
structure Sample where
  ok : Bool := true
  keybValue : UInt16

/-- Bit `i` of the sample, which the loop brings to the front by `keybValue >>= 1`. -/
def Sample.bit (sample : Sample) (i : Key) : UInt16 :=
  (sample.keybValue >>> i.val.toUInt16) &&& 0x01

def Sample.pressed (sample : Sample) (i : Key) : Bool := sample.bit i ≠ 0

namespace Keyboard

def scan (k : Keyboard) (sample : Sample) (i : Key) : KeyPass :=
  scanKey (k.mKeyHistory i) (sample.bit i)

def readThread (k : Keyboard) (sample : Sample) : Keyboard :=
  let keyboardInfo : KeyboardInfo := ⟨fun i => (k.scan sample i).info, k.mKeyboardState⟩
  let stateChange := (List.finRange MONITORED_KEYS).any fun i => (k.scan sample i).stateChange
  { k with
    mAttached := k.mAttached && sample.ok
    mKeyHistory := fun i => (k.scan sample i).mKeyHistory
    mKeyboardQueue := if stateChange then k.mKeyboardQueue ++ [keyboardInfo] else k.mKeyboardQueue }

end Keyboard

end RgbClock.Keys
