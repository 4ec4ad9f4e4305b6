import Mathlib.Data.Int.Order.Basic

/-! The two helper threads of a radio or a light. A pass is taken whole, with its sleep and both tests of the flag: a pass
that is past its second test when the flag is cleared has been taken before. -/

namespace RgbClock.Devices

structure UpDownTimer where
  mThreadRunning : Bool := false
  mStep : Int := 0
  mTotalSteps : Int := 0
  mThreadIntervalms : Int := 0
  mDown : Bool := false
  -- The steps left in the local variable of `dimmerThread`.
  totalSteps : Int := 0
  deriving DecidableEq

inductive Dimming where
  | up (step : Int)
  | down (step : Int)
  deriving DecidableEq

namespace UpDownTimer

/-- The quotients are taken in `double`, which is exact enough for them at these sizes. -/
def calculate (t : UpDownTimer) (steps timeSeconds : Int) : UpDownTimer :=
  if steps > timeSeconds * 1000 then
    { t with mTotalSteps := steps, mStep := -(-steps / (timeSeconds * 1000)), mThreadIntervalms := 1 }
  else { t with mTotalSteps := steps, mStep := 1, mThreadIntervalms := (timeSeconds * 1000).tdiv steps }

def startDimmerThread (t : UpDownTimer) : UpDownTimer :=
  { t with mThreadRunning := true, totalSteps := t.mTotalSteps }

def initiateUp (t : UpDownTimer) (target timeSeconds : Int) : UpDownTimer :=
  startDimmerThread { t.calculate target timeSeconds with mDown := false }

def initiateDown (t : UpDownTimer) (current timeSeconds : Int) : UpDownTimer :=
  startDimmerThread { t.calculate current timeSeconds with mDown := true }

def cancelDimmer (t : UpDownTimer) : UpDownTimer := { t with mThreadRunning := false }

def dimmerThread (t : UpDownTimer) : UpDownTimer × Option Dimming :=
  if t.mThreadRunning && t.totalSteps > 0 then
    -- Down is forever, until stopped.
    if t.mDown then (t, some (.down t.mStep))
    else ({ t with totalSteps := t.totalSteps - t.mStep }, some (.up t.mStep))
  else (t, none)

/-- A step is never rounded to nothing. -/
theorem calculate_mStep_pos (t : UpDownTimer) (steps : Int) {timeSeconds : Int} (time : 0 < timeSeconds) :
    0 < (t.calculate steps timeSeconds).mStep := by
  unfold calculate
  split
  · rename_i many
    have below : -steps / (timeSeconds * 1000) < 0 := Int.ediv_neg_of_neg_of_pos (by omega) (by omega)
    show 0 < -(-steps / (timeSeconds * 1000))
    omega
  · exact Int.one_pos

end UpDownTimer

structure AutoPowerOffTimer where
  mAutoOffThreadRunning : Bool := false
  -- The local variable of `autoOffThread`.
  countDownSeconds : Int := 0
  deriving DecidableEq

namespace AutoPowerOffTimer

def startAutoPowerOff (minutes : Int) : AutoPowerOffTimer := ⟨true, minutes * 60⟩

def cancelAutoPowerOff (t : AutoPowerOffTimer) : AutoPowerOffTimer := { t with mAutoOffThreadRunning := false }

/-- One pass of `autoOffThread`; the second component says whether it calls `pwrOff` on its device. -/
def autoOffThread (t : AutoPowerOffTimer) : AutoPowerOffTimer × Bool :=
  if t.mAutoOffThreadRunning then
    if t.countDownSeconds - 1 = 0 then (⟨false, 0⟩, true)
    else ({ t with countDownSeconds := t.countDownSeconds - 1 }, false)
  else (t, false)

end AutoPowerOffTimer

end RgbClock.Devices
