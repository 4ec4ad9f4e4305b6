import RgbClock.Devices.Volume
import Mathlib.Algebra.BigOperators.Group.List.Basic
import Mathlib.Data.Rat.Floor
import Mathlib.Logic.Function.Iterate
import Mathlib.Tactic.FieldSimp
import Mathlib.Tactic.Linarith

/-! A ramp of the dimmer from its start to its end. The step is rounded up and the interval down, so the ramp
reaches its target and keeps within its time. -/

namespace RgbClock.Devices

def Dimming.step : Dimming → Int
  | .up step => step
  | .down step => step

/-- A ramp with the calls its device has got and the milliseconds its thread has slept. -/
structure Ramp where
  timer : UpDownTimer
  calls : List Dimming := []
  sleptms : Int := 0

/-- One pass of the loop of `dimmerThread`, which nobody cancels. -/
def Ramp.pass (r : Ramp) : Ramp :=
  if r.timer.Stopped then r
  else
    { timer := r.timer.dimmerThread.1
      calls := r.calls ++ r.timer.dimmerThread.2.toList
      sleptms := r.sleptms + r.timer.mThreadIntervalms }

/-! ### The two regimes -/

namespace UpDownTimer

variable {steps timeSeconds : Int}

theorem initiateUp_totalSteps (t : UpDownTimer) : (t.initiateUp steps timeSeconds).totalSteps = steps := by
  show (t.calculate steps timeSeconds).mTotalSteps = steps
  unfold calculate
  split
  · rfl
  · rfl

/-- In both regimes, as many intervals as there are steps to make fit into the time. -/
theorem calculate_in_time (t : UpDownTimer) (some : 1 ≤ steps) (time : 1 ≤ timeSeconds) {n : Int}
    (needed : (n - 1) * (t.calculate steps timeSeconds).mStep < steps) :
    n * (t.calculate steps timeSeconds).mThreadIntervalms ≤ 1000 * timeSeconds := by
  revert needed
  unfold calculate
  split
  · -- The step has been rounded up; so there are at most as many steps as milliseconds.
    intro needed
    show n * 1 ≤ 1000 * timeSeconds
    change (n - 1) * -(-steps / (timeSeconds * 1000)) < steps at needed
    generalize division : -(-steps / (timeSeconds * 1000)) = mStep at needed
    have enough : steps ≤ mStep * (timeSeconds * 1000) := by
      have rounded := Int.ediv_mul_le (-steps) (b := timeSeconds * 1000) (by omega)
      nlinarith
    have positive : 0 < mStep := by nlinarith
    have fewer : n - 1 < timeSeconds * 1000 := by nlinarith
    omega
  · -- Every step is one, and the interval has been rounded down.
    intro needed
    show n * (timeSeconds * 1000).tdiv steps ≤ 1000 * timeSeconds
    change (n - 1) * 1 < steps at needed
    have short : (timeSeconds * 1000).tdiv steps * steps ≤ timeSeconds * 1000 := by
      rw [Int.tdiv_eq_ediv_of_nonneg (by omega)]
      exact Int.ediv_mul_le _ (by omega)
    have interval : 0 ≤ (timeSeconds * 1000).tdiv steps := Int.tdiv_nonneg (by omega) (by omega)
    nlinarith

end UpDownTimer

/-! ### The passes -/

namespace Ramp

/-- The ramp after `n` passes that have found steps to make. -/
def after (started : UpDownTimer) (n : Nat) : Ramp where
  timer := { started with totalSteps := started.totalSteps - n * started.mStep }
  calls := List.replicate n (.up started.mStep)
  sleptms := n * started.mThreadIntervalms

variable {started : UpDownTimer}

theorem after_stopped (running : started.mThreadRunning = true) (n : Nat) :
    (after started n).timer.Stopped ↔ started.totalSteps ≤ n * started.mStep := by
  simp [after, UpDownTimer.Stopped, running]

theorem pass_after (running : started.mThreadRunning = true) (up : started.mDown = false) {n : Nat}
    (left : n * started.mStep < started.totalSteps) : (after started n).pass = after started (n + 1) := by
  have going : ¬ (after started n).timer.Stopped := by
    rw [after_stopped running]
    exact not_le.mpr left
  have turn : (after started n).timer.dimmerThread =
      ({ started with totalSteps := started.totalSteps - n * started.mStep - started.mStep }, some (.up started.mStep)) := by
    have busy := not_not.mp going
    unfold UpDownTimer.dimmerThread
    rw [if_pos (Bool.and_eq_true_iff.mpr ⟨busy.1, decide_eq_true busy.2⟩)]
    simp [after, up]
  unfold pass
  rw [if_neg going, turn]
  simp only [after, Option.toList_some, List.replicate_succ', Ramp.mk.injEq, UpDownTimer.mk.injEq, true_and]
  push_cast
  constructor
  · ring
  · ring

theorem passes_after (running : started.mThreadRunning = true) (up : started.mDown = false)
    (forward : 0 < started.mStep) {n : Nat} (left : ((n : Int) - 1) * started.mStep < started.totalSteps) :
    pass^[n] { timer := started } = after started n := by
  induction n with
  | zero => simp [after]
  | succ n ih =>
    push_cast at left
    rw [add_sub_cancel_right] at left
    rw [Function.iterate_succ_apply', ih (by nlinarith)]
    exact pass_after running up left

theorem passes_stay {r : Ramp} (ended : r.timer.Stopped) (n : Nat) : pass^[n] r = r := by
  apply Function.iterate_fixed
  exact if_pos ended

/-- How many steps of a size a distance takes. -/
theorem ceil_steps {total size : Int} (positive : 0 < size) :
    total ≤ ⌈(total : ℚ) / size⌉ * size ∧ (⌈(total : ℚ) / size⌉ - 1) * size < total := by
  have divisor : (0 : ℚ) < size := by exact_mod_cast positive
  constructor
  · have above := Int.le_ceil ((total : ℚ) / size)
    rw [div_le_iff₀ divisor] at above
    exact_mod_cast above
  · have below := Int.ceil_lt_add_one ((total : ℚ) / size)
    rw [← sub_lt_iff_lt_add, lt_div_iff₀ divisor] at below
    exact_mod_cast below

end Ramp

open Ramp in
/-- A ramp that nobody cancels calls its device as often as the steps take, always with the same step, and then
ends. It comes to its target, passes it by less than one step, and does not sleep longer than its time. -/
theorem initiateUp_ramp (t : UpDownTimer) {steps timeSeconds : Int} (some : 1 ≤ steps) (time : 1 ≤ timeSeconds) :
    let started := t.initiateUp steps timeSeconds
    ∃ n : Nat, (n : Int) = ⌈(steps : ℚ) / started.mStep⌉ ∧
      (∀ k, (pass^[k] { timer := started }).timer.Stopped ↔ n ≤ k) ∧
      (∀ k, n ≤ k → (pass^[k] { timer := started }).calls = List.replicate n (.up started.mStep) ∧
        steps ≤ ((pass^[k] { timer := started }).calls.map Dimming.step).sum ∧
        ((pass^[k] { timer := started }).calls.map Dimming.step).sum < steps + started.mStep ∧
        (pass^[k] { timer := started }).sleptms ≤ 1000 * timeSeconds) := by
  intro started
  have forward : 0 < started.mStep := t.calculate_mStep_pos steps (by omega)
  have target : started.totalSteps = steps := t.initiateUp_totalSteps
  obtain ⟨reaches, needed⟩ := @ceil_steps steps _ forward
  have many : 0 ≤ ⌈(steps : ℚ) / started.mStep⌉ := by nlinarith
  obtain ⟨n, count⟩ := Int.eq_ofNat_of_zero_le many
  rw [count] at reaches needed
  have passes {k : Nat} (within : k ≤ n) : pass^[k] { timer := started } = after started k := by
    apply passes_after rfl rfl forward
    rw [target]
    have fewer : (k : Int) ≤ n := Int.ofNat_le.mpr within
    nlinarith
  have ended : (after started n).timer.Stopped := by
    rw [after_stopped rfl, target]
    exact reaches
  have stays {k : Nat} (beyond : n ≤ k) : pass^[k] { timer := started } = after started n := by
    obtain ⟨more, rfl⟩ := Nat.exists_eq_add_of_le beyond
    rw [Nat.add_comm, Function.iterate_add_apply, passes le_rfl, passes_stay ended]
  refine ⟨n, count.symm, fun k => ?_, fun k beyond => ?_⟩
  · by_cases within : k < n
    · rw [passes within.le, after_stopped rfl, target]
      refine iff_of_false ?_ (not_le.mpr within)
      have fewer : (k : Int) + 1 ≤ n := Int.ofNat_le.mpr within
      nlinarith
    · rw [stays (not_lt.mp within)]
      exact iff_of_true ended (not_lt.mp within)
  · rw [stays beyond]
    have total : ((after started n).calls.map Dimming.step).sum = n * started.mStep := by
      simp [after, Dimming.step]
    rw [total]
    exact ⟨rfl, reaches, by linarith, t.calculate_in_time some time needed⟩

/-- Ten thousand steps in three seconds: 2500 steps of four. -/
theorem fast_ramp :
    let started := ({} : UpDownTimer).initiateUp 10000 3
    ∃ n : Nat, (n : Int) = ⌈((10000 : Int) : ℚ) / started.mStep⌉ ∧
      (∀ k, (Ramp.pass^[k] { timer := started }).timer.Stopped ↔ n ≤ k) ∧
      (∀ k, n ≤ k → (Ramp.pass^[k] { timer := started }).calls = List.replicate n (.up started.mStep) ∧
        10000 ≤ ((Ramp.pass^[k] { timer := started }).calls.map Dimming.step).sum ∧
        ((Ramp.pass^[k] { timer := started }).calls.map Dimming.step).sum < 10000 + started.mStep ∧
        (Ramp.pass^[k] { timer := started }).sleptms ≤ 1000 * 3) :=
  initiateUp_ramp {} (by decide) (by decide)

end RgbClock.Devices
