import RgbClock.Devices.Arithmetic

/-! The luminance of a light. It is changed by its keys, by alarms, by its two timers and by callers of `up` and
`down`; what the LED shows and what is stored for the next time follow it. -/

namespace RgbClock.Devices
open Runs

namespace Light

/-- A step of the light itself, or a call of `up` or `down`. A dimmer step that comes late, after the light has
been switched off or on again, is such a call. -/
inductive Operation where
  | step (e : Step)
  | up (step : Int) (positive : 0 < step)
  | down (step : Int) (positive : 0 < step)

def operate (l : Light) : Operation → Light
  | .step e => l.step e
  | .up step _ => l.up step
  | .down step _ => l.down step

/-- The LED shows the luminance of the light, which is in the range of the dimmer or zero. -/
structure Shown (l : Light) : Prop extends l.Ranged where
  dark : l.mPowerOn = false → l.mCurrentLuminance = 0
  led : l.mRGBLed.mLum = l.mCurrentLuminance

variable {l : Light}

theorem shown_create (now : Int) : (create now).Shown := ⟨ranged_create now, fun _ => rfl, rfl⟩

/-- Where a step changes neither the power nor the luminance. -/
theorem Shown.same {l' : Light} (shown : l.Shown) (ranged : l'.Ranged) (on : l'.mPowerOn = l.mPowerOn)
    (luminance : l'.mCurrentLuminance = l.mCurrentLuminance) (led : l'.mRGBLed.mLum = l.mRGBLed.mLum) : l'.Shown where
  toRanged := ranged
  dark := by
    rw [on, luminance]
    exact shown.dark
  led := by
    rw [led, luminance]
    exact shown.led

theorem shown_pwrOn (shown : l.Shown) (slow : Bool) : (l.pwrOn slow).Shown := by
  have ranged := ranged_pwrOn shown.toRanged slow
  cases on : l.mPowerOn with
  | true =>
    apply shown.same ranged
    · simp [pwrOn, on]
    · simp [pwrOn, on]
    · simp [pwrOn, on]
  | false =>
    have lit : (l.pwrOn slow).mPowerOn = true ∧ (l.pwrOn slow).mRGBLed.mLum = (l.pwrOn slow).mCurrentLuminance := by
      unfold pwrOn
      simp only [on, Bool.false_eq_true, if_false]
      cases slow with
      | true => exact ⟨rfl, rfl⟩
      | false => exact ⟨rfl, rfl⟩
    refine ⟨ranged, fun off => ?_, lit.2⟩
    rw [lit.1] at off
    cases off

theorem shown_pwrOff (shown : l.Shown) : l.pwrOff.Shown := by
  have ranged := ranged_pwrOff shown.toRanged
  unfold pwrOff at ranged ⊢
  dsimp only at ranged ⊢
  split at ranged
  · rename_i fades
    rw [if_pos fades]
    exact shown.same ranged rfl rfl rfl
  · rename_i waits
    rw [if_neg waits]
    exact shown.same ranged rfl rfl rfl

theorem shown_up (shown : l.Shown) {step : Int} (upwards : 0 ≤ step) : (l.up step).Shown := by
  have follows : ((l.up step).mPowerOn = false → (l.up step).mCurrentLuminance = 0) ∧
      (l.up step).mRGBLed.mLum = (l.up step).mCurrentLuminance := by
    unfold up
    split
    · rename_i on
      exact ⟨fun off => absurd on (Bool.not_eq_true _ ▸ off), rfl⟩
    · exact ⟨shown.dark, shown.led⟩
  exact ⟨ranged_up shown.toRanged upwards, follows.1, follows.2⟩

theorem shown_down (shown : l.Shown) {step : Int} (downwards : 0 ≤ step) : (l.down step).Shown := by
  have follows : ((l.down step).mPowerOn = false → (l.down step).mCurrentLuminance = 0) ∧
      (l.down step).mRGBLed.mLum = (l.down step).mCurrentLuminance := by
    unfold down
    split
    · rename_i on
      dsimp only
      generalize (if l.mCurrentLuminance - step ≤ MIN_DIMMER_INTENSITY then MIN_DIMMER_INTENSITY
        else l.mCurrentLuminance - step) = lum
      split
      · exact ⟨fun _ => rfl, rfl⟩
      · exact ⟨fun off => absurd on (Bool.not_eq_true _ ▸ off), rfl⟩
    · exact ⟨shown.dark, shown.led⟩
  exact ⟨ranged_down shown.toRanged downwards, follows.1, follows.2⟩

theorem kept_shown : Kept Shown where
  mStep := fun _ shown => shown.step
  pwrOn := fun _ slow shown => shown_pwrOn shown slow
  pwrOff := fun _ shown => shown_pwrOff shown
  up := fun _ _ upwards shown => shown_up shown upwards
  down := fun _ _ downwards shown => shown_down shown downwards
  keys := fun _ _ _ shown => shown.same (kept_ranged.keys _ _ _ shown.toRanged) rfl rfl rfl
  counted := fun _ shown => shown.same (kept_ranged.counted _ shown.toRanged) rfl rfl rfl
  countdown := fun _ _ shown => shown.same (kept_ranged.countdown _ _ shown.toRanged) rfl rfl rfl

theorem shown_operate (shown : l.Shown) (operation : Operation) : (l.operate operation).Shown := by
  cases operation with
  | step e => exact kept_shown.step e shown
  | up step positive => exact shown_up shown positive.le
  | down step positive => exact shown_down shown positive.le

/-- In every order of the operations, a light is off exactly if its luminance is zero; else the luminance is in
the range of the dimmer, as the stored one always is, and the LED has been given the luminance that the light has. -/
theorem luminance_invariant (now : Int) (operations : List Operation) :
    let l := run operate (create now) operations
    (l.mPowerOn = false ↔ l.mCurrentLuminance = 0) ∧
      (l.mPowerOn = true → 40 ≤ l.mCurrentLuminance ∧ l.mCurrentLuminance ≤ 4000) ∧
      (40 ≤ l.mStoredLuminance ∧ l.mStoredLuminance ≤ 4000) ∧
      l.mRGBLed.mLum = l.mCurrentLuminance := by
  intro l
  have shown : l.Shown :=
    @run_invariant _ _ operate Shown (fun _ operation kept => shown_operate kept operation) _ operations (shown_create now)
  refine ⟨⟨shown.dark, fun zero => ?_⟩, shown.lit, shown.stored, shown.led⟩
  cases on : l.mPowerOn with
  | false => rfl
  | true =>
    have least : 40 ≤ l.mCurrentLuminance := (shown.lit on).1
    omega

end Light

end RgbClock.Devices
