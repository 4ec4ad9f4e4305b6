import Mathlib.Logic.Function.Iterate
import RgbClock.Devices.Radio
import RgbClock.Lib.Run

/-! The volume that a radio comes to when it is turned on. A smooth start counts as many steps as the
volume that was asked for, from a start volume that is not zero; and a loud start leaves a ramp that is
still running alone. -/

namespace RgbClock.Devices
open Keys Runs

/-- The dimmer thread has left its loop, or leaves it with its next test. -/
def UpDownTimer.Stopped (t : UpDownTimer) : Prop := ¬ (t.mThreadRunning = true ∧ 0 < t.totalSteps)

instance (t : UpDownTimer) : Decidable t.Stopped := inferInstanceAs (Decidable (¬ (_ ∧ _)))

namespace Radio

inductive Event where
  | pwrOn (smooth : Bool) (volume : Int)
  | pwrOff
  | keyboardPressed (info : KeyboardInfo)
  | dimmerThread
  | autoOffThread
  /-- Other radios change the receiver that they share with this one. -/
  | receiver (dab : DABReceiver)

def step (s : Radio × DABReceiver) : Event → Radio × DABReceiver
  | .pwrOn smooth volume => s.1.pwrOn s.2 smooth volume
  | .pwrOff => s.1.pwrOff s.2
  | .keyboardPressed info => s.1.keyboardPressed s.2 info
  | .dimmerThread => (s.1.dimmerThread, s.2)
  | .autoOffThread => s.1.autoOffThread s.2
  | .receiver dab => (s.1, dab)

/-- With nothing but its dimmer thread at work, the radio comes to rest at this volume. -/
def ComesTo (r : Radio) (volume : Int) : Prop :=
  (∃ n, (dimmerThread^[n] r).mUpDownTimer.Stopped) ∧
    ∀ n, (dimmerThread^[n] r).mUpDownTimer.Stopped → ((dimmerThread^[n] r).mCurrentVolume.toNat : Int) = volume

/-- The timer of a radio only ever goes up, in positive steps. -/
structure Rising (t : UpDownTimer) : Prop where
  up : t.mDown = false
  step : t.mThreadRunning = true → 0 < t.mStep

/-- The ramp makes `k` more steps, each of them one up to the loudest. -/
structure Settles (r : Radio) (k : Nat) : Prop where
  volume : ∀ n, (dimmerThread^[n] r).mCurrentVolume.toNat = min 99 (r.mCurrentVolume.toNat + min n k)
  stopped : ∀ n, (dimmerThread^[n] r).mUpDownTimer.Stopped ↔ k ≤ n

variable {r : Radio}

/-! ### One pass of the ramp -/

theorem up_volume (audible : r.mCurrentVolume.toNat ≤ 99) :
    r.up.mCurrentVolume.toNat = min 99 (r.mCurrentVolume.toNat + 1) := by
  unfold up
  split
  · rename_i quiet
    have small : r.mCurrentVolume.toNat < 99 := UInt8.lt_iff_toNat_lt.mp quiet
    show (r.mCurrentVolume + 1).toNat = _
    rw [UInt8.toNat_add]
    have one : (1 : UInt8).toNat = 1 := rfl
    omega
  · rename_i loud
    have large : ¬ r.mCurrentVolume.toNat < 99 := fun less => loud (UInt8.lt_iff_toNat_lt.mpr less)
    omega

theorem dimmerThread_stopped (stopped : r.mUpDownTimer.Stopped) : r.dimmerThread = r := by
  have idle : (r.mUpDownTimer.mThreadRunning && decide (r.mUpDownTimer.totalSteps > 0)) = false := by
    rw [Bool.eq_false_iff]
    intro both
    simp only [Bool.and_eq_true, decide_eq_true_eq] at both
    exact stopped both
  unfold dimmerThread UpDownTimer.dimmerThread
  rw [idle]
  rfl

theorem dimmerThread_rising (rising : Rising r.mUpDownTimer) (running : ¬ r.mUpDownTimer.Stopped) :
    r.dimmerThread =
      up { r with mUpDownTimer :=
        { r.mUpDownTimer with totalSteps := r.mUpDownTimer.totalSteps - r.mUpDownTimer.mStep } } := by
  have busy : (r.mUpDownTimer.mThreadRunning && decide (r.mUpDownTimer.totalSteps > 0)) = true := by
    simp only [Bool.and_eq_true, decide_eq_true_eq]
    exact not_not.mp running
  have timer : r.mUpDownTimer.dimmerThread =
      ({ r.mUpDownTimer with totalSteps := r.mUpDownTimer.totalSteps - r.mUpDownTimer.mStep },
        some (.up r.mUpDownTimer.mStep)) := by
    unfold UpDownTimer.dimmerThread
    rw [if_pos busy, if_neg (by rw [rising.up]; exact Bool.false_ne_true)]
  unfold dimmerThread
  rw [timer]

theorem up_mUpDownTimer : r.up.mUpDownTimer = r.mUpDownTimer := by
  unfold up
  split <;> rfl

/-- From a stopped timer nothing moves; a running one makes a step and goes on. -/
theorem settles_zero (stopped : r.mUpDownTimer.Stopped) (audible : r.mCurrentVolume.toNat ≤ 99) : Settles r 0 := by
  have still : ∀ n, dimmerThread^[n] r = r := fun n => Function.iterate_fixed (dimmerThread_stopped stopped) n
  refine ⟨fun n => ?_, fun n => ?_⟩
  · rw [still n]
    omega
  · rw [still n]
    exact iff_of_true stopped (Nat.zero_le n)

theorem settles_succ {k : Nat} (running : ¬ r.mUpDownTimer.Stopped) (audible : r.mCurrentVolume.toNat ≤ 99)
    (raised : r.dimmerThread.mCurrentVolume.toNat = min 99 (r.mCurrentVolume.toNat + 1))
    (later : Settles r.dimmerThread k) : Settles r (k + 1) := by
  refine ⟨fun n => ?_, fun n => ?_⟩
  · cases n with
    | zero =>
      show r.mCurrentVolume.toNat = _
      omega
    | succ n =>
      rw [Function.iterate_succ_apply, later.volume n, raised]
      omega
  · cases n with
    | zero => exact iff_of_false running (by omega)
    | succ n =>
      rw [Function.iterate_succ_apply, later.stopped n]
      omega

/-- A ramp ends, after as many steps as it has left if it goes one by one. -/
theorem settles_of_rising (rising : Rising r.mUpDownTimer) (audible : r.mCurrentVolume.toNat ≤ 99) :
    ∃ k, Settles r k ∧ (r.mUpDownTimer.Stopped ↔ k = 0) ∧
      (¬ r.mUpDownTimer.Stopped → r.mUpDownTimer.mStep = 1 → k = r.mUpDownTimer.totalSteps.toNat) := by
  -- the steps that are left get fewer with every pass
  induction size : r.mUpDownTimer.totalSteps.toNat using Nat.strongRecOn generalizing r with
  | ind left ih =>
    by_cases stopped : r.mUpDownTimer.Stopped
    · exact ⟨0, settles_zero stopped audible, iff_of_true stopped rfl, fun running => absurd stopped running⟩
    · obtain ⟨running, more⟩ := not_not.mp stopped
      have positive := rising.step running
      have pass := dimmerThread_rising rising stopped
      have timer : r.dimmerThread.mUpDownTimer =
          { r.mUpDownTimer with totalSteps := r.mUpDownTimer.totalSteps - r.mUpDownTimer.mStep } := by
        rw [pass, up_mUpDownTimer]
      have raised : r.dimmerThread.mCurrentVolume.toNat = min 99 (r.mCurrentVolume.toNat + 1) := by
        rw [pass]
        exact up_volume audible
      have risingThen : Rising r.dimmerThread.mUpDownTimer := by
        rw [timer]
        exact ⟨rising.up, rising.step⟩
      have fewer : r.dimmerThread.mUpDownTimer.totalSteps.toNat < left := by
        rw [timer]
        dsimp only
        omega
      obtain ⟨k, later, zero, single⟩ := ih _ fewer risingThen (by omega) rfl
      refine ⟨k + 1, settles_succ stopped audible raised later, iff_of_false stopped (by omega), fun _ one => ?_⟩
      rw [timer] at zero single
      by_cases last : r.mUpDownTimer.totalSteps = 1
      · have ended : UpDownTimer.Stopped
            { r.mUpDownTimer with totalSteps := r.mUpDownTimer.totalSteps - r.mUpDownTimer.mStep } := by
          unfold UpDownTimer.Stopped
          dsimp only
          omega
        rw [zero.mp ended]
        omega
      · have goesOn : ¬ UpDownTimer.Stopped
            { r.mUpDownTimer with totalSteps := r.mUpDownTimer.totalSteps - r.mUpDownTimer.mStep } := by
          unfold UpDownTimer.Stopped
          dsimp only
          rw [not_not]
          exact ⟨running, by omega⟩
        rw [single goesOn one]
        dsimp only
        omega

theorem Settles.comesTo_iff {k : Nat} (settles : Settles r k) (volume : Int) :
    r.ComesTo volume ↔ (min 99 (r.mCurrentVolume.toNat + k) : Nat) = volume := by
  unfold ComesTo
  constructor
  · intro given
    obtain ⟨-, rests⟩ := given
    have rest := rests k ((settles.stopped k).mpr (Nat.le_refl k))
    rw [settles.volume k, Nat.min_self] at rest
    exact rest
  · intro reached
    refine ⟨⟨k, (settles.stopped k).mpr (Nat.le_refl k)⟩, fun n stopped => ?_⟩
    have late := (settles.stopped n).mp stopped
    rw [settles.volume n, Nat.min_eq_right late]
    exact reached

/-! ### The timer of every radio goes up -/

theorem rising_cancelDimmer {t : UpDownTimer} (rising : Rising t) : Rising t.cancelDimmer :=
  ⟨rising.up, fun running => absurd running Bool.false_ne_true⟩

theorem rising_initiateUp (t : UpDownTimer) (target : Int) {timeSeconds : Int} (time : 0 < timeSeconds) :
    Rising (t.initiateUp target timeSeconds) := by
  refine ⟨rfl, fun _ => ?_⟩
  exact t.calculate_mStep_pos target time

theorem initiateUp_slowly (t : UpDownTimer) {target timeSeconds : Int} (slow : target ≤ timeSeconds * 1000) :
    (t.initiateUp target timeSeconds).mStep = 1 ∧ (t.initiateUp target timeSeconds).totalSteps = target := by
  have single : ¬ target > timeSeconds * 1000 := by omega
  unfold UpDownTimer.initiateUp UpDownTimer.calculate
  rw [if_neg single]
  exact ⟨rfl, rfl⟩

theorem rising_pwrOn (rising : Rising r.mUpDownTimer) (dab : DABReceiver) (smooth : Bool) (volume : Int) :
    Rising (r.pwrOn dab smooth volume).1.mUpDownTimer := by
  unfold pwrOn setVolume
  dsimp only
  split
  · split
    · exact rising_initiateUp r.mUpDownTimer volume (by decide)
    · exact rising
  · exact rising

theorem rising_volumeKeys (rising : Rising r.mUpDownTimer) (info : KeyboardInfo) :
    Rising (r.volumeKeys info).mUpDownTimer := by
  unfold volumeKeys
  dsimp only
  split
  · split
    · exact rising_cancelDimmer (by split; exact rising_cancelDimmer rising; exact rising)
    · split
      · exact rising_cancelDimmer rising
      · exact rising
  · exact rising

theorem rising_keyboardPressed (rising : Rising r.mUpDownTimer) (dab : DABReceiver) (info : KeyboardInfo) :
    Rising (r.keyboardPressed dab info).1.mUpDownTimer := by
  have keys := rising_volumeKeys rising info
  unfold keyboardPressed powerKey
  split
  · split
    · exact rising_pwrOn keys dab false 0
    · exact rising_cancelDimmer keys
  · exact keys

theorem rising_dimmerThread (rising : Rising r.mUpDownTimer) : Rising r.dimmerThread.mUpDownTimer := by
  by_cases stopped : r.mUpDownTimer.Stopped
  · rw [dimmerThread_stopped stopped]
    exact rising
  · rw [dimmerThread_rising rising stopped, up_mUpDownTimer]
    exact ⟨rising.up, rising.step⟩

theorem rising_autoOffThread (rising : Rising r.mUpDownTimer) (dab : DABReceiver) :
    Rising (r.autoOffThread dab).1.mUpDownTimer := by
  unfold autoOffThread
  dsimp only
  split
  · exact rising_cancelDimmer rising
  · exact rising

theorem rising_step (s : Radio × DABReceiver) (event : Event) (rising : Rising s.1.mUpDownTimer) :
    Rising (step s event).1.mUpDownTimer := by
  cases event with
  | pwrOn smooth volume => exact rising_pwrOn rising s.2 smooth volume
  | pwrOff => exact rising_cancelDimmer rising
  | keyboardPressed info => exact rising_keyboardPressed rising s.2 info
  | dimmerThread => exact rising_dimmerThread rising
  | autoOffThread => exact rising_autoOffThread rising s.2
  | receiver dab => exact rising

theorem rising_run (dab : DABReceiver) (history : List Event) :
    Rising (run step ({}, dab) history).1.mUpDownTimer := by
  have start : Rising ({} : Radio).mUpDownTimer := ⟨rfl, fun running => absurd running Bool.false_ne_true⟩
  exact @run_invariant _ _ step (fun s => Rising s.1.mUpDownTimer) rising_step _ history start

/-! ### Where the volume ends -/

theorem setVolume_smooth {volume : Int} (asked : volume > 0) :
    r.setVolume true volume = { r with mUpDownTimer := r.mUpDownTimer.initiateUp volume (SLOWUP_MINUTES * 60) } := by
  unfold setVolume
  rw [if_pos asked, if_pos rfl]

theorem setVolume_loud {volume : Int} (asked : volume > 0) :
    r.setVolume false volume = { r with mCurrentVolume := volumeByte volume } := by
  unfold setVolume
  rw [if_pos asked, if_neg Bool.false_ne_true]

/-- A smooth start goes one by one from its start volume, as often as the volume that was asked for. -/
theorem comesTo_smooth (r : Radio) (rising : Rising r.mUpDownTimer) (dab : DABReceiver) {volume : Int}
    (least : 1 ≤ volume) (most : volume ≤ 99) :
    (r.pwrOn dab true volume).1.ComesTo volume ↔ volume = 99 := by
  have started : (r.pwrOn dab true volume).1.mUpDownTimer = r.mUpDownTimer.initiateUp volume (SLOWUP_MINUTES * 60) ∧
      (r.pwrOn dab true volume).1.mCurrentVolume = SLOW_VOLUME_START_VOLUME := by
    have asked : volume > 0 := by omega
    unfold pwrOn
    dsimp only
    rw [setVolume_smooth asked]
    exact ⟨rfl, rfl⟩
  obtain ⟨timer, soft⟩ := started
  have start : (r.pwrOn dab true volume).1.mCurrentVolume.toNat = 5 := by
    rw [soft]
    rfl
  have slow : volume ≤ SLOWUP_MINUTES * 60 * 1000 := by
    unfold SLOWUP_MINUTES
    omega
  obtain ⟨one, total⟩ := initiateUp_slowly r.mUpDownTimer slow
  have running : ¬ (r.pwrOn dab true volume).1.mUpDownTimer.Stopped := by
    unfold UpDownTimer.Stopped
    rw [timer, total, not_not]
    exact ⟨rfl, by omega⟩
  obtain ⟨k, settles, -, single⟩ :=
    settles_of_rising (rising_pwrOn rising dab true volume) (by omega : _ ≤ 99)
  have steps := single running (by rw [timer]; exact one)
  rw [timer, total] at steps
  rw [settles.comesTo_iff, start, steps]
  omega

/-- A loud start is at its volume at once; a ramp that goes on makes at least one more step. -/
theorem comesTo_loud (r : Radio) (rising : Rising r.mUpDownTimer) (dab : DABReceiver) {volume : Int}
    (least : 1 ≤ volume) (most : volume ≤ 99) :
    (r.pwrOn dab false volume).1.ComesTo volume ↔ volume = 99 ∨ r.mUpDownTimer.Stopped := by
  have started : (r.pwrOn dab false volume).1.mUpDownTimer = r.mUpDownTimer ∧
      (r.pwrOn dab false volume).1.mCurrentVolume = volumeByte volume := by
    have asked : volume > 0 := by omega
    unfold pwrOn
    dsimp only
    rw [setVolume_loud asked]
    exact ⟨rfl, rfl⟩
  obtain ⟨timer, loud⟩ := started
  have start : ((r.pwrOn dab false volume).1.mCurrentVolume.toNat : Int) = volume := by
    rw [loud]
    unfold volumeByte
    rw [Nat.toUInt8, UInt8.toNat_ofNat']
    omega
  obtain ⟨k, settles, zero, -⟩ :=
    settles_of_rising (rising_pwrOn rising dab false volume) (by omega : _ ≤ 99)
  rw [timer] at zero
  rw [settles.comesTo_iff, zero]
  omega

/-- Whatever the radio has been through, the volume that it is asked for is the one that it comes to
when that is the loudest, or when a loud start finds no ramp that is still running. -/
theorem pwrOn_comesTo_iff (dab : DABReceiver) (history : List Event) (smooth : Bool) (volume : Int)
    (least : 1 ≤ volume) (most : volume ≤ 99) :
    (step (run step ({}, dab) history) (.pwrOn smooth volume)).1.ComesTo volume ↔
      volume = 99 ∨ (smooth = false ∧ (run step ({}, dab) history).1.mUpDownTimer.Stopped) := by
  have rising := rising_run dab history
  show ((run step ({}, dab) history).1.pwrOn (run step ({}, dab) history).2 smooth volume).1.ComesTo volume ↔ _
  cases smooth with
  | true =>
    rw [comesTo_smooth _ rising _ least most]
    simp
  | false =>
    rw [comesTo_loud _ rising _ least most]
    simp

/-- Asked for 30 from the start volume of 5, the ramp ends at 35. -/
theorem smooth_start_too_loud :
    ¬ ∀ (dab : DABReceiver) (history : List Event) (smooth : Bool) (volume : Int), 1 ≤ volume → volume ≤ 99 →
      (step (run step ({}, dab) history) (.pwrOn smooth volume)).1.ComesTo volume := by
  intro always
  obtain ⟨-, rests⟩ := always {} [] true 30 (by decide) (by decide)
  exact absurd (rests 30 (by decide +kernel)) (by decide +kernel)

theorem loud_start_of_an_idle_radio :
    (step (run step ({}, {}) [.pwrOn false 20, .pwrOff]) (.pwrOn false 40)).1.ComesTo 40 ∧
      ¬ (step (run step ({}, {}) [.pwrOn true 20]) (.pwrOn false 40)).1.ComesTo 40 :=
  ⟨(pwrOn_comesTo_iff {} [.pwrOn false 20, .pwrOff] false 40 (by decide) (by decide)).mpr (by decide),
    mt (pwrOn_comesTo_iff {} [.pwrOn true 20] false 40 (by decide) (by decide)).mp (by decide)⟩

end Radio

end RgbClock.Devices
