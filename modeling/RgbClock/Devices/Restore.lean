import RgbClock.Devices.Arithmetic

/-! Turning a light off and on again. The fade-up is to bring back the luminance at which the light was turned
off, in steps whose size is rounded up; so it comes back exactly if the steps add up to the distance. -/

namespace RgbClock.Devices
open Runs

namespace Light

/-- The light is on, not about to go off, and at this luminance. -/
structure StandsAt (l : Light) (x : Int) : Prop where
  on : l.mPowerOn = true
  unmarked : l.mPowerDownInitiated = false
  luminance : l.mCurrentLuminance = x

/-- Turned off until it is off, and on until its dimmer thread stops, the light is at this luminance. -/
def Restores (l : Light) (x : Int) : Prop :=
  (∃ n, (dimmerThread^[n] l.pwrOff).mPowerOn = false) ∧
    ∀ n, (dimmerThread^[n] l.pwrOff).mPowerOn = false →
      (∃ m, (dimmerThread^[m] ((dimmerThread^[n] l.pwrOff).pwrOn false)).mUpDownTimer.Stopped) ∧
      ∀ m, (dimmerThread^[m] ((dimmerThread^[n] l.pwrOff).pwrOn false)).mUpDownTimer.Stopped →
        (dimmerThread^[m] ((dimmerThread^[n] l.pwrOff).pwrOn false)).mCurrentLuminance = x

/-! ### Down -/

/-- On its way down from `x`. -/
structure FadesFrom (x : Int) (l : Light) : Prop where
  on : l.mPowerOn = true
  fading : l.Fading
  step : 1 ≤ l.mUpDownTimer.mStep
  stored : l.mStoredLuminance = x

structure FadedFrom (x : Int) (l : Light) : Prop where
  off : l.mPowerOn = false
  stopped : l.mUpDownTimer.Stopped
  stored : l.mStoredLuminance = x

variable {l : Light} {x : Int}

theorem Fading.going (fading : l.Fading) : ¬ l.mUpDownTimer.Stopped :=
  not_not_intro ⟨fading.running, fading.steps⟩

theorem fadesFrom_pwrOff (stands : l.StandsAt x) (least : MIN_DIMMER_INTENSITY ≤ x) : FadesFrom x l.pwrOff := by
  have one : (1 : Int) ≤ MIN_DIMMER_INTENSITY := by decide
  have bright : MIN_DIMMER_INTENSITY ≤ l.mCurrentLuminance := stands.luminance ▸ least
  obtain ⟨_, fading⟩ := @fastDown_fades { l with
    mAutoPowerOffTimer := l.mAutoPowerOffTimer.cancelAutoPowerOff
    mUpDownTimer := l.mUpDownTimer.cancelDimmer
    mStoredLuminance := l.mCurrentLuminance
    mPowerDownInitiated := true } bright rfl
  rw [pwrOff_starts stands.on stands.unmarked]
  exact ⟨stands.on, fading, ((calculation_defined (by omega) (le_refl 1)).2.2 _).1, stands.luminance⟩

/-- A pass of the fade-out darkens the light or turns it off. -/
theorem FadesFrom.pass (fades : FadesFrom x l) :
    FadedFrom x l.dimmerThread ∨
      FadesFrom x l.dimmerThread ∧ MIN_DIMMER_INTENSITY < l.dimmerThread.mCurrentLuminance ∧
        l.dimmerThread.mCurrentLuminance < l.mCurrentLuminance := by
  have moved : l.dimmerThread = l.down l.mUpDownTimer.mStep := by
    obtain ⟨stopped, _⟩ | ⟨_, _, same⟩ | ⟨_, up, _⟩ := dimmerThread_cases l
    · exact absurd stopped fades.fading.going
    · exact same
    · exact absurd (fades.fading.down.symm.trans up) (Ne.symm Bool.false_ne_true)
  have positive := fades.step
  rw [moved]
  unfold down
  rw [if_pos fades.on]
  by_cases lowest : l.mCurrentLuminance - l.mUpDownTimer.mStep ≤ MIN_DIMMER_INTENSITY
  · simp only [lowest, if_true, le_refl, fades.fading.marked, and_self]
    exact Or.inl ⟨rfl, fun both => Bool.false_ne_true both.1, fades.stored⟩
  · simp only [lowest, if_false, false_and]
    refine Or.inr ⟨⟨fades.on, ?_, fades.step, fades.stored⟩, ?_, ?_⟩
    · exact ⟨fades.fading.marked, fades.fading.running, fades.fading.down, fades.fading.steps⟩
    · show MIN_DIMMER_INTENSITY < l.mCurrentLuminance - l.mUpDownTimer.mStep
      omega
    · show l.mCurrentLuminance - l.mUpDownTimer.mStep < l.mCurrentLuminance
      omega

theorem FadedFrom.pass (faded : FadedFrom x l) : l.dimmerThread = l := by
  obtain ⟨_, same⟩ | ⟨going, _⟩ | ⟨going, _⟩ := dimmerThread_cases l
  · exact same
  · exact absurd faded.stopped going
  · exact absurd faded.stopped going

theorem fadesFrom_passes (fades : FadesFrom x l) (n : Nat) :
    FadesFrom x (dimmerThread^[n] l) ∨ FadedFrom x (dimmerThread^[n] l) := by
  refine @iterate_keeps _ (fun l => FadesFrom x l ∨ FadedFrom x l) dimmerThread (fun m given => ?_) l (Or.inl fades) n
  obtain still | faded := given
  · obtain ended | ⟨on, _⟩ := still.pass
    · exact Or.inr ended
    · exact Or.inl on
  · rw [faded.pass]
    exact Or.inr faded

theorem fadesFrom_ends (fades : FadesFrom x l) : ∃ n, (dimmerThread^[n] l).mPowerOn = false := by
  refine @iterate_reaches _ (fun l => FadesFrom x l ∨ FadedFrom x l) dimmerThread (fun l => l.mPowerOn = false)
    (fun l => if l.mPowerOn then (l.mCurrentLuminance - MIN_DIMMER_INTENSITY).toNat + 1 else 0) (fun m given => ?_) l
    (Or.inl fades)
  obtain still | faded := given
  · refine Or.inr ?_
    obtain ended | ⟨on, above, less⟩ := still.pass
    · refine ⟨Or.inr ended, ?_⟩
      rw [ended.off, still.on, if_neg Bool.false_ne_true, if_pos rfl]
      omega
    · refine ⟨Or.inl on, ?_⟩
      rw [on.on, still.on, if_pos rfl, if_pos rfl]
      omega
  · exact Or.inl faded.off

/-! ### Up -/

/-- After `j` of the steps of `s` that are to cover the distance `d`. -/
structure RisenBy (d s : Int) (j : Nat) (l : Light) : Prop where
  on : l.mPowerOn = true
  running : l.mUpDownTimer.mThreadRunning = true
  upwards : l.mUpDownTimer.mDown = false
  step : l.mUpDownTimer.mStep = s
  left : l.mUpDownTimer.totalSteps = d - s * j
  needed : j = 0 ∨ s * j < d + s
  luminance : l.mCurrentLuminance = min MAX_DIMMER_INTENSITY (MIN_DIMMER_INTENSITY + s * j)

theorem RisenBy.stopped_iff {d s : Int} {j : Nat} (risen : RisenBy d s j l) :
    l.mUpDownTimer.Stopped ↔ d ≤ s * j := by
  unfold UpDownTimer.Stopped
  rw [risen.running, risen.left]
  simp only [true_and]
  omega

theorem RisenBy.pass {d s : Int} (positive : 1 ≤ s) {j : Nat} (risen : RisenBy d s j l)
    (going : ¬ l.mUpDownTimer.Stopped) : RisenBy d s (j + 1) l.dimmerThread := by
  have moved : l.dimmerThread = Light.up { l with mUpDownTimer := l.mUpDownTimer.counted } l.mUpDownTimer.mStep := by
    obtain ⟨stopped, _⟩ | ⟨_, down, _⟩ | ⟨_, _, same⟩ := dimmerThread_cases l
    · exact absurd stopped going
    · exact absurd (risen.upwards.symm.trans down) Bool.false_ne_true
    · exact same
  have more : s * j < d := by
    rw [risen.stopped_iff] at going
    omega
  have next : s * ((j + 1 : Nat) : Int) = s * j + s := by
    rw [Int.natCast_add, Int.mul_add]
    omega
  rw [moved]
  unfold Light.up
  rw [if_pos risen.on]
  refine ⟨risen.on, risen.running, risen.upwards, risen.step, ?_, Or.inr (by omega), ?_⟩
  · show l.mUpDownTimer.totalSteps - l.mUpDownTimer.mStep = _
    rw [risen.left, risen.step, next]
    omega
  · show (if l.mCurrentLuminance + l.mUpDownTimer.mStep > MAX_DIMMER_INTENSITY then MAX_DIMMER_INTENSITY
      else l.mCurrentLuminance + l.mUpDownTimer.mStep) = _
    rw [risen.luminance, risen.step, next]
    split <;> omega

theorem risenBy_passes {d s : Int} (positive : 1 ≤ s) (risen : RisenBy d s 0 l) (n : Nat) :
    ∃ j, RisenBy d s j (dimmerThread^[n] l) := by
  refine @iterate_keeps _ (fun l => ∃ j, RisenBy d s j l) dimmerThread (fun m given => ?_) l ⟨0, risen⟩ n
  obtain ⟨j, here⟩ := given
  by_cases stopped : m.mUpDownTimer.Stopped
  · obtain ⟨_, same⟩ | ⟨going, _⟩ | ⟨going, _⟩ := dimmerThread_cases m
    · rw [same]
      exact ⟨j, here⟩
    · exact absurd stopped going
    · exact absurd stopped going
  · exact ⟨j + 1, here.pass positive stopped⟩

theorem risenBy_ends {d s : Int} (positive : 1 ≤ s) (risen : RisenBy d s 0 l) :
    ∃ n, (dimmerThread^[n] l).mUpDownTimer.Stopped := by
  refine @iterate_reaches _ (fun l => ∃ j, RisenBy d s j l) dimmerThread (fun l => l.mUpDownTimer.Stopped)
    (fun l => l.mUpDownTimer.totalSteps.toNat) (fun m given => ?_) l ⟨0, risen⟩
  obtain ⟨j, here⟩ := given
  by_cases stopped : m.mUpDownTimer.Stopped
  · exact Or.inl stopped
  · have next := here.pass positive stopped
    have more := not_not.mp stopped
    refine Or.inr ⟨⟨j + 1, next⟩, ?_⟩
    have before := here.left
    have after := next.left
    rw [Int.natCast_add, Int.mul_add] at after
    omega

/-- The size of the steps for a distance that is to be covered in a second. -/
def fadeStep (d : Int) : Int := if d > 1000 then -(-d / 1000) else 1

theorem fadeStep_eq (t : UpDownTimer) (d : Int) : (t.calculate d 1).mStep = fadeStep d := by
  unfold UpDownTimer.calculate fadeStep
  rw [Int.one_mul]
  split <;> rfl

theorem fadeStep_pos (d : Int) : 1 ≤ fadeStep d := by
  unfold fadeStep
  split <;> omega

/-- A light that is off starts from the lowest luminance towards the one that it has stored. -/
theorem risenBy_pwrOn (off : l.mPowerOn = false) (stored : l.mStoredLuminance = x) (least : MIN_DIMMER_INTENSITY ≤ x)
    (most : x ≤ MAX_DIMMER_INTENSITY) :
    RisenBy (x - MIN_DIMMER_INTENSITY) (fadeStep (x - MIN_DIMMER_INTENSITY)) 0 (l.pwrOn false) := by
  have unclamped : l.initiateFastUp.mStoredLuminance = x := by
    unfold initiateFastUp
    dsimp only
    rw [stored, if_neg (Int.not_lt.mpr least), if_neg (Int.not_lt.mpr most)]
  unfold pwrOn
  simp only [off, Bool.false_eq_true, if_false]
  refine ⟨rfl, rfl, rfl, ?_, ?_, Or.inl rfl, ?_⟩
  · show (UpDownTimer.calculate _ (l.initiateFastUp.mStoredLuminance - MIN_DIMMER_INTENSITY) 1).mStep = _
    rw [unclamped]
    exact fadeStep_eq _ _
  · show (UpDownTimer.calculate _ (l.initiateFastUp.mStoredLuminance - MIN_DIMMER_INTENSITY) 1).mTotalSteps = _
    rw [unclamped, Int.natCast_zero, Int.mul_zero, Int.sub_zero]
    unfold UpDownTimer.calculate
    split <;> rfl
  · rw [Int.natCast_zero, Int.mul_zero]
    rfl

/-! ### Where it lands -/

/-- The distance from the lowest luminance is a whole number of steps, of the size that brings it to at most a
thousand of them. -/
def WholeSteps (x : Int) : Prop :=
  x ≤ 1040 ∨ (x ≤ 2040 ∧ x % 2 = 0) ∨ (2040 < x ∧ x ≤ 3040 ∧ (x - 40) % 3 = 0) ∨ (3040 < x ∧ x % 4 = 0)

instance (x : Int) : Decidable (WholeSteps x) := inferInstanceAs (Decidable (_ ∨ _))

theorem fadeStep_cases (most : x ≤ MAX_DIMMER_INTENSITY) :
    (x ≤ 1040 ∧ fadeStep (x - MIN_DIMMER_INTENSITY) = 1) ∨
      (1040 < x ∧ x ≤ 2040 ∧ fadeStep (x - MIN_DIMMER_INTENSITY) = 2) ∨
      (2040 < x ∧ x ≤ 3040 ∧ fadeStep (x - MIN_DIMMER_INTENSITY) = 3) ∨
      (3040 < x ∧ fadeStep (x - MIN_DIMMER_INTENSITY) = 4) := by
  have low : MIN_DIMMER_INTENSITY = 40 := rfl
  have high : MAX_DIMMER_INTENSITY = 4000 := rfl
  unfold fadeStep
  split <;> omega

theorem lands_iff (least : MIN_DIMMER_INTENSITY ≤ x) (most : x ≤ MAX_DIMMER_INTENSITY) {j : Nat}
    (enough : x - MIN_DIMMER_INTENSITY ≤ fadeStep (x - MIN_DIMMER_INTENSITY) * j)
    (needed : j = 0 ∨ fadeStep (x - MIN_DIMMER_INTENSITY) * j < x - MIN_DIMMER_INTENSITY + fadeStep (x - MIN_DIMMER_INTENSITY)) :
    min MAX_DIMMER_INTENSITY (MIN_DIMMER_INTENSITY + fadeStep (x - MIN_DIMMER_INTENSITY) * j) = x ↔ WholeSteps x := by
  have low : MIN_DIMMER_INTENSITY = 40 := rfl
  have high : MAX_DIMMER_INTENSITY = 4000 := rfl
  unfold WholeSteps
  obtain ⟨_, size⟩ | ⟨_, _, size⟩ | ⟨_, _, size⟩ | ⟨_, size⟩ := fadeStep_cases most
  · rw [size] at enough needed ⊢
    omega
  · rw [size] at enough needed ⊢
    omega
  · rw [size] at enough needed ⊢
    omega
  · rw [size] at enough needed ⊢
    omega

theorem StandsAt.rises (stands : l.StandsAt x) (least : MIN_DIMMER_INTENSITY ≤ x) (most : x ≤ MAX_DIMMER_INTENSITY)
    {n : Nat} (off : (dimmerThread^[n] l.pwrOff).mPowerOn = false) :
    RisenBy (x - MIN_DIMMER_INTENSITY) (fadeStep (x - MIN_DIMMER_INTENSITY)) 0
      ((dimmerThread^[n] l.pwrOff).pwrOn false) := by
  obtain still | faded := fadesFrom_passes (fadesFrom_pwrOff stands least) n
  · rw [still.on] at off
    cases off
  · exact risenBy_pwrOn off faded.stored least most

theorem StandsAt.lands (stands : l.StandsAt x) (least : MIN_DIMMER_INTENSITY ≤ x) (most : x ≤ MAX_DIMMER_INTENSITY)
    {n : Nat} (off : (dimmerThread^[n] l.pwrOff).mPowerOn = false) {m : Nat}
    (stopped : (dimmerThread^[m] ((dimmerThread^[n] l.pwrOff).pwrOn false)).mUpDownTimer.Stopped) :
    (dimmerThread^[m] ((dimmerThread^[n] l.pwrOff).pwrOn false)).mCurrentLuminance = x ↔ WholeSteps x := by
  obtain ⟨j, risen⟩ := risenBy_passes (fadeStep_pos _) (stands.rises least most off) m
  rw [risen.luminance]
  exact lands_iff least most (risen.stopped_iff.mp stopped) risen.needed

/-- What is restored lands on the luminance that was left. -/
theorem StandsAt.whole (stands : l.StandsAt x) (least : MIN_DIMMER_INTENSITY ≤ x) (most : x ≤ MAX_DIMMER_INTENSITY)
    (restores : l.Restores x) : WholeSteps x := by
  obtain ⟨⟨n, off⟩, back⟩ := restores
  obtain ⟨⟨m, stopped⟩, same⟩ := back n off
  exact (stands.lands least most off stopped).mp (same m stopped)

/-- The luminance comes back exactly if its distance from the lowest one is a whole number of steps. -/
theorem restores_iff (stands : l.StandsAt x) (least : 40 ≤ x) (most : x ≤ 4000) : l.Restores x ↔ WholeSteps x := by
  constructor
  · exact stands.whole least most
  · intro whole
    refine ⟨fadesFrom_ends (fadesFrom_pwrOff stands least), fun n off => ⟨?_, fun m stopped => ?_⟩⟩
    · exact risenBy_ends (fadeStep_pos _) (stands.rises least most off)
    · exact (stands.lands least most off stopped).mpr whole

/-- A light that stands at some luminance. -/
def standing (x : Int) : Light := { create 0 with mPowerOn := true, mCurrentLuminance := x }

theorem full_luminance_restored : (standing 4000).Restores 4000 :=
  (restores_iff ⟨rfl, rfl, rfl⟩ (by decide) (by decide)).mpr (by decide)

/-- The steps from 40 to 1041 are of two, so they end at 1042. -/
theorem odd_luminance_not_restored : (standing 1041).StandsAt 1041 ∧ ¬ (standing 1041).Restores 1041 := by
  have stands : (standing 1041).StandsAt 1041 := ⟨rfl, rfl, rfl⟩
  refine ⟨stands, fun restores => ?_⟩
  exact absurd (stands.whole (by decide) (by decide) restores) (by decide)

end Light

end RgbClock.Devices
