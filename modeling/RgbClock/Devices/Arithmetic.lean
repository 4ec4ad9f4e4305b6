import RgbClock.Devices.FadeOut
import RgbClock.Devices.Volume

/-! The arguments of `UpDownTimer::calculate`. It divides by the number of steps; a light that comes on has as
many steps to make as its stored luminance is above the lowest one. -/

namespace RgbClock.Devices
open Keys Runs

/-- A call of `calculate`. -/
structure Calculation where
  steps : Int
  timeSeconds : Int
  deriving DecidableEq

/-- The division is by a number other than zero, and the step and the interval that come out are positive. -/
def Calculation.Defined (c : Calculation) : Prop :=
  1 ≤ c.steps ∧ 1 ≤ c.timeSeconds ∧
    ∀ t : UpDownTimer, 1 ≤ (t.calculate c.steps c.timeSeconds).mStep ∧
      1 ≤ (t.calculate c.steps c.timeSeconds).mThreadIntervalms

/-- What `calculate` leaves in the timer. -/
def UpDownTimer.plan (t : UpDownTimer) : Int × Int × Int := (t.mTotalSteps, t.mStep, t.mThreadIntervalms)

def UpDownTimer.calculateAll (t : UpDownTimer) (calls : List Calculation) : UpDownTimer :=
  calls.foldl (fun t c => t.calculate c.steps c.timeSeconds) t

theorem calculation_defined {steps timeSeconds : Int} (some : 1 ≤ steps) (time : 1 ≤ timeSeconds) :
    Calculation.Defined ⟨steps, timeSeconds⟩ := by
  have positive : 0 < timeSeconds := by omega
  refine ⟨some, time, fun t => ⟨t.calculate_mStep_pos steps positive, ?_⟩⟩
  show 1 ≤ (t.calculate steps timeSeconds).mThreadIntervalms
  unfold UpDownTimer.calculate
  split
  · exact le_refl 1
  · rename_i few
    show 1 ≤ (timeSeconds * 1000).tdiv steps
    rw [Int.tdiv_eq_ediv_of_nonneg (by omega)]
    exact (Int.le_ediv_iff_mul_le (by omega)).mpr (by omega)

theorem not_defined_zero (timeSeconds : Int) : ¬ Calculation.Defined ⟨0, timeSeconds⟩ := by
  intro defined
  have one : (1 : Int) ≤ 0 := defined.1
  omega

/-- The timer after a step up. -/
def UpDownTimer.counted (t : UpDownTimer) : UpDownTimer := { t with totalSteps := t.totalSteps - t.mStep }

/-- What a pass of the dimmer thread does to a light. -/
theorem Light.dimmerThread_cases (l : Light) :
    (l.mUpDownTimer.Stopped ∧ l.dimmerThread = l) ∨
      (¬ l.mUpDownTimer.Stopped ∧ l.mUpDownTimer.mDown = true ∧ l.dimmerThread = l.down l.mUpDownTimer.mStep) ∨
      (¬ l.mUpDownTimer.Stopped ∧ l.mUpDownTimer.mDown = false ∧
        l.dimmerThread = up { l with mUpDownTimer := l.mUpDownTimer.counted } l.mUpDownTimer.mStep) := by
  unfold Light.dimmerThread UpDownTimer.dimmerThread UpDownTimer.Stopped
  cases running : l.mUpDownTimer.mThreadRunning && decide (l.mUpDownTimer.totalSteps > 0) with
  | false =>
    refine Or.inl ⟨fun both => ?_, rfl⟩
    rw [both.1, decide_eq_true both.2] at running
    cases running
  | true =>
    have busy := Bool.and_eq_true_iff.mp running
    have going := not_not_intro (And.intro busy.1 (of_decide_eq_true busy.2))
    cases down : l.mUpDownTimer.mDown with
    | true => exact Or.inr (Or.inl ⟨going, rfl, rfl⟩)
    | false =>
      refine Or.inr (Or.inr ⟨going, rfl, ?_⟩)
      unfold UpDownTimer.counted
      rw [down]
      rfl

/-! ### The calls of a light -/

namespace Light

def pwrOnCalls (l : Light) (slow : Bool) : List Calculation :=
  if l.mPowerOn then []
  else if slow then [⟨SUNRISE_DIMMER_INTENSITY - MIN_DIMMER_INTENSITY, LIGHT_SLOWUP_MINUTES * 60⟩]
  else [⟨l.initiateFastUp.mStoredLuminance - MIN_DIMMER_INTENSITY, 1⟩]

def pwrOffCalls (l : Light) : List Calculation :=
  if l.mPowerOn && !l.mPowerDownInitiated then [⟨l.mCurrentLuminance, 1⟩] else []

def pwrToggleCalls (l : Light) : List Calculation := if l.mPowerOn then l.pwrOffCalls else l.pwrOnCalls false

def keyboardCalls (l : Light) (info : KeyboardInfo) : List Calculation :=
  let toggled := if toggles info then l.pwrToggle else l
  (if toggles info then l.pwrToggleCalls else []) ++ (if dims info then toggled.pwrOnCalls true else [])

/-- The calls of `calculate` in a step. The up and down steps of a timer make none. -/
def calls (l : Light) : Step → List Calculation
  | .pwrOn slow => l.pwrOnCalls slow
  | .pwrOff => l.pwrOffCalls
  | .pwrToggle => l.pwrToggleCalls
  | .keyboardPressed _ info => l.keyboardCalls info
  | .dimmerThread => []
  | .autoOffThread => if l.mAutoPowerOffTimer.autoOffThread.2 then l.pwrOffCalls else []

/-- The step does not turn on a light that was turned off at the lowest luminance, unless slowly. -/
def StartsBrighter (l : Light) : Step → Prop
  | .pwrOn slow => slow = false → l.mPowerOn = false → l.mStoredLuminance ≠ MIN_DIMMER_INTENSITY
  | .pwrToggle => l.mPowerOn = false → l.mStoredLuminance ≠ MIN_DIMMER_INTENSITY
  | .keyboardPressed _ info => toggles info = true → l.mPowerOn = false → l.mStoredLuminance ≠ MIN_DIMMER_INTENSITY
  | .pwrOff | .dimmerThread | .autoOffThread => True

variable {l : Light}

/-- What the methods keep that change a light by themselves, as do the settings of its keys and timers. -/
structure Kept (P : Light → Prop) : Prop where
  mStep : ∀ l : Light, P l → 0 ≤ l.mUpDownTimer.mStep
  pwrOn : ∀ l slow, P l → P (l.pwrOn slow)
  pwrOff : ∀ l, P l → P l.pwrOff
  up : ∀ l step, 0 ≤ step → P l → P (l.up step)
  down : ∀ l step, 0 ≤ step → P l → P (l.down step)
  keys : ∀ l dimDown long, P l → P { l with mDimDown := dimDown, mLastLong := long }
  counted : ∀ l, P l → P { l with mUpDownTimer := l.mUpDownTimer.counted }
  countdown : ∀ l timer, P l → P { l with mAutoPowerOffTimer := timer }

namespace Kept

variable {P : Light → Prop}

theorem pwrToggle (kept : Kept P) (holds : P l) : P l.pwrToggle := by
  unfold Light.pwrToggle
  split
  · exact kept.pwrOff l holds
  · exact kept.pwrOn l false holds

theorem keyboardPressed (kept : Kept P) (now : Int) (info : KeyboardInfo) (holds : P l) :
    P (l.keyboardPressed now info) := by
  apply keyboardPressed_keeps
  · exact kept.keys
  · exact fun m held => kept.down m DIMMER_STEP (by decide) held
  · exact fun m held => kept.up m DIMMER_STEP (by decide) held
  · exact fun m _ held => kept.pwrOn m true held
  · exact kept.pwrToggle holds
  · exact holds

theorem dimmerThread (kept : Kept P) (holds : P l) : P l.dimmerThread := by
  have forward := kept.mStep l holds
  obtain ⟨_, same⟩ | ⟨_, _, same⟩ | ⟨_, _, same⟩ := dimmerThread_cases l
  · rw [same]
    exact holds
  · rw [same]
    exact kept.down l _ forward holds
  · rw [same]
    exact kept.up _ _ forward (kept.counted l holds)

theorem autoOffThread (kept : Kept P) (holds : P l) : P l.autoOffThread := by
  have counted := kept.countdown l l.mAutoPowerOffTimer.autoOffThread.1 holds
  unfold Light.autoOffThread
  dsimp only
  split
  · exact kept.pwrOff _ counted
  · exact counted

theorem step (kept : Kept P) (e : Step) (holds : P l) : P (l.step e) := by
  cases e with
  | pwrOn slow => exact kept.pwrOn l slow holds
  | pwrOff => exact kept.pwrOff l holds
  | pwrToggle => exact kept.pwrToggle holds
  | keyboardPressed now info => exact kept.keyboardPressed now info holds
  | dimmerThread => exact kept.dimmerThread holds
  | autoOffThread => exact kept.autoOffThread holds

end Kept

/-- The luminance that is shown and the one that is stored stay within the range of the dimmer. -/
structure Ranged (l : Light) : Prop where
  step : 0 ≤ l.mUpDownTimer.mStep
  lit : l.mPowerOn = true → MIN_DIMMER_INTENSITY ≤ l.mCurrentLuminance ∧ l.mCurrentLuminance ≤ MAX_DIMMER_INTENSITY
  stored : MIN_DIMMER_INTENSITY ≤ l.mStoredLuminance ∧ l.mStoredLuminance ≤ MAX_DIMMER_INTENSITY

theorem ranged_create (now : Int) : (create now).Ranged := ⟨le_rfl, nofun, by
  show MIN_DIMMER_INTENSITY ≤ SUNRISE_DIMMER_INTENSITY ∧ SUNRISE_DIMMER_INTENSITY ≤ MAX_DIMMER_INTENSITY
  decide⟩

/-- Within the range, the stored luminance is not clamped. -/
theorem fastUp_stored (ranged : l.Ranged) : l.initiateFastUp.mStoredLuminance = l.mStoredLuminance := by
  obtain ⟨least, most⟩ := ranged.stored
  unfold initiateFastUp
  dsimp only
  rw [if_neg (Int.not_lt.mpr least), if_neg (Int.not_lt.mpr most)]

theorem ranged_pwrOn (ranged : l.Ranged) (slow : Bool) : (l.pwrOn slow).Ranged := by
  cases on : l.mPowerOn with
  | true =>
    have kept : l.pwrOn slow = { l with
        mAutoPowerOffTimer := l.mAutoPowerOffTimer.cancelAutoPowerOff
        mUpDownTimer := l.mUpDownTimer.cancelDimmer } := by
      simp [pwrOn, on]
    rw [kept]
    exact ⟨ranged.step, ranged.lit, ranged.stored⟩
  | false =>
    have dark : MIN_DIMMER_INTENSITY ≤ MIN_DIMMER_INTENSITY ∧ MIN_DIMMER_INTENSITY ≤ MAX_DIMMER_INTENSITY := by decide
    unfold pwrOn
    simp only [on, Bool.false_eq_true, if_false]
    cases slow with
    | true => exact ⟨(UpDownTimer.calculate_mStep_pos _ _ (by decide)).le, fun _ => dark, ranged.stored⟩
    | false =>
      refine ⟨(UpDownTimer.calculate_mStep_pos _ _ (by decide)).le, fun _ => dark, ?_⟩
      show MIN_DIMMER_INTENSITY ≤ l.initiateFastUp.mStoredLuminance ∧ l.initiateFastUp.mStoredLuminance ≤ MAX_DIMMER_INTENSITY
      rw [fastUp_stored ranged]
      exact ranged.stored

/-- What `pwrOff` does depends on the countdown of the light in nothing but the countdown. -/
theorem ranged_pwrOff (ranged : l.Ranged) : l.pwrOff.Ranged := by
  cases on : l.mPowerOn with
  | false =>
    rw [pwrOff_waits (Or.inl on)]
    exact ⟨ranged.step, ranged.lit, ranged.stored⟩
  | true =>
    cases marked : l.mPowerDownInitiated with
    | true =>
      rw [pwrOff_waits (Or.inr marked)]
      exact ⟨ranged.step, ranged.lit, ranged.stored⟩
    | false =>
      rw [pwrOff_starts on marked]
      exact ⟨(UpDownTimer.calculate_mStep_pos _ _ (by decide)).le, fun _ => ranged.lit on, ranged.lit on⟩

theorem ranged_up (ranged : l.Ranged) {step : Int} (upwards : 0 ≤ step) : (l.up step).Ranged := by
  unfold up
  split
  · rename_i on
    obtain ⟨least, most⟩ := ranged.lit on
    refine ⟨ranged.step, fun _ => ?_, ranged.stored⟩
    dsimp only
    split
    · decide
    · omega
  · exact ranged

theorem ranged_down (ranged : l.Ranged) {step : Int} (downwards : 0 ≤ step) : (l.down step).Ranged := by
  unfold down
  split
  · rename_i on
    obtain ⟨least, most⟩ := ranged.lit on
    have within : MIN_DIMMER_INTENSITY ≤ (if l.mCurrentLuminance - step ≤ MIN_DIMMER_INTENSITY then MIN_DIMMER_INTENSITY
          else l.mCurrentLuminance - step) ∧
        (if l.mCurrentLuminance - step ≤ MIN_DIMMER_INTENSITY then MIN_DIMMER_INTENSITY
          else l.mCurrentLuminance - step) ≤ MAX_DIMMER_INTENSITY := by
      split <;> omega
    dsimp only
    generalize (if l.mCurrentLuminance - step ≤ MIN_DIMMER_INTENSITY then MIN_DIMMER_INTENSITY
      else l.mCurrentLuminance - step) = lum at within
    split
    · exact ⟨ranged.step, nofun, ranged.stored⟩
    · exact ⟨ranged.step, fun _ => within, ranged.stored⟩
  · exact ranged

theorem kept_ranged : Kept Ranged where
  mStep := fun _ ranged => ranged.step
  pwrOn := fun _ slow ranged => ranged_pwrOn ranged slow
  pwrOff := fun _ ranged => ranged_pwrOff ranged
  up := fun _ _ upwards ranged => ranged_up ranged upwards
  down := fun _ _ downwards ranged => ranged_down ranged downwards
  keys := fun _ _ _ ranged => ⟨ranged.step, ranged.lit, ranged.stored⟩
  counted := fun _ ranged => ⟨ranged.step, ranged.lit, ranged.stored⟩
  countdown := fun _ _ ranged => ⟨ranged.step, ranged.lit, ranged.stored⟩

/-! ### When the calls of a light are defined -/

theorem pwrOnCalls_defined (ranged : l.Ranged) (slow : Bool) :
    (∀ c ∈ l.pwrOnCalls slow, c.Defined) ↔
      (slow = false → l.mPowerOn = false → l.mStoredLuminance ≠ MIN_DIMMER_INTENSITY) := by
  unfold pwrOnCalls
  cases on : l.mPowerOn with
  | true => simp
  | false =>
    cases slow with
    | true =>
      have sunrise : Calculation.Defined ⟨SUNRISE_DIMMER_INTENSITY - MIN_DIMMER_INTENSITY, LIGHT_SLOWUP_MINUTES * 60⟩ :=
        calculation_defined (by decide) (by decide)
      simpa using sunrise
    | false =>
      simp only [Bool.false_eq_true, if_false, fastUp_stored ranged, List.mem_singleton, forall_eq, true_implies, ne_eq]
      constructor
      · intro defined darkest
        rw [darkest, Int.sub_self] at defined
        exact not_defined_zero 1 defined
      · intro brighter
        obtain ⟨least, _⟩ := ranged.stored
        exact calculation_defined (by omega) (le_refl 1)

theorem pwrOffCalls_defined (ranged : l.Ranged) : ∀ c ∈ l.pwrOffCalls, c.Defined := by
  unfold pwrOffCalls
  split
  · rename_i met
    obtain ⟨on, _⟩ := Bool.and_eq_true_iff.mp met
    obtain ⟨least, _⟩ := ranged.lit on
    have lowest : (1 : Int) ≤ MIN_DIMMER_INTENSITY := by decide
    intro c member
    rw [List.mem_singleton.mp member]
    exact calculation_defined (by omega) (le_refl 1)
  · intro c member
    cases member

theorem pwrToggleCalls_defined (ranged : l.Ranged) :
    (∀ c ∈ l.pwrToggleCalls, c.Defined) ↔ (l.mPowerOn = false → l.mStoredLuminance ≠ MIN_DIMMER_INTENSITY) := by
  unfold pwrToggleCalls
  cases on : l.mPowerOn with
  | true => exact iff_of_true (pwrOffCalls_defined ranged) nofun
  | false =>
    rw [if_neg Bool.false_ne_true, pwrOnCalls_defined ranged false, on]
    exact ⟨fun given => given rfl, fun given _ => given⟩

theorem keyboardCalls_defined (ranged : l.Ranged) (info : KeyboardInfo) :
    (∀ c ∈ l.keyboardCalls info, c.Defined) ↔
      (toggles info = true → l.mPowerOn = false → l.mStoredLuminance ≠ MIN_DIMMER_INTENSITY) := by
  have toggled : (if toggles info then l.pwrToggle else l).Ranged := by
    split
    · exact kept_ranged.pwrToggle ranged
    · exact ranged
  have slow := (pwrOnCalls_defined toggled true).mpr nofun
  unfold keyboardCalls
  simp only [List.mem_append, or_imp, forall_and]
  constructor
  · intro given pressed
    have first := given.1
    rw [if_pos pressed] at first
    exact (pwrToggleCalls_defined ranged).mp first
  · intro brighter
    refine ⟨?_, ?_⟩
    · split
      · rename_i pressed
        exact (pwrToggleCalls_defined ranged).mpr (brighter pressed)
      · exact fun c none => by cases none
    · split
      · exact slow
      · exact fun c none => by cases none

theorem calls_defined_iff (ranged : l.Ranged) (e : Step) : (∀ c ∈ l.calls e, c.Defined) ↔ l.StartsBrighter e := by
  cases e with
  | pwrOn slow => exact pwrOnCalls_defined ranged slow
  | pwrOff => exact iff_of_true (pwrOffCalls_defined ranged) trivial
  | pwrToggle => exact pwrToggleCalls_defined ranged
  | keyboardPressed now info => exact keyboardCalls_defined ranged info
  | dimmerThread => exact iff_of_true (fun c none => by cases none) trivial
  | autoOffThread =>
    refine iff_of_true ?_ trivial
    show ∀ c ∈ (if l.mAutoPowerOffTimer.autoOffThread.2 then l.pwrOffCalls else []), c.Defined
    split
    · exact pwrOffCalls_defined ranged
    · exact fun c none => by cases none

/-! ### The calls are those that fill the timer -/

theorem plan_calculate (t u : UpDownTimer) (steps timeSeconds : Int) :
    (t.calculate steps timeSeconds).plan = (u.calculate steps timeSeconds).plan := by
  unfold UpDownTimer.calculate
  split <;> rfl

theorem plan_pwrOn (l : Light) (slow : Bool) :
    (l.pwrOn slow).mUpDownTimer.plan = (l.mUpDownTimer.calculateAll (l.pwrOnCalls slow)).plan := by
  unfold pwrOn pwrOnCalls
  cases l.mPowerOn with
  | true => rfl
  | false =>
    cases slow with
    | true => exact plan_calculate _ _ _ _
    | false => exact plan_calculate _ _ _ _

theorem plan_pwrOff (l : Light) :
    l.pwrOff.mUpDownTimer.plan = (l.mUpDownTimer.calculateAll l.pwrOffCalls).plan := by
  unfold pwrOff pwrOffCalls
  cases met : l.mPowerOn && !l.mPowerDownInitiated with
  | true =>
    simp only [met, if_true]
    exact plan_calculate _ _ _ _
  | false =>
    simp only [met, Bool.false_eq_true, if_false]
    rfl

theorem plan_pwrToggle (l : Light) :
    l.pwrToggle.mUpDownTimer.plan = (l.mUpDownTimer.calculateAll l.pwrToggleCalls).plan := by
  unfold pwrToggle pwrToggleCalls
  split
  · exact plan_pwrOff l
  · exact plan_pwrOn l false

theorem plan_up (l : Light) (step : Int) : (l.up step).mUpDownTimer = l.mUpDownTimer := by
  unfold up
  split <;> rfl

theorem plan_down (l : Light) (step : Int) : (l.down step).mUpDownTimer.plan = l.mUpDownTimer.plan := by
  unfold down
  split
  · dsimp only
    generalize (if l.mCurrentLuminance - step ≤ MIN_DIMMER_INTENSITY then MIN_DIMMER_INTENSITY
      else l.mCurrentLuminance - step) = lum
    split <;> rfl
  · rfl

theorem calculateAll_append (t : UpDownTimer) (first second : List Calculation) :
    t.calculateAll (first ++ second) = (t.calculateAll first).calculateAll second := List.foldl_append

/-- Only the calls matter for what they leave, unless there are none. -/
theorem plan_calculateAll {t u : UpDownTimer} (same : t.plan = u.plan) (calls : List Calculation) :
    (t.calculateAll calls).plan = (u.calculateAll calls).plan := by
  induction calls generalizing t u with
  | nil => exact same
  | cons c rest ih => exact ih (plan_calculate t u c.steps c.timeSeconds)

theorem plan_keyboardPressed (l : Light) (now : Int) (info : KeyboardInfo) :
    (l.keyboardPressed now info).mUpDownTimer.plan = (l.mUpDownTimer.calculateAll (l.keyboardCalls info)).plan := by
  obtain ⟨turned, dimDown, long, handled⟩ := keyboardPressed_eq l now info
  have toggled : (if toggles info then l.pwrToggle else l).mUpDownTimer.plan =
      (l.mUpDownTimer.calculateAll (if toggles info then l.pwrToggleCalls else [])).plan := by
    split
    · exact plan_pwrToggle l
    · rfl
  unfold keyboardCalls
  rw [calculateAll_append]
  rw [handled]
  generalize (if toggles info then l.pwrToggle else l) = m at toggled ⊢
  rw [← plan_calculateAll toggled]
  have released : ∀ b : Bool, (if b then { m with mDimDown := !m.mDimDown } else m).mUpDownTimer = m.mUpDownTimer ∧
      (if b then { m with mDimDown := !m.mDimDown } else m).mPowerOn = m.mPowerOn := by
    intro b
    cases b <;> exact ⟨rfl, rfl⟩
  obtain ⟨timer, power⟩ := released turned
  generalize (if turned then { m with mDimDown := !m.mDimDown } else m) = k at timer power
  have slow : m.pwrOnCalls true = k.pwrOnCalls true := by
    unfold pwrOnCalls
    rw [power]
    rfl
  split
  · split
    · rename_i on
      have none : m.pwrOnCalls true = [] := by
        unfold pwrOnCalls
        rw [if_pos (power ▸ on)]
      rw [none, ← timer]
      split
      · exact plan_down _ _
      · exact congrArg UpDownTimer.plan (plan_up _ _)
    · rw [plan_pwrOn, slow, timer]
  · rw [timer]
    rfl

theorem plan_step (l : Light) (e : Step) :
    (l.step e).mUpDownTimer.plan = (l.mUpDownTimer.calculateAll (l.calls e)).plan := by
  cases e with
  | pwrOn slow => exact plan_pwrOn l slow
  | pwrOff => exact plan_pwrOff l
  | pwrToggle => exact plan_pwrToggle l
  | keyboardPressed now info => exact plan_keyboardPressed l now info
  | dimmerThread =>
    show l.dimmerThread.mUpDownTimer.plan = l.mUpDownTimer.plan
    obtain ⟨_, same⟩ | ⟨_, _, same⟩ | ⟨_, _, same⟩ := dimmerThread_cases l
    · rw [same]
    · rw [same, plan_down]
    · rw [same, plan_up]
      rfl
  | autoOffThread =>
    show l.autoOffThread.mUpDownTimer.plan = (l.mUpDownTimer.calculateAll
      (if l.mAutoPowerOffTimer.autoOffThread.2 then l.pwrOffCalls else [])).plan
    unfold autoOffThread
    dsimp only
    split
    · exact plan_pwrOff { l with mAutoPowerOffTimer := l.mAutoPowerOffTimer.autoOffThread.1 }
    · rfl

end Light

/-! ### The calls of a radio -/

namespace Radio

/-- The calls of `calculate` in an event. The power key asks for no volume, so it makes none. -/
def calls : Event → List Calculation
  | .pwrOn smooth volume => if volume > 0 ∧ smooth = true then [⟨volume, SLOWUP_MINUTES * 60⟩] else []
  | .pwrOff | .keyboardPressed _ | .dimmerThread | .autoOffThread | .receiver _ => []

theorem calls_defined (e : Event) : ∀ c ∈ calls e, c.Defined := by
  cases e with
  | pwrOn smooth volume =>
    show ∀ c ∈ (if volume > 0 ∧ smooth = true then [⟨volume, SLOWUP_MINUTES * 60⟩] else []), Calculation.Defined c
    split
    · rename_i met
      intro c member
      rw [List.mem_singleton.mp member]
      exact calculation_defined (by omega) (by decide)
    · exact fun c none => by cases none
  | pwrOff | keyboardPressed | dimmerThread | autoOffThread | receiver => exact fun c none => by cases none

theorem plan_setVolume (r : Radio) (smooth : Bool) (volume : Int) :
    (r.setVolume smooth volume).mUpDownTimer.plan =
      (r.mUpDownTimer.calculateAll (if volume > 0 ∧ smooth = true then [⟨volume, SLOWUP_MINUTES * 60⟩] else [])).plan := by
  unfold setVolume
  by_cases asked : volume > 0
  · cases smooth with
    | true =>
      have met : volume > 0 ∧ true = true := ⟨asked, rfl⟩
      rw [if_pos asked, if_pos met]
      exact Light.plan_calculate _ _ _ _
    | false =>
      have unmet : ¬ (volume > 0 ∧ false = true) := fun met => Bool.false_ne_true met.2
      rw [if_pos asked, if_neg unmet]
      rfl
  · rw [if_neg asked, if_neg fun met => asked met.1]
    rfl

theorem plan_pwrOn (r : Radio) (dab : DABReceiver) (smooth : Bool) (volume : Int) :
    (r.pwrOn dab smooth volume).1.mUpDownTimer.plan =
      (r.mUpDownTimer.calculateAll (calls (.pwrOn smooth volume))).plan :=
  plan_setVolume { r with
    mState := .PwrOn
    mCurrentVolume := SLOW_VOLUME_START_VOLUME
    powerRefs := r.powerRefs + 1 } smooth volume

theorem plan_volumeKeys (r : Radio) (info : KeyboardInfo) : (r.volumeKeys info).mUpDownTimer.plan = r.mUpDownTimer.plan := by
  unfold volumeKeys
  dsimp only
  split
  · split
    · split <;> rfl
    · split <;> rfl
  · rfl

theorem plan_dimmerThread (r : Radio) : r.dimmerThread.mUpDownTimer.plan = r.mUpDownTimer.plan := by
  have down : ∀ r : Radio, r.down.mUpDownTimer = r.mUpDownTimer := by
    intro r
    unfold Radio.down
    split <;> rfl
  unfold dimmerThread UpDownTimer.dimmerThread
  split
  · rename_i timer dimming found
    split at found
    · split at found
      · cases found
        exact congrArg UpDownTimer.plan (down _)
      · cases found
        show (Radio.up _).mUpDownTimer.plan = _
        rw [up_mUpDownTimer]
        rfl
    · cases found
      rfl

theorem plan_step (s : Radio × DABReceiver) (e : Event) :
    (step s e).1.mUpDownTimer.plan = (s.1.mUpDownTimer.calculateAll (calls e)).plan := by
  cases e with
  | pwrOn smooth volume => exact plan_pwrOn s.1 s.2 smooth volume
  | pwrOff => rfl
  | keyboardPressed info =>
    show ((s.1.volumeKeys info).powerKey s.2 info).1.mUpDownTimer.plan = s.1.mUpDownTimer.plan
    rw [← plan_volumeKeys s.1 info]
    unfold powerKey
    split
    · split
      · exact plan_pwrOn _ _ false 0
      · rfl
    · rfl
  | dimmerThread => exact plan_dimmerThread s.1
  | autoOffThread =>
    show (s.1.autoOffThread s.2).1.mUpDownTimer.plan = s.1.mUpDownTimer.plan
    unfold autoOffThread
    dsimp only
    split <;> rfl
  | receiver => rfl

end Radio

/-- In a run of a light all calls of `calculate` are defined exactly if no step starts a light fast that was
turned off at the lowest luminance; in a run of a radio they always are. -/
theorem calculations_defined_iff (now : Int) (steps : List Light.Step) (events : List Radio.Event) :
    ((∀ (n : Nat) (e : Light.Step), steps[n]? = some e →
        ∀ c ∈ (stateAt Light.step (Light.create now) steps n).calls e, c.Defined) ↔
      Meets Light.step Light.StartsBrighter (Light.create now) steps) ∧
    ∀ (n : Nat) (e : Radio.Event), events[n]? = some e → ∀ c ∈ Radio.calls e, c.Defined := by
  have ranged : ∀ n, (stateAt Light.step (Light.create now) steps n).Ranged := by
    intro n
    exact @run_invariant _ _ Light.step Light.Ranged (fun _ e kept => Light.kept_ranged.step e kept) _ _ (Light.ranged_create now)
  refine ⟨?_, fun n e _ => Radio.calls_defined e⟩
  rw [meets_iff_at]
  constructor
  · intro defined n e found
    exact (Light.calls_defined_iff (ranged n) e).mp (defined n e found)
  · intro brighter n e found
    exact (Light.calls_defined_iff (ranged n) e).mpr (brighter n e found)

/-- A light that is turned off before its fade-up has begun, and on again. -/
theorem turned_on_from_darkest :
    let steps := [.pwrOn false, .pwrOff, .dimmerThread, .pwrOn false]
    steps[3]? = some (.pwrOn false) ∧
      (stateAt Light.step (Light.create 0) steps 3).calls (.pwrOn false) = [⟨0, 1⟩] ∧
      ¬ Calculation.Defined ⟨0, 1⟩ :=
  ⟨rfl, by decide, not_defined_zero 1⟩

end RgbClock.Devices
