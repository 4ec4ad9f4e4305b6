import RgbClock.Devices.Light
import RgbClock.Lib.Run

/-! Whether a light that is on can be turned off: its countdown runs, or it is fading out. -/

namespace RgbClock.Devices
open Keys Runs

namespace Light

def create (now : Int) : Light := { mLastLong := now }

inductive Step where
  | pwrOn (slow : Bool)
  | pwrOff
  | pwrToggle
  | keyboardPressed (now : Int) (info : KeyboardInfo)
  | dimmerThread
  | autoOffThread

def step (l : Light) : Step → Light
  | .pwrOn slow => l.pwrOn slow
  | .pwrOff => l.pwrOff
  | .pwrToggle => l.pwrToggle
  | .keyboardPressed now info => l.keyboardPressed now info
  | .dimmerThread => l.dimmerThread
  | .autoOffThread => l.autoOffThread

/-- A key that toggles the light has been pressed. -/
def toggles (info : KeyboardInfo) : Bool :=
  info.mState = .stNormal && ((info.mKeyInfo KEY_CENTRAL_L).mShortPressed || (info.mKeyInfo KEY_CENTRAL_R).mShortPressed)

def dims (info : KeyboardInfo) : Bool :=
  info.mState = .stNormal && ((info.mKeyInfo KEY_CENTRAL_L).mLongPress || (info.mKeyInfo KEY_CENTRAL_R).mLongPress)

/-- The handler of the keys in terms of what they ask for. -/
theorem keyboardPressed_eq (l : Light) (now : Int) (info : KeyboardInfo) :
    ∃ turned : Bool, ∃ dimDown : Bool, ∃ long : Int,
      let toggled := if toggles info then l.pwrToggle else l
      let m := if turned then { toggled with mDimDown := !toggled.mDimDown } else toggled
      l.keyboardPressed now info =
        if dims info then
          if m.mPowerOn then
            if dimDown then down { m with mDimDown := dimDown, mLastLong := long } DIMMER_STEP
            else up { m with mDimDown := dimDown, mLastLong := long } DIMMER_STEP
          else m.pwrOn true
        else m := by
  unfold keyboardPressed toggles dims
  by_cases normal : info.mState = .stNormal
  · rw [if_neg (not_not_intro normal)]
    simp only [normal, decide_true, Bool.true_and]
    exact ⟨_, _, _, rfl⟩
  · rw [if_pos normal]
    simp only [normal, decide_false, Bool.false_and, Bool.false_eq_true, if_false]
    exact ⟨false, false, 0, rfl⟩

/-- What the handler of the keys keeps if the methods that it may call do. -/
theorem keyboardPressed_keeps {P : Light → Prop} {l : Light} {now : Int} {info : KeyboardInfo}
    (keys : ∀ m dimDown long, P m → P { m with mDimDown := dimDown, mLastLong := long })
    (down : ∀ m, P m → P (m.down DIMMER_STEP)) (up : ∀ m, P m → P (m.up DIMMER_STEP))
    (slow : ∀ m : Light, m.mPowerOn = false → P m → P (m.pwrOn true)) (toggled : P l.pwrToggle) (holds : P l) :
    P (l.keyboardPressed now info) := by
  obtain ⟨turned, dimDown, long, handled⟩ := keyboardPressed_eq l now info
  have first : P (if toggles info then l.pwrToggle else l) := by
    split
    · exact toggled
    · exact holds
  generalize (if toggles info then l.pwrToggle else l) = m at handled first
  have released : P (if turned then { m with mDimDown := !m.mDimDown } else m) := by
    split
    · exact keys m _ m.mLastLong first
    · exact first
  rw [handled]
  generalize (if turned then { m with mDimDown := !m.mDimDown } else m) = k at released
  split
  · split
    · split
      · exact down _ (keys k dimDown long released)
      · exact up _ (keys k dimDown long released)
    · rename_i off
      exact slow k (Bool.not_eq_true _ ▸ off) released
  · exact released

/-- The dimmer thread runs in the down direction; such a thread does not run out of steps. -/
structure Fading (l : Light) : Prop where
  marked : l.mPowerDownInitiated = true
  running : l.mUpDownTimer.mThreadRunning = true
  down : l.mUpDownTimer.mDown = true
  steps : 0 < l.mUpDownTimer.totalSteps

structure Counting (l : Light) : Prop where
  unmarked : l.mPowerDownInitiated = false
  running : l.mAutoPowerOffTimer.mAutoOffThreadRunning = true
  seconds : 0 < l.mAutoPowerOffTimer.countDownSeconds

def Stoppable (l : Light) : Prop := l.mPowerOn = true → l.Counting ∨ l.Fading

/-- What a call of `pwrOn` or `pwrOff` on a light that is on should do. -/
def Answers (l : Light) : Step → Prop
  | .pwrOn slow => l.mPowerOn = true → l.Fading →
      (l.pwrOn slow).mPowerOn = true ∧ (l.pwrOn slow).mPowerDownInitiated = false
  | .pwrOff => l.mPowerOn = true → l.pwrOff.mPowerOn = true ∧ l.pwrOff.Fading
  | _ => True

/-- `pwrOn` is only called on a light that is off. -/
def TurnsOnFromOff (l : Light) : Step → Prop
  | .pwrOn _ => l.mPowerOn = false
  | _ => True

instance (l : Light) (e : Step) : Decidable (l.TurnsOnFromOff e) :=
  match e with
  | .pwrOn _ => inferInstanceAs (Decidable (_ = _))
  | .pwrOff | .pwrToggle | .keyboardPressed _ _ | .dimmerThread | .autoOffThread => isTrue trivial

/-- A light that is on is at least at the lowest luminance, so that a fade-out has steps to make. -/
structure Tended (l : Light) : Prop where
  step : 0 ≤ l.mUpDownTimer.mStep
  bright : l.mPowerOn = true → MIN_DIMMER_INTENSITY ≤ l.mCurrentLuminance
  stoppable : l.Stoppable

end Light

namespace Light
variable {l : Light}

theorem tended_create (now : Int) : (create now).Tended :=
  ⟨le_rfl, nofun, nofun⟩

theorem fastDown_fades (bright : MIN_DIMMER_INTENSITY ≤ l.mCurrentLuminance) (marked : l.mPowerDownInitiated = true) :
    l.initiateFastDown.Tended ∧ l.initiateFastDown.Fading := by
  have lit : 0 < l.mCurrentLuminance := lt_of_lt_of_le (by decide) bright
  have steps : 0 < l.initiateFastDown.mUpDownTimer.totalSteps := by
    simp only [initiateFastDown, UpDownTimer.initiateDown, UpDownTimer.startDimmerThread, UpDownTimer.calculate]
    split <;> dsimp only <;> omega
  have fading : l.initiateFastDown.Fading := ⟨marked, rfl, rfl, steps⟩
  exact ⟨⟨(UpDownTimer.calculate_mStep_pos _ _ (by decide)).le, fun _ => bright, fun _ => Or.inr fading⟩, fading⟩

/-- A step that changes neither the timers nor the flags only has to keep the luminance up. -/
theorem Tended.relit {l' : Light} (tended : l.Tended) (timer : l'.mUpDownTimer = l.mUpDownTimer)
    (countdown : l'.mAutoPowerOffTimer = l.mAutoPowerOffTimer) (on : l'.mPowerOn = l.mPowerOn)
    (marked : l'.mPowerDownInitiated = l.mPowerDownInitiated)
    (bright : l.mPowerOn = true → MIN_DIMMER_INTENSITY ≤ l'.mCurrentLuminance) : l'.Tended where
  step := by rw [timer]; exact tended.step
  bright := by rw [on]; exact bright
  stoppable := by
    intro lit
    rw [on] at lit
    rcases tended.stoppable lit with ⟨unmarked, running, seconds⟩ | ⟨initiated, running, down, steps⟩
    · exact Or.inl ⟨marked.trans unmarked, by rw [countdown]; exact running, by rw [countdown]; exact seconds⟩
    · exact Or.inr ⟨marked.trans initiated, by rw [timer]; exact running, by rw [timer]; exact down,
        by rw [timer]; exact steps⟩

theorem tended_pwrOn (slow : Bool) (off : l.mPowerOn = false) : (l.pwrOn slow).Tended := by
  have minute : 0 < LIGHT_AUTO_OFF_MINUTES * 60 := by decide
  have lit : (l.pwrOn slow).Counting ∧ 0 ≤ (l.pwrOn slow).mUpDownTimer.mStep ∧
      (l.pwrOn slow).mCurrentLuminance = MIN_DIMMER_INTENSITY := by
    unfold pwrOn
    simp only [off, Bool.false_eq_true, if_false]
    cases slow with
    | true => exact ⟨⟨rfl, rfl, minute⟩, (UpDownTimer.calculate_mStep_pos _ _ (by decide)).le, rfl⟩
    | false => exact ⟨⟨rfl, rfl, minute⟩, (UpDownTimer.calculate_mStep_pos _ _ (by decide)).le, rfl⟩
  obtain ⟨counting, step, luminance⟩ := lit
  exact ⟨step, fun _ => luminance.ge, fun _ => Or.inl counting⟩

theorem pwrOff_starts (on : l.mPowerOn = true) (unmarked : l.mPowerDownInitiated = false) :
    l.pwrOff = initiateFastDown { l with
      mAutoPowerOffTimer := l.mAutoPowerOffTimer.cancelAutoPowerOff
      mUpDownTimer := l.mUpDownTimer.cancelDimmer
      mStoredLuminance := l.mCurrentLuminance
      mPowerDownInitiated := true } := by
  simp [pwrOff, on, unmarked]

theorem pwrOff_waits (either : l.mPowerOn = false ∨ l.mPowerDownInitiated = true) :
    l.pwrOff = { l with mAutoPowerOffTimer := l.mAutoPowerOffTimer.cancelAutoPowerOff } := by
  rcases either with off | marked
  · simp [pwrOff, off]
  · simp [pwrOff, marked]

theorem Tended.fading (tended : l.Tended) (on : l.mPowerOn = true) (marked : l.mPowerDownInitiated = true) :
    l.Fading := by
  rcases tended.stoppable on with counting | fading
  · rw [counting.unmarked] at marked
    cases marked
  · exact fading

/-- The countdown of the light does not matter here: `pwrOff` cancels it. -/
theorem pwrOff_fades (step : 0 ≤ l.mUpDownTimer.mStep)
    (bright : l.mPowerOn = true → MIN_DIMMER_INTENSITY ≤ l.mCurrentLuminance)
    (fading : l.mPowerOn = true → l.mPowerDownInitiated = true → l.Fading) :
    l.pwrOff.Tended ∧ (l.mPowerOn = true → l.pwrOff.mPowerOn = true ∧ l.pwrOff.Fading) := by
  cases on : l.mPowerOn with
  | false =>
    rw [pwrOff_waits (Or.inl on)]
    refine ⟨⟨step, bright, fun lit => ?_⟩, nofun⟩
    rw [on] at lit
    cases lit
  | true =>
    cases marked : l.mPowerDownInitiated with
    | true =>
      obtain ⟨_, running, down, steps⟩ := fading on marked
      rw [pwrOff_waits (Or.inr marked)]
      exact ⟨⟨step, bright, fun _ => Or.inr ⟨marked, running, down, steps⟩⟩,
        fun _ => ⟨on, marked, running, down, steps⟩⟩
    | false =>
      rw [pwrOff_starts on marked]
      obtain ⟨started, fades⟩ := fastDown_fades (l := { l with
        mAutoPowerOffTimer := l.mAutoPowerOffTimer.cancelAutoPowerOff
        mUpDownTimer := l.mUpDownTimer.cancelDimmer
        mStoredLuminance := l.mCurrentLuminance
        mPowerDownInitiated := true }) (bright on) rfl
      exact ⟨started, fun _ => ⟨on, fades⟩⟩

theorem tended_pwrOff (tended : l.Tended) :
    l.pwrOff.Tended ∧ (l.mPowerOn = true → l.pwrOff.mPowerOn = true ∧ l.pwrOff.Fading) :=
  pwrOff_fades tended.step tended.bright tended.fading

theorem tended_pwrToggle (tended : l.Tended) : l.pwrToggle.Tended := by
  unfold pwrToggle
  split
  · exact (tended_pwrOff tended).1
  · rename_i off
    exact tended_pwrOn false (Bool.not_eq_true _ ▸ off)

theorem tended_up (tended : l.Tended) {step : Int} (upwards : 0 ≤ step) : (l.up step).Tended := by
  unfold up
  split
  · refine tended.relit rfl rfl rfl rfl fun on => ?_
    have bright := tended.bright on
    dsimp only
    split
    · decide
    · omega
  · exact tended

theorem tended_down (tended : l.Tended) (step : Int) : (l.down step).Tended := by
  unfold down
  split
  · have floor : MIN_DIMMER_INTENSITY ≤
        if l.mCurrentLuminance - step ≤ MIN_DIMMER_INTENSITY then MIN_DIMMER_INTENSITY
        else l.mCurrentLuminance - step := by
      split <;> omega
    dsimp only
    generalize (if l.mCurrentLuminance - step ≤ MIN_DIMMER_INTENSITY then MIN_DIMMER_INTENSITY
      else l.mCurrentLuminance - step) = lum at floor
    split
    · exact ⟨tended.step, nofun, nofun⟩
    · exact tended.relit rfl rfl rfl rfl fun _ => floor
  · exact tended

theorem tended_keyboardPressed (tended : l.Tended) (now : Int) (info : KeyboardInfo) :
    (l.keyboardPressed now info).Tended := by
  apply keyboardPressed_keeps
  · exact fun m _ _ held => held.relit rfl rfl rfl rfl held.bright
  · exact fun m held => tended_down held DIMMER_STEP
  · exact fun m held => tended_up held (by decide)
  · exact fun m off _ => tended_pwrOn true off
  · exact tended_pwrToggle tended
  · exact tended

theorem tended_dimmerThread (tended : l.Tended) : l.dimmerThread.Tended := by
  unfold dimmerThread UpDownTimer.dimmerThread
  cases running : l.mUpDownTimer.mThreadRunning && decide (l.mUpDownTimer.totalSteps > 0) with
  | false => simpa only [Bool.false_eq_true, if_false] using tended
  | true =>
    simp only [if_true]
    cases down : l.mUpDownTimer.mDown with
    | true => simpa only [if_true] using tended_down tended _
    | false =>
      simp only [Bool.false_eq_true, if_false]
      have shorter : Tended { l with mUpDownTimer :=
          { l.mUpDownTimer with totalSteps := l.mUpDownTimer.totalSteps - l.mUpDownTimer.mStep } } := by
        refine ⟨tended.step, tended.bright, fun on => ?_⟩
        rcases tended.stoppable on with counting | fading
        · exact Or.inl ⟨counting.unmarked, counting.running, counting.seconds⟩
        · rw [fading.down] at down
          cases down
      simpa only [down] using tended_up shorter tended.step

theorem tended_autoOffThread (tended : l.Tended) : l.autoOffThread.Tended := by
  unfold autoOffThread AutoPowerOffTimer.autoOffThread
  cases running : l.mAutoPowerOffTimer.mAutoOffThreadRunning with
  | false => simpa only [Bool.false_eq_true, if_false] using tended
  | true =>
    simp only [if_true]
    split
    · simp only [if_true]
      refine (pwrOff_fades (l := { l with mAutoPowerOffTimer := ⟨false, 0⟩ }) tended.step tended.bright ?_).1
      intro on marked
      obtain ⟨_, dimming, down, steps⟩ := tended.fading on marked
      exact ⟨marked, dimming, down, steps⟩
    · rename_i more
      simp only [Bool.false_eq_true, if_false]
      refine ⟨tended.step, tended.bright, fun on => ?_⟩
      rcases tended.stoppable on with counting | fading
      · have seconds := counting.seconds
        refine Or.inl ⟨counting.unmarked, rfl, ?_⟩
        show 0 < l.mAutoPowerOffTimer.countDownSeconds - 1
        omega
      · exact Or.inr ⟨fading.marked, fading.running, fading.down, fading.steps⟩

/-! ### Whole runs -/

theorem tended_step (tended : l.Tended) {e : Step} (allowed : l.TurnsOnFromOff e) : (l.step e).Tended := by
  cases e with
  | pwrOn slow => exact tended_pwrOn slow allowed
  | pwrOff => exact (tended_pwrOff tended).1
  | pwrToggle => exact tended_pwrToggle tended
  | keyboardPressed now info => exact tended_keyboardPressed tended now info
  | dimmerThread => exact tended_dimmerThread tended
  | autoOffThread => exact tended_autoOffThread tended

/-- `pwrOn` stops both timers of a light that is on and starts none. -/
theorem stuck_of_turnedOn {e : Step} (refused : ¬ l.TurnsOnFromOff e) : ¬ (l.step e).Stoppable := by
  cases e with
  | pwrOn slow =>
    have on : l.mPowerOn = true := Bool.not_eq_false _ ▸ refused
    have kept : l.pwrOn slow = { l with
        mAutoPowerOffTimer := l.mAutoPowerOffTimer.cancelAutoPowerOff
        mUpDownTimer := l.mUpDownTimer.cancelDimmer } := by
      simp [pwrOn, on]
    rw [step, kept]
    intro stoppable
    rcases stoppable on with counting | fading
    · exact absurd counting.running Bool.false_ne_true
    · exact absurd fading.running Bool.false_ne_true
  | pwrOff | pwrToggle | keyboardPressed | dimmerThread | autoOffThread => exact absurd trivial refused

theorem answers_of_allowed (tended : l.Tended) {e : Step} (allowed : l.TurnsOnFromOff e) : l.Answers e := by
  cases e with
  | pwrOn slow =>
    intro on
    rw [allowed] at on
    cases on
  | pwrOff => exact (tended_pwrOff tended).2
  | pwrToggle | keyboardPressed | dimmerThread | autoOffThread => trivial

/-- A light can be turned off in every state of a run, and `pwrOn` and `pwrOff` answer as they should,
exactly if no step of the run calls `pwrOn` on a light that is on. -/
theorem stoppable_iff (now : Int) (steps : List Step) :
    (∀ n, (stateAt step (create now) steps n).Stoppable ∧
      ∀ e, steps[n]? = some e → (stateAt step (create now) steps n).Answers e) ↔
    Meets step TurnsOnFromOff (create now) steps := by
  have within : ∀ l : Light, l.Tended → l.Stoppable := fun _ tended => tended.stoppable
  have keep : ∀ (l : Light) (e : Step), l.Tended → l.TurnsOnFromOff e → (l.step e).Tended :=
    fun _ _ tended allowed => tended_step tended allowed
  have stays : Meets step TurnsOnFromOff (create now) steps ↔ ∀ n, (stateAt step (create now) steps n).Stoppable :=
    meets_iff_always within keep (fun _ _ _ refused => stuck_of_turnedOn refused) (tended_create now)
  constructor
  · exact fun always => stays.mpr fun n => (always n).1
  · intro meets n
    have tended : (stateAt step (create now) steps n).Tended :=
      run_keeps keep (tended_create now) (meets.take n)
    exact ⟨tended.stoppable, fun e found => answers_of_allowed tended (meets.at found)⟩

/-- A light that is turned on while it fades out stays on: nothing runs, and `pwrOff` does nothing. -/
theorem turnedOn_in_fadeOut_stays_on :
    let l := run step (create 0) [.pwrOn false, .dimmerThread, .pwrOff, .dimmerThread, .pwrOn false]
    ¬ l.Stoppable ∧ l.mPowerOn = true ∧ l.mPowerDownInitiated = true ∧ l.pwrOff = l := by
  refine ⟨?_, by decide, by decide, by decide⟩
  intro stoppable
  rcases stoppable (by decide) with counting | fading
  · exact absurd counting.unmarked (by decide)
  · exact absurd fading.running (by decide)

end Light

end RgbClock.Devices
