import RgbClock.Units.AlarmClock
import RgbClock.Lib.Run

/-! The power counter of the DAB receiver. `pwrOn` and `pwrOff` do not look at the state of the
radio, so the counter agrees with the radios that are on as long as each handler finds its radio
the other way round. -/

namespace RgbClock.Units
open Keys Devices Runs

/-! ### What a handler does to the radio -/

/-- The auto power off only counts down for a radio that is on. -/
def AutoOffGuarded (r : Radio) : Prop :=
  r.mAutoPowerOffTimer.mAutoOffThreadRunning = true → r.mState = .PwrOn

structure Kept (r r' : Radio) (dab dab' : DABReceiver) : Prop where
  state : r'.mState = r.mState
  refs : r'.powerRefs = r.powerRefs
  observers : r'.mRadioObservers = r.mRadioObservers
  guarded : AutoOffGuarded r → AutoOffGuarded r'
  receiver : dab' = dab

structure TurnedOn (r r' : Radio) (dab dab' : DABReceiver) : Prop where
  state : r'.mState = .PwrOn
  refs : r'.powerRefs = r.powerRefs + 1
  observers : r'.mRadioObservers = r.mRadioObservers
  receiver : dab' = (r.registerFMReceiver dab).powerOn

structure TurnedOff (r r' : Radio) (dab dab' : DABReceiver) : Prop where
  state : r'.mState = .PwrOff
  refs : r'.powerRefs = r.powerRefs - 1
  observers : r'.mRadioObservers = r.mRadioObservers
  stopped : r'.mAutoPowerOffTimer.mAutoOffThreadRunning = false
  receiver : dab' = r.unRegisterFMReceiver dab.powerOff

section
variable (r : Radio) (dab : DABReceiver)

theorem Kept.refl : Kept r r dab dab := ⟨rfl, rfl, rfl, id, rfl⟩

theorem turnedOn_pwrOn (smooth : Bool) (volume : Int) :
    TurnedOn r (r.pwrOn dab smooth volume).1 dab (r.pwrOn dab smooth volume).2 := by
  unfold Radio.pwrOn Radio.setVolume
  constructor <;> dsimp only <;> split <;> (try split) <;> rfl

theorem turnedOff_pwrOff : TurnedOff r (r.pwrOff dab).1 dab (r.pwrOff dab).2 := ⟨rfl, rfl, rfl, rfl, rfl⟩

theorem kept_up : Kept r r.up dab dab := by
  unfold Radio.up
  split
  · exact ⟨rfl, rfl, rfl, id, rfl⟩
  · apply Kept.refl

theorem kept_down : Kept r r.down dab dab := by
  unfold Radio.down
  split
  · exact ⟨rfl, rfl, rfl, id, rfl⟩
  · apply Kept.refl

theorem Kept.trans {r r' r'' : Radio} {dab : DABReceiver} (first : Kept r r' dab dab) (second : Kept r' r'' dab dab) :
    Kept r r'' dab dab :=
  ⟨second.state.trans first.state, second.refs.trans first.refs, second.observers.trans first.observers,
    second.guarded ∘ first.guarded, rfl⟩

theorem Kept.turnedOn {r r' r'' : Radio} {dab dab' : DABReceiver} (kept : Kept r r' dab dab)
    (on : TurnedOn r' r'' dab dab') : TurnedOn r r'' dab dab' := by
  refine ⟨on.state, ?_, ?_, ?_⟩
  · rw [on.refs, kept.refs]
  · rw [on.observers, kept.observers]
  · rw [on.receiver, Radio.registerFMReceiver, kept.observers]
    rfl

theorem Kept.turnedOff {r r' r'' : Radio} {dab dab' : DABReceiver} (kept : Kept r r' dab dab)
    (off : TurnedOff r' r'' dab dab') : TurnedOff r r'' dab dab' := by
  refine ⟨off.state, ?_, ?_, off.stopped, ?_⟩
  · rw [off.refs, kept.refs]
  · rw [off.observers, kept.observers]
  · rw [off.receiver, Radio.unRegisterFMReceiver, kept.observers]
    rfl

theorem kept_timer (timer : UpDownTimer) : Kept r { r with mUpDownTimer := timer } dab dab :=
  ⟨rfl, rfl, rfl, id, rfl⟩

theorem kept_volumeKeys (info : KeyboardInfo) : Kept r (r.volumeKeys info) dab dab := by
  have raise : ∀ s : Radio, ∀ key : Bool,
      Kept s (if key = true then { s.up with mUpDownTimer := s.mUpDownTimer.cancelDimmer } else s) dab dab := by
    intro s key
    split
    · exact (kept_up s dab).trans (kept_timer _ _ _)
    · apply Kept.refl
  have lower : ∀ s : Radio, ∀ key : Bool,
      Kept s (if key = true then { s.down with mUpDownTimer := s.mUpDownTimer.cancelDimmer } else s) dab dab := by
    intro s key
    split
    · exact (kept_down s dab).trans (kept_timer _ _ _)
    · apply Kept.refl
  unfold Radio.volumeKeys
  dsimp only
  split
  · exact (raise r _).trans (lower _ _)
  · apply Kept.refl

theorem kept_dimmerThread : Kept r r.dimmerThread dab dab := by
  unfold Radio.dimmerThread
  dsimp only
  split
  · exact (kept_timer r dab _).trans (kept_up _ _)
  · exact (kept_timer r dab _).trans (kept_down _ _)
  · exact kept_timer r dab _

end

/-! ### The handlers -/

namespace AlarmClock

def Ending (c : AlarmClock) : Prop :=
  (c.mClockState = .clkAlarm ∧ (ALARM_TIME ≤ c.mAlarmCounter + 1 ∨ c.mAlarmOff = true)) ∨
    (c.mClockState = .clkSnooze ∧ c.mAlarmOff = true)

def Resuming (c : AlarmClock) : Prop :=
  c.mClockState = .clkSnooze ∧ c.mAlarmOff = false ∧ SNOOZE_TIME ≤ c.mAlarmCounter + 1

instance (c : AlarmClock) : Decidable c.Ending := inferInstanceAs (Decidable (_ ∨ _))
instance (c : AlarmClock) : Decidable c.Resuming := inferInstanceAs (Decidable (_ ∧ _))

def PowerKey (info : KeyboardInfo) : Prop :=
  info.mState = .stNormal ∧ (info.mKeyInfo KEY_LEFT).mShortPressed = true

def TurnsOn (c : AlarmClock) : Handler → Prop
  | .alarmNotify _ _ => True
  | .maintenance => c.mAlarmMaintenanceThreadRunning = true ∧ c.Resuming
  | .radioKeys info => PowerKey info ∧ c.mRadio.mState = .PwrOff
  | _ => False

def TurnsOff (c : AlarmClock) : Handler → Prop
  | .alarmSnooze => c.mClockState = .clkAlarm
  | .maintenance => c.mAlarmMaintenanceThreadRunning = true ∧ c.Ending
  | .radioKeys info => PowerKey info ∧ c.mRadio.mState = .PwrOn
  | .radioAutoOff => c.mRadio.mAutoPowerOffTimer.autoOffThread.2 = true
  | _ => False

theorem alarmMaintenanceThread_cases (c : AlarmClock) (dab : DABReceiver) :
    (c.Ending ∧ (c.alarmMaintenanceThread dab).1.mRadio = (c.mRadio.pwrOff dab).1 ∧
      (c.alarmMaintenanceThread dab).2 = (c.mRadio.pwrOff dab).2) ∨
    (c.Resuming ∧ (c.alarmMaintenanceThread dab).1.mRadio = (c.mRadio.pwrOn dab false c.mAlarmVolume).1 ∧
      (c.alarmMaintenanceThread dab).2 = (c.mRadio.pwrOn dab false c.mAlarmVolume).2) ∨
    (¬ c.Ending ∧ ¬ c.Resuming ∧
      c.alarmMaintenanceThread dab = ({ c with mAlarmCounter := c.mAlarmCounter + 1 }, dab)) := by
  unfold alarmMaintenanceThread
  cases state : c.mClockState with
  | clkNormal => simp [Ending, Resuming, state]
  | clkAlarm =>
    by_cases ending : ALARM_TIME ≤ c.mAlarmCounter + 1 ∨ c.mAlarmOff = true
    · refine Or.inl ⟨Or.inl ⟨state, ending⟩, ?_⟩
      simp [ending, endAlarm]
    · exact Or.inr (Or.inr (by simp [Ending, Resuming, state, ending]))
  | clkSnooze =>
    cases off : c.mAlarmOff with
    | true =>
      refine Or.inl ⟨Or.inr ⟨state, off⟩, ?_⟩
      simp [endAlarm]
    | false =>
      by_cases elapsed : SNOOZE_TIME ≤ c.mAlarmCounter + 1
      · refine Or.inr (Or.inl ⟨⟨state, off, elapsed⟩, ?_⟩)
        simp [elapsed, startAlarm]
      · exact Or.inr (Or.inr (by simp [Ending, Resuming, state, off, elapsed]))

/-- What a handler does to the radio and to the receiver, and which handlers do it. -/
theorem handle_radio (c : AlarmClock) (dab : DABReceiver) (handler : Handler) :
    (c.TurnsOn handler ∧ TurnedOn c.mRadio (c.handle dab handler).1.mRadio dab (c.handle dab handler).2) ∨
    (c.TurnsOff handler ∧ TurnedOff c.mRadio (c.handle dab handler).1.mRadio dab (c.handle dab handler).2) ∨
    (¬ c.TurnsOn handler ∧ ¬ c.TurnsOff handler ∧
      Kept c.mRadio (c.handle dab handler).1.mRadio dab (c.handle dab handler).2) := by
  cases handler with
  | alarmNotify volume smooth =>
    rw [handle, alarmNotify_eq]
    exact Or.inl ⟨trivial, turnedOn_pwrOn _ _ _ _⟩
  | alarmSnooze =>
    simp only [handle, alarmSnooze]
    split
    · rename_i ringing
      exact Or.inr (Or.inl ⟨ringing, turnedOff_pwrOff _ _⟩)
    · rename_i silent
      exact Or.inr (Or.inr ⟨not_false, silent, Kept.refl _ _⟩)
  | maintenance =>
    simp only [handle, tick]
    split
    · rename_i running
      rcases alarmMaintenanceThread_cases c dab with ⟨ending, radio, receiver⟩ | ⟨resuming, radio, receiver⟩ |
        ⟨goesOn, waits, counts⟩
      · rw [radio, receiver]
        exact Or.inr (Or.inl ⟨⟨running, ending⟩, turnedOff_pwrOff _ _⟩)
      · rw [radio, receiver]
        exact Or.inl ⟨⟨running, resuming⟩, turnedOn_pwrOn _ _ _ _⟩
      · rw [counts]
        exact Or.inr (Or.inr ⟨fun calls => waits calls.2, fun calls => goesOn calls.2, Kept.refl _ _⟩)
    · rename_i stopped
      exact Or.inr (Or.inr ⟨fun calls => stopped calls.1, fun calls => stopped calls.1, Kept.refl _ _⟩)
  | radioKeys info =>
    have volume := kept_volumeKeys c.mRadio dab info
    simp only [handle, Radio.keyboardPressed, Radio.powerKey]
    split
    · rename_i pressed
      cases state : (c.mRadio.volumeKeys info).mState with
      | PwrOff =>
        have on := volume.turnedOn (turnedOn_pwrOn (c.mRadio.volumeKeys info) dab false 0)
        exact Or.inl ⟨⟨pressed, volume.state.symm.trans state⟩, on⟩
      | PwrOn =>
        have off := volume.turnedOff (turnedOff_pwrOff (c.mRadio.volumeKeys info) dab)
        exact Or.inr (Or.inl ⟨⟨pressed, volume.state.symm.trans state⟩, off⟩)
    · rename_i other
      exact Or.inr (Or.inr ⟨fun calls => other calls.1, fun calls => other calls.1, volume⟩)
  | radioAutoOff =>
    simp only [handle, Radio.autoOffThread]
    split
    · rename_i expired
      exact Or.inr (Or.inl ⟨expired, rfl, rfl, rfl, rfl, rfl⟩)
    · rename_i counting
      refine Or.inr (Or.inr ⟨not_false, counting, rfl, rfl, rfl, ?_, rfl⟩)
      intro guarded running
      apply guarded
      simp only [AutoPowerOffTimer.autoOffThread] at running
      by_contra stopped
      simp [stopped] at running
  | radioDimmer => exact Or.inr (Or.inr ⟨not_false, not_false, kept_dimmerThread _ _⟩)
  | alarmOff | lightKeys | lightAutoOff | lightDimmer => exact Or.inr (Or.inr ⟨not_false, not_false, Kept.refl _ _⟩)

theorem handle_guarded {c : AlarmClock} (guarded : AutoOffGuarded c.mRadio) (dab : DABReceiver) (handler : Handler) :
    AutoOffGuarded (c.handle dab handler).1.mRadio := by
  rcases handle_radio c dab handler with ⟨_, on⟩ | ⟨_, off⟩ | ⟨_, _, kept⟩
  · exact fun _ => on.state
  · intro running
    rw [off.stopped] at running
    cases running
  · exact kept.guarded guarded

/-- An alarm or the end of a snooze finds the radio off; a snooze or the end of an alarm finds it on. -/
def Balanced (c : AlarmClock) : Handler → Prop
  | .alarmNotify _ _ => c.mRadio.mState = .PwrOff
  | .alarmSnooze => c.mClockState = .clkAlarm → c.mRadio.mState = .PwrOn
  | .maintenance => c.mAlarmMaintenanceThreadRunning = true →
      (c.Ending → c.mRadio.mState = .PwrOn) ∧ (c.Resuming → c.mRadio.mState = .PwrOff)
  | _ => True

instance (c : AlarmClock) (handler : Handler) : Decidable (c.Balanced handler) :=
  match handler with
  | .alarmNotify _ _ => inferInstanceAs (Decidable (_ = _))
  | .alarmSnooze | .maintenance => inferInstanceAs (Decidable (_ → _))
  | .alarmOff | .radioKeys _ | .radioAutoOff | .radioDimmer | .lightKeys _ _ | .lightAutoOff | .lightDimmer =>
    isTrue trivial

theorem turnsOff_of_turnsOn {c : AlarmClock} {handler : Handler} (calls : c.TurnsOn handler) : ¬ c.TurnsOff handler := by
  intro other
  cases handler with
  | alarmNotify => exact other.elim
  | alarmSnooze => exact calls.elim
  | maintenance =>
    obtain ⟨-, state, kept, -⟩ := calls
    rcases other.2 with ⟨ringing, -⟩ | ⟨-, off⟩
    · rw [state] at ringing
      cases ringing
    · rw [kept] at off
      cases off
  | radioKeys info =>
    have both := calls.2.symm.trans other.2
    cases both
  | alarmOff | radioAutoOff | radioDimmer | lightKeys | lightAutoOff | lightDimmer => exact calls.elim

/-- A handler that is not balanced calls for what the radio is already. -/
theorem switches_of_not_balanced {c : AlarmClock} {handler : Handler} (unbalanced : ¬ c.Balanced handler) :
    (c.TurnsOn handler ∧ c.mRadio.mState = .PwrOn) ∨ (c.TurnsOff handler ∧ c.mRadio.mState = .PwrOff) := by
  have on : c.mRadio.mState ≠ .PwrOff → c.mRadio.mState = .PwrOn := by cases c.mRadio.mState <;> simp
  have off : c.mRadio.mState ≠ .PwrOn → c.mRadio.mState = .PwrOff := by cases c.mRadio.mState <;> simp
  cases handler with
  | alarmNotify => exact Or.inl ⟨trivial, on unbalanced⟩
  | alarmSnooze =>
    obtain ⟨ringing, state⟩ := Classical.not_imp.mp unbalanced
    exact Or.inr ⟨ringing, off state⟩
  | maintenance =>
    obtain ⟨running, wrong⟩ := Classical.not_imp.mp unbalanced
    rcases not_and_or.mp wrong with ends | resumes
    · obtain ⟨ending, state⟩ := Classical.not_imp.mp ends
      exact Or.inr ⟨⟨running, ending⟩, off state⟩
    · obtain ⟨resuming, state⟩ := Classical.not_imp.mp resumes
      exact Or.inl ⟨⟨running, resuming⟩, on state⟩
  | alarmOff | radioKeys | radioAutoOff | radioDimmer | lightKeys | lightAutoOff | lightDimmer =>
    exact absurd trivial unbalanced

theorem balanced_switches {c : AlarmClock} (guarded : AutoOffGuarded c.mRadio) {handler : Handler}
    (balanced : c.Balanced handler) :
    (c.TurnsOn handler → c.mRadio.mState = .PwrOff) ∧ (c.TurnsOff handler → c.mRadio.mState = .PwrOn) := by
  cases handler with
  | alarmNotify => exact ⟨fun _ => balanced, False.elim⟩
  | alarmSnooze => exact ⟨False.elim, balanced⟩
  | maintenance => exact ⟨fun calls => (balanced calls.1).2 calls.2, fun calls => (balanced calls.1).1 calls.2⟩
  | radioKeys => exact ⟨And.right, And.right⟩
  | radioAutoOff =>
    refine ⟨False.elim, fun expired => guarded ?_⟩
    by_contra stopped
    simp [TurnsOff, AutoPowerOffTimer.autoOffThread, stopped] at expired
  | alarmOff | radioDimmer | lightKeys | lightAutoOff | lightDimmer => exact ⟨False.elim, False.elim⟩

end AlarmClock

/-! ### The counter over whole runs -/

def SamePower (a b : DABReceiver) : Prop :=
  a.mPowerCounter = b.mPowerCounter ∧ a.mReadThreadRunning = b.mReadThreadRunning

theorem registerFMReceiver_samePower (r : Radio) (dab : DABReceiver) : SamePower (r.registerFMReceiver dab) dab := by
  unfold Radio.registerFMReceiver
  induction r.mRadioObservers generalizing dab with
  | nil => exact ⟨rfl, rfl⟩
  | cons _ _ ih => exact ih _

theorem unRegisterFMReceiver_samePower (r : Radio) (dab : DABReceiver) :
    SamePower (r.unRegisterFMReceiver dab) dab := by
  unfold Radio.unRegisterFMReceiver
  induction r.mRadioObservers generalizing dab with
  | nil => exact ⟨rfl, rfl⟩
  | cons _ _ ih => exact ih _

namespace Home

def playing (units : List AlarmClock) : Nat := units.countP fun c => c.mRadio.mState = .PwrOn

/-- The counter of the receiver is the number of radios that are on, and its read thread runs
exactly while there is one. -/
def Counted (h : Home) : Prop :=
  h.mDabReceiver.mPowerCounter = playing h.units ∧
    (h.mDabReceiver.mReadThreadRunning = true ↔ 0 < playing h.units)

instance (h : Home) : Decidable h.Counted := inferInstanceAs (Decidable (_ ∧ _))

def fresh (names : List String) : Home := { units := names.mapIdx AlarmClock.create }

def Balanced (h : Home) (step : Step) : Prop :=
  ∀ c ∈ h.units[step.unit]?, c.Balanced step.handler

instance (h : Home) (step : Step) : Decidable (h.Balanced step) :=
  inferInstanceAs (Decidable (∀ c ∈ h.units[step.unit]?, c.Balanced step.handler))

theorem playing_set {units : List AlarmClock} {k : Nat} {c : AlarmClock} (found : units[k]? = some c)
    (c' : AlarmClock) :
    playing (units.set k c') + (if c.mRadio.mState = .PwrOn then 1 else 0) =
      playing units + (if c'.mRadio.mState = .PwrOn then 1 else 0) := by
  obtain ⟨inside, rfl⟩ := List.getElem?_eq_some_iff.mp found
  unfold playing
  rw [List.countP_set inside]
  simp only [decide_eq_true_eq]
  by_cases on : (units[k]).mRadio.mState = .PwrOn
  · have positive : 0 < units.countP fun c => c.mRadio.mState = .PwrOn :=
      List.countP_pos_iff.mpr ⟨_, List.getElem_mem inside, by simpa using on⟩
    rw [if_pos on]
    omega
  · rw [if_neg on]
    omega

def Guarded (h : Home) : Prop := ∀ c ∈ h.units, AutoOffGuarded c.mRadio

theorem handle_guarded {h : Home} (guarded : h.Guarded) (step : Step) : (h.handle step).Guarded := by
  unfold handle
  cases found : h.units[step.unit]? with
  | none => exact guarded
  | some c =>
    intro other member
    rcases List.mem_or_eq_of_mem_set member with old | rfl
    · exact guarded other old
    · exact AlarmClock.handle_guarded (guarded c (List.mem_of_getElem? found)) _ _

theorem handle_counted {h : Home} (guarded : h.Guarded) (counted : h.Counted) {step : Step}
    (balanced : h.Balanced step) : (h.handle step).Counted := by
  obtain ⟨counter, thread⟩ := counted
  unfold handle
  cases found : h.units[step.unit]? with
  | none => exact ⟨counter, thread⟩
  | some c =>
    obtain ⟨turnsOn, turnsOff⟩ :=
      AlarmClock.balanced_switches (guarded c (List.mem_of_getElem? found)) (balanced c found)
    have effect := c.handle_radio h.mDabReceiver step.handler
    dsimp only
    generalize c.handle h.mDabReceiver step.handler = result at effect
    have count := playing_set found result.1
    rcases effect with ⟨calls, on⟩ | ⟨calls, off⟩ | ⟨-, -, kept⟩
    · obtain ⟨sameCounter, sameThread⟩ := registerFMReceiver_samePower c.mRadio h.mDabReceiver
      rw [if_pos on.state, turnsOn calls, if_neg (by decide)] at count
      simp only [Counted, on.receiver, DABReceiver.powerOn, sameCounter, sameThread]
      refine ⟨by omega, fun _ => by omega, fun _ => ?_⟩
      split
      · rfl
      · exact thread.mpr (by omega)
    · obtain ⟨sameCounter, sameThread⟩ := unRegisterFMReceiver_samePower c.mRadio h.mDabReceiver.powerOff
      rw [if_pos (turnsOff calls), off.state, if_neg (by decide)] at count
      simp only [Counted, off.receiver, sameCounter, sameThread]
      simp only [DABReceiver.powerOff]
      refine ⟨by omega, ?_⟩
      split
      · constructor
        · intro runs
          cases runs
        · intro some
          omega
      · rw [thread]
        omega
    · rw [kept.state] at count
      simp only [Counted, kept.receiver, counter, thread]
      omega

/-- A step that is not balanced changes the counter and not the number of radios that are on. -/
theorem not_counted_of_not_balanced {h : Home} (counted : h.Counted) {step : Step} (unbalanced : ¬ h.Balanced step) :
    ¬ (h.handle step).Counted := by
  unfold Balanced at unbalanced
  push Not at unbalanced
  obtain ⟨c, found, unbalanced⟩ := unbalanced
  have unit : h.units[step.unit]? = some c := found
  obtain ⟨counter, -⟩ := counted
  rintro ⟨after, -⟩
  simp only [handle, unit] at after
  have effect := c.handle_radio h.mDabReceiver step.handler
  generalize c.handle h.mDabReceiver step.handler = result at effect after
  have count := playing_set unit result.1
  rcases AlarmClock.switches_of_not_balanced unbalanced with ⟨calls, state⟩ | ⟨calls, state⟩
  · rcases effect with ⟨-, on⟩ | ⟨other, -⟩ | ⟨none, -, -⟩
    · have same := (registerFMReceiver_samePower c.mRadio h.mDabReceiver).1
      rw [if_pos on.state, if_pos state] at count
      simp only [on.receiver, DABReceiver.powerOn, same] at after
      omega
    · exact AlarmClock.turnsOff_of_turnsOn calls other
    · exact none calls
  · rcases effect with ⟨other, -⟩ | ⟨-, off⟩ | ⟨-, none, -⟩
    · exact AlarmClock.turnsOff_of_turnsOn other calls
    · have same := (unRegisterFMReceiver_samePower c.mRadio h.mDabReceiver.powerOff).1
      rw [off.state, state, if_neg (by decide)] at count
      rw [off.receiver, same] at after
      simp only [DABReceiver.powerOff] at after
      omega
    · exact none calls

theorem playing_fresh (names : List String) : playing (fresh names).units = 0 := by
  unfold playing fresh
  rw [List.countP_eq_zero]
  intro c member
  obtain ⟨i, inside, rfl⟩ := List.mem_mapIdx.mp member
  simp [AlarmClock.create, Radio.registerRadioObserver]

/-- In the runs of handlers of any number of units in which each handler finds its radio the
other way round, and in no others, the counter is after every step the number of radios that are
on, and the read thread runs exactly while there is one. -/
theorem power_counter_correct (names : List String) (steps : List Step) :
    Meets handle Balanced (fresh names) steps ↔ ∀ n, (stateAt handle (fresh names) steps n).Counted := by
  have keep : ∀ (h : Home) (step : Step), h.Guarded ∧ h.Counted → h.Balanced step →
      (h.handle step).Guarded ∧ (h.handle step).Counted :=
    fun h step ⟨guarded, counted⟩ balanced =>
      ⟨handle_guarded guarded step, handle_counted guarded counted balanced⟩
  have breaks : ∀ (h : Home) (step : Step), h.Guarded ∧ h.Counted → ¬ h.Balanced step → ¬ (h.handle step).Counted :=
    fun h step ⟨_, counted⟩ unbalanced => not_counted_of_not_balanced counted unbalanced
  have guarded : (fresh names).Guarded := by
    intro c member running
    obtain ⟨i, inside, rfl⟩ := List.mem_mapIdx.mp member
    cases running
  have counted : (fresh names).Counted := by
    unfold Counted
    rw [playing_fresh]
    simp [fresh]
  exact meets_iff_always (fun _ holds => holds.2) keep breaks ⟨guarded, counted⟩

/-- Both bedrooms are woken; one snoozes, and the other has its radio turned off by its key. -/
def twoBedrooms : List Step :=
  [⟨0, .alarmNotify 40 false⟩, ⟨1, .alarmNotify 30 true⟩, ⟨0, .alarmSnooze⟩, ⟨1, .radioKeys (shortPress KEY_LEFT .stNormal)⟩,
    ⟨0, .radioKeys (shortPress KEY_LEFT .stNormal)⟩]

theorem power_counter_correct_notified :
    (stateAt handle (fresh ["Bedroom", "Guest room"]) twoBedrooms 5).Counted :=
  (power_counter_correct ["Bedroom", "Guest room"] twoBedrooms).mp (by decide +kernel) 5

/-- Off during the snooze powers the receiver off once too often, and the next alarm switches its
radio on without a read thread. -/
theorem off_in_snooze_loses_the_receiver :
    ¬ (run handle (fresh ["Bedroom"])
        [⟨0, .alarmNotify 40 false⟩, ⟨0, .alarmSnooze⟩, ⟨0, .alarmOff⟩, ⟨0, .maintenance⟩]).Counted ∧
    playing (run handle (fresh ["Bedroom"])
        [⟨0, .alarmNotify 40 false⟩, ⟨0, .alarmSnooze⟩, ⟨0, .alarmOff⟩, ⟨0, .maintenance⟩,
          ⟨0, .alarmNotify 40 false⟩]).units = 1 ∧
    (run handle (fresh ["Bedroom"])
        [⟨0, .alarmNotify 40 false⟩, ⟨0, .alarmSnooze⟩, ⟨0, .alarmOff⟩, ⟨0, .maintenance⟩,
          ⟨0, .alarmNotify 40 false⟩]).mDabReceiver.mReadThreadRunning = false := by
  decide +kernel

end Home

end RgbClock.Units
