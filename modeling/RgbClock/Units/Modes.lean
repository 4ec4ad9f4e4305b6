import RgbClock.Units.Dispatch
import RgbClock.Units.Editor
import RgbClock.Lib.Run

/-! The mode of the keyboard of a unit. A message carries the mode of the moment in which it was sampled;
when the worker hands it to the display, an alarm may have begun or ended. -/

namespace RgbClock.Units
open Keys Alarms Devices Runs

/-- The keyboard says what the unit is doing. -/
structure Agrees (c : AlarmClock) : Prop where
  alarm : c.mKeyboard.mKeyboardState = .stAlarmActive ↔ c.mClockState = .clkAlarm ∨ c.mClockState = .clkSnooze
  edit : c.mKeyboard.mKeyboardState = .stAlarmEdit ↔ c.mDisplay.mDisplayState = .stEditAlarms

/-- A unit with its keyboard worker, and the calls that the worker has still to make for its message. -/
structure Worker extends Station where
  calls : List (KeyboardInfo × KeyboardObserver) := []

inductive WorkerEvent where
  /-- A handler of the unit or of its devices, and what the radio told the display meanwhile. -/
  | handle (handler : Handler) (told : RadioInfo)
  /-- The alarm thread or another unit changes the alarm manager. -/
  | elsewhere (manager : AlarmManager)
  | readThread (sample : Sample)
  /-- The worker calls the next observer, or takes the next message. -/
  | keyboardWorkerThread (now : Int)
  | refreshThread

namespace Worker

def keyboardWorkerThread (w : Worker) (now : Int) : Worker :=
  match w.calls with
  | (info, observer) :: rest => { toStation := w.keyboardPressed now info observer, calls := rest }
  | [] =>
    match w.clock.mKeyboard.mKeyboardQueue with
    | info :: rest =>
      { w with
        clock := { w.clock with mKeyboard := { w.clock.mKeyboard with mKeyboardQueue := rest } }
        calls := w.clock.mKeyboard.mKeyboardObservers.map (info, ·) }
    | [] => w

def step (w : Worker) : WorkerEvent → Worker
  | .handle handler told =>
    let (clock, receiver) := w.clock.handle w.mDabReceiver handler
    { w with clock, mDabReceiver := receiver, mRadioInfo := told }
  | .elsewhere manager => { w with mAlarmManager := manager }
  | .readThread sample =>
    { w with clock := { w.clock with mKeyboard := w.clock.mKeyboard.readThread sample } }
  | .keyboardWorkerThread now => w.keyboardWorkerThread now
  | .refreshThread =>
    let desk := Desk.refreshThread ⟨w.clock.mDisplay, w.clock.mKeyboard, w.mAlarmManager⟩
    { w with
      clock := { w.clock with mDisplay := desk.mDisplay, mKeyboard := desk.mKeyboard }
      mAlarmManager := desk.mAlarmManager }

/-- The display opens or closes its editor on this message. -/
def Switches (w : Worker) (info : KeyboardInfo) : Prop :=
  ((info.mKeyInfo KEY_LEFT).mLongPress && !(info.mKeyInfo KEY_LEFT).mRepeat) = true ∧
    (info.mState = .stNormal ∧ Desk.Free ⟨w.clock.mDisplay, w.clock.mKeyboard, w.mAlarmManager⟩ ∨
      info.mState = .stAlarmEdit)

/-- No alarm begins while the display edits, and a message on which the display opens or closes its editor
finds the unit without an alarm. -/
def Timely (w : Worker) : WorkerEvent → Prop
  | .handle (.alarmNotify _ _) _ => w.clock.mDisplay.mDisplayState ≠ .stEditAlarms
  | .keyboardWorkerThread _ =>
    ∀ info rest, w.calls = (info, .display) :: rest → w.Switches info → w.clock.mClockState = .clkNormal
  | _ => True

end Worker

/-! ### What a step does to the modes -/

structure SameModes (c c' : AlarmClock) : Prop where
  keyboard : c'.mKeyboard.mKeyboardState = c.mKeyboard.mKeyboardState
  clock : c'.mClockState = c.mClockState
  display : c'.mDisplay.mDisplayState = c.mDisplay.mDisplayState

theorem SameModes.agrees {c c' : AlarmClock} (same : SameModes c c') (agrees : Agrees c) : Agrees c' := by
  obtain ⟨alarm, edit⟩ := agrees
  constructor
  · rw [same.keyboard, same.clock]
    exact alarm
  · rw [same.keyboard, same.display]
    exact edit

theorem agrees_alarm {c : AlarmClock} (keyboard : c.mKeyboard.mKeyboardState = .stAlarmActive)
    (clock : c.mClockState = .clkAlarm) : Agrees c ↔ c.mDisplay.mDisplayState ≠ .stEditAlarms := by
  constructor
  · rintro agrees editing
    cases keyboard.symm.trans (agrees.edit.mpr editing)
  · intro closed
    exact ⟨iff_of_true keyboard (Or.inl clock), iff_of_false (by rw [keyboard]; nofun) closed⟩

/-- With or without its editor, a keyboard that is not in the alarm mode belongs to a unit without an alarm. -/
theorem agrees_quiet {c : AlarmClock} (keyboard : c.mKeyboard.mKeyboardState ≠ .stAlarmActive)
    (edit : c.mKeyboard.mKeyboardState = .stAlarmEdit ↔ c.mDisplay.mDisplayState = .stEditAlarms) :
    Agrees c ↔ c.mClockState = .clkNormal := by
  constructor
  · intro agrees
    cases state : c.mClockState with
    | clkNormal => rfl
    | clkAlarm => exact absurd (agrees.alarm.mpr (Or.inl state)) keyboard
    | clkSnooze => exact absurd (agrees.alarm.mpr (Or.inr state)) keyboard
  · intro quiet
    exact ⟨iff_of_false keyboard (by rw [quiet]; nofun), edit⟩

theorem agrees_normal {c : AlarmClock} (keyboard : c.mKeyboard.mKeyboardState = .stNormal)
    (closed : c.mDisplay.mDisplayState ≠ .stEditAlarms) : Agrees c ↔ c.mClockState = .clkNormal := by
  apply agrees_quiet
  · rw [keyboard]
    nofun
  · refine iff_of_false ?_ closed
    rw [keyboard]
    nofun

theorem Agrees.quiet {c : AlarmClock} (agrees : Agrees c) (editing : c.mDisplay.mDisplayState = .stEditAlarms) :
    c.mClockState = .clkNormal := by
  have edit := agrees.edit.mpr editing
  exact (agrees_quiet (by rw [edit]; nofun) agrees.edit).mp agrees

theorem Agrees.closed {c : AlarmClock} (agrees : Agrees c) (alarm : c.mClockState = .clkAlarm ∨ c.mClockState = .clkSnooze) :
    c.mDisplay.mDisplayState ≠ .stEditAlarms := by
  intro editing
  rw [agrees.quiet editing] at alarm
  rcases alarm with ringing | snoozing
  · cases ringing
  · cases snoozing

theorem alarmNotify_agrees (c : AlarmClock) (dab : DABReceiver) (volume : Int) (smooth : Bool) :
    Agrees (c.alarmNotify dab volume smooth).1 ↔ c.mDisplay.mDisplayState ≠ .stEditAlarms := by
  rw [AlarmClock.alarmNotify_eq]
  exact agrees_alarm rfl rfl

theorem endAlarm_agrees {c : AlarmClock} (closed : c.mDisplay.mDisplayState ≠ .stEditAlarms) (dab : DABReceiver) :
    Agrees (c.endAlarm dab).1 := by
  refine (agrees_normal ?_ ?_).mpr rfl
  · rfl
  · exact closed

theorem startAlarm_agrees {c : AlarmClock} (closed : c.mDisplay.mDisplayState ≠ .stEditAlarms) (dab : DABReceiver)
    (smooth : Bool) : Agrees (c.startAlarm dab smooth).1 :=
  (agrees_alarm rfl rfl).mpr closed

theorem alarmMaintenanceThread_agrees {c : AlarmClock} (agrees : Agrees c) (dab : DABReceiver) :
    Agrees (c.alarmMaintenanceThread dab).1 := by
  unfold AlarmClock.alarmMaintenanceThread
  dsimp only
  cases state : c.mClockState with
  | clkNormal =>
    simp only [reduceCtorEq, and_false, if_false]
    exact SameModes.agrees (c := c) ⟨rfl, state.symm, rfl⟩ agrees
  | clkAlarm =>
    have closed := agrees.closed (Or.inl state)
    simp only [reduceCtorEq, and_false, if_false]
    split
    · apply endAlarm_agrees
      exact closed
    · exact SameModes.agrees (c := c) ⟨rfl, state.symm, rfl⟩ agrees
  | clkSnooze =>
    have closed := agrees.closed (Or.inr state)
    cases c.mAlarmOff with
    | true =>
      simp only [and_self, if_true, or_true]
      apply endAlarm_agrees
      exact closed
    | false =>
      simp only [Bool.false_eq_true, false_and, if_false]
      split
      · apply startAlarm_agrees
        exact closed
      · exact SameModes.agrees (c := c) ⟨rfl, state.symm, rfl⟩ agrees

theorem alarmSnooze_agrees {c : AlarmClock} (agrees : Agrees c) (dab : DABReceiver) : Agrees (c.alarmSnooze dab).1 := by
  unfold AlarmClock.alarmSnooze
  split
  · rename_i ringing
    have active := agrees.alarm.mpr (Or.inl ringing)
    exact ⟨iff_of_true active (Or.inr rfl), agrees.edit⟩
  · exact agrees

/-! ### The display -/

namespace Desk

theorem editorKeys_modes (s : Desk) (info : KeyboardInfo) :
    (s.editorKeys info).mKeyboard = s.mKeyboard ∧
      (s.editorKeys info).mDisplay.mDisplayState = s.mDisplay.mDisplayState := by
  unfold editorKeys
  split
  · dsimp only
    split
    · exact ⟨rfl, (ClockDisplay.editKeys_frame _ _ _ _).1⟩
    · exact ⟨rfl, rfl⟩
  · exact ⟨rfl, rfl⟩

/-- What a message does to the editor, as far as it is open. -/
theorem keyboardPressed_modes (s : Desk) (info : KeyboardInfo) :
    ((s.keyboardPressed info).mKeyboard.mKeyboardState, (s.keyboardPressed info).mDisplay.mDisplayState) =
      if ((info.mKeyInfo KEY_LEFT).mLongPress && !(info.mKeyInfo KEY_LEFT).mRepeat) = true then
        match info.mState with
        | .stNormal =>
          if s.mAlarmManager.mCurrentEditor = "" ∨ s.mAlarmManager.mCurrentEditor = s.mDisplay.mUnitName then
            (.stAlarmEdit, .stEditAlarms)
          else (s.mKeyboard.mKeyboardState, s.mDisplay.mDisplayState)
        | .stAlarmEdit => (.stNormal, .stNormal)
        | .stAlarmActive => (s.mKeyboard.mKeyboardState, s.mDisplay.mDisplayState)
      else (s.mKeyboard.mKeyboardState, s.mDisplay.mDisplayState) := by
  have edited := editorKeys_modes (s.longPressLeft info) info
  rw [keyboardPressed, edited.1, edited.2]
  unfold longPressLeft
  split
  · cases info.mState with
    | stNormal =>
      unfold enterEditAlarms AlarmManager.editAlarms
      dsimp only
      split <;> rfl
    | stAlarmEdit => rfl
    | stAlarmActive => rfl
  · rfl

/-- A pass of the refresh thread leaves the modes alone or closes an open editor. -/
theorem refreshThread_modes (s : Desk) :
    s.refreshThread.mKeyboard.mKeyboardState = s.mKeyboard.mKeyboardState ∧
        s.refreshThread.mDisplay.mDisplayState = s.mDisplay.mDisplayState ∨
      s.Editing ∧ s.refreshThread.mKeyboard.mKeyboardState = .stNormal ∧
        s.refreshThread.mDisplay.mDisplayState = .stNormal := by
  cases state : s.mDisplay.mDisplayState with
  | stNormal => simp [refreshThread, state]
  | stEditAlarms =>
    unfold refreshThread
    simp only [state, reduceCtorEq, if_false]
    split <;> split
    all_goals first | exact Or.inr ⟨state, rfl, rfl⟩ | exact Or.inl ⟨rfl, state⟩

end Desk

/-! ### Runs -/

namespace Worker

theorem handle_agrees {c : AlarmClock} (agrees : Agrees c) (dab : DABReceiver) {handler : Handler}
    (calm : ∀ volume smooth, handler = .alarmNotify volume smooth → c.mDisplay.mDisplayState ≠ .stEditAlarms) :
    Agrees (c.handle dab handler).1 := by
  cases handler with
  | alarmNotify volume smooth => exact (alarmNotify_agrees c dab volume smooth).mpr (calm volume smooth rfl)
  | alarmSnooze => exact alarmSnooze_agrees agrees dab
  | maintenance =>
    simp only [AlarmClock.handle, AlarmClock.tick]
    split
    · exact alarmMaintenanceThread_agrees agrees dab
    · exact agrees
  | alarmOff | radioKeys | radioAutoOff | radioDimmer | lightKeys | lightAutoOff | lightDimmer =>
    exact ⟨agrees.alarm, agrees.edit⟩

theorem refreshThread_agrees {w : Worker} (agrees : Agrees w.clock) : Agrees (w.step .refreshThread).clock := by
  rcases Desk.refreshThread_modes ⟨w.clock.mDisplay, w.clock.mKeyboard, w.mAlarmManager⟩ with
    ⟨keyboard, display⟩ | ⟨editing, keyboard, display⟩
  · exact SameModes.agrees (c := w.clock) ⟨keyboard, rfl, display⟩ agrees
  · refine (agrees_normal keyboard fun still => ?_).mpr (agrees.quiet editing)
    cases display.symm.trans still

/-- After a message on which the editor opens or closes, the modes agree if the unit has no alarm; other
messages leave them alone. -/
theorem display_agrees {w : Worker} (agrees : Agrees w.clock) (now : Int) (info : KeyboardInfo) :
    Agrees (w.keyboardPressed now info .display).clock ↔ (w.Switches info → w.clock.mClockState = .clkNormal) := by
  have modes := Desk.keyboardPressed_modes ⟨w.clock.mDisplay, w.clock.mKeyboard, w.mAlarmManager⟩ info
  have stays : ((w.keyboardPressed now info .display).clock.mKeyboard.mKeyboardState,
      (w.keyboardPressed now info .display).clock.mDisplay.mDisplayState) =
        (w.clock.mKeyboard.mKeyboardState, w.clock.mDisplay.mDisplayState) →
      Agrees (w.keyboardPressed now info .display).clock := fun same =>
    SameModes.agrees (c := w.clock) ⟨congrArg Prod.fst same, rfl, congrArg Prod.snd same⟩ agrees
  by_cases long : ((info.mKeyInfo KEY_LEFT).mLongPress && !(info.mKeyInfo KEY_LEFT).mRepeat) = true
  · rw [if_pos long] at modes
    cases state : info.mState with
    | stNormal =>
      rw [state] at modes
      by_cases free : Desk.Free ⟨w.clock.mDisplay, w.clock.mKeyboard, w.mAlarmManager⟩
      · have opened := modes.trans (if_pos free)
        have keyboard := congrArg Prod.fst opened
        have display := congrArg Prod.snd opened
        have switches : w.Switches info := ⟨long, Or.inl ⟨state, free⟩⟩
        rw [agrees_quiet (fun active => by cases keyboard.symm.trans active) (iff_of_true keyboard display)]
        exact ⟨fun quiet _ => quiet, fun timely => timely switches⟩
      · refine iff_of_true (stays (modes.trans (if_neg free))) ?_
        intro given
        obtain ⟨-, ⟨-, granted⟩ | other⟩ := given
        · exact absurd granted free
        · cases state.symm.trans other
    | stAlarmEdit =>
      rw [state] at modes
      have keyboard := congrArg Prod.fst modes
      have display := congrArg Prod.snd modes
      have switches : w.Switches info := ⟨long, Or.inr state⟩
      rw [agrees_normal keyboard fun still => by cases display.symm.trans still]
      exact ⟨fun quiet _ => quiet, fun timely => timely switches⟩
    | stAlarmActive =>
      rw [state] at modes
      refine iff_of_true (stays modes) ?_
      rintro ⟨-, ⟨other, -⟩ | other⟩ <;> cases state.symm.trans other
  · rw [if_neg long] at modes
    exact iff_of_true (stays modes) fun switches => absurd switches.1 long

theorem keyboardWorkerThread_agrees {w : Worker} (agrees : Agrees w.clock) (now : Int) :
    Agrees (w.keyboardWorkerThread now).clock ↔ w.Timely (.keyboardWorkerThread now) := by
  unfold keyboardWorkerThread Timely
  split
  · rename_i info observer rest calls
    by_cases display : observer = .display
    · subst display
      rw [display_agrees agrees now info]
      constructor
      · intro timely info' rest' same
        rw [calls] at same
        cases same
        exact timely
      · intro timely
        exact timely info rest calls
    · have same : SameModes w.clock (w.keyboardPressed now info observer).clock := by
        cases observer <;> first | exact absurd rfl display | exact ⟨rfl, rfl, rfl⟩
      refine iff_of_true (same.agrees agrees) fun info' rest' other => ?_
      rw [calls] at other
      cases other
      exact absurd rfl display
  · rename_i calls
    refine iff_of_true ?_ fun info rest other => by rw [calls] at other; cases other
    split
    · exact ⟨agrees.alarm, agrees.edit⟩
    · exact agrees

theorem step_agrees {w : Worker} (agrees : Agrees w.clock) (e : WorkerEvent) :
    Agrees (w.step e).clock ↔ w.Timely e := by
  cases e with
  | handle handler told =>
    by_cases notify : ∃ volume smooth, handler = .alarmNotify volume smooth
    · obtain ⟨volume, smooth, rfl⟩ := notify
      exact alarmNotify_agrees w.clock w.mDabReceiver volume smooth
    · have timely : w.Timely (.handle handler told) := by
        cases handler <;> first | trivial | exact absurd ⟨_, _, rfl⟩ notify
      refine iff_of_true (handle_agrees agrees w.mDabReceiver fun volume smooth same => ?_) timely
      exact absurd ⟨volume, smooth, same⟩ notify
  | elsewhere manager => exact iff_of_true agrees trivial
  | readThread sample => exact iff_of_true ⟨agrees.alarm, agrees.edit⟩ trivial
  | keyboardWorkerThread now => exact keyboardWorkerThread_agrees agrees now
  | refreshThread => exact iff_of_true (refreshThread_agrees agrees) trivial

/-- A unit that has just been started, with the light it may have. -/
def start (s : Station) (id : Nat) (unitName : String) (light : Option Light) : Worker :=
  let clock := AlarmClock.create id unitName
  { s with clock := match light with | some light => clock.registerLight light | none => clock }

theorem start_agrees (s : Station) (id : Nat) (unitName : String) (light : Option Light) :
    Agrees (start s id unitName light).clock := by
  cases light <;> exact (agrees_normal rfl (by rw [start]; nofun)).mpr rfl

/-- The keyboard says what the unit is doing, exactly in the runs in which no alarm begins while the
display edits and no message opens or closes the editor during an alarm. -/
theorem agrees_iff_timely (s : Station) (id : Nat) (unitName : String) (light : Option Light) (events : List WorkerEvent) :
    (∀ n, Agrees (stateAt step (start s id unitName light) events n).clock) ↔
      Meets step Timely (start s id unitName light) events := by
  have keep : ∀ (w : Worker) (e : WorkerEvent), Agrees w.clock → w.Timely e → Agrees (w.step e).clock :=
    fun w e agrees timely => (step_agrees agrees e).mpr timely
  have breaks : ∀ (w : Worker) (e : WorkerEvent), Agrees w.clock → ¬ w.Timely e → ¬ Agrees (w.step e).clock :=
    fun w e agrees late later => late ((step_agrees agrees e).mp later)
  exact (meets_iff_always (fun _ agrees => agrees) keep breaks (start_agrees s id unitName light)).symm

/-- The left key is held until a long press is queued, an alarm begins, and the worker hands out the two
messages: the last call goes to the display. -/
def lateLongPress : List WorkerEvent :=
  List.replicate 8 (.readThread { keybValue := 1 }) ++ .handle (.alarmNotify 30 false) {} ::
    List.replicate 10 (.keyboardWorkerThread 0)

/-- The editor opens during the alarm, and takes the keyboard out of its alarm mode. -/
theorem editor_opens_in_alarm :
    let w := run step (start (Station.started "Living") 0 "Living" none) lateLongPress
    w.clock.mClockState = .clkAlarm ∧ w.clock.mKeyboard.mKeyboardState = .stAlarmEdit ∧ ¬ Agrees w.clock := by
  have alarm : (run step (start (Station.started "Living") 0 "Living" none) lateLongPress).clock.mClockState = .clkAlarm := by
    decide
  have edit : (run step (start (Station.started "Living") 0 "Living" none) lateLongPress).clock.mKeyboard.mKeyboardState =
      .stAlarmEdit := by
    decide
  refine ⟨alarm, edit, fun agrees => ?_⟩
  cases edit.symm.trans (agrees.alarm.mpr (Or.inl alarm))

end Worker

end RgbClock.Units
