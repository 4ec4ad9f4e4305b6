import RgbClock.Units.AlarmClock
import RgbClock.Lib.Run

/-! One alarm session of a unit, from `alarmNotify` to the end of its maintenance loop. -/

namespace RgbClock.Units
open Keys Devices Runs

/-- The unit with the receiver it powers. -/
abbrev Session := AlarmClock × DABReceiver

inductive SessionEvent where
  | handle (handler : Handler)
  | registerLight (light : Light)
  | unRegisterLight

/-- Nothing that notifies the unit or lets its maintenance thread make an iteration. -/
def SessionEvent.between : SessionEvent → Bool
  | .handle (.alarmNotify _ _) | .handle .maintenance => false
  | _ => true

namespace Session

def step (s : Session) : SessionEvent → Session
  | .handle handler => s.1.handle s.2 handler
  | .registerLight light => (s.1.registerLight light, s.2)
  | .unRegisterLight => (s.1.unRegisterLight, s.2)

/-- The maintenance loop runs during a session and within the limits of its phases. -/
structure Maintained (c : AlarmClock) : Prop where
  running : c.mAlarmMaintenanceThreadRunning = true ↔ c.mClockState ≠ .clkNormal
  alarm : c.mClockState = .clkAlarm → c.mAlarmCounter < ALARM_TIME
  snooze : c.mClockState = .clkSnooze → c.mAlarmCounter < SNOOZE_TIME

theorem maintained_create (id : Nat) (unitName : String) : Maintained (.create id unitName) :=
  ⟨by simp [AlarmClock.create], nofun, nofun⟩

theorem maintained_alarmNotify (c : AlarmClock) (dab : DABReceiver) (volume : Int) (smooth : Bool) :
    Maintained (c.alarmNotify dab volume smooth).1 := by
  rw [AlarmClock.alarmNotify_eq]
  refine ⟨iff_of_true rfl nofun, fun _ => ?_, nofun⟩
  dsimp only
  split <;> decide

theorem maintained_alarmSnooze {c : AlarmClock} (maintained : Maintained c) (dab : DABReceiver) :
    Maintained (c.alarmSnooze dab).1 := by
  unfold AlarmClock.alarmSnooze
  split
  · rename_i ringing
    have running : c.mAlarmMaintenanceThreadRunning = true := maintained.running.mpr (by rw [ringing]; nofun)
    have fresh : 0 < SNOOZE_TIME := by decide
    exact ⟨iff_of_true running nofun, nofun, fun _ => fresh⟩
  · exact maintained

/-- Once the counter is raised, the limits are tested before the iteration ends. -/
theorem maintained_alarmMaintenanceThread {c : AlarmClock} (maintained : Maintained c)
    (running : c.mAlarmMaintenanceThreadRunning = true) (dab : DABReceiver) :
    Maintained (c.alarmMaintenanceThread dab).1 := by
  have session := maintained.running.mp running
  unfold AlarmClock.alarmMaintenanceThread
  dsimp only
  cases state : c.mClockState with
  | clkNormal => exact absurd state session
  | clkAlarm =>
    simp only [reduceCtorEq, and_false, if_false]
    split
    · exact ⟨by simp [AlarmClock.endAlarm], nofun, nofun⟩
    · rename_i ringing
      push Not at ringing
      exact ⟨iff_of_true running nofun, fun _ => ringing.1, nofun⟩
  | clkSnooze =>
    simp only [and_true]
    cases c.mAlarmOff with
    | true => exact ⟨by simp [AlarmClock.endAlarm], by simp [AlarmClock.endAlarm], by simp [AlarmClock.endAlarm]⟩
    | false =>
      simp only [Bool.false_eq_true, if_false]
      split
      · have fresh : 0 < ALARM_TIME := by decide
        exact ⟨iff_of_true running nofun, fun _ => fresh, nofun⟩
      · rename_i waiting
        exact ⟨iff_of_true running nofun, nofun, fun _ => Nat.not_le.mp waiting⟩

theorem maintained_step {s : Session} (maintained : Maintained s.1) (e : SessionEvent) : Maintained (s.step e).1 := by
  cases e with
  | registerLight | unRegisterLight => exact ⟨maintained.running, maintained.alarm, maintained.snooze⟩
  | handle handler =>
    cases handler with
    | alarmNotify volume smooth => exact maintained_alarmNotify s.1 s.2 volume smooth
    | alarmSnooze => exact maintained_alarmSnooze maintained s.2
    | maintenance =>
      simp only [step, AlarmClock.handle, AlarmClock.tick]
      split
      · rename_i running
        exact maintained_alarmMaintenanceThread maintained running s.2
      · exact maintained
    | alarmOff | radioKeys | radioAutoOff | radioDimmer | lightKeys | lightAutoOff | lightDimmer =>
      exact ⟨maintained.running, maintained.alarm, maintained.snooze⟩

/-! ### Off -/

/-- An iteration that ended the alarm: both devices were switched off. -/
structure Ended (before after : Session) : Prop where
  state : after.1.mClockState = .clkNormal
  alarmOff : after.1.mAlarmOff = false
  keyboard : after.1.mKeyboard.mKeyboardState = .stNormal
  radio : (after.1.mRadio, after.2) = before.1.mRadio.pwrOff before.2
  light : after.1.mLight = before.1.mLight.map (·.pwrOff)

/-- After `alarmOff` in a session, the next iteration ends it, whatever else happens before. -/
def OffWins (s : Session) : Prop :=
  s.1.mClockState ≠ .clkNormal → ∀ events : List SessionEvent, (∀ e ∈ events, e.between = true) →
    Ended (run step (s.step (.handle .alarmOff)) events)
      ((run step (s.step (.handle .alarmOff)) events).step (.handle .maintenance))

structure Silenced (c : AlarmClock) : Prop where
  off : c.mAlarmOff = true
  session : c.mClockState ≠ .clkNormal
  running : c.mAlarmMaintenanceThreadRunning = true

theorem silenced_step {s : Session} (silenced : Silenced s.1) {e : SessionEvent} (between : e.between = true) :
    Silenced (s.step e).1 := by
  obtain ⟨off, session, running⟩ := silenced
  cases e with
  | registerLight | unRegisterLight => exact ⟨off, session, running⟩
  | handle handler =>
    cases handler with
    | alarmNotify | maintenance => cases between
    | alarmSnooze =>
      simp only [step, AlarmClock.handle, AlarmClock.alarmSnooze]
      split
      · exact ⟨off, nofun, running⟩
      · exact ⟨off, session, running⟩
    | alarmOff | radioKeys | radioAutoOff | radioDimmer | lightKeys | lightAutoOff | lightDimmer =>
      exact ⟨by first | rfl | exact off, session, running⟩

theorem ended_of_silenced {s : Session} (silenced : Silenced s.1) : Ended s (s.step (.handle .maintenance)) := by
  obtain ⟨off, session, running⟩ := silenced
  -- from a snooze as from the alarm, the iteration goes through the branch that ends it
  have ends : s.step (.handle .maintenance) =
      AlarmClock.endAlarm { s.1 with mAlarmCounter := s.1.mAlarmCounter + 1, mClockState := .clkAlarm } s.2 := by
    simp only [step, AlarmClock.handle, AlarmClock.tick, running, if_true, AlarmClock.alarmMaintenanceThread, off,
      true_and]
    cases state : s.1.mClockState with
    | clkNormal => exact absurd state session
    | clkAlarm => simp [AlarmClock.endAlarm]
    | clkSnooze => simp [AlarmClock.endAlarm]
  rw [ends]
  exact ⟨rfl, rfl, rfl, rfl, rfl⟩

theorem offWins_of_maintained {s : Session} (maintained : Maintained s.1) : OffWins s := by
  intro session events between
  have silenced : Silenced (s.step (.handle .alarmOff)).1 := ⟨rfl, session, maintained.running.mpr session⟩
  generalize s.step (.handle .alarmOff) = t at silenced
  induction events generalizing t with
  | nil => exact ended_of_silenced silenced
  | cons e rest ih =>
    exact ih (fun e member => between e (List.mem_cons_of_mem _ member)) _
      (silenced_step silenced (between e List.mem_cons_self))

/-- Every session ends, and off wins over snooze. -/
theorem session_ends (id : Nat) (unitName : String) (dab : DABReceiver) (events : List SessionEvent) :
    Maintained (run step (AlarmClock.create id unitName, dab) events).1 ∧
      OffWins (run step (AlarmClock.create id unitName, dab) events) := by
  have keep : ∀ (s : Session) (e : SessionEvent), Maintained s.1 → Maintained (s.step e).1 :=
    fun _ e maintained => maintained_step maintained e
  have maintained : Maintained (run step (AlarmClock.create id unitName, dab) events).1 :=
    run_invariant keep (maintained_create id unitName)
  exact ⟨maintained, offWins_of_maintained maintained⟩

end Session

end RgbClock.Units
