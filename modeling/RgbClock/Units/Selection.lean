import RgbClock.Units.Editor
import RgbClock.Lib.Run

/-! The selection of the alarm editor. The editor erases, edits and draws the alarm at its index without
a test, so the index has to lie inside the list in every state that does so. -/

namespace RgbClock.Units
open Keys Alarms Runs

/-- The values that the editor can show: a time of the day and a volume of two digits. -/
def InRange (alarm : Alarm) : Prop := alarm.Clocked ∧ 0 ≤ alarm.mVolume ∧ alarm.mVolume ≤ 99

instance (alarm : Alarm) : Decidable (InRange alarm) := inferInstanceAs (Decidable (_ ∧ _))

/-- The index is inside a list of this size, or just behind it where a new alarm is listed. -/
structure ClockDisplay.Selects (d : ClockDisplay) (size : Nat) : Prop where
  listed : d.mEditState = .edListAlarms → d.mAlarmEditIndex ≤ size
  confirmed : d.mEditState = .edConfirmDelete → d.mAlarmEditIndex < size
  edited : d.mEditState = .edEditAlarm → d.mAlarmEditIndex < size

/-- What one event can do to the alarms, given the display before it. -/
inductive Touches (d : ClockDisplay) (alarms : List Alarm) : List Alarm → Prop where
  | keeps : Touches d alarms alarms
  | appends : Touches d alarms (alarms ++ [({} : Alarm)])
  | removes (state : d.mEditState = .edConfirmDelete) (confirmed : d.mConfirmDelete = true)
      (inside : d.mAlarmEditIndex < alarms.length) : Touches d alarms (alarms.eraseIdx d.mAlarmEditIndex)
  | changes (inside : d.mAlarmEditIndex < alarms.length) (alarm : Alarm) :
      Touches d alarms (alarms.set d.mAlarmEditIndex alarm)

theorem Touches.display {d d' : ClockDisplay} {alarms edited : List Alarm} (touches : Touches d alarms edited)
    (state : d.mEditState = d'.mEditState) (confirm : d.mConfirmDelete = d'.mConfirmDelete)
    (index : d.mAlarmEditIndex = d'.mAlarmEditIndex) : Touches d' alarms edited := by
  cases touches with
  | keeps => exact .keeps
  | appends => exact .appends
  | removes deleting confirmed inside =>
    rw [index] at inside ⊢
    exact .removes (state ▸ deleting) (confirm ▸ confirmed) inside
  | changes inside alarm =>
    rw [index] at inside ⊢
    exact .changes inside alarm

/-! ### Ranges -/

theorem lowered_range {value step limit : Int} (range : 0 ≤ value ∧ value ≤ limit) (positive : 0 ≤ step) :
    0 ≤ lowered value step ∧ lowered value step ≤ limit := by
  unfold lowered
  split <;> omega

theorem raised_range {value step limit : Int} (range : 0 ≤ value ∧ value ≤ limit) (positive : 0 ≤ step) :
    0 ≤ raised value step limit ∧ raised value step limit ≤ limit := by
  unfold raised
  split <;> omega

section
variable {alarm : Alarm} (range : InRange alarm) (mUnitList : List String)
include range

theorem InRange.limits : (0 ≤ alarm.mHour ∧ alarm.mHour ≤ 23) ∧ (0 ≤ alarm.mMinutes ∧ alarm.mMinutes ≤ 59) ∧
    0 ≤ alarm.mVolume ∧ alarm.mVolume ≤ 99 := by
  obtain ⟨⟨low, high, minutes⟩, volume⟩ := range
  exact ⟨⟨low, high⟩, minutes, volume⟩

theorem InRange.hour {hour : Int} (limits : 0 ≤ hour ∧ hour ≤ 23) : InRange { alarm with mHour := hour } := by
  obtain ⟨-, minutes, volume⟩ := InRange.limits range
  exact ⟨⟨limits.1, limits.2, minutes⟩, volume⟩

theorem InRange.minutes {minutes : Int} (limits : 0 ≤ minutes ∧ minutes ≤ 59) :
    InRange { alarm with mMinutes := minutes } := by
  obtain ⟨hour, -, volume⟩ := InRange.limits range
  exact ⟨⟨hour.1, hour.2, limits⟩, volume⟩

theorem toggled_inRange (pos : EditPos) : InRange (toggled mUnitList alarm pos) := by
  cases pos <;> exact range

theorem keyDown_inRange (pos : EditPos) : InRange (keyDown mUnitList alarm pos) := by
  obtain ⟨hour, minutes, volume⟩ := InRange.limits range
  cases pos with
  | posHourT | posHourE => exact InRange.hour range (lowered_range hour (by decide))
  | posMinT | posMinE => exact InRange.minutes range (lowered_range minutes (by decide))
  | posVol => exact ⟨range.1, lowered_range volume (by decide)⟩
  | posOneTime =>
    unfold keyDown
    dsimp only
    split <;> exact range
  | _ => exact toggled_inRange range mUnitList _

theorem keyUp_inRange (pos : EditPos) : InRange (keyUp mUnitList alarm pos) := by
  obtain ⟨hour, minutes, volume⟩ := InRange.limits range
  cases pos with
  | posHourT | posHourE => exact InRange.hour range (raised_range hour (by decide))
  | posMinT | posMinE => exact InRange.minutes range (raised_range minutes (by decide))
  | posVol => exact ⟨range.1, raised_range volume (by decide)⟩
  | posOneTime =>
    unfold keyUp
    dsimp only
    split <;> exact range
  | _ => exact toggled_inRange range mUnitList _

theorem worked_inRange (pos : EditPos) (down up : Bool) : InRange (ClockDisplay.worked mUnitList pos down up alarm) := by
  have cleared : InRange { alarm with mSignalled := false } := range
  have lowered := keyDown_inRange cleared mUnitList pos
  unfold ClockDisplay.worked
  cases down <;> cases up
  · exact cleared
  · exact keyUp_inRange cleared mUnitList pos
  · exact lowered
  · exact keyUp_inRange lowered mUnitList pos

end

/-! ### The keys of the editor -/

namespace ClockDisplay
variable {d : ClockDisplay} {mUnitList : List String} {alarms : List Alarm} {info : KeyboardInfo}

theorem editKeys_inRange (range : ∀ alarm ∈ alarms, InRange alarm) :
    ∀ alarm ∈ (d.editKeys mUnitList alarms info).2, InRange alarm := by
  intro alarm member
  obtain old | rfl | ⟨old, present, pos, down, up, rfl⟩ := mem_editKeys member
  · exact range alarm old
  · decide
  · exact worked_inRange (range old present) mUnitList pos down up

/-- The start of the list is selected whatever is left of it. -/
theorem selects_first {size : Nat} (listing : d.mEditState = .edListAlarms) (first : d.mAlarmEditIndex = 0) :
    d.Selects size := by
  refine ⟨fun _ => by omega, fun state => ?_, fun state => ?_⟩
  · cases listing.symm.trans state
  · cases listing.symm.trans state

/-- The list is only ever extended here, whatever the display did before it was listed. -/
theorem listAlarmsKeys_selects (before : ClockDisplay) (listing : d.mEditState = .edListAlarms)
    (selects : d.Selects alarms.length) :
    (d.listAlarmsKeys alarms info).1.Selects (d.listAlarmsKeys alarms info).2.length ∧
      Touches before alarms (d.listAlarmsKeys alarms info).2 := by
  have inside := selects.listed listing
  unfold listAlarmsKeys
  dsimp only
  split
  · rename_i pressed
    have present : d.mAlarmEditIndex < alarms.length := by
      simp only [Bool.and_eq_true, decide_eq_true_eq] at pressed
      exact pressed.2
    exact ⟨⟨nofun, fun _ => present, nofun⟩, .keeps⟩
  split
  · -- the short press edits the selected alarm, or the one that it appends
    split
    · rename_i last
      refine ⟨⟨nofun, nofun, fun _ => ?_⟩, .appends⟩
      show d.mAlarmEditIndex < (alarms ++ [({} : Alarm)]).length
      rw [List.length_append, List.length_singleton]
      omega
    · rename_i other
      refine ⟨⟨nofun, nofun, fun _ => ?_⟩, .keeps⟩
      show d.mAlarmEditIndex < alarms.length
      omega
  split
  · refine ⟨⟨fun _ => Nat.min_le_right _ _, fun state => ?_, fun state => ?_⟩, .keeps⟩
    · cases listing.symm.trans state
    · cases listing.symm.trans state
  split
  · refine ⟨⟨fun _ => ?_, fun state => ?_, fun state => ?_⟩, .keeps⟩
    · show d.mAlarmEditIndex - 1 ≤ alarms.length
      omega
    · cases listing.symm.trans state
    · cases listing.symm.trans state
  · exact ⟨selects, .keeps⟩

theorem confirmDeleteKeys_selects (confirming : d.mEditState = .edConfirmDelete) (selects : d.Selects alarms.length) :
    (d.confirmDeleteKeys alarms info).1.Selects (d.confirmDeleteKeys alarms info).2.length ∧
      Touches d alarms (d.confirmDeleteKeys alarms info).2 := by
  have inside := selects.confirmed confirming
  unfold confirmDeleteKeys
  split
  · exact ⟨⟨selects.listed, selects.confirmed, selects.edited⟩, .keeps⟩
  split
  · refine ⟨selects_first rfl rfl, ?_⟩
    dsimp only
    split
    · rename_i confirmed
      exact .removes confirming confirmed inside
    · exact .keeps
  · exact ⟨selects, .keeps⟩

/-- A step to another position stays in the alarm, or goes back to the start of the list. -/
theorem moveTo_selects {size : Nat} (selects : d.Selects size) (pos : Option EditPos) : (d.moveTo pos).Selects size := by
  cases pos with
  | none => exact selects_first rfl rfl
  | some pos => exact ⟨selects.listed, selects.confirmed, selects.edited⟩

theorem editAlarmKeys_selects (selects : d.Selects alarms.length) :
    (d.editAlarmKeys mUnitList alarms info).1.Selects (d.editAlarmKeys mUnitList alarms info).2.length ∧
      Touches d alarms (d.editAlarmKeys mUnitList alarms info).2 := by
  unfold editAlarmKeys
  cases found : alarms[d.mAlarmEditIndex]? with
  | none => exact ⟨selects, .keeps⟩
  | some selected =>
    have inside : d.mAlarmEditIndex < alarms.length := (List.getElem?_eq_some_iff.mp found).1
    dsimp only
    refine ⟨?_, .changes inside _⟩
    rw [List.length_set]
    -- the right and the left key move one after the other
    have right : ∀ (pressed : Bool) (pos : Option EditPos),
        (if pressed = true then d.moveTo pos else d).Selects alarms.length := by
      intro pressed pos
      cases pressed with
      | false => exact selects
      | true => exact moveTo_selects selects pos
    split
    · obtain ⟨listed, confirmed, edited⟩ := moveTo_selects (right _ _) _
      exact ⟨listed, confirmed, edited⟩
    · obtain ⟨listed, confirmed, edited⟩ := right _ _
      exact ⟨listed, confirmed, edited⟩

theorem editKeys_selects (mUnitList : List String) (info : KeyboardInfo) (selects : d.Selects alarms.length) :
    (d.editKeys mUnitList alarms info).1.Selects (d.editKeys mUnitList alarms info).2.length ∧
      Touches d alarms (d.editKeys mUnitList alarms info).2 := by
  unfold editKeys
  cases state : d.mEditState with
  | edUndefined => exact ⟨selects, .keeps⟩
  | edListAlarms => exact listAlarmsKeys_selects d state selects
  | edConfirmDelete => exact confirmDeleteKeys_selects state selects
  | edEditAlarm => exact editAlarmKeys_selects selects

theorem editKeys_listing (before : ClockDisplay) (listing : d.mEditState = .edListAlarms)
    (selects : d.Selects alarms.length) : Touches before alarms (d.editKeys mUnitList alarms info).2 := by
  unfold editKeys
  rw [listing]
  exact (listAlarmsKeys_selects before listing selects).2

end ClockDisplay

/-! ### The display in a run -/

inductive DeskEvent where
  | keyboardPressed (info : KeyboardInfo)
  | refreshThread

namespace Desk

def step (s : Desk) : DeskEvent → Desk
  | .keyboardPressed info => s.keyboardPressed info
  | .refreshThread => s.refreshThread

/-- While the display edits, its index is inside; the alarms are always in their ranges. -/
structure Safe (s : Desk) : Prop where
  selects : s.Editing → s.mDisplay.Selects s.mAlarmManager.mAlarmList.length
  range : ∀ alarm ∈ s.mAlarmManager.mAlarmList, InRange alarm

variable {s : Desk}

theorem editAlarms_mAlarmList (m : AlarmManager) (unitName : String) :
    (m.editAlarms unitName).1.mAlarmList = m.mAlarmList := by
  unfold AlarmManager.editAlarms
  split <;> rfl

theorem saveAlarms_mAlarmList (m : AlarmManager) (unitName : String) :
    (m.saveAlarms unitName).mAlarmList = m.mAlarmList := by
  unfold AlarmManager.saveAlarms
  split <;> rfl

theorem editorKeys_eq (info : KeyboardInfo) (editing : s.Editing) (free : s.Free) :
    (s.editorKeys info).mDisplay = (ClockDisplay.editKeys { s.mDisplay with mEditAlarmsTimer := EDIT_TIMEOUT_MILLISECONDS }
        s.mAlarmManager.mUnitList s.mAlarmManager.mAlarmList info).1 ∧
      (s.editorKeys info).mAlarmManager.mAlarmList =
        (ClockDisplay.editKeys { s.mDisplay with mEditAlarmsTimer := EDIT_TIMEOUT_MILLISECONDS }
          s.mAlarmManager.mUnitList s.mAlarmManager.mAlarmList info).2 := by
  unfold Editing at editing
  unfold editorKeys
  rw [if_pos editing, editAlarms_free s free]
  exact ⟨rfl, rfl⟩

/-- Keys for which the list is refused only restart the timer. -/
theorem editorKeys_refused (info : KeyboardInfo) (taken : ¬ s.Free) :
    (s.editorKeys info).mAlarmManager = s.mAlarmManager ∧
      ∃ timer, (s.editorKeys info).mDisplay = { s.mDisplay with mEditAlarmsTimer := timer } := by
  unfold editorKeys
  split
  · rw [editAlarms_taken s taken]
    exact ⟨rfl, _, rfl⟩
  · exact ⟨rfl, _, rfl⟩

theorem editorKeys_safe (info : KeyboardInfo) (safe : s.Safe) :
    (s.editorKeys info).Safe ∧
      Touches s.mDisplay s.mAlarmManager.mAlarmList (s.editorKeys info).mAlarmManager.mAlarmList := by
  by_cases editing : s.Editing
  · obtain ⟨listed, confirmed, edited⟩ := safe.selects editing
    by_cases free : s.Free
    · obtain ⟨display, alarms⟩ := editorKeys_eq info editing free
      have selects : ClockDisplay.Selects { s.mDisplay with mEditAlarmsTimer := EDIT_TIMEOUT_MILLISECONDS }
          s.mAlarmManager.mAlarmList.length := ⟨listed, confirmed, edited⟩
      obtain ⟨later, touches⟩ := ClockDisplay.editKeys_selects s.mAlarmManager.mUnitList info selects
      refine ⟨⟨fun _ => ?_, ?_⟩, ?_⟩
      · rw [display, alarms]
        exact later
      · rw [alarms]
        exact ClockDisplay.editKeys_inRange safe.range
      · rw [alarms]
        exact touches.display rfl rfl rfl
    · obtain ⟨manager, timer, display⟩ := editorKeys_refused info free
      rw [manager]
      refine ⟨⟨fun _ => ?_, ?_⟩, .keeps⟩
      · rw [display, manager]
        exact ⟨listed, confirmed, edited⟩
      · rw [manager]
        exact safe.range
  · rw [editorKeys_closed s info editing]
    exact ⟨safe, .keeps⟩

theorem exitEditAlarms_safe (safe : s.Safe) : s.exitEditAlarms.Safe := by
  refine ⟨fun editing => absurd editing (exitEditAlarms_not_editing s), ?_⟩
  have same : s.exitEditAlarms.mAlarmManager.mAlarmList = s.mAlarmManager.mAlarmList :=
    saveAlarms_mAlarmList s.mAlarmManager s.mDisplay.mUnitName
  rw [same]
  exact safe.range

/-- The display opens on the first alarm; what it did before does not matter for the keys. -/
theorem entered_safe (info : KeyboardInfo) (safe : s.Safe) (free : s.Free) (before : ClockDisplay) :
    (s.enterEditAlarms.editorKeys info).Safe ∧
      Touches before s.mAlarmManager.mAlarmList (s.enterEditAlarms.editorKeys info).mAlarmManager.mAlarmList := by
  obtain ⟨editing, name, manager⟩ := enterEditAlarms_free s free
  have listing : s.enterEditAlarms.mDisplay.mEditState = .edListAlarms ∧ s.enterEditAlarms.mDisplay.mAlarmEditIndex = 0 := by
    unfold enterEditAlarms
    rw [editAlarms_free s free]
    exact ⟨rfl, rfl⟩
  have alarms : s.enterEditAlarms.mAlarmManager.mAlarmList = s.mAlarmManager.mAlarmList := by rw [manager]
  have opened : s.enterEditAlarms.Safe := by
    refine ⟨fun _ => ClockDisplay.selects_first listing.1 listing.2, ?_⟩
    rw [alarms]
    exact safe.range
  refine ⟨(editorKeys_safe info opened).1, ?_⟩
  have freeThen : s.enterEditAlarms.Free := Or.inr (by rw [manager, name])
  rw [(editorKeys_eq info editing freeThen).2, alarms]
  apply ClockDisplay.editKeys_listing before
  · exact listing.1
  · exact ClockDisplay.selects_first listing.1 listing.2

theorem keyboardPressed_safe (info : KeyboardInfo) (safe : s.Safe) :
    (s.keyboardPressed info).Safe ∧
      Touches s.mDisplay s.mAlarmManager.mAlarmList (s.keyboardPressed info).mAlarmManager.mAlarmList := by
  unfold keyboardPressed
  obtain stays | enters | exits := longPressLeft_cases s info
  · rw [stays]
    exact editorKeys_safe info safe
  · rw [enters]
    by_cases free : s.Free
    · exact entered_safe info safe free s.mDisplay
    · rw [enterEditAlarms_taken s free]
      exact editorKeys_safe info safe
  · rw [exits, editorKeys_closed _ info (exitEditAlarms_not_editing s)]
    refine ⟨exitEditAlarms_safe safe, ?_⟩
    have same : s.exitEditAlarms.mAlarmManager.mAlarmList = s.mAlarmManager.mAlarmList :=
      saveAlarms_mAlarmList s.mAlarmManager s.mDisplay.mUnitName
    rw [same]
    exact .keeps

/-- A pass of the refresh thread draws the selected alarm, and may close the editor. -/
theorem refreshThread_safe (safe : s.Safe) :
    s.refreshThread.Safe ∧ s.refreshThread.mAlarmManager.mAlarmList = s.mAlarmManager.mAlarmList := by
  have drawn : (if s.mDisplay.mUpdateEditDisplay then s.updateEditDisplay else s).Safe ∧
      (if s.mDisplay.mUpdateEditDisplay then s.updateEditDisplay else s).mAlarmManager.mAlarmList =
        s.mAlarmManager.mAlarmList := by
    split
    · have same := editAlarms_mAlarmList s.mAlarmManager s.mDisplay.mUnitName
      refine ⟨⟨fun editing => ?_, ?_⟩, same⟩
      · obtain ⟨listed, confirmed, edited⟩ := safe.selects editing
        show ClockDisplay.Selects _ (s.mAlarmManager.editAlarms s.mDisplay.mUnitName).1.mAlarmList.length
        rw [same]
        exact ⟨listed, confirmed, edited⟩
      · show ∀ alarm ∈ (s.mAlarmManager.editAlarms s.mDisplay.mUnitName).1.mAlarmList, InRange alarm
        rw [same]
        exact safe.range
    · exact ⟨safe, rfl⟩
  unfold refreshThread
  split
  · rename_i normal
    refine ⟨⟨fun editing => ?_, safe.range⟩, rfl⟩
    cases normal.symm.trans editing
  · dsimp only
    generalize (if s.mDisplay.mUpdateEditDisplay then s.updateEditDisplay else s) = t at drawn
    obtain ⟨drawnSafe, same⟩ := drawn
    have ticked : ∀ left, Safe { t with mDisplay := { t.mDisplay with mEditAlarmsTimer := left } } := by
      intro left
      refine ⟨fun editing => ?_, drawnSafe.range⟩
      obtain ⟨listed, confirmed, edited⟩ := drawnSafe.selects editing
      exact ⟨listed, confirmed, edited⟩
    split
    · exact ⟨exitEditAlarms_safe (ticked _), (saveAlarms_mAlarmList t.mAlarmManager t.mDisplay.mUnitName).trans same⟩
    · exact ⟨ticked _, same⟩

theorem step_safe (safe : s.Safe) (e : DeskEvent) :
    (s.step e).Safe ∧ Touches s.mDisplay s.mAlarmManager.mAlarmList (s.step e).mAlarmManager.mAlarmList := by
  cases e with
  | keyboardPressed info => exact keyboardPressed_safe info safe
  | refreshThread =>
    obtain ⟨later, same⟩ := refreshThread_safe safe
    refine ⟨later, ?_⟩
    show Touches _ _ s.refreshThread.mAlarmManager.mAlarmList
    rw [same]
    exact .keeps

/-- In every state of a run the index is inside and the alarms are in their ranges, and every event
touches at most the selected alarm. -/
theorem editor_stays_inside (unitName : String) (keyboard : Keyboard) (manager : AlarmManager)
    (range : ∀ alarm ∈ manager.mAlarmList, InRange alarm) (events : List DeskEvent) (n : Nat) :
    (stateAt step ⟨{ mUnitName := unitName }, keyboard, manager⟩ events n).Safe ∧
      ∀ e, events[n]? = some e →
        Touches (stateAt step ⟨{ mUnitName := unitName }, keyboard, manager⟩ events n).mDisplay
          (stateAt step ⟨{ mUnitName := unitName }, keyboard, manager⟩ events n).mAlarmManager.mAlarmList
          (stateAt step ⟨{ mUnitName := unitName }, keyboard, manager⟩ events (n + 1)).mAlarmManager.mAlarmList := by
  have keep : ∀ (s : Desk) (e : DeskEvent), s.Safe → (s.step e).Safe := fun _ e safe => (step_safe safe e).1
  have start : Safe ⟨{ mUnitName := unitName }, keyboard, manager⟩ := ⟨nofun, range⟩
  have safe : (stateAt step ⟨{ mUnitName := unitName }, keyboard, manager⟩ events n).Safe := run_invariant keep start
  refine ⟨safe, fun e found => ?_⟩
  rw [stateAt_succ found]
  exact (step_safe safe e).2

/-- The second alarm is selected and edited up to its last position. -/
def atLastPosition : List DeskEvent :=
  let pressed := fun key => DeskEvent.keyboardPressed ⟨fun k => { mShortPressed := k = key }, .stAlarmEdit⟩
  .keyboardPressed ⟨fun key => { mLongPress := key = KEY_LEFT }, .stNormal⟩ :: pressed KEY_DOWN ::
    List.replicate 15 (pressed KEY_CENTRAL_R)

/-- Two keys in one event: the right key leaves the alarm at its last position, and the key that follows
still edits that alarm. -/
theorem last_position_edits_the_same_alarm :
    let alarms : List Alarm := [{ mHour := 6 }, { mHour := 8 }]
    let events := atLastPosition ++
      [.keyboardPressed ⟨fun key => { mShortPressed := key = KEY_CENTRAL_R ∨ key = KEY_DOWN }, .stAlarmEdit⟩]
    let s := stateAt step ⟨{ mUnitName := "Living" }, {}, { mUnitList := ["Living"], mAlarmList := alarms }⟩ events
    (s 17).mDisplay.mAlarmEditIndex = 1 ∧ (s 18).mDisplay.mAlarmEditIndex = 0 ∧
      (s 18).mAlarmManager.mAlarmList = alarms.set 1 { mHour := 8, mEnabled := false } ∧ (s 17).Safe ∧
      ∀ e, events[17]? = some e → Touches (s 17).mDisplay (s 17).mAlarmManager.mAlarmList
        (s 18).mAlarmManager.mAlarmList := by
  refine ⟨by decide, by decide, by decide, ?_⟩
  exact editor_stays_inside "Living" {} { mUnitList := ["Living"], mAlarmList := [{ mHour := 6 }, { mHour := 8 }] }
    (by decide) _ 17

end Desk

end RgbClock.Units
