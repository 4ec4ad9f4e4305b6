import RgbClock.Units.Display

/-! What a step of a display can do to the alarm manager: nothing, edit the list under its own
name, or save the list and give the editor up. -/

namespace RgbClock.Units
open Keys Alarms

namespace ClockDisplay

theorem moveTo_frame (d : ClockDisplay) (pos : Option EditPos) :
    (d.moveTo pos).mDisplayState = d.mDisplayState ∧ (d.moveTo pos).mUnitName = d.mUnitName := by
  cases pos <;> exact ⟨rfl, rfl⟩

theorem editAlarmKeys_frame (d : ClockDisplay) (mUnitList : List String) (alarms : List Alarm) (info : KeyboardInfo) :
    (d.editAlarmKeys mUnitList alarms info).1.mDisplayState = d.mDisplayState ∧
      (d.editAlarmKeys mUnitList alarms info).1.mUnitName = d.mUnitName := by
  unfold editAlarmKeys
  cases alarms[d.mAlarmEditIndex]? with
  | none => exact ⟨rfl, rfl⟩
  | some selected =>
    dsimp only
    split <;> split <;> simp only [moveTo_frame, and_self]

theorem editKeys_frame (d : ClockDisplay) (mUnitList : List String) (alarms : List Alarm) (info : KeyboardInfo) :
    (d.editKeys mUnitList alarms info).1.mDisplayState = d.mDisplayState ∧
      (d.editKeys mUnitList alarms info).1.mUnitName = d.mUnitName := by
  unfold editKeys
  cases d.mEditState with
  | edUndefined => exact ⟨rfl, rfl⟩
  | edListAlarms =>
    unfold listAlarmsKeys
    dsimp only
    split
    · exact ⟨rfl, rfl⟩
    · split
      · exact ⟨rfl, rfl⟩
      · split
        · exact ⟨rfl, rfl⟩
        · split <;> exact ⟨rfl, rfl⟩
  | edConfirmDelete =>
    unfold confirmDeleteKeys
    dsimp only
    split
    · exact ⟨rfl, rfl⟩
    · split <;> exact ⟨rfl, rfl⟩
  | edEditAlarm => exact editAlarmKeys_frame d mUnitList alarms info

def worked (mUnitList : List String) (pos : EditPos) (down up : Bool) (alarm : Alarm) : Alarm :=
  let alarm := { alarm with mSignalled := false }
  let alarm := if down then keyDown mUnitList alarm pos else alarm
  if up then keyUp mUnitList alarm pos else alarm

theorem keyDown_mSignalled (mUnitList : List String) (alarm : Alarm) (pos : EditPos) :
    (keyDown mUnitList alarm pos).mSignalled = alarm.mSignalled := by
  cases pos with
  | posOneTime =>
    unfold keyDown
    dsimp only
    split <;> rfl
  | _ => rfl

theorem keyUp_mSignalled (mUnitList : List String) (alarm : Alarm) (pos : EditPos) :
    (keyUp mUnitList alarm pos).mSignalled = alarm.mSignalled := by
  cases pos with
  | posOneTime =>
    unfold keyUp
    dsimp only
    split <;> rfl
  | _ => rfl

theorem worked_mSignalled (mUnitList : List String) (pos : EditPos) (down up : Bool) (alarm : Alarm) :
    (worked mUnitList pos down up alarm).mSignalled = false := by
  unfold worked
  cases down <;> cases up <;> simp [keyDown_mSignalled, keyUp_mSignalled]

/-- Where the alarms of an edited list come from. -/
theorem mem_editKeys {d : ClockDisplay} {mUnitList : List String} {alarms : List Alarm} {info : KeyboardInfo}
    {alarm : Alarm} (member : alarm ∈ (d.editKeys mUnitList alarms info).2) :
    alarm ∈ alarms ∨ alarm = {} ∨ ∃ old ∈ alarms, ∃ pos down up, alarm = worked mUnitList pos down up old := by
  unfold editKeys at member
  cases state : d.mEditState with
  | edUndefined =>
    rw [state] at member
    exact Or.inl member
  | edListAlarms =>
    rw [state] at member
    simp only [listAlarmsKeys] at member
    split_ifs at member
    all_goals first
      | exact Or.inl member
      | exact (List.mem_append.mp member).imp_right fun new => Or.inl (List.mem_singleton.mp new)
  | edConfirmDelete =>
    rw [state] at member
    simp only [confirmDeleteKeys] at member
    split_ifs at member
    all_goals first
      | exact Or.inl member
      | exact Or.inl (List.mem_of_mem_eraseIdx member)
  | edEditAlarm =>
    rw [state] at member
    simp only [editAlarmKeys] at member
    cases found : alarms[d.mAlarmEditIndex]? with
    | none =>
      rw [found] at member
      exact Or.inl member
    | some selected =>
      rw [found] at member
      rcases List.mem_or_eq_of_mem_set member with old | new
      · exact Or.inl old
      · exact Or.inr (Or.inr ⟨selected, List.mem_of_getElem? found, _, _, _, new⟩)

end ClockDisplay

/-- The list is the old one or what the keys of an editor have made of it. -/
def Edited (m : AlarmManager) (alarms : List Alarm) : Prop :=
  alarms = m.mAlarmList ∨
    ∃ (d : ClockDisplay) (info : KeyboardInfo), alarms = (d.editKeys m.mUnitList m.mAlarmList info).2

namespace Desk

def Editing (s : Desk) : Prop := s.mDisplay.mDisplayState = .stEditAlarms

def Free (s : Desk) : Prop :=
  s.mAlarmManager.mCurrentEditor = "" ∨ s.mAlarmManager.mCurrentEditor = s.mDisplay.mUnitName

/-- Every way in which a step of a display can change its editor or the alarm manager. -/
inductive Effect (s s' : Desk) : Prop where
  | idle (editing : s'.Editing ↔ s.Editing) (manager : s'.mAlarmManager = s.mAlarmManager)
  | edits (free : s.Free) (editing : s'.Editing) (alarms : List Alarm) (edited : Edited s.mAlarmManager alarms)
      (manager : s'.mAlarmManager =
        { s.mAlarmManager with mCurrentEditor := s.mDisplay.mUnitName, mAlarmList := alarms })
  | closes (free : s.Free) (editing : ¬ s'.Editing)
      (manager : s'.mAlarmManager = AlarmManager.writeAlarms { s.mAlarmManager with mCurrentEditor := "" })
  | leaves (other : s.mAlarmManager.mCurrentEditor ≠ s.mDisplay.mUnitName) (editing : ¬ s'.Editing)
      (manager : s'.mAlarmManager = s.mAlarmManager)

section
variable (s : Desk)

theorem editAlarms_free (free : s.Free) : s.mAlarmManager.editAlarms s.mDisplay.mUnitName =
    ({ s.mAlarmManager with mCurrentEditor := s.mDisplay.mUnitName }, true) := if_pos free

theorem editAlarms_taken (taken : ¬ s.Free) :
    s.mAlarmManager.editAlarms s.mDisplay.mUnitName = (s.mAlarmManager, false) := if_neg taken

theorem longPressLeft_cases (info : KeyboardInfo) :
    s.longPressLeft info = s ∨ s.longPressLeft info = s.enterEditAlarms ∨ s.longPressLeft info = s.exitEditAlarms := by
  unfold longPressLeft
  split
  · cases info.mState with
    | stNormal => exact Or.inr (Or.inl rfl)
    | stAlarmEdit => exact Or.inr (Or.inr rfl)
    | stAlarmActive => exact Or.inl rfl
  · exact Or.inl rfl

theorem enterEditAlarms_taken (taken : ¬ s.Free) : s.enterEditAlarms = s := by
  unfold enterEditAlarms
  rw [editAlarms_taken s taken]
  rfl

theorem enterEditAlarms_free (free : s.Free) :
    s.enterEditAlarms.Editing ∧ s.enterEditAlarms.mDisplay.mUnitName = s.mDisplay.mUnitName ∧
      s.enterEditAlarms.mAlarmManager = { s.mAlarmManager with mCurrentEditor := s.mDisplay.mUnitName } := by
  unfold enterEditAlarms
  rw [editAlarms_free s free]
  exact ⟨rfl, rfl, rfl⟩

theorem exitEditAlarms_not_editing : ¬ s.exitEditAlarms.Editing := by
  intro editing
  cases editing

theorem exitEditAlarms_effect {t : Desk} (name : t.mDisplay.mUnitName = s.mDisplay.mUnitName)
    (manager : t.mAlarmManager = s.mAlarmManager) : Effect s t.exitEditAlarms := by
  have saved : t.exitEditAlarms.mAlarmManager = s.mAlarmManager.saveAlarms s.mDisplay.mUnitName := by
    rw [← name, ← manager]
    rfl
  by_cases mine : s.mAlarmManager.mCurrentEditor = s.mDisplay.mUnitName
  · exact .closes (Or.inr mine) (exitEditAlarms_not_editing t) (saved.trans (if_pos mine))
  · exact .leaves mine (exitEditAlarms_not_editing t) (saved.trans (if_neg mine))

theorem editorKeys_closed (info : KeyboardInfo) (closed : ¬ s.Editing) : s.editorKeys info = s := if_neg closed

theorem editorKeys_taken (info : KeyboardInfo) (taken : ¬ s.Free) :
    ((s.editorKeys info).Editing ↔ s.Editing) ∧ (s.editorKeys info).mAlarmManager = s.mAlarmManager := by
  unfold editorKeys
  rw [editAlarms_taken s taken]
  dsimp only
  split <;> exact ⟨Iff.rfl, rfl⟩

theorem editorKeys_free (info : KeyboardInfo) (editing : s.Editing) (free : s.Free) :
    (s.editorKeys info).Editing ∧ ∃ d : ClockDisplay, (s.editorKeys info).mAlarmManager =
      { s.mAlarmManager with
        mCurrentEditor := s.mDisplay.mUnitName
        mAlarmList := (d.editKeys s.mAlarmManager.mUnitList s.mAlarmManager.mAlarmList info).2 } := by
  have granted := editAlarms_free s free
  unfold Editing at editing
  simp only [editorKeys, editing, granted, if_true]
  exact ⟨(ClockDisplay.editKeys_frame _ _ _ _).1, _, rfl⟩

theorem keyboardPressed_effect (info : KeyboardInfo) : Effect s (s.keyboardPressed info) := by
  unfold keyboardPressed
  rcases longPressLeft_cases s info with stays | enters | exits
  · rw [stays]
    by_cases free : s.Free
    · by_cases editing : s.Editing
      · obtain ⟨stillEditing, d, manager⟩ := editorKeys_free s info editing free
        exact .edits free stillEditing _ (Or.inr ⟨d, info, rfl⟩) manager
      · rw [editorKeys_closed s info editing]
        exact .idle Iff.rfl rfl
    · obtain ⟨sameState, manager⟩ := editorKeys_taken s info free
      exact .idle sameState manager
  · rw [enters]
    by_cases free : s.Free
    · obtain ⟨editing, name, manager⟩ := enterEditAlarms_free s free
      have freeThen : s.enterEditAlarms.Free := Or.inr (by rw [manager, name])
      obtain ⟨stillEditing, d, edited⟩ := editorKeys_free s.enterEditAlarms info editing freeThen
      rw [manager, name] at edited
      exact .edits free stillEditing _ (Or.inr ⟨d, info, rfl⟩) edited
    · rw [enterEditAlarms_taken s free]
      obtain ⟨sameState, manager⟩ := editorKeys_taken s info free
      exact .idle sameState manager
  · rw [exits, editorKeys_closed _ info (exitEditAlarms_not_editing s)]
    exact exitEditAlarms_effect s rfl rfl

theorem refreshThread_effect : Effect s s.refreshThread := by
  unfold refreshThread
  split
  · exact .idle Iff.rfl rfl
  · rename_i normal
    have editing : s.Editing := by
      unfold Editing
      cases state : s.mDisplay.mDisplayState with
      | stNormal => exact absurd state normal
      | stEditAlarms => rfl
    dsimp only
    cases s.mDisplay.mUpdateEditDisplay with
    | false =>
      simp only [Bool.false_eq_true, if_false]
      split
      · exact exitEditAlarms_effect s rfl rfl
      · exact .idle Iff.rfl rfl
    | true =>
      simp only [if_true]
      by_cases free : s.Free
      · have updated : s.updateEditDisplay.mAlarmManager =
            { s.mAlarmManager with mCurrentEditor := s.mDisplay.mUnitName } := by
          unfold updateEditDisplay
          rw [editAlarms_free s free]
        split
        · refine .closes free (exitEditAlarms_not_editing _) ?_
          unfold exitEditAlarms AlarmManager.saveAlarms
          dsimp only
          rw [updated]
          exact if_pos rfl
        · exact .edits free editing _ (Or.inl rfl) updated
      · have same : s.updateEditDisplay.mAlarmManager = s.mAlarmManager := by
          unfold updateEditDisplay
          rw [editAlarms_taken s free]
        split
        · exact exitEditAlarms_effect s rfl same
        · exact .idle Iff.rfl same

theorem destroyDisplay_effect : Effect s s.destroyDisplay := by
  have last := refreshThread_effect { s with mKeyboard := s.mKeyboard.unRegisterKeyboardObserver .display }
  cases last with
  | idle editing manager => exact .idle editing manager
  | edits free editing alarms edited manager => exact .edits free editing alarms edited manager
  | closes free editing manager => exact .closes free editing manager
  | leaves other editing manager => exact .leaves other editing manager

theorem Effect.mAlarmObservers {s s' : Desk} (effect : Effect s s') :
    s'.mAlarmManager.mAlarmObservers = s.mAlarmManager.mAlarmObservers := by
  cases effect with
  | idle _ manager => rw [manager]
  | edits _ _ _ _ manager => rw [manager]
  | closes _ _ manager =>
    rw [manager]
    rfl
  | leaves _ _ manager => rw [manager]

theorem Effect.requests {s s' : Desk} (effect : Effect s s') :
    s'.mAlarmManager.mSendAlarmSnooze = s.mAlarmManager.mSendAlarmSnooze ∧
      s'.mAlarmManager.mSendAlarmOff = s.mAlarmManager.mSendAlarmOff := by
  cases effect with
  | idle _ manager => simp [manager]
  | edits _ _ _ _ manager => simp [manager]
  | closes _ _ manager => simp [manager, AlarmManager.writeAlarms]
  | leaves _ _ manager => simp [manager]

theorem destroyDisplay_keyboard : .display ∉ s.destroyDisplay.mKeyboard.mKeyboardObservers := by
  have removed : .display ∉ (s.mKeyboard.unRegisterKeyboardObserver .display).mKeyboardObservers := by
    simp [Keyboard.unRegisterKeyboardObserver]
  unfold destroyDisplay refreshThread
  dsimp only
  split
  · exact removed
  · split <;> split <;> exact removed

theorem updateEditDisplay_editor
    (mine : s.mDisplay.mUnitName = "" ∨ s.mAlarmManager.mCurrentEditor = s.mDisplay.mUnitName) :
    s.updateEditDisplay.mAlarmManager.mCurrentEditor = s.mAlarmManager.mCurrentEditor := by
  unfold updateEditDisplay
  by_cases free : s.Free
  · rw [editAlarms_free s free]
    rcases mine with unnamed | same
    · rcases free with empty | same
      · exact unnamed.trans empty.symm
      · exact same.symm
    · exact same.symm
  · rw [editAlarms_taken s free]

/-- A pass in the editor leaves the lock as it is, or gives it back when the time is up. -/
theorem refreshThread_mCurrentEditor (editing : s.Editing)
    (mine : s.mDisplay.mUnitName = "" ∨ s.mAlarmManager.mCurrentEditor = s.mDisplay.mUnitName) :
    s.refreshThread.mAlarmManager.mCurrentEditor =
      if s.mDisplay.mEditAlarmsTimer - THREAD_INTERVAL_MS ≤ 0 then
        if s.mAlarmManager.mCurrentEditor = s.mDisplay.mUnitName then "" else s.mAlarmManager.mCurrentEditor
      else s.mAlarmManager.mCurrentEditor := by
  have state : s.mDisplay.mDisplayState = .stEditAlarms := editing
  have drawn := updateEditDisplay_editor s mine
  simp only [refreshThread, state, reduceCtorEq, if_false]
  cases s.mDisplay.mUpdateEditDisplay with
  | false =>
    simp only [Bool.false_eq_true, if_false]
    split
    · simp only [exitEditAlarms, AlarmManager.saveAlarms]
      split <;> rfl
    · rfl
  | true =>
    simp only [if_true]
    have timer : s.updateEditDisplay.mDisplay.mEditAlarmsTimer = s.mDisplay.mEditAlarmsTimer := rfl
    have name : s.updateEditDisplay.mDisplay.mUnitName = s.mDisplay.mUnitName := rfl
    rw [timer]
    split
    · simp only [exitEditAlarms, AlarmManager.saveAlarms, name, drawn]
      split
      · rfl
      · exact drawn
    · exact drawn

/-- When a pass of the refresh thread leaves the unit without the editor. -/
theorem refreshThread_editor
    (held : s.mDisplay.mUnitName ≠ "" → s.Editing → s.mAlarmManager.mCurrentEditor = s.mDisplay.mUnitName) :
    s.refreshThread.mAlarmManager.mCurrentEditor ≠ s.mDisplay.mUnitName ↔
      s.mAlarmManager.mCurrentEditor ≠ s.mDisplay.mUnitName ∨
        s.mDisplay.mUnitName ≠ "" ∧ s.Editing ∧ s.mDisplay.mEditAlarmsTimer ≤ THREAD_INTERVAL_MS := by
  cases state : s.mDisplay.mDisplayState with
  | stNormal => simp [refreshThread, Editing, state]
  | stEditAlarms =>
    have mine : s.mDisplay.mUnitName = "" ∨ s.mAlarmManager.mCurrentEditor = s.mDisplay.mUnitName := by
      by_cases unnamed : s.mDisplay.mUnitName = ""
      · exact Or.inl unnamed
      · exact Or.inr (held unnamed state)
    have expired : s.mDisplay.mEditAlarmsTimer ≤ THREAD_INTERVAL_MS ↔
        s.mDisplay.mEditAlarmsTimer - THREAD_INTERVAL_MS ≤ 0 := by omega
    rw [refreshThread_mCurrentEditor s state mine, expired]
    by_cases elapsed : s.mDisplay.mEditAlarmsTimer - THREAD_INTERVAL_MS ≤ 0
    · rw [if_pos elapsed]
      by_cases same : s.mAlarmManager.mCurrentEditor = s.mDisplay.mUnitName
      · rw [if_pos same]
        constructor
        · exact fun named => Or.inr ⟨named.symm, state, elapsed⟩
        · intro given
          obtain other | ⟨named, -, -⟩ := given
          · exact absurd same other
          · exact named.symm
      · rw [if_neg same]
        exact iff_of_true same (Or.inl same)
    · rw [if_neg elapsed]
      exact ⟨Or.inl, fun either => either.resolve_right fun last => elapsed last.2.2⟩

theorem keyboardPressed_name (info : KeyboardInfo) :
    (s.keyboardPressed info).mDisplay.mUnitName = s.mDisplay.mUnitName := by
  have pressed : (s.longPressLeft info).mDisplay.mUnitName = s.mDisplay.mUnitName := by
    rcases longPressLeft_cases s info with stays | enters | exits
    · rw [stays]
    · rw [enters]
      unfold enterEditAlarms
      dsimp only
      split <;> rfl
    · rw [exits]
      rfl
  unfold keyboardPressed editorKeys
  split
  · dsimp only
    split
    · exact (ClockDisplay.editKeys_frame _ _ _ _).2.trans pressed
    · exact pressed
  · exact pressed

theorem refreshThread_name : s.refreshThread.mDisplay.mUnitName = s.mDisplay.mUnitName := by
  unfold refreshThread
  split
  · rfl
  · dsimp only
    split <;> split <;> rfl

theorem destroyDisplay_name : s.destroyDisplay.mDisplay.mUnitName = s.mDisplay.mUnitName :=
  refreshThread_name { s with mKeyboard := s.mKeyboard.unRegisterKeyboardObserver .display }

end

end Desk

end RgbClock.Units
