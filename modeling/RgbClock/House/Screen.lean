import RgbClock.House.Editing
import RgbClock.Units.EditScreen

/-! The screen of the editor in the whole house. A pass of `refreshThread` draws first and takes `mUpdateEditDisplay` back
afterwards, so here it is two steps, between which the other threads may take theirs. -/

open RgbClock.Keys RgbClock.Alarms RgbClock.Units RgbClock.Lcd Slots Runs

namespace RgbClock

namespace Units

namespace ClockDisplay

variable {d : ClockDisplay} {mUnitList : List String} {alarms : List Alarm} {info : KeyboardInfo}

theorem moveTo_mUpdateEditDisplay (d : ClockDisplay) (pos : Option EditPos) : (d.moveTo pos).mUpdateEditDisplay = true := by
  cases pos <;> rfl

theorem listAlarmsKeys_redraws (quiet : (d.listAlarmsKeys alarms info).1.mUpdateEditDisplay = false) :
    d.listAlarmsKeys alarms info = (d, alarms) := by
  unfold listAlarmsKeys at quiet ⊢
  dsimp only at quiet ⊢
  split at quiet
  · cases quiet
  · split at quiet
    · cases quiet
    · split at quiet
      · cases quiet
      · split at quiet
        · cases quiet
        · simp [*]

theorem confirmDeleteKeys_redraws (quiet : (d.confirmDeleteKeys alarms info).1.mUpdateEditDisplay = false) :
    d.confirmDeleteKeys alarms info = (d, alarms) := by
  unfold confirmDeleteKeys at quiet ⊢
  split at quiet
  · cases quiet
  · split at quiet
    · cases quiet
    · simp [*]

/-- Without a key of the four, an alarm only loses its signalled flag, which is not on the screen. -/
theorem editAlarmKeys_redraws (state : d.mEditState = .edEditAlarm)
    (quiet : (d.editAlarmKeys mUnitList alarms info).1.mUpdateEditDisplay = false) :
    d.mUpdateEditDisplay = false ∧ (d.editAlarmKeys mUnitList alarms info).1.editScreen
      (d.editAlarmKeys mUnitList alarms info).2 = d.editScreen alarms := by
  unfold editAlarmKeys at quiet ⊢
  cases found : alarms[d.mAlarmEditIndex]? with
  | none =>
    rw [found] at quiet
    exact ⟨quiet, rfl⟩
  | some selected =>
    rw [found] at quiet
    dsimp only at quiet ⊢
    simp only [Bool.or_eq_false_iff] at quiet
    obtain ⟨⟨moves, down⟩, up⟩ := quiet
    have right : ¬ (info.mKeyInfo KEY_CENTRAL_R).mShortPressed = true := by
      intro pressed
      rw [if_pos pressed] at moves
      split at moves
      · exact absurd ((moveTo_mUpdateEditDisplay _ _).symm.trans moves) (by decide)
      · exact absurd ((moveTo_mUpdateEditDisplay _ _).symm.trans moves) (by decide)
    rw [if_neg right] at moves ⊢
    have left : ¬ (info.mKeyInfo KEY_CENTRAL_L).mShortPressed = true := by
      intro pressed
      rw [if_pos pressed] at moves
      exact absurd ((moveTo_mUpdateEditDisplay _ _).symm.trans moves) (by decide)
    rw [if_neg left] at moves ⊢
    refine ⟨moves, ?_⟩
    have inside := (List.getElem?_eq_some_iff.mp found).1
    simp only [editScreen, state, down, up, Bool.false_eq_true, if_false, List.getElem?_set_self inside, found,
      Option.map_some]
    rfl

/-- Keys that leave the flag as it was have left the screen as it was. -/
theorem editKeys_redraws (quiet : (d.editKeys mUnitList alarms info).1.mUpdateEditDisplay = false) :
    d.mUpdateEditDisplay = false ∧
      (d.editKeys mUnitList alarms info).1.editScreen (d.editKeys mUnitList alarms info).2 = d.editScreen alarms := by
  unfold editKeys at quiet ⊢
  cases state : d.mEditState with
  | edUndefined =>
    rw [state] at quiet
    exact ⟨quiet, rfl⟩
  | edListAlarms =>
    rw [state] at quiet
    dsimp only at quiet ⊢
    have same := listAlarmsKeys_redraws quiet
    rw [same] at quiet ⊢
    exact ⟨quiet, rfl⟩
  | edConfirmDelete =>
    rw [state] at quiet
    dsimp only at quiet ⊢
    have same := confirmDeleteKeys_redraws quiet
    rw [same] at quiet ⊢
    exact ⟨quiet, rfl⟩
  | edEditAlarm =>
    rw [state] at quiet
    exact editAlarmKeys_redraws state quiet

end ClockDisplay

namespace Desk

def editScreen (s : Desk) : Option (List Method) := s.mDisplay.editScreen s.mAlarmManager.mAlarmList

variable {s : Desk}

theorem editorKeys_redraws (info : KeyboardInfo) (quiet : (s.editorKeys info).mDisplay.mUpdateEditDisplay = false) :
    s.mDisplay.mUpdateEditDisplay = false ∧ (s.editorKeys info).editScreen = s.editScreen := by
  by_cases editing : s.Editing
  · by_cases free : s.Free
    · obtain ⟨display, alarms⟩ := editorKeys_eq info editing free
      unfold editScreen
      rw [display] at quiet ⊢
      rw [alarms]
      exact ClockDisplay.editKeys_redraws quiet
    · obtain ⟨manager, timer, display⟩ := editorKeys_refused info free
      unfold editScreen
      rw [display] at quiet ⊢
      rw [manager]
      exact ⟨quiet, rfl⟩
  · rw [editorKeys_closed s info editing] at quiet ⊢
    exact ⟨quiet, rfl⟩

/-- A display that edits after a key and has nothing to draw did so before, with the same screen. -/
theorem keyboardPressed_redraws (info : KeyboardInfo) (editing : (s.keyboardPressed info).Editing)
    (quiet : (s.keyboardPressed info).mDisplay.mUpdateEditDisplay = false) :
    s.Editing ∧ s.mDisplay.mUpdateEditDisplay = false ∧ (s.keyboardPressed info).editScreen = s.editScreen := by
  unfold keyboardPressed at editing quiet ⊢
  obtain ⟨before, same⟩ := editorKeys_redraws info quiet
  have wasEditing : (s.longPressLeft info).Editing := by
    by_contra closed
    rw [editorKeys_closed _ info closed] at editing
    exact closed editing
  rcases longPressLeft_cases s info with stays | enters | exits
  · rw [stays] at before same wasEditing ⊢
    exact ⟨wasEditing, before, same⟩
  · rw [enters] at before same wasEditing ⊢
    by_cases free : s.Free
    · unfold enterEditAlarms at before
      rw [editAlarms_free s free] at before
      cases before
    · rw [enterEditAlarms_taken s free] at before same wasEditing ⊢
      exact ⟨wasEditing, before, same⟩
  · rw [exits] at wasEditing
    exact absurd wasEditing (exitEditAlarms_not_editing s)

/-- A pass of the refresh thread after it has drawn. -/
def finishRefresh (s : Desk) : Desk :=
  let left := s.mDisplay.mEditAlarmsTimer - THREAD_INTERVAL_MS
  let s := { s with mDisplay := { s.mDisplay with mUpdateEditDisplay := false, mEditAlarmsTimer := left } }
  if left ≤ 0 then s.exitEditAlarms else s

/-- A pass that draws is the two halves, one after the other. -/
theorem refreshThread_eq_finishRefresh (editing : s.Editing) (wanted : s.mDisplay.mUpdateEditDisplay = true) :
    s.refreshThread =
      finishRefresh { s with mAlarmManager := (s.mAlarmManager.editAlarms s.mDisplay.mUnitName).1 } := by
  have state : s.mDisplay.mDisplayState = .stEditAlarms := editing
  simp only [refreshThread, state, reduceCtorEq, if_false, wanted, if_true, updateEditDisplay, finishRefresh]

theorem finishRefresh_effect (s : Desk) : Effect s s.finishRefresh := by
  unfold finishRefresh
  dsimp only
  split
  · exact exitEditAlarms_effect s rfl rfl
  · exact .idle Iff.rfl rfl

theorem finishRefresh_name (s : Desk) : s.finishRefresh.mDisplay.mUnitName = s.mDisplay.mUnitName := by
  unfold finishRefresh
  dsimp only
  split <;> rfl

theorem finishRefresh_mAlarmList (s : Desk) : s.finishRefresh.mAlarmManager.mAlarmList = s.mAlarmManager.mAlarmList := by
  unfold finishRefresh
  dsimp only
  split
  · exact saveAlarms_mAlarmList _ _
  · rfl

/-- If it still edits after a pass, a display shows what it showed. -/
theorem finishRefresh_editScreen (editing : s.finishRefresh.Editing) :
    s.Editing ∧ s.finishRefresh.editScreen = s.editScreen := by
  unfold finishRefresh at editing ⊢
  dsimp only at editing ⊢
  split at editing
  · exact absurd editing (exitEditAlarms_not_editing _)
  · rename_i more
    rw [if_neg more]
    exact ⟨editing, rfl⟩

theorem refreshThread_editScreen (idle : ¬ (s.Editing ∧ s.mDisplay.mUpdateEditDisplay = true))
    (editing : s.refreshThread.Editing) : s.Editing ∧ s.refreshThread.editScreen = s.editScreen := by
  unfold refreshThread at editing ⊢
  split at editing
  · rename_i normal
    exact absurd (normal.symm.trans editing) (by decide)
  · rename_i state
    rw [if_neg state]
    have edits : s.Editing := by
      unfold Editing
      cases shown : s.mDisplay.mDisplayState with
      | stNormal => exact absurd shown state
      | stEditAlarms => rfl
    have still : ¬ s.mDisplay.mUpdateEditDisplay = true := fun wanted => idle ⟨edits, wanted⟩
    dsimp only at editing ⊢
    rw [if_neg still] at editing ⊢
    split at editing
    · exact absurd editing (exitEditAlarms_not_editing _)
    · rename_i more
      rw [if_neg more]
      exact ⟨edits, rfl⟩

end Desk

end Units

/-! ### The house with the screens of its units -/

structure Watched extends House where
  /-- The refresh thread of the unit has drawn and is about to take the flag back. -/
  drawn : Nat → Bool := fun _ => false
  /-- What the unit has last drawn of the editor. -/
  screen : Nat → Option (List Method) := fun _ => none

namespace Watched

/-- The first half of a pass: it draws if it has to, and otherwise it is the whole pass. -/
def draw (w : Watched) (k : Nat) : Watched :=
  match w.live k with
  | some c =>
    if c.mDisplay.mDisplayState = .stEditAlarms ∧ c.mDisplay.mUpdateEditDisplay = true then
      let (manager, granted) := w.mAlarmManager.editAlarms c.name
      { w with
        mAlarmManager := manager
        drawn := Function.update w.drawn k true
        screen := if granted then Function.update w.screen k (c.mDisplay.editScreen manager.mAlarmList) else w.screen }
    else { w with toHouse := w.toHouse.step (.refresh k) }
  | none => w

def finish (w : Watched) (k : Nat) : Watched :=
  { w with toHouse := w.toHouse.onDesk k (·.finishRefresh), drawn := Function.update w.drawn k false }

/-- The steps of the house, where `refresh` is the next half of a pass. -/
def step (w : Watched) : Event → Watched
  | .refresh k => if w.drawn k then w.finish k else w.draw k
  | e => { w with toHouse := w.toHouse.step e }

end Watched

def Event.keys : Event → Option Nat
  | .displayKeys k _ => some k
  | _ => none

def Event.display : Event → Option Nat
  | .displayKeys k _ | .refresh k | .detach k => some k
  | _ => none

namespace Watched

/-- No unit is destroyed, and no key reaches a display between the halves of a pass. -/
def Undisturbed (w : Watched) (e : Event) : Prop := e.admitted = true ∧ (e.keys.any w.drawn) = false

instance (w : Watched) (e : Event) : Decidable (w.Undisturbed e) := inferInstanceAs (Decidable (_ ∧ _))

end Watched

/-! ### Steps beside a display -/

namespace House
variable {h : House} {e : Event} {j : Nat} {c c' : AlarmClock}

theorem onDesk_units_ne {k : Nat} (other : k ≠ j) (change : Desk → Desk) : (h.onDesk k change).units[j]? = h.units[j]? := by
  unfold onDesk
  split
  · exact List.getElem?_set_ne other
  · rfl

theorem onDesk_units (live : h.live j = some c) (change : Desk → Desk) : (h.onDesk j change).units =
    h.units.set j { c with
      mDisplay := (change ⟨c.mDisplay, c.mKeyboard, h.mAlarmManager⟩).mDisplay
      mKeyboard := (change ⟨c.mDisplay, c.mKeyboard, h.mAlarmManager⟩).mKeyboard } := by
  unfold onDesk
  rw [live]

theorem onDesk_mAlarmManager (live : h.live j = some c) (change : Desk → Desk) :
    (h.onDesk j change).mAlarmManager = (change ⟨c.mDisplay, c.mKeyboard, h.mAlarmManager⟩).mAlarmManager := by
  unfold onDesk
  rw [live]

theorem step_beside (found : h.units[j]? = some c) (other : e.display ≠ some j) :
    ∃ c', (h.step e).units[j]? = some c' ∧ SameDesk c c' := by
  have unchanged {units : List AlarmClock} (same : units[j]? = h.units[j]?) : ∃ c', units[j]? = some c' ∧ SameDesk c c' :=
    ⟨c, same.trans found, SameDesk.refl c⟩
  cases e with
  | attach unitName place =>
    simp only [step, attach]
    split
    · exact unchanged rfl
    · exact unchanged (List.getElem?_append_left (List.getElem?_eq_some_iff.mp found).1)
  | detach k =>
    have apart : k ≠ j := fun same => other (congrArg some same)
    simp only [step, detach]
    split
    · exact unchanged (List.getElem?_set_ne apart)
    · exact unchanged rfl
  | registerLight k light =>
    exact (@changeUnit_sameDesk h k (·.registerLight light) fun _ => ⟨rfl, rfl, rfl⟩).forth j c found
  | unRegisterLight k => exact (@changeUnit_sameDesk h k (·.unRegisterLight) fun _ => ⟨rfl, rfl, rfl⟩).forth j c found
  | clockKeys k info => exact unchanged (congrArg (·[j]?) (clockKeys_units h k info))
  | displayKeys k info => exact unchanged (onDesk_units_ne (fun same => other (congrArg some same)) _)
  | refresh k => exact unchanged (onDesk_units_ne (fun same => other (congrArg some same)) _)
  | own step => exact (own_sameDesk h step).forth j c found
  | iterate reads => exact (iterate_sameDesk h reads).forth j c found

/-- While a unit edits, a step for no other display than its own leaves the alarms to it. -/
theorem step_keeps_alarms (editors : Editors h) (found : h.units[j]? = some c)
    (editing : c.mDisplay.mDisplayState = .stEditAlarms) (other : e.display ≠ some j) :
    (h.step e).mAlarmManager.mAlarmList = h.mAlarmManager.mAlarmList := by
  have mine := (editors.held j c found).mp editing
  by_cases actor : e.unit = some j
  · cases e with
    | attach | iterate => cases actor
    | detach k | displayKeys k | refresh k => exact absurd actor other
    | registerLight k | unRegisterLight k => rw [step, changeUnit_mAlarmManager]
    | clockKeys k info => exact (clockKeys_sameAlarms h k info).mAlarmList
    | own step => rw [House.step, own_mAlarmManager]
  · exact (editors.others_keep found mine actor).mAlarmList

end House

/-! ### Screens that are up to date -/

/-- A unit that edits and has nothing more to draw, or has just drawn, shows its editor as it is. -/
def Current (h : House) (drawn : Bool) (screen : Option (List Method)) (j : Nat) : Prop :=
  ∀ c, h.units[j]? = some c → c.mDisplay.mDisplayState = .stEditAlarms →
    c.mDisplay.mUpdateEditDisplay = false ∨ drawn = true →
      screen = c.mDisplay.editScreen h.mAlarmManager.mAlarmList

theorem SameDesk.editScreen {c c' : AlarmClock} (same : SameDesk c c') (alarms : List Alarm) :
    c'.mDisplay.editScreen alarms = c.mDisplay.editScreen alarms := by
  have screens := congrArg (ClockDisplay.editScreen · alarms) same.display
  exact screens

theorem SameDesk.mUpdateEditDisplay {c c' : AlarmClock} (same : SameDesk c c') :
    c'.mDisplay.mUpdateEditDisplay = c.mDisplay.mUpdateEditDisplay := by
  have flags := congrArg ClockDisplay.mUpdateEditDisplay same.display
  exact flags

theorem Current.beside {h : House} {e : Event} {drawn : Bool} {screen : Option (List Method)} {j : Nat}
    (current : Current h drawn screen j) (editors : Editors h) (other : e.display ≠ some j) :
    Current (h.step e) drawn screen j := by
  intro c' found editing pending
  cases before : h.units[j]? with
  | some c =>
    obtain ⟨later, present, same⟩ := House.step_beside before other
    rw [found] at present
    cases present
    rw [same.state] at editing
    rw [same.mUpdateEditDisplay] at pending
    rw [same.editScreen, House.step_keeps_alarms editors before editing other]
    exact current c before editing pending
  | none =>
    rcases House.step_unit found with ⟨c, present, -⟩ | ⟨unitName, place, -, rfl⟩
    · rw [before] at present
      cases present
    · cases editing

structure Watched.UpToDate (w : Watched) : Prop where
  editors : Editors w.toHouse
  editing : ∀ k, w.drawn k = true → ∃ c, w.units[k]? = some c ∧ c.mDisplay.mDisplayState = .stEditAlarms
  current : ∀ k, Current w.toHouse (w.drawn k) (w.screen k) k

/-- A change of a display that asks for a new drawing where one is necessary. -/
theorem Current.onDesk {h : House} {drawn : Bool} {screen : Option (List Method)} {k : Nat} {c : AlarmClock}
    {change : Desk → Desk} (current : Current h drawn screen k) (live : h.live k = some c)
    (redraws : ∀ s : Desk, s = ⟨c.mDisplay, c.mKeyboard, h.mAlarmManager⟩ → (change s).Editing →
      (change s).mDisplay.mUpdateEditDisplay = false →
      s.Editing ∧ (s.mDisplay.mUpdateEditDisplay = false ∨ drawn = true) ∧ (change s).editScreen = s.editScreen) :
    Current (h.onDesk k change) false screen k := by
  intro c' found editing pending
  have inside := (List.getElem?_eq_some_iff.mp (House.live_eq_some.mp live).1).1
  rw [House.onDesk_units live, List.getElem?_set_self inside] at found
  cases found
  have quiet := pending.resolve_right Bool.false_ne_true
  obtain ⟨before, earlier, same⟩ := redraws _ rfl editing quiet
  rw [House.onDesk_mAlarmManager live]
  exact (current c (House.live_eq_some.mp live).1 before earlier).trans same.symm

namespace Watched

theorem UpToDate.live {w : Watched} (upToDate : w.UpToDate) {k : Nat} {c : AlarmClock} (found : w.units[k]? = some c) :
    w.live k = some c :=
  House.live_eq_some.mpr ⟨found, upToDate.editors.alive k c found⟩

theorem boot (mUnitList : List String) (alarms : List Alarm) (file : Option XMLDocument) :
    UpToDate { House.boot mUnitList alarms file with } := by
  refine ⟨Editors.boot mUnitList alarms file, fun k drawn => ?_, fun k c found => ?_⟩
  · cases drawn
  · cases found

variable {w : Watched} {e : Event} {k : Nat}

/-- A step of the house: the unit whose display it is for has to see to its own screen. -/
theorem UpToDate.house (upToDate : w.UpToDate) (admitted : e.admitted = true)
    (own : ∀ k, e.display = some k → w.drawn k = false ∧ Current (w.toHouse.step e) false (w.screen k) k) :
    UpToDate { w with toHouse := w.toHouse.step e } := by
  refine ⟨upToDate.editors.step e admitted, fun k drawn => ?_, fun k => ?_⟩
  · have other : e.display ≠ some k := fun same => absurd ((own k same).1.symm.trans drawn) Bool.false_ne_true
    obtain ⟨c, found, editing⟩ := upToDate.editing k drawn
    obtain ⟨c', present, same⟩ := House.step_beside found other
    exact ⟨c', present, same.state.trans editing⟩
  · by_cases mine : e.display = some k
    · obtain ⟨idle, current⟩ := own k mine
      show Current _ (w.drawn k) _ k
      rw [idle]
      exact current
    · exact (upToDate.current k).beside upToDate.editors mine

theorem UpToDate.keys (upToDate : w.UpToDate) (info : KeyboardInfo) (idle : w.drawn k = false) :
    UpToDate { w with toHouse := w.toHouse.step (.displayKeys k info) } := by
  refine upToDate.house rfl fun k' same => ?_
  cases same
  refine ⟨idle, ?_⟩
  have current := upToDate.current k
  rw [idle] at current
  cases found : w.units[k]? with
  | none =>
    have gone : w.live k = none := by simp [House.live, found]
    simp only [House.step, House.onDesk, gone]
    exact current
  | some c =>
    refine current.onDesk (upToDate.live found) fun s _ editing quiet => ?_
    obtain ⟨before, flag, same⟩ := Desk.keyboardPressed_redraws info editing quiet
    exact ⟨before, .inl flag, same⟩

theorem UpToDate.finish (upToDate : w.UpToDate) (drawn : w.drawn k = true) : (w.finish k).UpToDate := by
  obtain ⟨c, found, editing⟩ := upToDate.editing k drawn
  have live := upToDate.live found
  have alarms : (w.toHouse.onDesk k (·.finishRefresh)).mAlarmManager.mAlarmList = w.mAlarmManager.mAlarmList := by
    rw [House.onDesk_mAlarmManager live]
    exact Desk.finishRefresh_mAlarmList _
  refine ⟨?_, fun j still => ?_, fun j => ?_⟩
  · refine upToDate.editors.moved found (House.onDesk_units live _) (Desk.finishRefresh_name _) (upToDate.editors.alive k c found) ?_
    refine House.moved_of_effect rfl rfl (Desk.finishRefresh_effect ⟨c.mDisplay, c.mKeyboard, w.mAlarmManager⟩) rfl ?_
    exact congrArg AlarmManager.mCurrentEditor (House.onDesk_mAlarmManager live _)
  · by_cases same : j = k
    · subst same
      simp [Watched.finish] at still
    · simp only [Watched.finish, Function.update_of_ne same] at still
      obtain ⟨d, present, shows⟩ := upToDate.editing j still
      exact ⟨d, (House.onDesk_units_ne (Ne.symm same) _).trans present, shows⟩
  · by_cases same : j = k
    · subst same
      have current := upToDate.current j
      rw [drawn] at current
      simp only [Watched.finish, Function.update_self]
      refine current.onDesk live fun s _ editing _ => ?_
      obtain ⟨before, screens⟩ := Desk.finishRefresh_editScreen editing
      exact ⟨before, .inr rfl, screens⟩
    · intro d present shows pending
      simp only [Watched.finish, Function.update_of_ne same] at present pending ⊢
      rw [House.onDesk_units_ne (Ne.symm same)] at present
      rw [alarms]
      exact upToDate.current j d present shows pending

theorem UpToDate.draw (upToDate : w.UpToDate) (idle : w.drawn k = false) : (w.draw k).UpToDate := by
  unfold Watched.draw
  split
  · rename_i c live
    have found := (House.live_eq_some.mp live).1
    split
    · rename_i wanted
      have mine := (upToDate.editors.held k c found).mp wanted.1
      have granted : w.mAlarmManager.editAlarms c.name = (w.mAlarmManager, true) := by
        rw [AlarmManager.editAlarms, if_pos (.inr mine), ← mine]
      simp only [granted, if_true]
      refine ⟨upToDate.editors, fun j drawn => ?_, fun j => ?_⟩
      · by_cases same : j = k
        · subst same
          exact ⟨c, found, wanted.1⟩
        · simp only [Function.update_of_ne same] at drawn
          exact upToDate.editing j drawn
      · by_cases same : j = k
        · subst same
          intro d present _ _
          simp only [Function.update_self]
          rw [found] at present
          cases present
          rfl
        · simp only [Function.update_of_ne same]
          exact upToDate.current j
    · rename_i rest
      refine upToDate.house rfl fun k' same => ?_
      cases same
      refine ⟨idle, ?_⟩
      have current := upToDate.current k
      rw [idle] at current
      refine current.onDesk live fun s here editing _ => ?_
      subst here
      obtain ⟨before, screens⟩ := @Desk.refreshThread_editScreen ⟨c.mDisplay, c.mKeyboard, w.mAlarmManager⟩ rest editing
      refine ⟨before, .inl ?_, screens⟩
      exact Bool.eq_false_iff.mpr fun flag => rest ⟨before, flag⟩
  · exact upToDate

theorem UpToDate.step (upToDate : w.UpToDate) (undisturbed : w.Undisturbed e) : (w.step e).UpToDate := by
  obtain ⟨admitted, quiet⟩ := undisturbed
  cases e with
  | refresh k =>
    simp only [Watched.step]
    cases drawn : w.drawn k with
    | true => exact upToDate.finish drawn
    | false => exact upToDate.draw drawn
  | displayKeys k info => exact upToDate.keys info quiet
  | detach k => cases admitted
  | attach | registerLight | unRegisterLight | clockKeys | own | iterate => exact upToDate.house admitted nofun

/-- A pass whose halves follow each other is the pass of the house. -/
theorem draw_finish {c : AlarmClock} (live : w.live k = some c) (editing : c.mDisplay.mDisplayState = .stEditAlarms)
    (wanted : c.mDisplay.mUpdateEditDisplay = true) : ((w.draw k).finish k).toHouse = w.toHouse.step (.refresh k) := by
  have halves := @Desk.refreshThread_eq_finishRefresh ⟨c.mDisplay, c.mKeyboard, w.mAlarmManager⟩ editing wanted
  have drawing : (w.draw k).toHouse = { w.toHouse with mAlarmManager := (w.mAlarmManager.editAlarms c.name).1 } := by
    unfold Watched.draw
    rw [live]
    dsimp only
    rw [if_pos ⟨editing, wanted⟩]
  have still : House.live { w.toHouse with mAlarmManager := (w.mAlarmManager.editAlarms c.name).1 } k = some c := live
  unfold Watched.finish
  simp only [drawing, House.step, House.onDesk, live, still, halves]
  rfl

/-- In every run in which no unit is destroyed and no key reaches a display while it is being drawn, a unit that edits
and has nothing more to draw shows its editor as it is: after every pass of its refresh thread, whatever the other units
and the alarm thread do. -/
theorem edit_screen_up_to_date (mUnitList : List String) (alarms : List Alarm) (file : Option XMLDocument)
    (events : List Event)
    (undisturbed : Meets Watched.step Undisturbed { House.boot mUnitList alarms file with } events) :
    let w := run Watched.step { House.boot mUnitList alarms file with } events
    ∀ k c, w.live k = some c → c.mDisplay.mDisplayState = .stEditAlarms → c.mDisplay.mUpdateEditDisplay = false →
      w.screen k = c.mDisplay.editScreen w.mAlarmManager.mAlarmList := by
  intro w k c live editing quiet
  have upToDate : w.UpToDate := run_keeps (fun _ _ holds ok => UpToDate.step holds ok) (boot mUnitList alarms file) undisturbed
  exact upToDate.current k c (House.live_eq_some.mp live).1 editing (.inl quiet)

/-- The kitchen opens the editor and steps from its one alarm to the entry for a new one. -/
def kitchenSteps : List Event :=
  [.attach "kitchen" 0, .displayKeys 0 (longPress KEY_LEFT .stNormal), .refresh 0, .refresh 0,
    .displayKeys 0 (shortPress KEY_DOWN .stAlarmEdit), .refresh 0, .refresh 0]

theorem edit_screen_of_kitchen :
    (run Watched.step { House.boot ["kitchen"] [{}] none with } kitchenSteps).screen 0 = some (listScreen []) := by
  have shows := edit_screen_up_to_date ["kitchen"] [{}] none kitchenSteps (by decide) 0
  have live : ∃ c, (run Watched.step { House.boot ["kitchen"] [{}] none with } kitchenSteps).live 0 = some c ∧
      c.mDisplay.mDisplayState = .stEditAlarms ∧ c.mDisplay.mUpdateEditDisplay = false ∧
      c.mDisplay.editScreen [{}] = some (listScreen []) := ⟨_, rfl, rfl, rfl, rfl⟩
  obtain ⟨c, found, editing, quiet, screen⟩ := live
  rw [shows c found editing quiet]
  exact screen

/-- The key comes between the halves of the pass: the flag that it sets is taken back, and the screen stays as it was. -/
example :
    let w := run Watched.step { House.boot ["kitchen"] [{}] none with }
      [.attach "kitchen" 0, .displayKeys 0 (longPress KEY_LEFT .stNormal), .refresh 0,
        .displayKeys 0 (shortPress KEY_DOWN .stAlarmEdit), .refresh 0, .refresh 0]
    w.units[0]?.map (·.mDisplay.mUpdateEditDisplay) = some false ∧ w.screen 0 = some (listScreen [{}]) ∧
      w.units[0]?.map (·.mDisplay.editScreen w.mAlarmManager.mAlarmList) = some (some (listScreen [])) :=
  ⟨rfl, rfl, rfl⟩

end Watched

end RgbClock
