import RgbClock.House.System
import RgbClock.Units.Editor
import RgbClock.Alarms.Due

/-! The editor of the alarm list in the whole house: which events touch the alarms, and how the
displays and the current editor stay in step. -/

open RgbClock.Keys RgbClock.Alarms RgbClock.Devices RgbClock.Units Slots Runs

namespace RgbClock

def Event.unit : Event → Option Nat
  | .attach _ _ | .iterate _ => none
  | .detach k | .registerLight k _ | .unRegisterLight k | .clockKeys k _ | .displayKeys k _ | .refresh k => some k
  | .own step => some step.unit

/-! ### What an event does to the alarms -/

structure SameAlarms (m m' : AlarmManager) : Prop where
  mUnitList : m'.mUnitList = m.mUnitList
  mAlarmList : m'.mAlarmList = m.mAlarmList
  mCurrentEditor : m'.mCurrentEditor = m.mCurrentEditor
  mNextAlarmMap : m'.mNextAlarmMap = m.mNextAlarmMap
  mAlarmFile : m'.mAlarmFile = m.mAlarmFile

namespace SameAlarms

theorem refl (m : AlarmManager) : SameAlarms m m := ⟨rfl, rfl, rfl, rfl, rfl⟩

theorem of_eq {m m' : AlarmManager} (same : m' = m) : SameAlarms m m' := same ▸ refl m

end SameAlarms

/-- Every way in which an event can change the alarms, the editor or the alarm file. -/
inductive Touch (h : House) (e : Event) (m : AlarmManager) : Prop where
  | keeps (same : SameAlarms h.mAlarmManager m)
  | sweeps (reads : Nat → Reads) (event : e = .iterate reads) (same : m = (h.mAlarmManager.alarmThread reads).1)
  | edits (k : Nat) (c : AlarmClock) (actor : e.unit = some k) (live : h.live k = some c)
      (free : h.mAlarmManager.mCurrentEditor = "" ∨ h.mAlarmManager.mCurrentEditor = c.name)
      (alarms : List Alarm) (edited : Edited h.mAlarmManager alarms)
      (same : SameAlarms { h.mAlarmManager with mCurrentEditor := c.name, mAlarmList := alarms } m)
  | closes (k : Nat) (c : AlarmClock) (actor : e.unit = some k) (live : h.live k = some c)
      (free : h.mAlarmManager.mCurrentEditor = "" ∨ h.mAlarmManager.mCurrentEditor = c.name)
      (same : SameAlarms (AlarmManager.writeAlarms { h.mAlarmManager with mCurrentEditor := "" }) m)

namespace House

theorem clockKeys_sameAlarms (h : House) (k : Nat) (info : KeyboardInfo) :
    SameAlarms h.mAlarmManager (h.clockKeys k info).mAlarmManager := by
  unfold clockKeys AlarmClock.keyboardPressed AlarmManager.sendAlarmOff AlarmManager.sendAlarmSnooze
  split
  · dsimp only
    split_ifs <;> exact ⟨rfl, rfl, rfl, rfl, rfl⟩
  · apply SameAlarms.refl

theorem attach_sameAlarms (h : House) (unitName : String) (place : Nat) :
    SameAlarms h.mAlarmManager (h.attach unitName place).mAlarmManager := by
  unfold attach
  split <;> exact ⟨rfl, rfl, rfl, rfl, rfl⟩

theorem effect_touch {h : House} {e : Event} {k : Nat} {c : AlarmClock} (actor : e.unit = some k)
    (live : h.live k = some c) {s s' : Desk} (display : s.mDisplay = c.mDisplay)
    (same : SameAlarms h.mAlarmManager s.mAlarmManager) (effect : Desk.Effect s s') : Touch h e s'.mAlarmManager := by
  have name : s.mDisplay.mUnitName = c.name := congrArg ClockDisplay.mUnitName display
  obtain ⟨units, list, editor, next, file⟩ := same
  have freed : s.Free → h.mAlarmManager.mCurrentEditor = "" ∨ h.mAlarmManager.mCurrentEditor = c.name := by
    unfold Desk.Free
    rw [editor, name]
    exact fun free => free
  cases effect with
  | idle _ manager =>
    rw [manager]
    exact .keeps ⟨units, list, editor, next, file⟩
  | leaves _ _ manager =>
    rw [manager]
    exact .keeps ⟨units, list, editor, next, file⟩
  | edits free _ alarms edited manager =>
    rw [manager]
    unfold Edited at edited
    rw [list, units] at edited
    exact .edits k c actor live (freed free) alarms edited ⟨units, rfl, name, next, file⟩
  | closes free _ manager =>
    rw [manager]
    refine .closes k c actor live (freed free) ⟨units, list, rfl, next, ?_⟩
    unfold AlarmManager.writeAlarms
    rw [list]

theorem onDesk_touch {h : House} {e : Event} {k : Nat} (actor : e.unit = some k) {step : Desk → Desk}
    (effect : ∀ s, Desk.Effect s (step s)) : Touch h e (h.onDesk k step).mAlarmManager := by
  unfold onDesk
  cases live : h.live k with
  | none => exact .keeps (SameAlarms.refl _)
  | some c => exact effect_touch actor live rfl (SameAlarms.refl _) (effect _)

theorem detach_eq {h : House} {k : Nat} {c : AlarmClock} (live : h.live k = some c) : h.detach k =
    { units := h.units.set k (c.destroy h.mAlarmManager h.mDabReceiver).1
      mAlarmManager := (c.destroy h.mAlarmManager h.mDabReceiver).2.1
      mDabReceiver := (c.destroy h.mAlarmManager h.mDabReceiver).2.2 } := by
  unfold detach
  rw [live]

theorem detach_mAlarmObservers {h : House} {k : Nat} {c : AlarmClock} (live : h.live k = some c) :
    (h.detach k).mAlarmManager.mAlarmObservers = h.mAlarmManager.mAlarmObservers.erase c.id := by
  rw [detach_eq live]
  exact (Desk.destroyDisplay_effect _).mAlarmObservers

theorem detach_touch (h : House) (k : Nat) : Touch h (.detach k) (h.detach k).mAlarmManager := by
  unfold detach
  cases live : h.live k with
  | none => exact .keeps (SameAlarms.refl _)
  | some c =>
    have unregistered : SameAlarms h.mAlarmManager (h.mAlarmManager.unRegisterAlarmObserver c.id) :=
      ⟨rfl, rfl, rfl, rfl, rfl⟩
    have effect := Desk.destroyDisplay_effect
    exact effect_touch rfl live rfl unregistered (effect _)

theorem step_touch (h : House) (e : Event) : Touch h e (h.step e).mAlarmManager := by
  cases e with
  | attach unitName place => exact .keeps (attach_sameAlarms h unitName place)
  | detach k => exact detach_touch h k
  | registerLight k light => exact .keeps (.of_eq (changeUnit_mAlarmManager h k _))
  | unRegisterLight k => exact .keeps (.of_eq (changeUnit_mAlarmManager h k _))
  | clockKeys k info => exact .keeps (clockKeys_sameAlarms h k info)
  | displayKeys k info => exact onDesk_touch rfl fun s => s.keyboardPressed_effect info
  | refresh k => exact onDesk_touch rfl Desk.refreshThread_effect
  | own step => exact .keeps (.of_eq (own_mAlarmManager h step))
  | iterate reads => exact .sweeps reads rfl rfl

end House

/-! ### What an event does to the displays -/

/-- How a step of the display of a unit moves the editor. -/
inductive Moved (h h' : House) (c c' : AlarmClock) : Prop where
  | idle (editing : c'.mDisplay.mDisplayState = .stEditAlarms ↔ c.mDisplay.mDisplayState = .stEditAlarms)
      (editor : h'.mAlarmManager.mCurrentEditor = h.mAlarmManager.mCurrentEditor)
  | edits (free : h.mAlarmManager.mCurrentEditor = "" ∨ h.mAlarmManager.mCurrentEditor = c.name)
      (editing : c'.mDisplay.mDisplayState = .stEditAlarms) (editor : h'.mAlarmManager.mCurrentEditor = c.name)
  | closes (free : h.mAlarmManager.mCurrentEditor = "" ∨ h.mAlarmManager.mCurrentEditor = c.name)
      (closed : c'.mDisplay.mDisplayState ≠ .stEditAlarms) (editor : h'.mAlarmManager.mCurrentEditor = "")
  | leaves (other : h.mAlarmManager.mCurrentEditor ≠ c.name) (closed : c'.mDisplay.mDisplayState ≠ .stEditAlarms)
      (editor : h'.mAlarmManager.mCurrentEditor = h.mAlarmManager.mCurrentEditor)

/-- Every way in which an event can change the displays. -/
inductive Displays (h : House) (e : Event) (h' : House) : Prop where
  | aside (units : Each SameDesk h.units h'.units)
      (editor : h'.mAlarmManager.mCurrentEditor = h.mAlarmManager.mCurrentEditor)
  | attached (unitName : String) (place : Nat) (event : e = .attach unitName place)
      (unknown : h.named unitName = false) (units : h'.units = h.units ++ [.create h.units.length unitName])
      (editor : h'.mAlarmManager.mCurrentEditor = h.mAlarmManager.mCurrentEditor)
  | moved (k : Nat) (c c' : AlarmClock) (live : h.live k = some c) (units : h'.units = h.units.set k c')
      (name : c'.name = c.name) (alive : e ≠ .detach k → c'.alive = true) (moved : Moved h h' c c')

namespace House
variable {h h' : House}

theorem moved_of_effect {c c' : AlarmClock} {s s' : Desk} (display : s.mDisplay = c.mDisplay)
    (manager : s.mAlarmManager.mCurrentEditor = h.mAlarmManager.mCurrentEditor) (effect : Desk.Effect s s')
    (shown : c'.mDisplay = s'.mDisplay)
    (after : h'.mAlarmManager.mCurrentEditor = s'.mAlarmManager.mCurrentEditor) : Moved h h' c c' := by
  have name : s.mDisplay.mUnitName = c.name := congrArg ClockDisplay.mUnitName display
  have freed : s.Free → h.mAlarmManager.mCurrentEditor = "" ∨ h.mAlarmManager.mCurrentEditor = c.name := by
    unfold Desk.Free
    rw [manager, name]
    exact fun free => free
  have closes : ¬ s'.Editing → c'.mDisplay.mDisplayState ≠ .stEditAlarms := by
    unfold Desk.Editing
    rw [shown]
    exact fun closed => closed
  cases effect with
  | idle editing same =>
    unfold Desk.Editing at editing
    rw [← shown, display] at editing
    exact .idle editing (after.trans (by rw [same, manager]))
  | edits free editing alarms _ same =>
    unfold Desk.Editing at editing
    rw [← shown] at editing
    exact .edits (freed free) editing (after.trans (by rw [same, ← name]))
  | closes free closed same =>
    exact .closes (freed free) (closes closed) (after.trans (by rw [same]; rfl))
  | leaves other closed same =>
    rw [manager, name] at other
    exact .leaves other (closes closed) (after.trans (by rw [same, manager]))

theorem onDesk_displays {e : Event} {k : Nat} {step : Desk → Desk} (effect : ∀ s, Desk.Effect s (step s))
    (name : ∀ s, (step s).mDisplay.mUnitName = s.mDisplay.mUnitName) : Displays h e (h.onDesk k step) := by
  unfold onDesk
  cases live : h.live k with
  | none => exact .aside (Each.refl SameDesk.refl _) rfl
  | some c =>
    have alive := (live_eq_some.mp live).2
    exact .moved k c _ live rfl (name _) (fun _ => alive) (moved_of_effect rfl rfl (effect _) rfl rfl)

theorem step_displays (h : House) (e : Event) : Displays h e (h.step e) := by
  cases e with
  | attach unitName place =>
    cases known : h.named unitName with
    | true =>
      simp only [step, attach, known, if_true]
      exact .aside (Each.refl SameDesk.refl _) rfl
    | false =>
      simp only [step, attach, known, Bool.false_eq_true, if_false]
      exact .attached unitName place rfl known rfl rfl
  | detach k =>
    simp only [step]
    cases live : h.live k with
    | none =>
      simp only [detach, live]
      exact .aside (Each.refl SameDesk.refl _) rfl
    | some c =>
      rw [detach_eq live]
      refine .moved k c _ live rfl (Desk.destroyDisplay_name _) (fun other => absurd rfl other) ?_
      exact moved_of_effect rfl rfl (Desk.destroyDisplay_effect _) rfl rfl
  | registerLight k light =>
    exact .aside (changeUnit_sameDesk h k fun _ => ⟨rfl, rfl, rfl⟩) (by rw [step, changeUnit_mAlarmManager])
  | unRegisterLight k =>
    exact .aside (changeUnit_sameDesk h k fun _ => ⟨rfl, rfl, rfl⟩) (by rw [step, changeUnit_mAlarmManager])
  | clockKeys k info =>
    refine .aside ?_ (h.clockKeys_sameAlarms k info).mCurrentEditor
    rw [step, clockKeys_units]
    exact Each.refl SameDesk.refl _
  | displayKeys k info => exact onDesk_displays (·.keyboardPressed_effect info) (·.keyboardPressed_name info)
  | refresh k => exact onDesk_displays Desk.refreshThread_effect Desk.refreshThread_name
  | own step => exact .aside (own_sameDesk h step) (by rw [House.step, own_mAlarmManager])
  | iterate reads => exact .aside (iterate_sameDesk h reads) (h.mAlarmManager.alarmThread_mCurrentEditor reads)

theorem name_ne_of_unknown {unitName : String} (unknown : h.named unitName = false) {k : Nat} {c : AlarmClock}
    (live : h.live k = some c) : c.name ≠ unitName := by
  obtain ⟨found, alive⟩ := live_eq_some.mp live
  intro name
  have known : h.named unitName = true :=
    List.any_eq_true.mpr ⟨c, List.mem_of_getElem? found, by simp [alive, name]⟩
  rw [known] at unknown
  cases unknown

/-- A unit was there before under its name, or it is the one that an attach has created. -/
theorem step_unit {e : Event} {k : Nat} {c : AlarmClock} (found : (h.step e).units[k]? = some c) :
    (∃ before, h.units[k]? = some before ∧ c.name = before.name) ∨
      ∃ unitName place, e = .attach unitName place ∧ c = .create k unitName := by
  rcases h.step_displays e with ⟨units, -⟩ | ⟨unitName, place, event, -, units, -⟩ | ⟨j, d, d', live, units, name, -, -⟩
  · obtain ⟨before, present, same⟩ := units.back found
    exact Or.inl ⟨before, present, same.name⟩
  · rw [units] at found
    rcases concat_cases found with before | ⟨rfl, new⟩
    · exact Or.inl ⟨c, before, rfl⟩
    · exact Or.inr ⟨unitName, place, event, new⟩
  · rw [units] at found
    rcases set_cases found with ⟨rfl, rfl⟩ | ⟨-, before⟩
    · exact Or.inl ⟨d, (live_eq_some.mp live).1, name⟩
    · exact Or.inl ⟨c, before, rfl⟩

end House

/-! ### Displays and the editor in step -/

def Event.admitted : Event → Bool
  | .detach _ => false
  | .attach unitName _ => unitName ≠ ""
  | _ => true

structure SameName (c c' : AlarmClock) : Prop where
  name : c'.name = c.name
  alive : c'.alive = c.alive

theorem SameName.refl (c : AlarmClock) : SameName c c := ⟨rfl, rfl⟩

structure SameEditor (c c' : AlarmClock) : Prop extends SameName c c' where
  editing : c'.mDisplay.mDisplayState = .stEditAlarms ↔ c.mDisplay.mDisplayState = .stEditAlarms

theorem SameEditor.refl (c : AlarmClock) : SameEditor c c := ⟨SameName.refl c, Iff.rfl⟩

theorem SameDesk.sameEditor {c c' : AlarmClock} (same : SameDesk c c') : SameEditor c c' :=
  ⟨⟨same.name, same.alive⟩, by rw [same.state]⟩

structure Named (units : List AlarmClock) : Prop where
  alive : ∀ (k : Nat) (c : AlarmClock), units[k]? = some c → c.alive = true
  nonempty : ∀ (k : Nat) (c : AlarmClock), units[k]? = some c → c.name ≠ ""
  distinct : ∀ (j k : Nat) (c d : AlarmClock), units[j]? = some c → units[k]? = some d → c.name = d.name → j = k

/-- The editor is the name of the one unit whose display shows the editor, if there is one. -/
structure Editors (h : House) : Prop extends Named h.units where
  held : ∀ (k : Nat) (c : AlarmClock), h.units[k]? = some c →
    (c.mDisplay.mDisplayState = .stEditAlarms ↔ h.mAlarmManager.mCurrentEditor = c.name)
  owned : h.mAlarmManager.mCurrentEditor ≠ "" →
    ∃ (k : Nat) (c : AlarmClock), h.units[k]? = some c ∧ c.name = h.mAlarmManager.mCurrentEditor

namespace Named
variable {units units' : List AlarmClock}

theorem transfer (named : Named units) (each : Each SameName units units') : Named units' where
  alive k c' found := by
    obtain ⟨c, before, same⟩ := each.back found
    exact same.alive.trans (named.alive k c before)
  nonempty k c' found := by
    obtain ⟨c, before, same⟩ := each.back found
    rw [same.name]
    exact named.nonempty k c before
  distinct j k c' d' foundJ foundK names := by
    obtain ⟨c, beforeJ, sameC⟩ := each.back foundJ
    obtain ⟨d, beforeK, sameD⟩ := each.back foundK
    exact named.distinct j k c d beforeJ beforeK (sameC.name.symm.trans (names.trans sameD.name))

theorem concat (named : Named units) {new : AlarmClock} (alive : new.alive = true) (nonempty : new.name ≠ "")
    (fresh : ∀ (k : Nat) (c : AlarmClock), units[k]? = some c → c.name ≠ new.name) : Named (units ++ [new]) where
  alive k c found := by
    rcases concat_cases found with before | ⟨-, rfl⟩
    · exact named.alive k c before
    · exact alive
  nonempty k c found := by
    rcases concat_cases found with before | ⟨-, rfl⟩
    · exact named.nonempty k c before
    · exact nonempty
  distinct j k c d foundJ foundK names := by
    rcases concat_cases foundJ with beforeJ | ⟨rfl, rfl⟩ <;> rcases concat_cases foundK with beforeK | ⟨rfl, rfl⟩
    · exact named.distinct j k c d beforeJ beforeK names
    · exact absurd names (fresh j c beforeJ)
    · exact absurd names.symm (fresh k d beforeK)
    · rfl

end Named

namespace Editors
variable {h h' : House}

theorem boot (mUnitList : List String) (alarms : List Alarm) (file : Option XMLDocument) :
    Editors (House.boot mUnitList alarms file) := by
  refine ⟨⟨?_, ?_, ?_⟩, ?_, fun taken => absurd rfl taken⟩
  all_goals
    intros
    contradiction

theorem transfer (editors : Editors h) (units : Each SameEditor h.units h'.units)
    (editor : h'.mAlarmManager.mCurrentEditor = h.mAlarmManager.mCurrentEditor) : Editors h' where
  toNamed := editors.toNamed.transfer (units.imp fun _ _ same => same.toSameName)
  held k c' found := by
    obtain ⟨c, before, same⟩ := units.back found
    rw [same.editing, editor, same.name]
    exact editors.held k c before
  owned taken := by
    rw [editor] at taken ⊢
    obtain ⟨k, c, before, name⟩ := editors.owned taken
    obtain ⟨c', found, same⟩ := units.forth k c before
    exact ⟨k, c', found, same.name.trans name⟩

theorem attached (editors : Editors h) {unitName : String} (nonempty : unitName ≠ "")
    (unknown : h.named unitName = false) (units : h'.units = h.units ++ [.create h.units.length unitName])
    (editor : h'.mAlarmManager.mCurrentEditor = h.mAlarmManager.mCurrentEditor) : Editors h' := by
  have fresh : ∀ (k : Nat) (c : AlarmClock), h.units[k]? = some c → c.name ≠ unitName := fun k c found =>
    House.name_ne_of_unknown unknown (House.live_eq_some.mpr ⟨found, editors.alive k c found⟩)
  refine ⟨units ▸ editors.toNamed.concat rfl nonempty fresh, ?_, ?_⟩
  · intro k c found
    rw [units] at found
    rw [editor]
    rcases concat_cases found with before | ⟨-, rfl⟩
    · exact editors.held k c before
    · -- the editor is a unit that is there, so it is not the new one
      refine iff_of_false (fun editing => by cases editing) fun taken => ?_
      have nonempty : h.mAlarmManager.mCurrentEditor ≠ "" := fun empty => nonempty (taken.symm.trans empty)
      obtain ⟨j, d, present, name⟩ := editors.owned nonempty
      exact absurd (name.trans taken) (fresh j d present)
  · rw [units, editor]
    intro taken
    obtain ⟨j, d, present, name⟩ := editors.owned taken
    exact ⟨j, d, by rw [List.getElem?_append_left (List.getElem?_eq_some_iff.mp present).1, present], name⟩

/-- While a unit may edit, no other display shows the editor. -/
theorem others_closed (editors : Editors h) {j k : Nat} {c d : AlarmClock} (foundK : h.units[k]? = some c)
    (free : h.mAlarmManager.mCurrentEditor = "" ∨ h.mAlarmManager.mCurrentEditor = c.name)
    (foundJ : h.units[j]? = some d) (other : j ≠ k) : d.mDisplay.mDisplayState ≠ .stEditAlarms := by
  intro editing
  have editor := (editors.held j d foundJ).mp editing
  rcases free with empty | mine
  · exact editors.nonempty j d foundJ (editor.symm.trans empty)
  · exact other (editors.distinct j k d c foundJ foundK (editor.symm.trans mine))

theorem moved (editors : Editors h) {k : Nat} {c c' : AlarmClock} (found : h.units[k]? = some c)
    (units : h'.units = h.units.set k c') (name : c'.name = c.name) (alive : c'.alive = true)
    (moved : Moved h h' c c') : Editors h' := by
  have renamed : SameName c c' := ⟨name, alive.trans (editors.alive k c found).symm⟩
  have each : Each SameName h.units h'.units := units ▸ Each.set SameName.refl found renamed
  have named := editors.toNamed.transfer each
  have mine : h'.units[k]? = some c' := by
    rw [units]
    exact List.getElem?_set_self (List.getElem?_eq_some_iff.mp found).1
  have entry : ∀ (j : Nat) (d : AlarmClock), h'.units[j]? = some d → j = k ∧ d = c' ∨ j ≠ k ∧ h.units[j]? = some d :=
    fun j d present => set_cases (units ▸ present)
  cases moved with
  | idle editing editor =>
    have same : Each SameEditor h.units h'.units := units ▸ Each.set SameEditor.refl found ⟨renamed, editing⟩
    exact editors.transfer same editor
  | edits free editing editor =>
    refine ⟨named, fun j d present => ?_, fun _ => ⟨k, c', mine, name.trans editor.symm⟩⟩
    rcases entry j d present with ⟨rfl, rfl⟩ | ⟨other, before⟩
    · exact iff_of_true editing (editor.trans name.symm)
    · refine iff_of_false (editors.others_closed found free before other) fun taken => ?_
      exact other (editors.distinct j k d c before found (taken.symm.trans editor))
  | closes free closed editor =>
    refine ⟨named, fun j d present => ?_, fun taken => absurd editor taken⟩
    refine iff_of_false ?_ fun taken => named.nonempty j d present (taken.symm.trans editor)
    rcases entry j d present with ⟨rfl, rfl⟩ | ⟨other, before⟩
    · exact closed
    · exact editors.others_closed found free before other
  | leaves other closed editor =>
    refine ⟨named, fun j d present => ?_, ?_⟩
    · rw [editor]
      rcases entry j d present with ⟨rfl, rfl⟩ | ⟨-, before⟩
      · exact iff_of_false closed fun taken => other (taken.trans name)
      · exact editors.held j d before
    · rw [editor]
      intro taken
      obtain ⟨j, d, before, owner⟩ := editors.owned taken
      obtain ⟨d', present, same⟩ := each.forth j d before
      exact ⟨j, d', present, same.name.trans owner⟩

theorem step (editors : Editors h) (e : Event) (admitted : e.admitted = true) : Editors (h.step e) := by
  cases h.step_displays e with
  | aside units editor => exact editors.transfer (units.imp fun _ _ same => same.sameEditor) editor
  | attached unitName place event unknown units editor =>
    subst event
    exact editors.attached (of_decide_eq_true admitted) unknown units editor
  | moved k c c' live units name alive moved =>
    have stays : e ≠ .detach k := by
      rintro rfl
      cases admitted
    exact editors.moved (House.live_eq_some.mp live).1 units name (alive stays) moved

/-- While a unit is the editor, only its own steps reach the alarms. -/
theorem others_keep (editors : Editors h) {k : Nat} {c : AlarmClock} (found : h.units[k]? = some c)
    (mine : h.mAlarmManager.mCurrentEditor = c.name) {e : Event} (other : e.unit ≠ some k) :
    SameAlarms h.mAlarmManager (h.step e).mAlarmManager := by
  have nonempty := editors.nonempty k c found
  have taken : ∀ (j : Nat) (d : AlarmClock), e.unit = some j → h.live j = some d →
      ¬ (h.mAlarmManager.mCurrentEditor = "" ∨ h.mAlarmManager.mCurrentEditor = d.name) := by
    rintro j d actor live (empty | theirs)
    · exact nonempty (mine.symm.trans empty)
    · have same := editors.distinct j k d c (House.live_eq_some.mp live).1 found (theirs.symm.trans mine)
      exact other (same ▸ actor)
  rcases h.step_touch e with same | ⟨reads, -, same⟩ | ⟨j, d, actor, live, free, _⟩ | ⟨j, d, actor, live, free, _⟩
  · exact same
  · rw [same, AlarmManager.alarmThread_edited (mine ▸ nonempty)]
    apply SameAlarms.refl
  · exact absurd free (taken j d actor live)
  · exact absurd free (taken j d actor live)

end Editors

structure Exclusive (h : House) : Prop where
  held : ∀ (k : Nat) (c : AlarmClock), h.live k = some c →
    (c.mDisplay.mDisplayState = .stEditAlarms ↔ h.mAlarmManager.mCurrentEditor = c.name)
  one : ∀ (j k : Nat) (c d : AlarmClock), h.live j = some c → h.live k = some d →
    c.mDisplay.mDisplayState = .stEditAlarms → d.mDisplay.mDisplayState = .stEditAlarms → j = k
  untouched : ∀ (k : Nat) (c : AlarmClock), h.live k = some c → h.mAlarmManager.mCurrentEditor = c.name →
    ∀ e : Event, e.unit ≠ some k →
      (h.step e).mAlarmManager.mAlarmList = h.mAlarmManager.mAlarmList ∧
      (h.step e).mAlarmManager.mAlarmFile = h.mAlarmManager.mAlarmFile ∧
      (h.step e).mAlarmManager.mNextAlarmMap = h.mAlarmManager.mNextAlarmMap

theorem Editors.exclusive {h : House} (editors : Editors h) : Exclusive h where
  held k c live := editors.held k c (House.live_eq_some.mp live).1
  one j k c d liveJ liveK editingJ editingK := by
    have foundJ := (House.live_eq_some.mp liveJ).1
    have foundK := (House.live_eq_some.mp liveK).1
    have editorJ := (editors.held j c foundJ).mp editingJ
    have editorK := (editors.held k d foundK).mp editingK
    exact editors.distinct j k c d foundJ foundK (editorJ.symm.trans editorK)
  untouched k c live mine e other := by
    have same := editors.others_keep (House.live_eq_some.mp live).1 mine other
    exact ⟨same.mAlarmList, same.mAlarmFile, same.mNextAlarmMap⟩

/-- In every run in which no unit is destroyed, the displays and the editor agree, and only the
editor's own steps reach the alarms, the file and the announced alarms. -/
theorem House.editing_is_exclusive (mUnitList : List String) (alarms : List Alarm) (file : Option XMLDocument)
    (events : List Event) (admitted : ∀ e ∈ events, e.admitted = true) :
    Exclusive (run House.step (House.boot mUnitList alarms file) events) := by
  have reached : Editors (run House.step (House.boot mUnitList alarms file) events) := by
    induction events using List.reverseRecOn with
    | nil => exact Editors.boot mUnitList alarms file
    | append_singleton front last ih =>
      rw [run_concat]
      have before := ih fun e member => admitted e (List.mem_append_left _ member)
      exact before.step last (admitted last (by simp))
  exact reached.exclusive

/-- The kitchen edits, and the bedroom's keyboard believes that it does. -/
def kitchenEdits : List Event :=
  [.attach "kitchen" 0, .attach "bedroom" 0, .displayKeys 0 (longPress KEY_LEFT .stNormal),
    .displayKeys 1 (longPress KEY_LEFT .stNormal), .displayKeys 1 (longPress KEY_LEFT .stAlarmEdit)]

theorem House.kitchen_edits_alone :
    (run House.step (House.boot ["kitchen", "bedroom"] [{}] none) kitchenEdits).mAlarmManager.mCurrentEditor =
        "kitchen" ∧
      Exclusive (run House.step (House.boot ["kitchen", "bedroom"] [{}] none) kitchenEdits) :=
  ⟨by decide, House.editing_is_exclusive _ _ _ kitchenEdits (by simp [kitchenEdits, Event.admitted])⟩

end RgbClock
