import RgbClock.House.Editing
import RgbClock.Alarms.Firing

/-! Restarting the program: what the alarm file holds whenever nobody edits. -/

open RgbClock.Keys RgbClock.Alarms RgbClock.Devices RgbClock.Units Slots Runs

namespace RgbClock

/-! ### The editor keeps the alarms storable -/

theorem lowered_fits {value step : Int} (fits : Decimal.Fits value) (positive : 0 ≤ step) :
    Decimal.Fits (lowered value step) := by
  unfold lowered Decimal.Fits at *
  split <;> omega

theorem raised_fits {value step limit : Int} (fits : Decimal.Fits value) (positive : 0 ≤ step)
    (bounded : limit ≤ 2147483647) : Decimal.Fits (raised value step limit) := by
  unfold raised Decimal.Fits at *
  split <;> omega

theorem nextUnitName_printable {mUnitList : List String} (printable : ∀ unitName ∈ mUnitList, Printable unitName)
    (current : String) : Printable (AlarmManager.nextUnitName mUnitList current) := by
  have first : Printable (mUnitList.headD "") := by
    cases mUnitList with
    | nil => exact Or.inl rfl
    | cons unitName rest => exact printable unitName List.mem_cons_self
  have sublist := List.dropWhile_sublist (fun unitName => decide (unitName ≠ current)) (l := mUnitList)
  unfold AlarmManager.nextUnitName
  generalize mUnitList.dropWhile (fun unitName => decide (unitName ≠ current)) = found at sublist ⊢
  match found with
  | [] => exact first
  | [_] =>
    dsimp only
    split
    · exact first
    · exact Or.inl rfl
  | _ :: next :: rest =>
    dsimp only
    split
    · exact first
    · exact printable next (sublist.subset (by simp))

section
variable {mUnitList : List String} (printable : ∀ unitName ∈ mUnitList, Printable unitName)
include printable

theorem toggled_storable {alarm : Alarm} (storable : Storable alarm) (pos : EditPos) :
    Storable (toggled mUnitList alarm pos) := by
  cases pos with
  | posUnit => exact { storable with unit := nextUnitName_printable printable alarm.mUnit }
  | _ => exact ⟨storable.hour, storable.minutes, storable.volume, storable.unit⟩

theorem keyDown_storable {alarm : Alarm} (storable : Storable alarm) (pos : EditPos) :
    Storable (keyDown mUnitList alarm pos) := by
  have toggles := toggled_storable printable storable pos
  cases pos with
  | posHourT | posHourE => exact { storable with hour := lowered_fits storable.hour (by decide) }
  | posMinT | posMinE => exact { storable with minutes := lowered_fits storable.minutes (by decide) }
  | posVol => exact { storable with volume := lowered_fits storable.volume (by decide) }
  | posOneTime =>
    unfold keyDown
    dsimp only
    split <;> exact ⟨storable.hour, storable.minutes, storable.volume, storable.unit⟩
  | _ => exact toggles

theorem keyUp_storable {alarm : Alarm} (storable : Storable alarm) (pos : EditPos) :
    Storable (keyUp mUnitList alarm pos) := by
  have toggles := toggled_storable printable storable pos
  cases pos with
  | posHourT | posHourE => exact { storable with hour := raised_fits storable.hour (by decide) (by decide) }
  | posMinT | posMinE => exact { storable with minutes := raised_fits storable.minutes (by decide) (by decide) }
  | posVol => exact { storable with volume := raised_fits storable.volume (by decide) (by decide) }
  | posOneTime =>
    unfold keyUp
    dsimp only
    split <;> exact ⟨storable.hour, storable.minutes, storable.volume, storable.unit⟩
  | _ => exact toggles

theorem worked_storable {alarm : Alarm} (storable : Storable alarm) (pos : EditPos) (down up : Bool) :
    Storable (ClockDisplay.worked mUnitList pos down up alarm) := by
  have cleared : Storable { alarm with mSignalled := false } :=
    ⟨storable.hour, storable.minutes, storable.volume, storable.unit⟩
  have lowered := keyDown_storable printable cleared pos
  unfold ClockDisplay.worked
  cases down <;> cases up
  · exact cleared
  · exact keyUp_storable printable cleared pos
  · exact lowered
  · exact keyUp_storable printable lowered pos

end

theorem edited_storable {m : AlarmManager} (printable : ∀ unitName ∈ m.mUnitList, Printable unitName)
    (storable : ∀ alarm ∈ m.mAlarmList, Storable alarm) {alarms : List Alarm} (edited : Edited m alarms) :
    ∀ alarm ∈ alarms, Storable alarm := by
  rcases edited with rfl | ⟨d, info, rfl⟩
  · exact storable
  · intro alarm member
    rcases ClockDisplay.mem_editKeys member with old | rfl | ⟨old, present, pos, down, up, rfl⟩
    · exact storable alarm old
    · exact ⟨by decide, by decide, by decide, Or.inl rfl⟩
    · exact worked_storable printable (storable old present) pos down up

theorem passed_storable {alarm : Alarm} (storable : Storable alarm) (reads : Reads) :
    Storable (alarm.passed reads) := by
  rw [Alarm.passed_eq]
  exact ⟨storable.hour, storable.minutes, storable.volume, storable.unit⟩

/-! ### The file and the list -/

def reloaded (reload : Reload) (m : AlarmManager) : Except LoadFault (List Alarm) :=
  loadAlarms (m.mAlarmFile.map reload) []

/-- The file has the list, unless somebody edits. -/
structure Kept (reload : Reload) (h : House) : Prop where
  printable : ∀ unitName ∈ h.mAlarmManager.mUnitList, Printable unitName
  named : ∀ (k : Nat) (c : AlarmClock), h.units[k]? = some c → c.name ≠ ""
  storable : ∀ alarm ∈ h.mAlarmManager.mAlarmList, Storable alarm
  stored : h.mAlarmManager.mCurrentEditor = "" →
    reloaded reload h.mAlarmManager = .ok (h.mAlarmManager.mAlarmList.map unsignalled)

theorem reloaded_writeAlarms {reload : Reload} (library : RoundTrips reload) {m : AlarmManager}
    (storable : ∀ alarm ∈ m.mAlarmList, Storable alarm) :
    reloaded reload m.writeAlarms = .ok (m.mAlarmList.map unsignalled) :=
  loadAlarms_saveDocument library storable []

theorem alarmThread_storable {m : AlarmManager} (storable : ∀ alarm ∈ m.mAlarmList, Storable alarm)
    (reads : Nat → Reads) : ∀ alarm ∈ (m.alarmThread reads).1.mAlarmList, Storable alarm := by
  by_cases free : m.mCurrentEditor = ""
  · intro alarm member
    obtain ⟨i, found⟩ := List.mem_iff_getElem?.mp member
    rw [AlarmManager.alarmThread_alarm free, Option.map_eq_some_iff] at found
    obtain ⟨before, present, rfl⟩ := found
    exact passed_storable (storable before (List.mem_of_getElem? present)) (reads i)
  · rw [AlarmManager.alarmThread_edited free]
    exact storable

/-- An iteration writes the file unless it has only changed `mSignalled`. -/
theorem alarmThread_stored {reload : Reload} (library : RoundTrips reload) {m : AlarmManager}
    (free : m.mCurrentEditor = "") (storable : ∀ alarm ∈ m.mAlarmList, Storable alarm)
    (stored : reloaded reload m = .ok (m.mAlarmList.map unsignalled)) (reads : Nat → Reads) :
    reloaded reload (m.alarmThread reads).1 = .ok ((m.alarmThread reads).1.mAlarmList.map unsignalled) := by
  by_cases quiet : ∀ (i : Nat) (alarm : Alarm), m.mAlarmList[i]? = some alarm →
      alarm.fires (reads i).first = true → alarm.oneTimeAlarm = false
  · have list : (m.alarmThread reads).1.mAlarmList.map unsignalled = m.mAlarmList.map unsignalled := by
      apply List.ext_getElem?
      intro i
      rw [List.getElem?_map, AlarmManager.alarmThread_alarm free, List.getElem?_map, Option.map_map]
      cases found : m.mAlarmList[i]? with
      | none => rfl
      | some alarm =>
        have enabled : (alarm.fires (reads i).first && alarm.oneTimeAlarm) = false := by
          cases fires : alarm.fires (reads i).first with
          | false => rfl
          | true => simp [quiet i alarm found fires]
        rw [Option.map_some, Option.map_some, Function.comp_apply, Alarm.passed_eq, enabled]
        simp [unsignalled]
    unfold reloaded
    rw [AlarmManager.alarmThread_keeps_file free quiet, list]
    exact stored
  · push Not at quiet
    obtain ⟨i, alarm, found, fires, once⟩ := quiet
    have written := AlarmManager.alarmThread_saves free found fires (by simpa using once)
    unfold reloaded
    rw [written]
    exact loadAlarms_saveDocument library (alarmThread_storable storable reads) []

namespace Kept
variable {reload : Reload} {h : House}

theorem step (library : RoundTrips reload) (kept : Kept reload h) {e : Event}
    (named : ∀ unitName place, e = .attach unitName place → unitName ≠ "") : Kept reload (h.step e) := by
  have names : ∀ (k : Nat) (c : AlarmClock), (h.step e).units[k]? = some c → c.name ≠ "" := by
    intro k c found
    rcases House.step_unit found with ⟨before, present, same⟩ | ⟨unitName, place, attached, rfl⟩
    · rw [same]
      exact kept.named k before present
    · exact named unitName place attached
  rcases h.step_touch e with same | ⟨reads, -, same⟩ | ⟨k, c, -, live, -, alarms, edited, same⟩ | ⟨k, c, -, live, -, same⟩
  · refine ⟨same.mUnitList ▸ kept.printable, names, same.mAlarmList ▸ kept.storable, fun free => ?_⟩
    unfold reloaded
    rw [same.mAlarmFile, same.mAlarmList]
    exact kept.stored (same.mCurrentEditor ▸ free)
  · refine ⟨?_, names, ?_, fun free => ?_⟩
    · rw [same, AlarmManager.alarmThread_mUnitList]
      exact kept.printable
    · rw [same]
      exact alarmThread_storable kept.storable reads
    · rw [same, AlarmManager.alarmThread_mCurrentEditor] at free
      rw [same]
      exact alarmThread_stored library free kept.storable (kept.stored free) reads
  · -- the editor has a name, so the list and the file may differ
    refine ⟨same.mUnitList ▸ kept.printable, names, ?_, fun free => ?_⟩
    · rw [same.mAlarmList]
      exact edited_storable kept.printable kept.storable edited
    · exact absurd (same.mCurrentEditor.symm.trans free) (kept.named k c (House.live_eq_some.mp live).1)
  · refine ⟨same.mUnitList ▸ kept.printable, names, same.mAlarmList ▸ kept.storable, fun _ => ?_⟩
    unfold reloaded
    rw [same.mAlarmFile, same.mAlarmList]
    exact reloaded_writeAlarms library kept.storable

end Kept

theorem Kept.run {reload : Reload} (library : RoundTrips reload) {h : House} (kept : Kept reload h)
    {events : List Event} (named : ∀ unitName place, .attach unitName place ∈ events → unitName ≠ "") :
    Kept reload (run House.step h events) := by
  induction events using List.reverseRecOn with
  | nil => exact kept
  | append_singleton front last ih =>
    rw [run_concat]
    have before := ih fun unitName place member => named unitName place (List.mem_append_left _ member)
    exact before.step library fun unitName place attached => named unitName place (by simp [attached])

theorem Kept.boot {reload : Reload} (library : RoundTrips reload) {mUnitList : List String}
    (printable : ∀ unitName ∈ mUnitList, Printable unitName) {saved : Option (List Alarm)}
    (storable : ∀ alarms ∈ saved, ∀ alarm ∈ alarms, Storable alarm) {alarms : List Alarm}
    (loaded : loadAlarms ((saved.map saveDocument).map reload) [] = .ok alarms) :
    Kept reload (House.boot mUnitList alarms (saved.map saveDocument)) := by
  have fresh : (∀ alarm ∈ alarms, Storable alarm) ∧ alarms.map unsignalled = alarms := by
    cases saved with
    | none =>
      obtain rfl := Except.ok.inj loaded
      exact ⟨fun _ member => (List.not_mem_nil member).elim, rfl⟩
    | some list =>
      have read := loadAlarms_saveDocument library (storable list rfl) []
      obtain rfl : list.map unsignalled = alarms := Except.ok.inj (read.symm.trans loaded)
      refine ⟨fun alarm member => ?_, by rw [List.map_map]; rfl⟩
      obtain ⟨before, present, rfl⟩ := List.mem_map.mp member
      have same := storable list rfl before present
      exact ⟨same.hour, same.minutes, same.volume, same.unit⟩
  refine ⟨printable, fun k c found => (by cases found), fresh.1, fun _ => ?_⟩
  exact loaded.trans (congrArg Except.ok fresh.2.symm)

/-- Loading gives back what was saved; and whenever nobody edits, a restart would load the list of
alarms as it is, as long as every unit has a name. -/
theorem restart_loses_nothing (reload : Reload) (library : RoundTrips reload) :
    (∀ alarms : List Alarm, (∀ alarm ∈ alarms, Storable alarm) → ∀ mAlarmList : List Alarm,
      loadAlarms (some (reload (saveDocument alarms))) mAlarmList = .ok (alarms.map unsignalled)) ∧
    ∀ (mUnitList : List String) (saved : Option (List Alarm)) (alarms : List Alarm) (events : List Event),
      (∀ unitName ∈ mUnitList, Printable unitName) →
      (∀ list ∈ saved, ∀ alarm ∈ list, Storable alarm) →
      loadAlarms ((saved.map saveDocument).map reload) [] = .ok alarms →
      (∀ unitName place, .attach unitName place ∈ events → unitName ≠ "") →
      let manager := (run House.step (House.boot mUnitList alarms (saved.map saveDocument)) events).mAlarmManager
      manager.mCurrentEditor = "" → reloaded reload manager = .ok (manager.mAlarmList.map unsignalled) := by
  refine ⟨fun alarms storable => loadAlarms_saveDocument library storable, ?_⟩
  intro mUnitList saved alarms events printable storable loaded named manager free
  have start : Kept reload (House.boot mUnitList alarms (saved.map saveDocument)) :=
    Kept.boot library printable storable loaded
  exact (start.run library named).stored free

def faithfully : Reload := fun doc => .ok doc.dropEmptyText

def addsAnAlarm : List Event :=
  [.attach "kitchen" 0, .displayKeys 0 (longPress KEY_LEFT .stNormal),
    .displayKeys 0 (shortPress KEY_CENTRAL_R .stAlarmEdit), .displayKeys 0 (longPress KEY_LEFT .stAlarmEdit)]

theorem restart_keeps_the_new_alarm :
    reloaded faithfully (run House.step (House.boot ["kitchen"] [] none) addsAnAlarm).mAlarmManager = .ok [{}] :=
  (restart_loses_nothing faithfully fun _ _ => rfl).2 ["kitchen"] none [] addsAnAlarm
    (by decide) (by simp) rfl (by simp [addsAnAlarm]) (by decide)

/-- A unit without a name edits while nobody seems to, so its alarm is in the list but not in the file. -/
theorem unnamed_unit_loses_its_alarm :
    let manager := (run House.step (House.boot [""] [] none)
      [.attach "" 0, .displayKeys 0 (longPress KEY_LEFT .stNormal),
        .displayKeys 0 (shortPress KEY_CENTRAL_R .stAlarmEdit)]).mAlarmManager
    RoundTrips faithfully ∧ manager.mCurrentEditor = "" ∧
      reloaded faithfully manager ≠ .ok (manager.mAlarmList.map unsignalled) := by
  refine ⟨fun _ _ => rfl, by decide, fun same => ?_⟩
  have lengths := congrArg List.length (Except.ok.inj same)
  revert lengths
  decide

end RgbClock
