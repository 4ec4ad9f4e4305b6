import RgbClock.Units.Display
import RgbClock.Lib.Run
import Mathlib.Data.Set.Function
import Mathlib.GroupTheory.Perm.List

/-! The names of the units as the editor goes through them. The empty name stands for all units; with it, the
units form a ring, and `nextUnitName` goes around it. -/

namespace RgbClock.Units
open Alarms Keys Runs

theorem dropWhile_ne {names : List String} (distinct : names.Nodup) {k : Nat} (inside : k < names.length) :
    names.dropWhile (· ≠ names[k]) = names.drop k := by
  induction names generalizing k with
  | nil => cases inside
  | cons first rest ih =>
    cases k with
    | zero => simp
    | succ k =>
      have within : k < rest.length := Nat.lt_of_succ_lt_succ inside
      have apart : first ≠ rest[k] := by
        intro same
        exact (List.nodup_cons.mp distinct).1 (same ▸ List.getElem_mem within)
      simp only [List.getElem_cons_succ, List.drop_succ_cons]
      rw [List.dropWhile_cons_of_pos (by simpa using apart)]
      exact ih (List.nodup_cons.mp distinct).2 within

section
variable {units : List String}

/-- The units and the empty name. -/
def ring (units : List String) : List String := "" :: units

theorem nextUnitName_unknown {name : String} (unknown : name ∉ units) :
    AlarmManager.nextUnitName units name = units.headD "" := by
  have nowhere : units.dropWhile (· ≠ name) = [] := by
    rw [List.dropWhile_eq_nil_iff]
    intro unit member
    have other : unit ≠ name := fun same => unknown (same ▸ member)
    simpa using other
  unfold AlarmManager.nextUnitName
  rw [nowhere]

theorem nextUnitName_unit (distinct : units.Nodup) (named : "" ∉ units) {k : Nat} (inside : k < units.length) :
    AlarmManager.nextUnitName units units[k] = (units.drop (k + 1)).headD "" := by
  have filled : units[k] ≠ "" := fun empty => named (empty ▸ List.getElem_mem inside)
  unfold AlarmManager.nextUnitName
  rw [dropWhile_ne distinct inside, List.drop_eq_getElem_cons inside]
  exact if_neg filled

variable (filled : units ≠ []) (distinct : units.Nodup) (named : "" ∉ units)
include filled distinct named

theorem nextUnitName_formPerm {name : String} (member : name ∈ ring units) :
    AlarmManager.nextUnitName units name = (ring units).formPerm name := by
  have apart : (ring units).Nodup := List.nodup_cons.mpr ⟨named, distinct⟩
  obtain rfl | unit := List.mem_cons.mp member
  · rw [nextUnitName_unknown named]
    obtain ⟨first, rest, rfl⟩ := List.exists_cons_of_ne_nil filled
    exact (List.formPerm_apply_head "" first rest apart).symm
  · obtain ⟨k, inside, rfl⟩ := List.getElem_of_mem unit
    rw [nextUnitName_unit distinct named inside]
    by_cases last : k + 1 < units.length
    · have next := List.formPerm_apply_lt_getElem (ring units) apart (k + 1) (Nat.succ_lt_succ last)
      rw [List.drop_eq_getElem_cons last]
      exact next.symm
    · have ends : k + 1 = units.length := by omega
      have final : ("" :: units).getLast (List.cons_ne_nil _ _) = units[k] := by
        rw [List.getLast_eq_getElem]
        simp [← ends]
      have back := List.formPerm_apply_getLast "" units
      rw [List.drop_eq_nil_of_le (by omega), ← final]
      exact back.symm

/-! ### Around the ring -/

theorem nextUnitName_mem {name : String} (member : name ∈ ring units) :
    AlarmManager.nextUnitName units name ∈ ring units := by
  rw [nextUnitName_formPerm filled distinct named member]
  exact List.formPerm_apply_mem_of_mem member

theorem nextUnitName_bijOn :
    Set.BijOn (AlarmManager.nextUnitName units) {name | name ∈ ring units} {name | name ∈ ring units} := by
  have permutes : Set.BijOn (ring units).formPerm {name | name ∈ ring units} {name | name ∈ ring units} :=
    (ring units).formPerm.bijOn fun name => List.formPerm_mem_iff_mem
  exact permutes.congr fun name member => (nextUnitName_formPerm filled distinct named member).symm

theorem iterate_formPerm {name : String} (member : name ∈ ring units) (k : Nat) :
    (AlarmManager.nextUnitName units)^[k] name = ((ring units).formPerm ^ k) name := by
  induction k generalizing name with
  | zero => rfl
  | succ k ih =>
    rw [Function.iterate_succ_apply, ih (nextUnitName_mem filled distinct named member),
      nextUnitName_formPerm filled distinct named member]
    rfl

/-- After `k` steps, the name is `k` places further. -/
theorem iterate_ring {i : Nat} (place : i < (ring units).length) (k : Nat) :
    some ((AlarmManager.nextUnitName units)^[k] (ring units)[i]) = (ring units)[(i + k) % (ring units).length]? := by
  have apart : (ring units).Nodup := List.nodup_cons.mpr ⟨named, distinct⟩
  rw [iterate_formPerm filled distinct named (List.getElem_mem place), List.formPerm_pow_apply_getElem _ apart]
  exact (List.getElem?_eq_getElem _).symm

/-- From every name in the ring to every other. -/
theorem ring_reaches {name target : String} (member : name ∈ ring units) (other : target ∈ ring units) :
    ∃ k, (AlarmManager.nextUnitName units)^[k] name = target := by
  obtain ⟨i, place, rfl⟩ := List.getElem_of_mem member
  obtain ⟨j, goal, rfl⟩ := List.getElem_of_mem other
  refine ⟨(ring units).length - i + j, ?_⟩
  have around : (i + ((ring units).length - i + j)) % (ring units).length = j := by
    rw [← Nat.add_assoc, Nat.add_sub_cancel' place.le, Nat.add_mod_left, Nat.mod_eq_of_lt goal]
  have arrives := iterate_ring filled distinct named place ((ring units).length - i + j)
  rw [around, List.getElem?_eq_getElem goal] at arrives
  exact Option.some.inj arrives

/-- A name that belongs to no unit leads to the first one, and so into the ring. -/
theorem unitName_reaches (name : String) {target : String} (other : target ∈ ring units) :
    ∃ k, (AlarmManager.nextUnitName units)^[k] name = target := by
  by_cases member : name ∈ ring units
  · exact ring_reaches filled distinct named member other
  · have unknown : name ∉ units := fun unit => member (List.mem_cons_of_mem _ unit)
    have first : AlarmManager.nextUnitName units name ∈ ring units := by
      rw [nextUnitName_unknown unknown]
      obtain ⟨head, rest, rfl⟩ := List.exists_cons_of_ne_nil filled
      exact List.mem_cons_of_mem _ List.mem_cons_self
    obtain ⟨k, arrives⟩ := ring_reaches filled distinct named first other
    exact ⟨k + 1, arrives⟩

end

/-! ### In the editor -/

/-- The display edits the unit of an alarm. -/
structure EditsUnit (s : ClockDisplay × List Alarm) : Prop where
  state : s.1.mEditState = .edEditAlarm
  pos : s.1.mEditPos = .posUnit
  selected : s.1.mAlarmEditIndex < s.2.length

def editedUnit (s : ClockDisplay × List Alarm) : Option String := (s.2[s.1.mAlarmEditIndex]?).map Alarm.mUnit

/-- One of the keys `KEY_DOWN` and `KEY_UP`, and none of those that move. -/
structure ChangesValue (info : KeyboardInfo) : Prop where
  left : (info.mKeyInfo KEY_CENTRAL_L).mShortPressed = false
  right : (info.mKeyInfo KEY_CENTRAL_R).mShortPressed = false
  either : (info.mKeyInfo KEY_DOWN).mShortPressed ≠ (info.mKeyInfo KEY_UP).mShortPressed

def press (units : List String) (s : ClockDisplay × List Alarm) (info : KeyboardInfo) : ClockDisplay × List Alarm :=
  s.1.editKeys units s.2 info

section
variable {units : List String} {s : ClockDisplay × List Alarm} {info : KeyboardInfo}

theorem press_eq (edits : EditsUnit s) (changes : ChangesValue info) :
    ∃ alarm, s.2[s.1.mAlarmEditIndex]? = some alarm ∧
      press units s info = ({ s.1 with mUpdateEditDisplay := true }, s.2.set s.1.mAlarmEditIndex
        { alarm with mSignalled := false, mUnit := AlarmManager.nextUnitName units alarm.mUnit }) := by
  have selected := List.getElem?_eq_getElem edits.selected
  refine ⟨_, selected, ?_⟩
  unfold press ClockDisplay.editKeys
  rw [edits.state]
  show s.1.editAlarmKeys units s.2 info = _
  unfold ClockDisplay.editAlarmKeys
  rw [selected]
  simp only [changes.left, changes.right, Bool.false_eq_true, if_false, edits.pos]
  have either := changes.either
  cases down : (info.mKeyInfo KEY_DOWN).mShortPressed with
  | true =>
    have up : (info.mKeyInfo KEY_UP).mShortPressed = false := by simpa [down] using either
    simp [up, keyDown, toggled]
  | false =>
    have up : (info.mKeyInfo KEY_UP).mShortPressed = true := by simpa [down] using either
    simp [up, keyUp, toggled]

theorem press_edits (edits : EditsUnit s) (changes : ChangesValue info) :
    EditsUnit (press units s info) ∧
      editedUnit (press units s info) = (editedUnit s).map (AlarmManager.nextUnitName units) := by
  obtain ⟨alarm, selected, pressed⟩ := @press_eq units s info edits changes
  have inside := edits.selected
  rw [pressed]
  refine ⟨⟨edits.state, edits.pos, by simpa using inside⟩, ?_⟩
  rw [editedUnit, editedUnit, selected]
  simp [inside]

theorem presses_edit (edits : EditsUnit s) (changes : ChangesValue info) (k : Nat) :
    EditsUnit (run (press units) s (List.replicate k info)) ∧
      editedUnit (run (press units) s (List.replicate k info)) =
        (editedUnit s).map (AlarmManager.nextUnitName units)^[k] := by
  induction k generalizing s with
  | zero => exact ⟨edits, by simp⟩
  | succ k ih =>
    obtain ⟨still, unit⟩ := @press_edits units s info edits changes
    obtain ⟨later, reached⟩ := ih still
    rw [List.replicate_succ, run_cons]
    refine ⟨later, ?_⟩
    rw [reached, unit, Option.map_map]
    rfl

theorem editedUnit_isSome (edits : EditsUnit s) : ∃ name, editedUnit s = some name := by
  have selected := List.getElem?_eq_getElem edits.selected
  exact ⟨_, by rw [editedUnit, selected]; rfl⟩

end

/-- With distinct names that are not empty, `nextUnitName` permutes the units and the empty name. From the empty
name it visits the units in their order and then comes back; from a name that belongs to no unit it goes to the
first. So the keys of the editor reach every unit, and all units at once, from any unit that an alarm has. -/
theorem nextUnitName_goes_around {units : List String} (filled : units ≠ []) (distinct : units.Nodup)
    (named : "" ∉ units) :
    Set.BijOn (AlarmManager.nextUnitName units) {name | name = "" ∨ name ∈ units} {name | name = "" ∨ name ∈ units} ∧
      (∀ k, k < units.length → some ((AlarmManager.nextUnitName units)^[k + 1] "") = units[k]?) ∧
      (AlarmManager.nextUnitName units)^[units.length + 1] "" = "" ∧
      (∀ k, 0 < k → k < units.length + 1 → (AlarmManager.nextUnitName units)^[k] "" ≠ "") ∧
      (∀ name, name ∉ units → AlarmManager.nextUnitName units name = units.head filled) ∧
      ∀ (s : ClockDisplay × List Alarm) (info : KeyboardInfo), EditsUnit s → ChangesValue info →
        ∀ target, target = "" ∨ target ∈ units →
          ∃ presses, editedUnit (run (press units) s (List.replicate presses info)) = some target := by
  have members : {name | name = "" ∨ name ∈ units} = {name | name ∈ ring units} := by
    ext name
    exact List.mem_cons.symm
  have around (k : Nat) : some ((AlarmManager.nextUnitName units)^[k] "") = (ring units)[k % (units.length + 1)]? := by
    have start := iterate_ring filled distinct named (Nat.succ_pos units.length) k
    rwa [Nat.zero_add] at start
  have visits (k : Nat) (inside : k < units.length) :
      some ((AlarmManager.nextUnitName units)^[k + 1] "") = units[k]? := by
    rw [around, Nat.mod_eq_of_lt (Nat.succ_lt_succ inside)]
    rfl
  refine ⟨?_, visits, ?_, fun k positive below empty => ?_, fun name unknown => ?_, fun s info edits changes target other => ?_⟩
  · rw [members]
    exact nextUnitName_bijOn filled distinct named
  · have back := around (units.length + 1)
    rw [Nat.mod_self] at back
    exact Option.some.inj back
  · obtain ⟨k, rfl⟩ := Nat.exists_eq_succ_of_ne_zero (Nat.pos_iff_ne_zero.mp positive)
    have here := visits k (by omega)
    rw [empty] at here
    exact named (List.mem_of_getElem? here.symm)
  · rw [nextUnitName_unknown unknown]
    obtain ⟨first, rest, rfl⟩ := List.exists_cons_of_ne_nil filled
    rfl
  · obtain ⟨name, unit⟩ := editedUnit_isSome edits
    obtain ⟨presses, arrives⟩ := unitName_reaches filled distinct named name (List.mem_cons.mpr other)
    refine ⟨presses, ?_⟩
    rw [(presses_edit edits changes presses).2, unit, Option.map_some, arrives]

/-- Two units: back after three steps. An alarm of a unit that is gone can be given to all units. -/
theorem two_units_go_around :
    (AlarmManager.nextUnitName ["Bath", "Kitchen"])^[3] "" = "" ∧
      ∃ presses, editedUnit (run (press ["Bath", "Kitchen"])
        ({ mUnitName := "Bath", mEditState := .edEditAlarm, mEditPos := .posUnit }, [{ mUnit := "Attic" }])
        (List.replicate presses
          { mKeyInfo := fun key => { mShortPressed := key = KEY_DOWN }, mState := .stAlarmEdit })) = some "" := by
  obtain ⟨-, -, back, -, -, reach⟩ := @nextUnitName_goes_around ["Bath", "Kitchen"] (by decide) (by decide) (by decide)
  exact ⟨back, reach _ _ ⟨rfl, rfl, by decide⟩ ⟨by decide, by decide, by decide⟩ "" (Or.inl rfl)⟩

end RgbClock.Units
