import RgbClock.Lcd.Driver
import RgbClock.Units.Selection

/-! The screens of the alarm editor: what `updateEditDisplay` draws of the list, of the question whether an alarm is to
be removed, and of an alarm with the caret under one of its fields. -/

namespace RgbClock.Units
open Alarms Lcd

def LINESPACING : Nat := 8

def POS_ENABLE : Nat := 8
def POS_UNITNAME : Nat := 16
def POS_HOUR_T : Nat := 50
def POS_HOUR_E : Nat := 56
def POS_MIN_T : Nat := 64
def POS_MIN_E : Nat := 70
def POS_TYPE : Nat := 82
def POS_DAYS : Nat := 90
def POS_DAY_SU : Nat := 95
def POS_DAY_MO : Nat := 102
def POS_DAY_TU : Nat := 108
def POS_DAY_WE : Nat := 114
def POS_DAY_TH : Nat := 120
def POS_DAY_FR : Nat := 126
def POS_DAY_SA : Nat := 132
def POS_VOLUME : Nat := 148

/-- The bytes of a `std::string`. -/
def bytes (text : List Char) : List UInt8 := text.flatMap String.utf8EncodeChar

/-- `writeGraphicText` with the small font. -/
def terminal8 (col row : Nat) (text : List Char) : Method :=
  .writeGraphicText (.ofNat col) (.ofNat row) (bytes text) .Terminal8 0

/-! ### One alarm -/

def dayLetter (mDays : BitVec 7) (day : DayOfWeek) (letter : Char) : Char :=
  if mDays.getLsbD day.wday then letter else '_'

def daysString (mDays : BitVec 7) : List Char :=
  ['[', dayLetter mDays .Sunday 'Z', dayLetter mDays .Monday 'M', dayLetter mDays .Thuesday 'D',
    dayLetter mDays .Wednesday 'W', dayLetter mDays .Thursday 'D', dayLetter mDays .Friday 'V',
    dayLetter mDays .Saturday 'Z', ']']

def writeAlarm (line : Nat) (alarm : Alarm) : List Method :=
  [terminal8 POS_ENABLE (line * LINESPACING) (if alarm.mEnabled then ['1'] else ['0']),
    terminal8 POS_UNITNAME (line * LINESPACING) (if alarm.mUnit = "" then "     ".toList else alarm.mUnit.toList),
    terminal8 POS_HOUR_T (line * LINESPACING) (Decimal.toText (alarm.mHour.tdiv 10)),
    terminal8 POS_HOUR_E (line * LINESPACING) (Decimal.toText (alarm.mHour.tmod 10)),
    terminal8 POS_MIN_T (line * LINESPACING) (Decimal.toText (alarm.mMinutes.tdiv 10)),
    terminal8 POS_MIN_E (line * LINESPACING) (Decimal.toText (alarm.mMinutes.tmod 10)),
    terminal8 POS_TYPE (line * LINESPACING) alarm.typeString.toList,
    terminal8 POS_DAYS (line * LINESPACING)
      (if alarm.mAlarmType = .Daily then daysString alarm.mDays else "[       ]".toList),
    terminal8 POS_VOLUME (line * LINESPACING) (Decimal.toText alarm.mVolume ++ [' '])]

/-! ### The three screens -/

def EditPos.carretPos : EditPos → Nat
  | posEnable => POS_ENABLE
  | posUnit => POS_UNITNAME
  | posHourT => POS_HOUR_T
  | posHourE => POS_HOUR_E
  | posMinT => POS_MIN_T
  | posMinE => POS_MIN_E
  | posOneTime => POS_TYPE
  | posDaySu => POS_DAY_SU
  | posDayMo => POS_DAY_MO
  | posDayTu => POS_DAY_TU
  | posDayWe => POS_DAY_WE
  | posDayTh => POS_DAY_TH
  | posDayFr => POS_DAY_FR
  | posDaySa => POS_DAY_SA
  | posVol => POS_VOLUME

/-- The loop over the alarms from the selected one on, and the entry for a new one below it. -/
def listLines : Nat → List Alarm → List Method
  | line, alarm :: rest =>
    if line < 3 then writeAlarm line alarm ++ listLines (line + 1) rest
    else [terminal8 POS_UNITNAME (line * LINESPACING) "Nieuw alarm ".toList]
  | line, [] => [terminal8 POS_UNITNAME (line * LINESPACING) "Nieuw alarm ".toList]

def listScreen (alarms : List Alarm) : List Method :=
  .rectangle 0 0 163 63 false true :: terminal8 0 0 ['>'] :: listLines 0 alarms

def confirmScreen (mConfirmDelete : Bool) : List Method :=
  [terminal8 20 8 "Alarm verwijderen ?".toList, terminal8 20 16 "  Ja      Nee".toList,
    terminal8 0 24 "                                       ".toList, terminal8 (if mConfirmDelete then 34 else 86) 24 ['^']]

def alarmScreen (alarm : Alarm) (mEditPos : EditPos) : List Method :=
  writeAlarm 0 alarm ++ [.rectangle 0 8 163 63 false true, terminal8 mEditPos.carretPos LINESPACING ['^']]

/-- What `updateEditDisplay` draws with the list that the editor gets; `none` where it reads behind the list. -/
def ClockDisplay.editScreen (d : ClockDisplay) (alarms : List Alarm) : Option (List Method) :=
  match d.mEditState with
  | .edListAlarms => some (listScreen (alarms.drop d.mAlarmEditIndex))
  | .edConfirmDelete => some (confirmScreen d.mConfirmDelete)
  | .edEditAlarm => alarms[d.mAlarmEditIndex]?.map fun alarm => alarmScreen alarm d.mEditPos
  | .edUndefined => some []

/-! ### What can be read off a screen -/

/-- An alarm as it stands in its line. The days stand there only for an alarm that has some, and a name is cut. -/
structure ShownAlarm where
  mEnabled : Bool
  mUnit : List UInt8
  mHour : Int
  mMinutes : Int
  mAlarmType : AlarmType
  mDays : Option (BitVec 7)
  mVolume : Int
  deriving DecidableEq

def shownAlarm (alarm : Alarm) : ShownAlarm where
  mEnabled := alarm.mEnabled
  mUnit := (bytes (if alarm.mUnit = "" then "     ".toList else alarm.mUnit.toList)).take MAX_TEXT_SIZE
  mHour := alarm.mHour
  mMinutes := alarm.mMinutes
  mAlarmType := alarm.mAlarmType
  mDays := if alarm.mAlarmType = .Daily then some alarm.mDays else none
  mVolume := alarm.mVolume

inductive EditView where
  | nothing
  | list (alarms : List ShownAlarm)
  | confirm (mConfirmDelete : Bool)
  | alarm (shown : ShownAlarm) (mEditPos : EditPos)
  deriving DecidableEq

/-- What the editor has to show: three alarms at most, the answer under the caret, or the alarm with the caret. -/
def ClockDisplay.editView (d : ClockDisplay) (alarms : List Alarm) : Option EditView :=
  match d.mEditState with
  | .edListAlarms => some (.list (((alarms.drop d.mAlarmEditIndex).take 3).map shownAlarm))
  | .edConfirmDelete => some (.confirm d.mConfirmDelete)
  | .edEditAlarm => alarms[d.mAlarmEditIndex]?.map fun alarm => .alarm (shownAlarm alarm) d.mEditPos
  | .edUndefined => some .nothing

def sent (text : List Char) : List UInt8 := (bytes text).take MAX_TEXT_SIZE

theorem frame_terminal8 (col row : Nat) (text : List Char) :
    (terminal8 col row text).frame = LCD_WRITE_TEXT :: 1 :: .ofNat col :: .ofNat row :: 0 :: sent text := rfl

theorem frame_eq_iff {col row : Nat} {text other : List Char} :
    (terminal8 col row text).frame = (terminal8 col row other).frame ↔ sent text = sent other := by
  simp [frame_terminal8]

/-- The number whose digits are among the bytes. -/
def numberOf (sent : List UInt8) : Nat :=
  sent.foldl (fun number byte => if 48 ≤ byte then number * 10 + (byte.toNat - 48) else number) 0

theorem numberOf_sent : ∀ number < 100, numberOf (sent (Decimal.toText (number : Nat))) = number ∧
    numberOf (sent (Decimal.toText (number : Nat) ++ [' '])) = number := by decide

theorem sent_number_iff {m n : Nat} (first : m < 100) (second : n < 100) :
    (sent (Decimal.toText m) = sent (Decimal.toText n) ↔ m = n) ∧
      (sent (Decimal.toText m ++ [' ']) = sent (Decimal.toText n ++ [' ']) ↔ m = n) := by
  obtain ⟨plain, spaced⟩ := numberOf_sent m first
  obtain ⟨otherPlain, otherSpaced⟩ := numberOf_sent n second
  constructor
  · exact ⟨fun same => by rw [← plain, same, otherPlain], fun same => by rw [same]⟩
  · exact ⟨fun same => by rw [← spaced, same, otherSpaced], fun same => by rw [same]⟩

/-- The days whose letters are not underscores. -/
def daysOf (sent : List UInt8) : BitVec 7 :=
  BitVec.ofBoolListLE ((List.range 7).map fun day => sent[day + 1]? ≠ some 95)

theorem daysOf_sent : ∀ mDays : BitVec 7, daysOf (sent (daysString mDays)) = mDays := by decide

theorem sent_digits_iff {m n : Int} (first : 0 ≤ m ∧ m ≤ 59) (second : 0 ≤ n ∧ n ≤ 59) :
    sent (Decimal.toText (m.tdiv 10)) = sent (Decimal.toText (n.tdiv 10)) ∧
      sent (Decimal.toText (m.tmod 10)) = sent (Decimal.toText (n.tmod 10)) ↔ m = n := by
  obtain ⟨m, rfl⟩ := Int.eq_ofNat_of_zero_le first.1
  obtain ⟨n, rfl⟩ := Int.eq_ofNat_of_zero_le second.1
  have tens := (@sent_number_iff (m / 10) (n / 10) (by omega) (by omega)).1
  have ones := (@sent_number_iff (m % 10) (n % 10) (by omega) (by omega)).1
  show sent (Decimal.toText ((m / 10 : Nat) : Int)) = sent (Decimal.toText ((n / 10 : Nat) : Int)) ∧
    sent (Decimal.toText ((m % 10 : Nat) : Int)) = sent (Decimal.toText ((n % 10 : Nat) : Int)) ↔ _
  rw [tens, ones]
  omega

theorem sent_enabled_iff {first second : Bool} :
    sent (if first then ['1'] else ['0']) = sent (if second then ['1'] else ['0']) ↔ first = second := by
  cases first <;> cases second <;> decide

theorem sent_type_iff {first second : Alarm} :
    sent first.typeString.toList = sent second.typeString.toList ↔ first.mAlarmType = second.mAlarmType := by
  unfold Alarm.typeString
  cases first.mAlarmType <;> cases second.mAlarmType <;> decide

theorem sent_volume_iff {m n : Int} (first : 0 ≤ m ∧ m ≤ 99) (second : 0 ≤ n ∧ n ≤ 99) :
    sent (Decimal.toText m ++ [' ']) = sent (Decimal.toText n ++ [' ']) ↔ m = n := by
  obtain ⟨m, rfl⟩ := Int.eq_ofNat_of_zero_le first.1
  obtain ⟨n, rfl⟩ := Int.eq_ofNat_of_zero_le second.1
  rw [(@sent_number_iff m n (by omega) (by omega)).2]
  omega

/-- The days are compared only between alarms of one type. -/
theorem sent_days_iff {first second : Alarm} (type : first.mAlarmType = second.mAlarmType) :
    sent (if first.mAlarmType = .Daily then daysString first.mDays else "[       ]".toList) =
        sent (if second.mAlarmType = .Daily then daysString second.mDays else "[       ]".toList) ↔
      (if first.mAlarmType = .Daily then some first.mDays else none) =
        if second.mAlarmType = .Daily then some second.mDays else none := by
  rw [← type]
  by_cases daily : first.mAlarmType = .Daily
  · rw [if_pos daily, if_pos daily, if_pos daily, if_pos daily]
    constructor
    · intro same
      rw [← daysOf_sent first.mDays, same, daysOf_sent]
    · intro same
      rw [Option.some.inj same]
  · rw [if_neg daily, if_neg daily, if_neg daily, if_neg daily]
    exact iff_of_true rfl rfl

variable {first second : Alarm}

theorem writeAlarm_frames_iff (line : Nat) (range : InRange first) (other : InRange second) :
    (writeAlarm line first).map Method.frame = (writeAlarm line second).map Method.frame ↔
      shownAlarm first = shownAlarm second := by
  obtain ⟨hour, minutes, volume⟩ := range.limits
  obtain ⟨otherHour, otherMinutes, otherVolume⟩ := other.limits
  have hours := sent_digits_iff ⟨hour.1, by omega⟩ ⟨otherHour.1, by omega⟩
  have minutesShown := sent_digits_iff minutes otherMinutes
  simp only [writeAlarm, List.map_cons, List.map_nil, List.cons.injEq, and_true, frame_eq_iff, sent_enabled_iff,
    sent_type_iff, sent_volume_iff volume otherVolume, shownAlarm, ShownAlarm.mk.injEq]
  constructor
  · rintro ⟨enabled, unit, hourTens, hourOnes, minutesTens, minutesOnes, type, days, volumes⟩
    exact ⟨enabled, unit, hours.mp ⟨hourTens, hourOnes⟩, minutesShown.mp ⟨minutesTens, minutesOnes⟩, type,
      (sent_days_iff type).mp days, volumes⟩
  · rintro ⟨enabled, unit, hour, minutes, type, days, volumes⟩
    obtain ⟨hourTens, hourOnes⟩ := hours.mpr hour
    obtain ⟨minutesTens, minutesOnes⟩ := minutesShown.mpr minutes
    exact ⟨enabled, unit, hourTens, hourOnes, minutesTens, minutesOnes, type, (sent_days_iff type).mpr days, volumes⟩

variable {firsts seconds : List Alarm}

/-- The entry for a new alarm begins further to the right than an alarm. -/
theorem newAlarm_ne_alarm {line : Nat} {alarm : Alarm} {rest : List Method} {text : List Char} :
    ¬ [terminal8 POS_UNITNAME (line * LINESPACING) text].map Method.frame =
      (writeAlarm line alarm ++ rest).map Method.frame := by
  intro same
  have heads := List.head_eq_of_cons_eq same
  rw [frame_terminal8, frame_terminal8] at heads
  simp [POS_UNITNAME, POS_ENABLE] at heads

theorem listLines_full {line : Nat} (full : ¬ line < 3) (alarms : List Alarm) :
    listLines line alarms = [terminal8 POS_UNITNAME (line * LINESPACING) "Nieuw alarm ".toList] := by
  cases alarms with
  | nil => rfl
  | cons alarm rest => exact if_neg full

theorem listLines_frames_iff {line room : Nat} (within : line + room = 3) (range : ∀ alarm ∈ firsts, InRange alarm)
    (other : ∀ alarm ∈ seconds, InRange alarm) :
    (listLines line firsts).map Method.frame = (listLines line seconds).map Method.frame ↔
      (firsts.take room).map shownAlarm = (seconds.take room).map shownAlarm := by
  induction room generalizing line firsts seconds with
  | zero =>
    have full : ¬ line < 3 := by omega
    rw [listLines_full full, listLines_full full]
    exact iff_of_true rfl rfl
  | succ room ih =>
    have more : line < 3 := by omega
    cases firsts with
    | nil =>
      cases seconds with
      | nil => exact iff_of_true rfl rfl
      | cons second rest =>
        simp only [listLines, if_pos more]
        exact iff_of_false newAlarm_ne_alarm nofun
    | cons first rest =>
      cases seconds with
      | nil =>
        simp only [listLines, if_pos more]
        exact iff_of_false (fun same => newAlarm_ne_alarm same.symm) nofun
      | cons second others =>
        have heads := writeAlarm_frames_iff line (range first List.mem_cons_self) (other second List.mem_cons_self)
        have tails := @ih rest others (line + 1) (by omega) (fun alarm member => range alarm (List.mem_cons_of_mem _ member))
          fun alarm member => other alarm (List.mem_cons_of_mem _ member)
        have lengths : ((writeAlarm line first).map Method.frame).length =
            ((writeAlarm line second).map Method.frame).length := rfl
        simp only [listLines, if_pos more, List.map_append, List.take_succ_cons, List.map_cons, List.cons.injEq]
        rw [List.append_eq_append_iff_of_size_eq_left lengths, heads, tails]

theorem listScreen_frames_iff (range : ∀ alarm ∈ firsts, InRange alarm) (other : ∀ alarm ∈ seconds, InRange alarm) :
    (listScreen firsts).map Method.frame = (listScreen seconds).map Method.frame ↔
      (firsts.take 3).map shownAlarm = (seconds.take 3).map shownAlarm := by
  simp only [listScreen, List.map_cons, List.cons.injEq, true_and]
  exact listLines_frames_iff (Nat.zero_add 3) range other

theorem confirmScreen_frames_iff {answer other : Bool} :
    (confirmScreen answer).map Method.frame = (confirmScreen other).map Method.frame ↔ answer = other := by
  cases answer <;> cases other <;> decide

theorem carretPos_iff {pos other : EditPos} :
    (terminal8 pos.carretPos LINESPACING ['^']).frame = (terminal8 other.carretPos LINESPACING ['^']).frame ↔
      pos = other := by
  cases pos <;> cases other <;> decide

theorem alarmScreen_frames_iff (range : InRange first) (other : InRange second) {pos otherPos : EditPos} :
    (alarmScreen first pos).map Method.frame = (alarmScreen second otherPos).map Method.frame ↔
      shownAlarm first = shownAlarm second ∧ pos = otherPos := by
  have lengths : ((writeAlarm 0 first).map Method.frame).length = ((writeAlarm 0 second).map Method.frame).length := rfl
  simp only [alarmScreen, List.map_append, List.map_cons, List.map_nil]
  rw [List.append_eq_append_iff_of_size_eq_left lengths, writeAlarm_frames_iff 0 range other]
  simp only [List.cons.injEq, true_and, and_true, carretPos_iff]

/-- The state of the editor, told by the first frame. -/
def stateOfFrames : Option (List Frame) → EditState
  | none => .edEditAlarm
  | some [] => .edUndefined
  | some (frame :: _) =>
    if frame[0]? = some LCD_RECTANGLE then .edListAlarms
    else if frame[2]? = some 20 then .edConfirmDelete
    else .edEditAlarm

theorem stateOfFrames_editScreen (d : ClockDisplay) (alarms : List Alarm) :
    stateOfFrames ((d.editScreen alarms).map (List.map Method.frame)) = d.mEditState := by
  unfold ClockDisplay.editScreen
  cases d.mEditState with
  | edUndefined | edListAlarms | edConfirmDelete => rfl
  | edEditAlarm => cases alarms[d.mAlarmEditIndex]? <;> rfl

def stateOfView : Option EditView → EditState
  | none | some (.alarm _ _) => .edEditAlarm
  | some .nothing => .edUndefined
  | some (.list _) => .edListAlarms
  | some (.confirm _) => .edConfirmDelete

theorem stateOfView_editView (d : ClockDisplay) (alarms : List Alarm) : stateOfView (d.editView alarms) = d.mEditState := by
  unfold ClockDisplay.editView
  cases d.mEditState with
  | edUndefined | edListAlarms | edConfirmDelete => rfl
  | edEditAlarm => cases alarms[d.mAlarmEditIndex]? <;> rfl

theorem editScreen_iff_of_state {d e : ClockDisplay} (state : d.mEditState = e.mEditState)
    (range : ∀ alarm ∈ firsts, InRange alarm) (other : ∀ alarm ∈ seconds, InRange alarm) :
    (d.editScreen firsts).map (List.map Method.frame) = (e.editScreen seconds).map (List.map Method.frame) ↔
      d.editView firsts = e.editView seconds := by
  unfold ClockDisplay.editScreen ClockDisplay.editView
  rw [← state]
  cases d.mEditState with
  | edUndefined => exact iff_of_true rfl rfl
  | edListAlarms =>
    simp only [Option.map_some, Option.some.injEq, EditView.list.injEq]
    exact listScreen_frames_iff (fun alarm member => range alarm (List.mem_of_mem_drop member))
      fun alarm member => other alarm (List.mem_of_mem_drop member)
  | edConfirmDelete => simp only [Option.map_some, Option.some.injEq, EditView.confirm.injEq, confirmScreen_frames_iff]
  | edEditAlarm =>
    cases one : firsts[d.mAlarmEditIndex]? with
    | none =>
      cases seconds[e.mAlarmEditIndex]? with
      | none => exact iff_of_true rfl rfl
      | some second => exact iff_of_false nofun nofun
    | some first =>
      cases two : seconds[e.mAlarmEditIndex]? with
      | none => exact iff_of_false nofun nofun
      | some second =>
        simp only [Option.map_some, Option.some.injEq, EditView.alarm.injEq]
        exact alarmScreen_frames_iff (range first (List.mem_of_getElem? one)) (other second (List.mem_of_getElem? two))

/-- The frames of the two screens are the same exactly if the editors have the same to show: the same answer, the same
alarms in the three lines, or the same alarm with the caret at the same position. -/
theorem editScreen_tells {d e : ClockDisplay} (range : ∀ alarm ∈ firsts, InRange alarm)
    (other : ∀ alarm ∈ seconds, InRange alarm) :
    (d.editScreen firsts).map (List.map Method.frame) = (e.editScreen seconds).map (List.map Method.frame) ↔
      d.editView firsts = e.editView seconds := by
  constructor
  · intro same
    have state : d.mEditState = e.mEditState := by
      rw [← stateOfFrames_editScreen d firsts, same, stateOfFrames_editScreen]
    exact (editScreen_iff_of_state state range other).mp same
  · intro same
    have state : d.mEditState = e.mEditState := by
      rw [← stateOfView_editView d firsts, same, stateOfView_editView]
    exact (editScreen_iff_of_state state range other).mpr same

/-- The fourth alarm is not on the screen, the third is. -/
theorem editScreen_tells_of_four :
    let d : ClockDisplay := { mUnitName := "Attic", mEditState := .edListAlarms }
    let frames (third fourth : Int) := (d.editScreen [{}, {}, { mVolume := third }, { mVolume := fourth }]).map
      (List.map Method.frame)
    frames 20 30 = frames 20 31 ∧ frames 20 30 ≠ frames 21 30 := by
  have range (third fourth : Int) (low : 0 ≤ third ∧ 0 ≤ fourth) (high : third ≤ 99 ∧ fourth ≤ 99) :
      ∀ alarm ∈ [({} : Alarm), {}, { mVolume := third }, { mVolume := fourth }], InRange alarm := by
    simp [InRange, Alarm.Clocked, low, high]
  refine ⟨(editScreen_tells (range 20 30 (by decide) (by decide)) (range 20 31 (by decide) (by decide))).mpr (by decide),
    fun same => ?_⟩
  have equal := (editScreen_tells (range 20 30 (by decide) (by decide)) (range 21 30 (by decide) (by decide))).mp same
  exact absurd equal (by decide)

end RgbClock.Units
