import RgbClock.Alarms.Schedule
import RgbClock.Lib.Decimal

/-! The alarm file: the document that `saveAlarms` builds and the one that `loadAlarms` walks.
The file on disk is behind tinyxml2, which is a parameter here (`Reload`). -/

namespace RgbClock.Alarms

structure XMLElement where
  name : String
  text : Option String
  deriving DecidableEq

structure XMLNode where
  name : String
  children : List XMLElement
  deriving DecidableEq

structure XMLDocument where
  root : String
  children : List XMLNode
  deriving DecidableEq

abbrev XMLError := Nat

/-- How `loadAlarms` can end other than by returning: a standard library exception, or a null
text handed to a constructor that must not get one. -/
inductive LoadFault where
  | stoi (fault : Decimal.Fault)
  | bitset
  | nullText
  deriving DecidableEq

def stoi (text : String) : Except LoadFault Int :=
  (Decimal.stoi text.toList).mapError .stoi

def to_string (n : Int) : String := String.ofList (Decimal.toText n)

/-! ### `std::bitset<7>` -/

def bitChar (b : Bool) : Char := if b then '1' else '0'

def daysToString (days : BitVec 7) : String :=
  String.ofList ((List.range 7).reverse.map fun i => bitChar (days.getLsbD i))

/-- The constructor from a C string: every character must be a digit of the set, and the first
seven fill the bits from the highest used one down. -/
def daysOfString (text : String) : Except LoadFault (BitVec 7) :=
  if text.toList.all (fun c => c = '0' || c = '1') then
    .ok ((text.toList.take 7).foldl (fun days c => (days <<< 1) ||| (if c = '1' then 1 else 0)) 0)
  else .error .bitset

/-! ### Writing -/

def element (name text : String) : XMLElement := ⟨name, some text⟩

def saveAlarm (alarm : Alarm) : XMLNode where
  name := "alarm"
  children :=
    [element "enabled" (to_string (if alarm.mEnabled then 1 else 0)),
     element "unit" alarm.mUnit,
     element "hour" (to_string alarm.mHour),
     element "minutes" (to_string alarm.mMinutes),
     element "type" alarm.typeString,
     element "days" (daysToString alarm.mDays),
     element "volume" (to_string alarm.mVolume)]

def saveDocument (alarms : List Alarm) : XMLDocument := ⟨"alarms", alarms.map saveAlarm⟩

/-! ### Reading -/

def XMLNode.firstChildElement (node : XMLNode) (name : String) : Option XMLElement :=
  node.children.find? fun e => e.name = name

def optionalField {α : Type} (node : XMLNode) (name : String) (initial : α)
    (read : String → Except LoadFault α) : Except LoadFault α :=
  match node.firstChildElement name with
  | some ⟨_, some text⟩ => read text
  | _ => .ok initial

/-- A field whose text is used without a test for null. -/
def uncheckedField {α : Type} (node : XMLNode) (name : String) (initial : α)
    (read : String → Except LoadFault α) : Except LoadFault α :=
  match node.firstChildElement name with
  | some ⟨_, some text⟩ => read text
  | some ⟨_, none⟩ => .error .nullText
  | none => .ok initial

def readType (initial : AlarmType) (readValue : String) : AlarmType :=
  if readValue = "D" then .Daily
  else if readValue = "L" then .OnTimeLoud
  else if readValue = "E" then .OnTimeSmooth
  else initial

def loadAlarm (node : XMLNode) : Except LoadFault Alarm := do
  let alarmSettings : Alarm := {}
  let mEnabled ← optionalField node "enabled" alarmSettings.mEnabled
    (fun text => (stoi text).map fun n => decide (n ≠ 0))
  let mUnit ← optionalField node "unit" alarmSettings.mUnit .ok
  let mHour ← optionalField node "hour" alarmSettings.mHour stoi
  let mMinutes ← optionalField node "minutes" alarmSettings.mMinutes stoi
  let mAlarmType ← uncheckedField node "type" alarmSettings.mAlarmType
    (fun text => .ok (readType alarmSettings.mAlarmType text))
  let mVolume ← uncheckedField node "volume" alarmSettings.mVolume stoi
  let mDays ← uncheckedField node "days" alarmSettings.mDays daysOfString
  return { alarmSettings with mEnabled, mUnit, mHour, mMinutes, mAlarmType, mVolume, mDays }

/-- `loadAlarms`, given what `LoadFile` made of the file if there is one. The walk starts at the
first `alarm` element and `NextSiblingElement()` then takes every sibling, whatever its name. -/
def loadAlarms (file : Option (Except XMLError XMLDocument)) (mAlarmList : List Alarm) :
    Except LoadFault (List Alarm) :=
  match file with
  | some (.ok alarmsXML) =>
    if alarmsXML.root = "alarms" then
      (alarmsXML.children.dropWhile fun node => node.name ≠ "alarm").mapM loadAlarm
    else .ok mAlarmList
  | _ => .ok mAlarmList

/-! ### tinyxml2 -/

/-- Text that tinyxml2 does not drop as white space between elements, or no text at all. -/
def Printable (text : String) : Prop := text = "" ∨ ¬ text.toList.all Decimal.isSpace

instance (text : String) : Decidable (Printable text) := inferInstanceAs (Decidable (_ ∨ _))

def XMLElement.dropEmptyText (e : XMLElement) : XMLElement :=
  { e with text := e.text.filter (· ≠ "") }

def XMLDocument.dropEmptyText (doc : XMLDocument) : XMLDocument :=
  { doc with children := doc.children.map fun node =>
      { node with children := node.children.map XMLElement.dropEmptyText } }

def XMLDocument.Printable (doc : XMLDocument) : Prop :=
  ∀ node ∈ doc.children, ∀ e ∈ node.children, ∀ text, e.text = some text → Alarms.Printable text

abbrev Reload := XMLDocument → Except XMLError XMLDocument

/-- tinyxml2 keeps element names, order and text, and reports empty text as a null `GetText`. -/
def RoundTrips (reload : Reload) : Prop :=
  ∀ doc : XMLDocument, doc.Printable → reload doc = .ok doc.dropEmptyText

/-! ### Reading back what was written -/

/-- The numbers are 32-bit `int`s and the unit is not all white space. -/
structure Storable (alarm : Alarm) : Prop where
  hour : Decimal.Fits alarm.mHour
  minutes : Decimal.Fits alarm.mMinutes
  volume : Decimal.Fits alarm.mVolume
  unit : Printable alarm.mUnit

def unsignalled (alarm : Alarm) : Alarm := { alarm with mSignalled := false }

theorem stoi_to_string {n : Int} (fits : Decimal.Fits n) : stoi (to_string n) = .ok n := by
  simp [stoi, to_string, Decimal.stoi_toText fits, Except.mapError]

theorem to_string_ne_empty (n : Int) : to_string n ≠ "" := by
  intro empty
  have chars := congrArg String.toList empty
  simp only [to_string, String.toList_ofList] at chars
  exact Decimal.toText_ne_nil n chars

theorem digits_not_space {text : List Char} (nonempty : text ≠ [])
    (last : ∀ c, text.getLast? = some c → Decimal.isSpace c = false) : ¬ text.all Decimal.isSpace := by
  intro all
  obtain ⟨front, c, rfl⟩ := (List.eq_nil_or_concat' text).resolve_left nonempty
  have space := List.all_eq_true.mp all c (by simp)
  rw [last c (by simp)] at space
  exact absurd space (by decide)

theorem to_string_printable (n : Int) : Printable (to_string n) := by
  refine Or.inr (digits_not_space ?_ ?_)
  · simpa [to_string] using Decimal.toText_ne_nil n
  · intro c last
    simp only [to_string, String.toList_ofList] at last
    have member := List.mem_of_getLast? last
    cases n with
    | ofNat m => exact Decimal.isSpace_of_isDigit (Decimal.toDigits_isDigit m c member)
    | negSucc m =>
      rcases List.mem_cons.mp member with rfl | digit
      · decide
      · exact Decimal.isSpace_of_isDigit (Decimal.toDigits_isDigit (m + 1) c digit)

theorem daysOfString_daysToString (days : BitVec 7) : daysOfString (daysToString days) = .ok days := by
  unfold daysOfString daysToString
  rw [String.toList_ofList]
  revert days
  decide +kernel

theorem bitChar_not_space (b : Bool) : Decimal.isSpace (bitChar b) = false := by
  cases b <;> decide

theorem daysToString_printable (days : BitVec 7) : Printable (daysToString days) ∧ daysToString days ≠ "" := by
  have printable : ¬ (daysToString days).toList.all Decimal.isSpace = true := by
    rw [daysToString, String.toList_ofList, List.all_map]
    intro all
    have space := List.all_eq_true.mp all 0 (by decide)
    rw [Function.comp, bitChar_not_space] at space
    cases space
  refine ⟨Or.inr printable, fun empty => ?_⟩
  rw [empty] at printable
  exact printable rfl

theorem typeString_printable (alarm : Alarm) : Printable alarm.typeString ∧ alarm.typeString ≠ "" := by
  unfold Alarm.typeString
  cases alarm.mAlarmType <;> decide

theorem readType_typeString (initial : AlarmType) (alarm : Alarm) :
    readType initial alarm.typeString = alarm.mAlarmType := by
  unfold Alarm.typeString
  cases alarm.mAlarmType <;> simp [readType]

theorem saveDocument_printable {alarms : List Alarm} (storable : ∀ alarm ∈ alarms, Storable alarm) :
    (saveDocument alarms).Printable := by
  intro node member e child text same
  obtain ⟨alarm, present, rfl⟩ := List.mem_map.mp member
  have texts : text = to_string (if alarm.mEnabled then 1 else 0) ∨ text = alarm.mUnit ∨
      text = to_string alarm.mHour ∨ text = to_string alarm.mMinutes ∨ text = alarm.typeString ∨
      text = daysToString alarm.mDays ∨ text = to_string alarm.mVolume := by
    simp only [saveAlarm, List.mem_cons, List.not_mem_nil, or_false] at child
    rcases child with rfl | rfl | rfl | rfl | rfl | rfl | rfl <;>
      simp only [element, Option.some.injEq] at same <;> simp [← same]
  rcases texts with rfl | rfl | rfl | rfl | rfl | rfl | rfl
  · apply to_string_printable
  · exact (storable alarm present).unit
  · apply to_string_printable
  · apply to_string_printable
  · exact (typeString_printable alarm).1
  · exact (daysToString_printable _).1
  · apply to_string_printable

theorem loadAlarm_saveAlarm {alarm : Alarm} (storable : Storable alarm) :
    loadAlarm { saveAlarm alarm with children := (saveAlarm alarm).children.map XMLElement.dropEmptyText } =
      .ok (unsignalled alarm) := by
  have enabled : stoi (to_string (if alarm.mEnabled then 1 else 0)) = .ok (if alarm.mEnabled then 1 else 0) :=
    stoi_to_string (by cases alarm.mEnabled <;> decide)
  have truth : decide ((if alarm.mEnabled then (1 : Int) else 0) ≠ 0) = alarm.mEnabled := by
    cases alarm.mEnabled <;> decide
  have unit : optionalField { saveAlarm alarm with
      children := (saveAlarm alarm).children.map XMLElement.dropEmptyText } "unit" "" .ok = .ok alarm.mUnit := by
    by_cases empty : alarm.mUnit = ""
    · simp [optionalField, XMLNode.firstChildElement, saveAlarm, element, XMLElement.dropEmptyText, empty,
        Option.filter]
    · simp [optionalField, XMLNode.firstChildElement, saveAlarm, element, XMLElement.dropEmptyText, empty,
        Option.filter]
  have hour := stoi_to_string storable.hour
  have minutes := stoi_to_string storable.minutes
  have volume := stoi_to_string storable.volume
  unfold loadAlarm
  simp only [unit, bind, Except.bind]
  simp [optionalField, uncheckedField, XMLNode.firstChildElement, saveAlarm, element, XMLElement.dropEmptyText,
    Option.filter, to_string_ne_empty, (typeString_printable alarm).2,
    (daysToString_printable alarm.mDays).2, enabled, hour, minutes, volume, daysOfString_daysToString,
    readType_typeString, Except.map, pure, Except.pure, unsignalled]

theorem mapM_loadAlarm {alarms : List Alarm} (storable : ∀ alarm ∈ alarms, Storable alarm) :
    ((saveDocument alarms).dropEmptyText.children).mapM loadAlarm = .ok (alarms.map unsignalled) := by
  induction alarms with
  | nil => rfl
  | cons alarm rest ih =>
    have first := loadAlarm_saveAlarm (storable alarm List.mem_cons_self)
    have later := ih (fun a member => storable a (List.mem_cons_of_mem _ member))
    simp only [saveDocument, XMLDocument.dropEmptyText, List.map_cons, List.mapM_cons] at later ⊢
    rw [first, later]
    rfl

/-- Loading the document of a list gives the list back, up to `mSignalled`. -/
theorem loadAlarms_saveDocument {reload : Reload} (library : RoundTrips reload) {alarms : List Alarm}
    (storable : ∀ alarm ∈ alarms, Storable alarm) (mAlarmList : List Alarm) :
    loadAlarms (some (reload (saveDocument alarms))) mAlarmList = .ok (alarms.map unsignalled) := by
  have walk : (saveDocument alarms).dropEmptyText.children.dropWhile (fun node => node.name ≠ "alarm") =
      (saveDocument alarms).dropEmptyText.children := by
    cases alarms with
    | nil => rfl
    | cons alarm rest => simp [saveDocument, XMLDocument.dropEmptyText, saveAlarm]
  rw [library _ (saveDocument_printable storable), loadAlarms]
  have root : (saveDocument alarms).dropEmptyText.root = "alarms" := rfl
  rw [if_pos root, walk]
  exact mapM_loadAlarm storable

end RgbClock.Alarms
