import Mathlib.Data.List.Forall2
import RgbClock.Alarms.Document

/-! What `loadAlarms` makes of an alarm file that somebody has edited by hand. Four of the seven fields
may be left empty and the other three may not; and the walk over the alarms goes on through whatever
stands behind the first of them. -/

namespace RgbClock.Alarms

/-! ### Fallible reads -/

theorem bind_eq_ok {ε α β : Type} {x : Except ε α} {f : α → Except ε β} {result : β} :
    (x >>= f) = .ok result ↔ ∃ a, x = .ok a ∧ f a = .ok result := by
  cases x with
  | error fault => simp [bind, Except.bind]
  | ok a => simp [bind, Except.bind]

theorem mapM_eq_ok_iff {ε α β : Type} {f : α → Except ε β} {items : List α} {results : List β} :
    items.mapM f = .ok results ↔ List.Forall₂ (fun item result => f item = .ok result) items results := by
  induction items generalizing results with
  | nil =>
    rw [List.mapM_nil, List.forall₂_nil_left_iff]
    constructor
    · intro same
      cases same
      rfl
    · intro empty
      rw [empty]
      rfl
  | cons item rest ih =>
    rw [List.mapM_cons, bind_eq_ok, List.forall₂_cons_left_iff]
    constructor
    · intro given
      obtain ⟨first, read, more⟩ := given
      obtain ⟨later, reads, same⟩ := bind_eq_ok.mp more
      cases same
      exact ⟨first, later, read, ih.mp reads, rfl⟩
    · intro given
      obtain ⟨first, later, read, reads, rfl⟩ := given
      exact ⟨first, read, bind_eq_ok.mpr ⟨later, ih.mpr reads, rfl⟩⟩

theorem forall₂_left {α β : Type} {R : α → β → Prop} {items : List α} {results : List β}
    (related : List.Forall₂ R items results) {item : α} (member : item ∈ items) : ∃ result ∈ results, R item result := by
  induction related with
  | nil => cases member
  | cons first _ ih =>
    obtain rfl | later := List.mem_cons.mp member
    · exact ⟨_, List.mem_cons_self, first⟩
    · obtain ⟨result, found, relates⟩ := ih later
      exact ⟨result, List.mem_cons_of_mem _ found, relates⟩

theorem exists_forall₂ {α β : Type} {R : α → β → Prop} {items : List α} (each : ∀ item ∈ items, ∃ result, R item result) :
    ∃ results, List.Forall₂ R items results := by
  induction items with
  | nil => exact ⟨[], .nil⟩
  | cons item rest ih =>
    obtain ⟨first, relates⟩ := each item List.mem_cons_self
    obtain ⟨later, all⟩ := ih fun other member => each other (List.mem_cons_of_mem _ member)
    exact ⟨first :: later, .cons relates all⟩

/-! ### What the file says -/

namespace XMLNode

/-- The text of a field: none where the field is missing or empty. -/
def text (node : XMLNode) (name : String) : Option String := (node.firstChildElement name).bind XMLElement.text

/-- The element of the field is there and has no text. -/
def IsEmpty (node : XMLNode) (name : String) : Prop := ∃ e, node.firstChildElement name = some e ∧ e.text = none

/-- The field has the value that its text stands for, or its initial one where there is no text. -/
def Gives {α : Type} (node : XMLNode) (name : String) (stands : String → α → Prop) (initial value : α) : Prop :=
  match node.text name with
  | some text => stands text value
  | none => value = initial

/-- A text that is there stands for a value. -/
def Means {α : Type} (node : XMLNode) (name : String) (stands : String → α → Prop) : Prop :=
  ∀ text, node.text name = some text → ∃ value, stands text value

end XMLNode

def standsForBool (text : String) (value : Bool) : Prop := ∃ n, stoi text = .ok n ∧ value = decide (n ≠ 0)
def standsForInt (text : String) (value : Int) : Prop := stoi text = .ok value
def standsForDays (text : String) (value : BitVec 7) : Prop := daysOfString text = .ok value
def standsForUnit (text value : String) : Prop := value = text

def standsForType (text : String) (value : AlarmType) : Prop :=
  (text = "D" ∧ value = .Daily) ∨ (text = "L" ∧ value = .OnTimeLoud) ∨ (text = "E" ∧ value = .OnTimeSmooth)

/-- Every field of an alarm is missing, is empty or has a valid text. -/
structure XMLNode.Valid (node : XMLNode) : Prop where
  enabled : node.Means "enabled" standsForBool
  unit : node.Means "unit" standsForUnit
  hour : node.Means "hour" standsForInt
  minutes : node.Means "minutes" standsForInt
  type : node.Means "type" standsForType
  volume : node.Means "volume" standsForInt
  days : node.Means "days" standsForDays

/-- The alarm that an element of the file describes, with the defaults of `Alarm()`. -/
structure XMLNode.Describes (node : XMLNode) (alarm : Alarm) : Prop where
  enabled : node.Gives "enabled" standsForBool true alarm.mEnabled
  unit : node.Gives "unit" standsForUnit "" alarm.mUnit
  hour : node.Gives "hour" standsForInt 7 alarm.mHour
  minutes : node.Gives "minutes" standsForInt 0 alarm.mMinutes
  type : node.Gives "type" standsForType .Daily alarm.mAlarmType
  volume : node.Gives "volume" standsForInt 40 alarm.mVolume
  days : node.Gives "days" standsForDays 0 alarm.mDays
  signalled : alarm.mSignalled = false

/-! ### One field -/

section Field

variable {α : Type} {node : XMLNode} {name : String} {stands : String → α → Prop} {initial : α}
  {read : String → Except LoadFault α}

/-- A reader that takes each text for the value it stands for. -/
def ReadsAs (read : String → Except LoadFault α) (stands : String → α → Prop) : Prop :=
  ∀ text value, stands text value → read text = .ok value

theorem optionalField_gives (reads : ReadsAs read stands) (means : node.Means name stands) :
    ∃ value, optionalField node name initial read = .ok value ∧ node.Gives name stands initial value := by
  unfold optionalField XMLNode.Gives
  unfold XMLNode.Means at means
  have text : node.text name = (node.firstChildElement name).bind XMLElement.text := rfl
  rw [text] at means ⊢
  cases found : node.firstChildElement name with
  | none => exact ⟨initial, rfl, rfl⟩
  | some e =>
    rw [found] at means
    obtain ⟨_, content⟩ := e
    cases content with
    | none => exact ⟨initial, rfl, rfl⟩
    | some text =>
      obtain ⟨value, valid⟩ := means text rfl
      exact ⟨value, reads text value valid, valid⟩

/-- Without the test for null a field fails on empty text, and only there. -/
theorem uncheckedField_eq (node : XMLNode) (name : String) (initial : α) (read : String → Except LoadFault α)
    (filled : ¬ node.IsEmpty name) : uncheckedField node name initial read = optionalField node name initial read := by
  unfold uncheckedField optionalField
  cases found : node.firstChildElement name with
  | none => rfl
  | some e =>
    obtain ⟨_, content⟩ := e
    cases content with
    | none => exact absurd ⟨_, found, rfl⟩ filled
    | some text => rfl

theorem uncheckedField_empty (empty : node.IsEmpty name) :
    uncheckedField node name initial read = .error .nullText := by
  obtain ⟨⟨_, content⟩, found, none⟩ := empty
  cases none
  unfold uncheckedField
  rw [found]

theorem filled_of_uncheckedField {value : α} (ok : uncheckedField node name initial read = .ok value) :
    ¬ node.IsEmpty name := by
  intro empty
  rw [uncheckedField_empty empty] at ok
  cases ok

theorem uncheckedField_gives (reads : ReadsAs read stands) (means : node.Means name stands)
    (filled : ¬ node.IsEmpty name) :
    ∃ value, uncheckedField node name initial read = .ok value ∧ node.Gives name stands initial value := by
  rw [uncheckedField_eq node name initial read filled]
  exact optionalField_gives reads means

end Field

theorem reads_bool : ReadsAs (fun text => (stoi text).map fun n => decide (n ≠ 0)) standsForBool := by
  intro text value given
  obtain ⟨n, read, rfl⟩ := given
  simp only [read, Except.map]

theorem reads_int : ReadsAs stoi standsForInt := fun _ _ read => read

theorem reads_days : ReadsAs daysOfString standsForDays := fun _ _ read => read

theorem reads_unit : ReadsAs .ok standsForUnit := fun _ _ same => congrArg Except.ok same.symm

theorem reads_type (initial : AlarmType) : ReadsAs (fun text => .ok (readType initial text)) standsForType := by
  intro text value given
  obtain ⟨rfl, rfl⟩ | ⟨rfl, rfl⟩ | ⟨rfl, rfl⟩ := given
  · rfl
  · rfl
  · rfl

/-! ### One alarm -/

/-- The fields that `loadAlarm` reads without a test for null. -/
def XMLNode.Filled (node : XMLNode) : Prop := ∀ name ∈ ["type", "volume", "days"], ¬ node.IsEmpty name

theorem loadAlarm_describes {node : XMLNode} (valid : node.Valid) (filled : node.Filled) :
    ∃ alarm, loadAlarm node = .ok alarm ∧ node.Describes alarm := by
  obtain ⟨mEnabled, readEnabled, enabled⟩ := @optionalField_gives _ _ _ _ ({} : Alarm).mEnabled _ reads_bool valid.enabled
  obtain ⟨mUnit, readUnit, unit⟩ := @optionalField_gives _ _ _ _ ({} : Alarm).mUnit _ reads_unit valid.unit
  obtain ⟨mHour, readHour, hour⟩ := @optionalField_gives _ _ _ _ ({} : Alarm).mHour _ reads_int valid.hour
  obtain ⟨mMinutes, readMinutes, minutes⟩ := @optionalField_gives _ _ _ _ ({} : Alarm).mMinutes _ reads_int valid.minutes
  obtain ⟨mAlarmType, readType, type⟩ := @uncheckedField_gives _ _ _ _ ({} : Alarm).mAlarmType _
    (reads_type ({} : Alarm).mAlarmType) valid.type (filled "type" (by decide))
  obtain ⟨mVolume, readVolume, volume⟩ := @uncheckedField_gives _ _ _ _ ({} : Alarm).mVolume _
    reads_int valid.volume (filled "volume" (by decide))
  obtain ⟨mDays, readDays, days⟩ := @uncheckedField_gives _ _ _ _ ({} : Alarm).mDays _
    reads_days valid.days (filled "days" (by decide))
  refine ⟨{ mEnabled, mUnit, mHour, mMinutes, mAlarmType, mVolume, mDays }, ?_,
    ⟨enabled, unit, hour, minutes, type, volume, days, rfl⟩⟩
  unfold loadAlarm
  simp only [readEnabled, readUnit, readHour, readMinutes, readType, readVolume, readDays, bind, Except.bind]
  rfl

theorem filled_of_loadAlarm {node : XMLNode} {alarm : Alarm} (ok : loadAlarm node = .ok alarm) : node.Filled := by
  unfold loadAlarm at ok
  obtain ⟨_, -, ok⟩ := bind_eq_ok.mp ok
  obtain ⟨_, -, ok⟩ := bind_eq_ok.mp ok
  obtain ⟨_, -, ok⟩ := bind_eq_ok.mp ok
  obtain ⟨_, -, ok⟩ := bind_eq_ok.mp ok
  obtain ⟨_, type, ok⟩ := bind_eq_ok.mp ok
  obtain ⟨_, volume, ok⟩ := bind_eq_ok.mp ok
  obtain ⟨_, days, ok⟩ := bind_eq_ok.mp ok
  intro name member
  simp only [List.mem_cons, List.not_mem_nil, or_false] at member
  obtain rfl | rfl | rfl := member
  · exact filled_of_uncheckedField type
  · exact filled_of_uncheckedField volume
  · exact filled_of_uncheckedField days

/-! ### The whole file -/

/-- The elements of the file that are alarms. -/
def XMLDocument.alarmNodes (doc : XMLDocument) : List XMLNode := doc.children.filter fun node => node.name = "alarm"

/-- The elements that the walk of `loadAlarms` visits. -/
def XMLDocument.walked (doc : XMLDocument) : List XMLNode := doc.children.dropWhile fun node => node.name ≠ "alarm"

/-- Every alarm of the file is loaded, in its order, and nothing else is. -/
def XMLDocument.LoadsExactly (doc : XMLDocument) (mAlarmList : List Alarm) : Prop :=
  ∃ alarms, loadAlarms (some (.ok doc)) mAlarmList = .ok alarms ∧
    List.Forall₂ XMLNode.Describes doc.alarmNodes alarms

variable {doc : XMLDocument}

theorem loadAlarms_walked (root : doc.root = "alarms") (mAlarmList : List Alarm) :
    loadAlarms (some (.ok doc)) mAlarmList = doc.walked.mapM loadAlarm := by
  show (if doc.root = "alarms" then doc.walked.mapM loadAlarm else .ok mAlarmList) = _
  rw [if_pos root]

/-- The walk leaves no alarm out. -/
theorem alarmNodes_eq_walked (doc : XMLDocument) :
    doc.alarmNodes = doc.walked.filter fun node => node.name = "alarm" := by
  have skipped : (doc.children.takeWhile fun node => decide (node.name ≠ "alarm")).filter
      (fun node => decide (node.name = "alarm")) = [] := by
    rw [List.filter_eq_nil_iff]
    intro node member
    have other := List.mem_takeWhile_imp member
    simpa using other
  have parts : (doc.children.takeWhile fun node => decide (node.name ≠ "alarm")) ++ doc.walked = doc.children :=
    List.takeWhile_append_dropWhile
  calc doc.alarmNodes
      = ((doc.children.takeWhile fun node => decide (node.name ≠ "alarm")) ++ doc.walked).filter
          (fun node => decide (node.name = "alarm")) := by rw [parts]; rfl
    _ = doc.walked.filter fun node => node.name = "alarm" := by
      rw [List.filter_append, skipped, List.nil_append]

theorem walked_of_length (same : doc.walked.length = doc.alarmNodes.length) :
    ∀ node ∈ doc.walked, node.name = "alarm" := by
  rw [alarmNodes_eq_walked] at same
  have all := List.length_filter_eq_length_iff.mp same.symm
  intro node member
  exact of_decide_eq_true (all node member)

/-- A valid file is loaded exactly where no other element follows an alarm, and no alarm has an empty
type, volume or days. -/
theorem loadsExactly_iff (doc : XMLDocument) (mAlarmList : List Alarm) (root : doc.root = "alarms")
    (valid : ∀ node ∈ doc.alarmNodes, node.Valid) :
    doc.LoadsExactly mAlarmList ↔
      (∀ node ∈ doc.walked, node.name = "alarm") ∧ ∀ node ∈ doc.alarmNodes, node.Filled := by
  unfold XMLDocument.LoadsExactly
  rw [loadAlarms_walked root]
  constructor
  · intro given
    obtain ⟨alarms, loaded, describes⟩ := given
    have loads := mapM_eq_ok_iff.mp loaded
    have only := walked_of_length (loads.length_eq.trans describes.length_eq.symm)
    refine ⟨only, fun node member => ?_⟩
    rw [alarmNodes_eq_walked] at member
    obtain ⟨alarm, -, ok⟩ := forall₂_left loads (List.mem_of_mem_filter member)
    exact filled_of_loadAlarm ok
  · intro given
    obtain ⟨only, filled⟩ := given
    have whole : doc.walked = doc.alarmNodes := by
      rw [alarmNodes_eq_walked, List.filter_eq_self.mpr fun node member => decide_eq_true (only node member)]
    rw [whole]
    obtain ⟨alarms, both⟩ := exists_forall₂ fun node member => loadAlarm_describes (valid node member) (filled node member)
    exact ⟨alarms, mapM_eq_ok_iff.mpr (both.imp fun _ _ pair => pair.1), both.imp fun _ _ pair => pair.2⟩

theorem means_of_none {α : Type} {node : XMLNode} {name : String} {stands : String → α → Prop}
    (missing : node.text name = none) : node.Means name stands := by
  intro text found
  rw [missing] at found
  cases found

theorem means_of_some {α : Type} {node : XMLNode} {name text : String} {stands : String → α → Prop} {value : α}
    (found : node.text name = some text) (valid : stands text value) : node.Means name stands := by
  intro other also
  cases found.symm.trans also
  exact ⟨value, valid⟩

/-- An alarm whose volume was left empty ends the start of the program. -/
theorem empty_volume_is_not_loaded :
    ¬ ∀ (doc : XMLDocument) (mAlarmList : List Alarm), doc.root = "alarms" →
      (∀ node ∈ doc.alarmNodes, node.Valid) → doc.LoadsExactly mAlarmList := by
  intro always
  have valid : XMLNode.Valid ⟨"alarm", [⟨"volume", none⟩]⟩ :=
    ⟨means_of_none rfl, means_of_none rfl, means_of_none rfl, means_of_none rfl, means_of_none rfl, means_of_none rfl,
      means_of_none rfl⟩
  obtain ⟨alarms, loaded, -⟩ := always ⟨"alarms", [⟨"alarm", [⟨"volume", none⟩]⟩]⟩ [] rfl (by
    intro node member
    cases List.mem_singleton.mp member
    exact valid)
  have fails : loadAlarms (some (.ok ⟨"alarms", [⟨"alarm", [⟨"volume", none⟩]⟩]⟩)) [] = .error .nullText := rfl
  cases fails.symm.trans loaded

/-- An alarm of the old format, which has an empty unit and a field that is no longer read. -/
theorem old_file_is_loaded :
    XMLDocument.LoadsExactly ⟨"alarms", [⟨"comment", []⟩, ⟨"alarm", [⟨"enabled", some "1"⟩, ⟨"unit", none⟩,
      ⟨"hour", some "6"⟩, ⟨"minutes", some "50"⟩, ⟨"onetime", some "0"⟩, ⟨"days", some "0111110"⟩,
      ⟨"volume", some "45"⟩]⟩]⟩ [] := by
  apply (loadsExactly_iff _ [] rfl ?_).mpr
  · refine ⟨?_, ?_⟩
    · decide
    · intro node member name field
      cases List.mem_singleton.mp member
      simp only [List.mem_cons, List.not_mem_nil, or_false] at field
      intro empty
      obtain ⟨e, found, none⟩ := empty
      obtain rfl | rfl | rfl := field
      · cases found
      · cases found
        cases none
      · cases found
        cases none
  · intro node member
    cases List.mem_singleton.mp member
    exact ⟨means_of_some rfl ⟨1, by decide, rfl⟩, means_of_none rfl,
      means_of_some rfl (by decide : stoi "6" = .ok 6), means_of_some rfl (by decide : stoi "50" = .ok 50),
      means_of_none rfl, means_of_some rfl (by decide : stoi "45" = .ok 45),
      means_of_some rfl (by decide : daysOfString "0111110" = .ok 0b0111110#7)⟩

end RgbClock.Alarms
