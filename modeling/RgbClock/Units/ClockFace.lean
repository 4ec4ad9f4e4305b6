import RgbClock.Units.EditScreen
import RgbClock.Units.Scroll

/-! The clock on the display. The refresh thread draws the digits when the minute changes, or when `mForceRefresh` tells it
that the editor has cleared the display. Here that thread and the one of the keyboard, which enters and leaves the editor,
take their steps one method of the display at a time, in any order. -/

namespace RgbClock.Units
open Alarms Lcd Runs

structure Tm where
  tm_hour : Nat
  tm_min : Nat
  tm_sec : Nat
  deriving DecidableEq

/-! ### What a pass draws beside the digits -/

structure FaceInfo where
  mRadioOn : Bool := false
  mRadio : RadioText := {}
  mVolume : Nat := 0
  mClockState : ClockState := .clkNormal
  nextAlarm : String := ""
  station_fits : mRadio.mRDSStationName.length ≤ STATION_WIDTH := by decide
  nextAlarm_fits : (bytes nextAlarm.toList).length ≤ 5 := by decide

namespace FaceInfo

/-- A step of 0.21 is a length of 21 for a hundred. -/
def drawVolume (mVolume : Nat) : List Method :=
  let length := min mVolume 100 * 21 / 100
  [.rectangle 158 10 159 (.ofNat (31 - length - 1)) false false, .rectangle 158 (.ofNat (31 - length)) 159 31 true false]

def eraseRDS : List Method := [terminal8 0 14 "   ".toList, terminal8 0 24 "  ".toList]

def eraseVolume : Method := .rectangle 158 10 159 31 false false

def eraseSignal : Method := .rectangle 156 0 159 3 false true

/-- With this display `drawSignal` and `drawNTPState` draw nothing. -/
def radioMethods (info : FaceInfo) (newSecond : Bool) : List Method :=
  if info.mRadioOn then
    (if newSecond then (info.mRadio.drawRDS.map Prod.snd).getD [] else []) ++ drawVolume info.mVolume
  else eraseRDS ++ [eraseVolume, eraseSignal]

def updateAlarmInfo (info : FaceInfo) : Method :=
  match info.mClockState with
  | .clkNormal => if info.nextAlarm ≠ "" then terminal8 0 0 (info.nextAlarm.toList ++ [' ']) else terminal8 0 0 "      ".toList
  | .clkAlarm => terminal8 0 0 "Alarm  ".toList
  | .clkSnooze => terminal8 0 0 "Snooze ".toList

end FaceInfo

/-! ### The digits on the display -/

def POS_HOUR : UInt8 := 44
def POS_COLON : UInt8 := 90
def POS_MIN : UInt8 := 104

/-- Where the digits stand, with one column before them: from the left, above and to the right. -/
def FACE_LEFT : Nat := 43
def FACE_BELOW : Nat := 23
def FACE_RIGHT : Nat := 156

def verdana20 (col : UInt8) (text : List Char) : Method := .writeGraphicText col 0 (bytes text) .Verdana20 0

/-- The three texts of the clock that are on the display; none where something else has been drawn. -/
structure Digits where
  hour : Option (List UInt8) := none
  colon : Option (List UInt8) := none
  minute : Option (List UInt8) := none
  deriving DecidableEq

/-- A method that draws beside the digits. A small character is six columns wide, and a text is cleared one column and one
row around it. -/
def besideFace : Method → Bool
  | .clearGraphicDisplay => false
  | .writeGraphicText col row text font clearLength =>
    font = .Terminal8 && clearLength = 0 &&
      (col.toNat + 6 * (min text.length MAX_TEXT_SIZE) < FACE_LEFT || FACE_BELOW ≤ row.toNat - 1)
  | .rectangle col1 _ _ _ _ _ => FACE_RIGHT ≤ col1.toNat

def Digits.apply (d : Digits) (method : Method) : Digits :=
  match method with
  | .writeGraphicText col row text .Verdana20 _ =>
    if row = 0 ∧ col = POS_HOUR then { d with hour := some text }
    else if row = 0 ∧ col = POS_COLON then { d with colon := some text }
    else if row = 0 ∧ col = POS_MIN then { d with minute := some text }
    else {}
  | other => if besideFace other then d else {}

def face (now : Tm) : Digits where
  hour := some (bytes (Decimal.padded now.tm_hour))
  colon := some (bytes [':'])
  minute := some (bytes (Decimal.padded now.tm_min))

/-! ### The two threads -/

/-- Where `refreshThread` stands, and what it still has to draw. -/
inductive RefreshPoint where
  | top
  | test (now : Tm)
  | due (now : Tm)
  | hour (now : Tm)
  | colon (now : Tm)
  | minute (now : Tm)
  | radio (now : Tm)
  | radioDraw (now : Tm) (methods : List Method)
  | infoDraw (methods : List Method)
  | edit (methods : List Method)
  | exitState
  | exitClear
  | exitForce

/-- Where the keyboard thread stands in `keyboardPressed`. It has found the editor open, or it leaves it. -/
inductive KeyPoint where
  | idle
  | editing
  | exitState
  | exitClear
  | exitForce
  deriving DecidableEq

/-- What the refresh thread may read at a step: the time, the state of the radio and of the alarms, the screen of the editor
and whether it has been left alone for too long. -/
structure FaceRead where
  time : Tm := ⟨0, 0, 0⟩
  info : FaceInfo := {}
  editScreen : List Method := []
  timeout : Bool := false

inductive FaceEvent where
  | refresh (read : FaceRead)
  /-- A long press of `KEY_LEFT` that opens the editor. -/
  | enter
  | exit
  /-- Another key. -/
  | look
  /-- The handler of the keys clears the display for another screen of the editor. -/
  | clear (method : Method)
  | next

structure ClockFace where
  mDisplayState : DisplayState := .stNormal
  mForceRefresh : Bool := false
  prevMin : Int := -1
  prevSec : Int := -1
  refreshing : RefreshPoint := .top
  pressing : KeyPoint := .idle
  digits : Digits := {}
  /-- The time of the last pass that is over with the digits and the radio. -/
  shown : Option Tm := none

namespace ClockFace

def draw (f : ClockFace) (method : Method) : ClockFace := { f with digits := f.digits.apply method }

def refreshThread (f : ClockFace) (read : FaceRead) : ClockFace :=
  match f.refreshing with
  | .top =>
    if f.mDisplayState = .stNormal then { f with refreshing := .test read.time }
    else { f with refreshing := .edit read.editScreen }
  | .test now =>
    if (now.tm_min : Int) ≠ f.prevMin ∨ f.mForceRefresh then { f with refreshing := .due now }
    else { f with refreshing := .radio now }
  | .due now => { f with mForceRefresh := false, refreshing := .hour now }
  | .hour now => { f.draw (verdana20 POS_HOUR (Decimal.padded now.tm_hour)) with refreshing := .colon now }
  | .colon now => { f.draw (verdana20 POS_COLON [':']) with refreshing := .minute now }
  | .minute now => { f.draw (verdana20 POS_MIN (Decimal.padded now.tm_min)) with refreshing := .radio now }
  | .radio now => { f with refreshing := .radioDraw now (read.info.radioMethods ((now.tm_sec : Int) ≠ f.prevSec)) }
  | .radioDraw now (method :: rest) => { f.draw method with refreshing := .radioDraw now rest }
  | .radioDraw now [] =>
    { f with
      prevMin := now.tm_min, prevSec := now.tm_sec, shown := some now, refreshing := .infoDraw [read.info.updateAlarmInfo] }
  | .infoDraw (method :: rest) => { f.draw method with refreshing := .infoDraw rest }
  | .infoDraw [] => { f with refreshing := .top }
  | .edit (method :: rest) => { f.draw method with refreshing := .edit rest }
  | .edit [] => { f with refreshing := if read.timeout then .exitState else .top }
  | .exitState => { f with mDisplayState := .stNormal, refreshing := .exitClear }
  | .exitClear => { f.draw .clearGraphicDisplay with refreshing := .exitForce }
  | .exitForce => { f with mForceRefresh := true, refreshing := .top }

/-- The next step of the keyboard thread; a step that it cannot take now changes nothing. -/
def keyboardThread (f : ClockFace) : FaceEvent → ClockFace
  | .enter => if f.pressing = .idle then { f with mDisplayState := .stEditAlarms, pressing := .editing } else f
  | .exit => if f.pressing = .idle then { f with pressing := .exitState } else f
  | .look => if f.pressing = .idle ∧ f.mDisplayState = .stEditAlarms then { f with pressing := .editing } else f
  | .clear method => if f.pressing = .editing then f.draw method else f
  | .next =>
    match f.pressing with
    | .idle => f
    | .editing => { f with pressing := .idle }
    | .exitState => { f with mDisplayState := .stNormal, pressing := .exitClear }
    | .exitClear => { f.draw .clearGraphicDisplay with pressing := .exitForce }
    | .exitForce => { f with mForceRefresh := true, pressing := .idle }
  | .refresh _ => f

def step (f : ClockFace) : FaceEvent → ClockFace
  | .refresh read => f.refreshThread read
  | e => f.keyboardThread e

end ClockFace

/-! ### What the fields of `FaceInfo` rest on -/

/-- The name of the station stays as short as `radioDABUpdate` cuts it. -/
theorem radioDABUpdate_station {d : RadioText} (fits : d.mRDSStationName.length ≤ STATION_WIDTH) (rdsInfo : Dab.DABInfo) :
    (d.radioDABUpdate rdsInfo).mRDSStationName.length ≤ STATION_WIDTH := by
  unfold RadioText.radioDABUpdate
  dsimp only
  split
  · unfold pad
    rw [List.length_append, List.length_replicate, List.length_take]
    omega
  · exact fits

/-- Five characters for alarms with an hour and a minute of two digits at most. -/
theorem nextAlarm_short {m : AlarmManager} {unitName : String}
    (clocked : ∀ next, m.mNextAlarmMap unitName = some next →
      (0 ≤ next.mHour ∧ next.mHour < 100) ∧ 0 ≤ next.mMinutes ∧ next.mMinutes < 100) :
    (bytes (m.nextAlarm unitName).toList).length ≤ 5 := by
  have digits : ∀ n : Fin 100, (bytes (Decimal.padded (n.val : Nat))).length = 2 := by decide
  have padded (n : Int) (start : 0 ≤ n) (stop : n < 100) : (bytes (Decimal.padded n)).length = 2 := by
    obtain ⟨k, rfl⟩ := Int.eq_ofNat_of_zero_le start
    exact digits ⟨k, by omega⟩
  unfold AlarmManager.nextAlarm
  split
  · rename_i next found
    obtain ⟨hour, minutes⟩ := clocked next found
    split
    · have first := padded next.mHour hour.1 hour.2
      have second := padded next.mMinutes minutes.1 minutes.2
      have colon : (String.utf8EncodeChar ':').length = 1 := by decide
      unfold bytes at first second
      simp only [NextAlarm.to_string, hourMinutes, String.toList_ofList, bytes, List.flatMap_append, List.flatMap_cons,
        List.length_append, first, second, colon]
      omega
    · decide
  · decide

/-! ### Drawing beside the digits -/

theorem besideFace_left {text : List Char} (short : (bytes text).length ≤ 7) (row : Nat) :
    besideFace (terminal8 0 row text) = true := by
  have inside : 6 * min (bytes text).length MAX_TEXT_SIZE < FACE_LEFT := by
    simp only [MAX_TEXT_SIZE, FACE_LEFT]
    omega
  simp [besideFace, terminal8, inside]

theorem Digits.apply_besideFace (d : Digits) {method : Method} (beside : besideFace method = true) :
    d.apply method = d := by
  cases method with
  | clearGraphicDisplay => cases beside
  | writeGraphicText col row text font clearLength =>
    cases font with
    | Verdana20 => cases beside
    | Terminal8 => exact if_pos beside
  | rectangle col1 row1 col2 row2 set fill => exact if_pos beside

namespace FaceInfo

variable (info : FaceInfo)

theorem drawRDS_besideFace {next : RadioText} {methods : List Method}
    (drawn : info.mRadio.drawRDS = some (next, methods)) : ∀ method ∈ methods, besideFace method = true := by
  have fits : 6 * min info.mRadio.mRDSStationName.length MAX_TEXT_SIZE < FACE_LEFT := by
    have := info.station_fits
    simp only [STATION_WIDTH, MAX_TEXT_SIZE, FACE_LEFT] at this ⊢
    omega
  have station : besideFace (.writeGraphicText 0 14 info.mRadio.mRDSStationName .Terminal8 0) = true := by
    simp [besideFace, fits]
  have below (text : List UInt8) : besideFace (.writeGraphicText 0 24 text .Terminal8 0) = true := by
    simp [besideFace, FACE_BELOW]
  unfold RadioText.drawRDS at drawn
  split at drawn
  · split at drawn
    · dsimp only at drawn
      split at drawn
      · cases drawn
        simp [station, below]
      · cases drawn
        simp [station, below]
    · cases drawn
  · cases drawn
    simp [station, below]

theorem radioMethods_besideFace (newSecond : Bool) : ∀ method ∈ info.radioMethods newSecond, besideFace method = true := by
  have right (row1 col2 row2 : UInt8) (set fill : Bool) : besideFace (.rectangle 158 row1 col2 row2 set fill) = true := by
    rfl
  unfold radioMethods
  split
  · intro method member
    rcases List.mem_append.mp member with text | volume
    · split at text
      · cases drawn : info.mRadio.drawRDS with
        | none => simp [drawn] at text
        | some result =>
          rw [drawn] at text
          exact info.drawRDS_besideFace drawn method text
      · cases text
    · simp only [drawVolume, List.mem_cons, List.not_mem_nil, or_false] at volume
      rcases volume with rfl | rfl
      · exact right _ _ _ _ _
      · exact right _ _ _ _ _
  · decide

theorem updateAlarmInfo_besideFace : besideFace info.updateAlarmInfo = true := by
  unfold updateAlarmInfo
  split
  · split
    · apply besideFace_left
      have fits := info.nextAlarm_fits
      have space : (bytes [' ']).length = 1 := by decide
      unfold bytes at fits space ⊢
      rw [List.flatMap_append, List.length_append]
      omega
    · exact besideFace_left (by decide) 0
  · exact besideFace_left (by decide) 0
  · exact besideFace_left (by decide) 0

end FaceInfo

/-! ### No redraw is lost -/

def RefreshPoint.exits : RefreshPoint → Bool
  | .exitState | .exitClear | .exitForce => true
  | _ => false

def KeyPoint.exits : KeyPoint → Bool
  | .exitState | .exitClear | .exitForce => true
  | _ => false

/-- What the refresh thread still has to draw of the radio and the alarms. -/
def RefreshPoint.pending : RefreshPoint → List Method
  | .radioDraw _ methods | .infoDraw methods => methods
  | _ => []

/-- What the digits are to the refresh thread, if no redraw is owed. -/
def RefreshPoint.Shows (shown : Option Tm) (d : Digits) : RefreshPoint → Prop
  | .top | .test _ | .infoDraw _ => ∀ now, shown = some now → d = face now
  | .due _ | .hour _ | .exitState | .exitClear | .exitForce => True
  | .colon now => d.hour = (face now).hour
  | .minute now => d.hour = (face now).hour ∧ d.colon = (face now).colon
  | .radio now | .radioDraw now _ => d = face now
  | .edit _ => False

/-- About to compare the minutes, it has found the hour of the last pass if it has found its minute. -/
def RefreshPoint.steady (shown : Option Tm) : RefreshPoint → Bool
  | .test now => shown.all fun last => now.tm_min != last.tm_min || now.tm_hour == last.tm_hour
  | _ => true

namespace ClockFace

/-- The digits are drawn again before long: that is asked for, or will be when the editor is left. -/
def Owed (f : ClockFace) : Prop :=
  f.mForceRefresh = true ∨ f.mDisplayState = .stEditAlarms ∨ f.pressing.exits = true ∨ f.refreshing.exits = true

/-- The handler of the keys clears the display while the editor is still open, and a pass that finds the minute of the last
one, and is not asked for a redraw, finds its hour. -/
def Undisturbed (f : ClockFace) : FaceEvent → Prop
  | .clear _ => f.pressing = .editing → f.mDisplayState = .stEditAlarms
  | .refresh _ => f.mForceRefresh = false → f.refreshing.steady f.shown = true
  | _ => True

instance instDecidableUndisturbed (f : ClockFace) : (e : FaceEvent) → Decidable (f.Undisturbed e)
  | .clear _ | .refresh _ => inferInstanceAs (Decidable (_ → _))
  | .enter | .exit | .look | .next => .isTrue trivial

structure Kept (f : ClockFace) : Prop where
  prev : f.prevMin = f.shown.elim (-1) fun last => (last.tm_min : Int)
  beside : ∀ method ∈ f.refreshing.pending, besideFace method = true
  shows : f.Owed ∨ f.refreshing.Shows f.shown f.digits

variable {f : ClockFace}

/-- Digits that show the last time show this one too, if its minute is the one the thread has kept. -/
theorem Kept.face_of_idle (kept : f.Kept) {now : Tm} (steady : (RefreshPoint.test now).steady f.shown = true)
    (same : (now.tm_min : Int) = f.prevMin) (drawn : ∀ last, f.shown = some last → f.digits = face last) :
    f.digits = face now := by
  have prev := kept.prev
  cases found : f.shown with
  | none =>
    rw [found] at prev
    have minute : (now.tm_min : Int) = -1 := same.trans prev
    omega
  | some last =>
    rw [found] at prev steady
    have minute : now.tm_min = last.tm_min := Int.ofNat.inj (same.trans prev)
    have hour : now.tm_hour = last.tm_hour := by simpa [RefreshPoint.steady, minute] using steady
    simp only [drawn last found, face, minute, hour]

/-- The keyboard thread leaves no redraw forgotten, and what it draws is owed. -/
theorem keyboardThread_owed {e : FaceEvent} (undisturbed : f.Undisturbed e) :
    (f.Owed → (f.keyboardThread e).Owed) ∧ ((f.keyboardThread e).Owed ∨ (f.keyboardThread e).digits = f.digits) := by
  cases e with
  | refresh read => exact ⟨id, .inr rfl⟩
  | enter =>
    simp only [keyboardThread]
    split
    · exact ⟨fun _ => .inr (.inl rfl), .inr rfl⟩
    · exact ⟨id, .inr rfl⟩
  | exit =>
    simp only [keyboardThread]
    split
    · exact ⟨fun _ => .inr (.inr (.inl rfl)), .inr rfl⟩
    · exact ⟨id, .inr rfl⟩
  | look =>
    simp only [keyboardThread]
    split
    · rename_i finds
      exact ⟨fun _ => .inr (.inl finds.2), .inr rfl⟩
    · exact ⟨id, .inr rfl⟩
  | clear method =>
    simp only [keyboardThread]
    split
    · rename_i editing
      have owed : (f.draw method).Owed := .inr (.inl (undisturbed editing))
      exact ⟨fun _ => owed, .inl owed⟩
    · exact ⟨id, .inr rfl⟩
  | next =>
    simp only [keyboardThread]
    cases point : f.pressing with
    | idle => exact ⟨id, .inr rfl⟩
    | editing =>
      refine ⟨fun owed => ?_, .inr rfl⟩
      simpa [Owed, point, KeyPoint.exits] using owed
    | exitState => exact ⟨fun _ => .inr (.inr (.inl rfl)), .inr rfl⟩
    | exitClear => exact ⟨fun _ => .inr (.inr (.inl rfl)), .inl (.inr (.inr (.inl rfl)))⟩
    | exitForce => exact ⟨fun _ => .inl rfl, .inr rfl⟩

theorem keyboardThread_keeps (e : FaceEvent) :
    (f.keyboardThread e).refreshing = f.refreshing ∧ (f.keyboardThread e).shown = f.shown ∧
      (f.keyboardThread e).prevMin = f.prevMin := by
  unfold keyboardThread
  repeat' split
  all_goals exact ⟨rfl, rfl, rfl⟩

theorem Kept.keyboard (kept : f.Kept) {e : FaceEvent} (undisturbed : f.Undisturbed e) : (f.keyboardThread e).Kept := by
  obtain ⟨point, shown, prev⟩ := @keyboardThread_keeps f e
  obtain ⟨owed, drawn⟩ := keyboardThread_owed undisturbed
  refine ⟨?_, ?_, ?_⟩
  · rw [prev, shown]
    exact kept.prev
  · rw [point]
    exact kept.beside
  · rw [point, shown]
    rcases drawn with now | same
    · exact .inl now
    · rw [same]
      exact kept.shows.imp_left owed

theorem Owed.elsewhere (owed : f.Owed) (inside : f.refreshing.exits = false) :
    f.mForceRefresh = true ∨ f.mDisplayState = .stEditAlarms ∨ f.pressing.exits = true := by
  rcases owed with force | edits | keys | leaves
  · exact .inl force
  · exact .inr (.inl edits)
  · exact .inr (.inr keys)
  · rw [inside] at leaves
    cases leaves

theorem owed_elsewhere {g : ClockFace}
    (still : g.mForceRefresh = true ∨ g.mDisplayState = .stEditAlarms ∨ g.pressing.exits = true) : g.Owed :=
  still.imp_right fun rest => rest.imp_right .inl

/-- Once a redraw is owed, every step of the refresh thread but one leaves it owed. -/
theorem refreshThread_owed (owed : f.Owed) (read : FaceRead) :
    (f.refreshThread read).Owed ∨ ∃ now, f.refreshing = .due now := by
  unfold refreshThread
  cases point : f.refreshing with
  | due now => exact .inr ⟨now, rfl⟩
  | exitState | exitClear => exact .inl (.inr (.inr (.inr rfl)))
  | exitForce => exact .inl (.inl rfl)
  | top | test now =>
    have still := owed.elsewhere (by rw [point]; rfl)
    left
    dsimp only
    split
    · exact owed_elsewhere still
    · exact owed_elsewhere still
  | hour now | colon now | minute now | radio now =>
    have still := owed.elsewhere (by rw [point]; rfl)
    exact .inl (owed_elsewhere still)
  | radioDraw now methods | infoDraw methods | edit methods =>
    have still := owed.elsewhere (by rw [point]; rfl)
    cases methods with
    | nil => exact .inl (owed_elsewhere still)
    | cons method rest => exact .inl (owed_elsewhere still)

/-- Where no redraw is owed, a step of the refresh thread keeps the digits as they are or draws the next of them. -/
theorem refreshThread_shows (kept : f.Kept) {read : FaceRead} (undisturbed : f.Undisturbed (.refresh read))
    (shows : f.refreshing.Shows f.shown f.digits) :
    (f.refreshThread read).Owed ∨
      (f.refreshThread read).refreshing.Shows (f.refreshThread read).shown (f.refreshThread read).digits := by
  have beside := kept.beside
  unfold refreshThread
  simp only [Undisturbed] at undisturbed
  cases point : f.refreshing with
  | top =>
    rw [point] at shows
    dsimp only
    split
    · exact .inr shows
    · rename_i state
      left
      right
      left
      show f.mDisplayState = .stEditAlarms
      cases shown : f.mDisplayState with
      | stNormal => exact absurd shown state
      | stEditAlarms => rfl
  | test now =>
    rw [point] at shows undisturbed
    dsimp only
    split
    · exact .inr trivial
    · rename_i idle
      right
      simp only [not_or, ne_eq, not_not] at idle
      obtain ⟨same, quiet⟩ := idle
      exact kept.face_of_idle (undisturbed (Bool.eq_false_iff.mpr quiet)) same shows
  | due now => exact .inr trivial
  | hour now => exact .inr rfl
  | colon now =>
    rw [point] at shows
    exact .inr ⟨shows, rfl⟩
  | minute now =>
    rw [point] at shows
    right
    obtain ⟨hour, colon⟩ := shows
    show Digits.mk f.digits.hour f.digits.colon _ = face now
    rw [hour, colon]
    rfl
  | radio now =>
    rw [point] at shows
    exact .inr shows
  | radioDraw now methods =>
    rw [point] at shows beside
    cases methods with
    | nil =>
      right
      intro last same
      cases same
      exact shows
    | cons method rest =>
      right
      exact (Digits.apply_besideFace _ (beside method List.mem_cons_self)).trans shows
  | infoDraw methods =>
    rw [point] at shows beside
    cases methods with
    | nil => exact .inr shows
    | cons method rest =>
      right
      intro last same
      exact (Digits.apply_besideFace _ (beside method List.mem_cons_self)).trans (shows last same)
  | edit methods =>
    rw [point] at shows
    cases shows
  | exitState | exitClear => exact .inl (.inr (.inr (.inr rfl)))
  | exitForce => exact .inl (.inl rfl)

theorem refreshThread_prev (kept : f.Kept) (read : FaceRead) :
    (f.refreshThread read).prevMin = (f.refreshThread read).shown.elim (-1) fun last => (last.tm_min : Int) := by
  have prev := kept.prev
  unfold refreshThread
  repeat' split
  all_goals first
    | exact prev
    | rfl

theorem refreshThread_beside (kept : f.Kept) (read : FaceRead) :
    ∀ method ∈ (f.refreshThread read).refreshing.pending, besideFace method = true := by
  have beside := kept.beside
  have nothing : ∀ method ∈ ([] : List Method), besideFace method = true := nofun
  unfold refreshThread
  cases point : f.refreshing with
  | radio now => exact read.info.radioMethods_besideFace _
  | radioDraw now methods =>
    rw [point] at beside
    cases methods with
    | nil =>
      intro method member
      rw [List.mem_singleton.mp member]
      exact read.info.updateAlarmInfo_besideFace
    | cons method rest => exact fun later member => beside later (List.mem_cons_of_mem _ member)
  | infoDraw methods =>
    rw [point] at beside
    cases methods with
    | nil => exact nothing
    | cons method rest => exact fun later member => beside later (List.mem_cons_of_mem _ member)
  | edit methods =>
    cases methods with
    | nil => cases read.timeout <;> exact nothing
    | cons method rest => exact nothing
  | top | test now =>
    dsimp only
    split
    · exact nothing
    · exact nothing
  | due | hour | colon | minute | exitState | exitClear | exitForce => exact nothing

theorem Kept.step (kept : f.Kept) {e : FaceEvent} (undisturbed : f.Undisturbed e) : (f.step e).Kept := by
  cases e with
  | refresh read =>
    refine ⟨refreshThread_prev kept read, refreshThread_beside kept read, ?_⟩
    rcases kept.shows with owed | shows
    · rcases refreshThread_owed owed read with still | ⟨now, point⟩
      · exact .inl still
      · right
        simp only [ClockFace.step, refreshThread, point]
        trivial
    · exact refreshThread_shows kept undisturbed shows
  | enter | exit | look | clear | next => exact kept.keyboard undisturbed

/-! ### A pass -/

/-- Some steps of the refresh thread, by itself, lead from one state to another. -/
def Reaches (read : FaceRead) (f g : ClockFace) : Prop := ∃ n, (refreshThread · read)^[n] f = g

variable {read : FaceRead} {now : Tm} {g : ClockFace}

theorem Reaches.next (later : Reaches read (f.refreshThread read) g) : Reaches read f g := by
  obtain ⟨n, rfl⟩ := later
  exact ⟨n + 1, Function.iterate_succ_apply _ n f⟩

theorem radioDraw_reaches {methods : List Method} (beside : ∀ method ∈ methods, besideFace method = true)
    (later : Reaches read { f with refreshing := .radioDraw now [] } g) :
    Reaches read { f with refreshing := .radioDraw now methods } g := by
  induction methods with
  | nil => exact later
  | cons method rest ih =>
    apply Reaches.next
    simp only [refreshThread, draw, Digits.apply_besideFace _ (beside method List.mem_cons_self)]
    exact ih fun later member => beside later (List.mem_cons_of_mem _ member)

/-- What follows the digits draws beside them, and the pass comes to its end. -/
theorem radio_reaches (f : ClockFace) (now : Tm) : Reaches read { f with refreshing := .radio now }
    { f with prevMin := now.tm_min, prevSec := now.tm_sec, shown := some now, refreshing := .top } := by
  apply Reaches.next
  refine radioDraw_reaches (f := f) (read.info.radioMethods_besideFace _) ?_
  refine ⟨3, ?_⟩
  simp only [Function.iterate_succ_apply, Function.iterate_zero_apply, refreshThread, draw,
    Digits.apply_besideFace _ read.info.updateAlarmInfo_besideFace]

/-- A pass that finds another minute, or is asked for a redraw, draws all three texts. -/
theorem due_reaches (f : ClockFace) (now : Tm) : Reaches read { f with refreshing := .due now }
    { f with
      mForceRefresh := false
      prevMin := now.tm_min
      prevSec := now.tm_sec
      digits := face now
      shown := some now
      refreshing := .top } := by
  obtain ⟨n, ends⟩ := @radio_reaches read { f with mForceRefresh := false, digits := face now } now
  exact ((Reaches.next ⟨n, ends⟩).next.next).next

/-- The display after a pass that nothing comes between. -/
def passed (f : ClockFace) (now : Tm) : ClockFace :=
  { f with
    mForceRefresh := false
    prevMin := now.tm_min
    prevSec := now.tm_sec
    digits := face now
    shown := some now
    refreshing := .top }

theorem Kept.digits (kept : f.Kept) (top : f.refreshing = .top) (left : f.pressing.exits = false)
    (normal : f.mDisplayState = .stNormal) (quiet : f.mForceRefresh = false) :
    ∀ now, f.shown = some now → f.digits = face now := by
  rcases kept.shows with owed | shows
  · simp [Owed, top, left, normal, quiet, RefreshPoint.exits] at owed
  · rw [top] at shows
    exact shows

theorem Kept.pass (kept : f.Kept) (top : f.refreshing = .top) (left : f.pressing.exits = false)
    (normal : f.mDisplayState = .stNormal)
    (steady : f.mForceRefresh = false → (RefreshPoint.test read.time).steady f.shown = true) :
    Reaches read f (f.passed read.time) := by
  have starts : f.refreshThread read = { f with refreshing := .test read.time } := by
    unfold refreshThread
    rw [top]
    exact if_pos normal
  apply Reaches.next
  rw [starts]
  apply Reaches.next
  by_cases due : (read.time.tm_min : Int) ≠ f.prevMin ∨ f.mForceRefresh = true
  · have draws : refreshThread { f with refreshing := .test read.time } read = { f with refreshing := .due read.time } :=
      if_pos due
    rw [draws]
    exact due_reaches f read.time
  · have skips : refreshThread { f with refreshing := .test read.time } read = { f with refreshing := .radio read.time } :=
      if_neg due
    simp only [not_or, ne_eq, not_not] at due
    obtain ⟨same, asked⟩ := due
    have quiet := Bool.eq_false_iff.mpr asked
    have stays := kept.face_of_idle (steady quiet) same (kept.digits top left normal quiet)
    have ends : f.passed read.time =
        { f with prevMin := read.time.tm_min, prevSec := read.time.tm_sec, shown := some read.time, refreshing := .top } := by
      simp only [passed, quiet, stays]
    rw [skips, ends]
    exact radio_reaches f read.time

/-- In whatever order the two threads have taken their steps, while every method of the display reaches it: between two
passes, with the keyboard thread out of `exitEditAlarms`, the display shows the time of the last pass unless a redraw is asked
for; and the next pass shows its own time in any case. -/
theorem clock_face_current (events : List FaceEvent) (undisturbed : Meets step Undisturbed {} events) :
    let f := run step {} events
    f.refreshing = .top → f.pressing.exits = false → f.mDisplayState = .stNormal →
      (f.mForceRefresh = false → ∀ now, f.shown = some now → f.digits = face now) ∧
        ∀ read : FaceRead, (f.mForceRefresh = false → (RefreshPoint.test read.time).steady f.shown = true) →
          Reaches read f (f.passed read.time) := by
  intro f top left normal
  have start : Kept {} := ⟨rfl, nofun, .inr nofun⟩
  have kept : f.Kept :=
    @run_keeps _ _ step Undisturbed Kept (fun _ _ holds ok => Kept.step holds ok) _ _ start undisturbed
  exact ⟨kept.digits top left normal, fun read steady => kept.pass top left normal steady⟩

def passes (n : Nat) (read : FaceRead) : List FaceEvent := List.replicate n (.refresh read)

/-- In the middle of a pass the editor is opened, and in the middle of the next one it is closed again. -/
def editorSteps : List FaceEvent :=
  passes 5 { time := ⟨12, 34, 0⟩ } ++ [.enter, .clear (.rectangle 0 0 163 63 false true)] ++ passes 9 {} ++ [.next] ++
    passes 1 {} ++ [.exit, .next, .next] ++ passes 1 {} ++ [.next]

theorem clock_face_after_editor :
    Reaches { time := ⟨12, 34, 1⟩ } (run step {} editorSteps) ((run step {} editorSteps).passed ⟨12, 34, 1⟩) :=
  (clock_face_current editorSteps (by decide) rfl rfl rfl).2 _ fun quiet => absurd quiet (by decide)

/-- The editor is left on its own, after too long a time. A handler that had found it open clears the display when the clock
has been drawn already, and the clock stays away until the minute is over. -/
example :
    let read : FaceRead := { time := ⟨12, 34, 0⟩, timeout := true }
    let f := run step {} (passes 14 read ++ [.enter, .next] ++ passes 1 read ++ [.look] ++ passes 18 read ++
      [.clear (.rectangle 0 0 163 63 false true), .next] ++ passes 10 read)
    f.pressing = .idle ∧ f.mDisplayState = .stNormal ∧ f.mForceRefresh = false ∧ f.shown = some ⟨12, 34, 0⟩ ∧
      f.digits = {} := by
  decide

end ClockFace

end RgbClock.Units
