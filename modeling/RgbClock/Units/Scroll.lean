import RgbClock.Dab.Packets
import RgbClock.Lcd.Driver
import RgbClock.Lib.Run

/-! The text line of the radio: `radioDABUpdate` stores a text and `drawRDS` moves a window over it, two
characters with every call. The window is 26 characters wide; the display takes 20 of them. -/

namespace RgbClock.Units
open Dab Lcd

def STATION_WIDTH : Nat := 7
def WINDOW_WIDTH : Nat := 26
def WINDOW_STEP : Nat := 2

def pad (text : List UInt8) (width : Nat) : List UInt8 := text ++ List.replicate (width - text.length) 32

/-- What `ClockDisplay` keeps of the radio. -/
structure RadioText where
  mRDSStationName : List UInt8 := []
  mRDSText : List UInt8 := []
  mRDSTextPos : Nat := 0
  mReceiveLevel : Int := 0

namespace RadioText

def radioDABUpdate (d : RadioText) (rdsInfo : DABInfo) : RadioText where
  mRDSStationName :=
    if d.mRDSStationName ≠ rdsInfo.StationName then pad (rdsInfo.StationName.take STATION_WIDTH) STATION_WIDTH
    else d.mRDSStationName
  mRDSText := if d.mRDSText ≠ rdsInfo.Info then rdsInfo.Info else d.mRDSText
  mRDSTextPos := if d.mRDSText ≠ rdsInfo.Info then 0 else d.mRDSTextPos
  mReceiveLevel := rdsInfo.ReceiveLevel

/-- The methods of the display that `drawRDS` calls; `none` where `substr` throws. -/
def drawRDS (d : RadioText) : Option (RadioText × List Method) :=
  let station := Method.writeGraphicText 0 14 d.mRDSStationName .Terminal8 0
  if d.mRDSText.length > 0 then
    if d.mRDSTextPos ≤ d.mRDSText.length then
      let localRDSText := d.mRDSText.drop d.mRDSTextPos
      if localRDSText.length > WINDOW_WIDTH then
        some ({ d with mRDSTextPos := d.mRDSTextPos + WINDOW_STEP },
          [station, .writeGraphicText 0 24 (localRDSText.take WINDOW_WIDTH) .Terminal8 0])
      else
        some ({ d with mRDSTextPos := 0 }, [station, .writeGraphicText 0 24 (pad localRDSText WINDOW_WIDTH) .Terminal8 0])
    else none
  else some (d, [station, .writeGraphicText 0 24 [] .Terminal8 0])

/-- The display after a number of calls of `drawRDS`. -/
def after (d : RadioText) : Nat → Option RadioText
  | 0 => some d
  | k + 1 => (d.after k).bind fun now => now.drawRDS.map Prod.fst

/-- The call after `k` others sends a frame for row 24 whose text has this character of the radio text. -/
def Sends (d : RadioText) (k i : Nat) : Prop :=
  ∃ now next methods, d.after k = some now ∧ now.drawRDS = some (next, methods) ∧
    ∃ method ∈ methods, method.frame[0]? = some LCD_WRITE_TEXT ∧ method.frame[3]? = some 24 ∧
      now.mRDSTextPos ≤ i ∧ i - now.mRDSTextPos < (method.frame.drop 5).length ∧
      (method.frame.drop 5)[i - now.mRDSTextPos]? = d.mRDSText[i]?

/-- The calls up to the first that leaves the window at the start of the text again. -/
def Cycle (d : RadioText) (calls : Nat) : Prop :=
  0 < calls ∧ (d.after calls).map mRDSTextPos = some 0 ∧
    ∀ k, 0 < k → k < calls → (d.after k).map mRDSTextPos ≠ some 0

/-- The window comes back to the start, and by then every character has been sent. -/
def ShowsAll (d : RadioText) : Prop :=
  ∃ calls, d.Cycle calls ∧ ∀ i < d.mRDSText.length, ∃ k < calls, d.Sends k i

/-! ### One call -/

variable {d : RadioText}

/-- The method that `drawRDS` calls for row 24. -/
def line (text : List UInt8) : Method := .writeGraphicText 0 24 text .Terminal8 0

theorem drop_line (text : List UInt8) : (line text).frame.drop 5 = text.take MAX_TEXT_SIZE := rfl

theorem drawRDS_moves (more : WINDOW_WIDTH < d.mRDSText.length - d.mRDSTextPos) :
    d.drawRDS = some ({ d with mRDSTextPos := d.mRDSTextPos + WINDOW_STEP },
      [.writeGraphicText 0 14 d.mRDSStationName .Terminal8 0, line ((d.mRDSText.drop d.mRDSTextPos).take WINDOW_WIDTH)]) := by
  have some : d.mRDSText.length > 0 := by omega
  have inside : d.mRDSTextPos ≤ d.mRDSText.length := by omega
  have wide : (d.mRDSText.drop d.mRDSTextPos).length > WINDOW_WIDTH := by
    rw [List.length_drop]
    exact more
  unfold drawRDS
  dsimp only
  rw [if_pos some, if_pos inside, if_pos wide]
  rfl

theorem drawRDS_returns (inside : d.mRDSTextPos ≤ d.mRDSText.length)
    (last : d.mRDSText.length - d.mRDSTextPos ≤ WINDOW_WIDTH) :
    ∃ text, d.drawRDS = some ({ d with mRDSTextPos := 0 },
      [.writeGraphicText 0 14 d.mRDSStationName .Terminal8 0, line text]) ∧
      ∀ i < (d.mRDSText.drop d.mRDSTextPos).length, text[i]? = (d.mRDSText.drop d.mRDSTextPos)[i]? := by
  unfold drawRDS
  dsimp only
  by_cases filled : d.mRDSText.length > 0
  · have narrow : ¬ (d.mRDSText.drop d.mRDSTextPos).length > WINDOW_WIDTH := by
      rw [List.length_drop]
      omega
    rw [if_pos filled, if_pos inside, if_neg narrow]
    refine ⟨_, rfl, fun i bound => ?_⟩
    exact List.getElem?_append_left bound
  · have start : d.mRDSTextPos = 0 := by omega
    rw [if_neg filled]
    refine ⟨[], ?_, fun i bound => ?_⟩
    · rw [← start]
      rfl
    · rw [List.length_drop] at bound
      omega

/-- The row of the station name is another one. -/
theorem sends_iff {k i : Nat} {now next : RadioText} {text : List UInt8} (reached : d.after k = some now)
    (drawn : now.drawRDS = some (next, [.writeGraphicText 0 14 now.mRDSStationName .Terminal8 0, line text])) :
    d.Sends k i ↔ now.mRDSTextPos ≤ i ∧ i - now.mRDSTextPos < (text.take MAX_TEXT_SIZE).length ∧
      (text.take MAX_TEXT_SIZE)[i - now.mRDSTextPos]? = d.mRDSText[i]? := by
  constructor
  · intro given
    obtain ⟨_, _, methods, also, called, method, member, -, row, sent⟩ := given
    cases reached.symm.trans also
    cases drawn.symm.trans called
    obtain rfl | here := List.mem_cons.mp member
    · have other : some (14 : UInt8) = some 24 := row
      exact absurd other (by decide)
    · rw [List.mem_singleton.mp here, drop_line] at sent
      exact sent
  · intro given
    exact ⟨now, next, _, reached, drawn, line text, List.mem_cons_of_mem _ List.mem_cons_self, rfl, rfl, given⟩

/-! ### One cycle -/

/-- How often the window moves before it returns. -/
def moves (d : RadioText) : Nat := (d.mRDSText.length - WINDOW_WIDTH + 1) / WINDOW_STEP

theorem after_moves (start : d.mRDSTextPos = 0) {k : Nat} (few : k ≤ d.moves) :
    d.after k = some { d with mRDSTextPos := WINDOW_STEP * k } := by
  unfold moves WINDOW_WIDTH WINDOW_STEP at few
  induction k with
  | zero =>
    rw [after, Nat.mul_zero, ← start]
  | succ k ih =>
    rw [after, ih (by omega), Option.bind_some, drawRDS_moves (by simp only [WINDOW_WIDTH, WINDOW_STEP]; omega)]
    rfl

/-- Each call of a cycle draws some part of the text. -/
theorem drawRDS_at {k : Nat} (few : k ≤ d.moves) :
    ∃ next text, ({ d with mRDSTextPos := WINDOW_STEP * k } : RadioText).drawRDS = some (next,
      [.writeGraphicText 0 14 d.mRDSStationName .Terminal8 0, line text]) := by
  unfold moves WINDOW_WIDTH WINDOW_STEP at few
  by_cases more : WINDOW_WIDTH < d.mRDSText.length - WINDOW_STEP * k
  · exact ⟨_, _, @drawRDS_moves { d with mRDSTextPos := WINDOW_STEP * k } more⟩
  · obtain ⟨text, drawn, -⟩ := @drawRDS_returns { d with mRDSTextPos := WINDOW_STEP * k }
      (by simp only [WINDOW_STEP]; omega) (Nat.not_lt.mp more)
    exact ⟨_, text, drawn⟩

/-- The window is back after as many calls as it moves, and one. -/
theorem cycle_moves (start : d.mRDSTextPos = 0) : d.Cycle (d.moves + 1) := by
  have ends : d.mRDSText.length - WINDOW_STEP * d.moves ≤ WINDOW_WIDTH ∧ WINDOW_STEP * d.moves ≤ d.mRDSText.length := by
    unfold moves WINDOW_WIDTH WINDOW_STEP
    omega
  refine ⟨Nat.succ_pos _, ?_, fun k positive below => ?_⟩
  · obtain ⟨text, drawn, -⟩ := @drawRDS_returns { d with mRDSTextPos := WINDOW_STEP * d.moves } ends.2 ends.1
    rw [after, after_moves start (Nat.le_refl _), Option.bind_some, drawn]
    rfl
  · rw [after_moves start (by omega)]
    intro same
    have zero : WINDOW_STEP * k = 0 := Option.some.inj same
    unfold WINDOW_STEP at zero
    omega

theorem Cycle.short {calls : Nat} (start : d.mRDSTextPos = 0) (cycle : d.Cycle calls) : calls ≤ d.moves + 1 := by
  obtain ⟨-, -, away⟩ := cycle
  by_contra longer
  exact away (d.moves + 1) (Nat.succ_pos _) (by omega) (cycle_moves start).2.1

/-- What stands behind the part that the display takes of the last window is in no frame. -/
theorem not_sends_last (start : d.mRDSTextPos = 0) (long : MAX_TEXT_SIZE < d.mRDSText.length) {k : Nat}
    (few : k ≤ d.moves) : ¬ d.Sends k (d.mRDSText.length - 1) := by
  obtain ⟨next, text, drawn⟩ := drawRDS_at few
  rw [sends_iff (after_moves start few) drawn, List.length_take]
  unfold moves WINDOW_WIDTH WINDOW_STEP at few
  unfold MAX_TEXT_SIZE at long
  simp only [WINDOW_STEP, MAX_TEXT_SIZE]
  omega

theorem sends_short (start : d.mRDSTextPos = 0) (short : d.mRDSText.length ≤ MAX_TEXT_SIZE) {i : Nat}
    (inside : i < d.mRDSText.length) : d.Sends 0 i := by
  have whole : d.mRDSText.drop d.mRDSTextPos = d.mRDSText := by rw [start, List.drop_zero]
  obtain ⟨text, drawn, same⟩ := @drawRDS_returns d (by omega) (by unfold MAX_TEXT_SIZE at short; unfold WINDOW_WIDTH; omega)
  have here : (text.take MAX_TEXT_SIZE)[i]? = d.mRDSText[i]? := by
    rw [whole] at same
    rw [List.getElem?_take_of_lt (by omega), same i inside]
  rw [sends_iff rfl drawn, start, Nat.sub_zero]
  refine ⟨Nat.zero_le i, ?_, here⟩
  rw [List.getElem?_eq_getElem inside] at here
  exact (List.getElem?_eq_some_iff.mp here).1

theorem radioDABUpdate_mRDSText (d : RadioText) (rdsInfo : DABInfo) :
    (d.radioDABUpdate rdsInfo).mRDSText = rdsInfo.Info := by
  unfold radioDABUpdate
  dsimp only
  split
  · rfl
  · rename_i same
    exact not_not.mp same

/-- A text that was received is shown as a whole exactly if the display takes it at once. The window comes
back to its start for every text. -/
theorem showsAll_iff (d : RadioText) (rdsInfo : DABInfo) (start : (d.radioDABUpdate rdsInfo).mRDSTextPos = 0) :
    ((d.radioDABUpdate rdsInfo).ShowsAll ↔ rdsInfo.Info.length ≤ MAX_TEXT_SIZE) ∧
      ∃ calls, (d.radioDABUpdate rdsInfo).Cycle calls := by
  refine ⟨?_, _, cycle_moves start⟩
  have text := radioDABUpdate_mRDSText d rdsInfo
  rw [← text]
  constructor
  · intro given
    obtain ⟨calls, cycle, all⟩ := given
    by_contra long
    obtain ⟨k, below, sent⟩ := all ((d.radioDABUpdate rdsInfo).mRDSText.length - 1) (by omega)
    have short := cycle.short start
    exact not_sends_last start (by omega) (by omega) sent
  · intro short
    exact ⟨_, cycle_moves start, fun i inside => ⟨0, Nat.succ_pos _, sends_short start short inside⟩⟩

/-- Of 21 characters the last one is never sent. -/
theorem last_character_not_shown :
    ¬ ∀ (d : RadioText) (rdsInfo : DABInfo), (d.radioDABUpdate rdsInfo).mRDSTextPos = 0 →
      (d.radioDABUpdate rdsInfo).ShowsAll := by
  intro always
  obtain ⟨calls, cycle, all⟩ := always {} ⟨[], List.replicate 21 65, 0⟩ (by decide)
  obtain ⟨k, below, sent⟩ := all 20 (by decide)
  have few := Nat.lt_of_lt_of_le below (cycle.short (by decide))
  exact not_sends_last (by decide) (by decide) (Nat.le_of_lt_succ few) sent

theorem twenty_characters_are_shown :
    (({} : RadioText).radioDABUpdate ⟨[], List.replicate 20 65, 0⟩).ShowsAll ∧
      ¬ (({} : RadioText).radioDABUpdate ⟨[], List.replicate 40 65, 0⟩).ShowsAll :=
  ⟨(showsAll_iff {} ⟨[], List.replicate 20 65, 0⟩ (by decide)).1.mpr (by decide),
    fun shown => absurd ((showsAll_iff {} ⟨[], List.replicate 40 65, 0⟩ (by decide)).1.mp shown) (by decide)⟩

/-! ### Updates and calls in any order -/

inductive Event where
  | radioDABUpdate (rdsInfo : DABInfo)
  | drawRDS

def step (d : RadioText) : Event → Option RadioText
  | .radioDABUpdate rdsInfo => some (d.radioDABUpdate rdsInfo)
  | .drawRDS => d.drawRDS.map Prod.fst

/-- The counts with which an event calls `append`, as differences that may be negative. -/
def appends (d : RadioText) : Event → List Int
  | .radioDABUpdate rdsInfo =>
    if d.mRDSStationName ≠ rdsInfo.StationName then
      [(STATION_WIDTH : Int) - (rdsInfo.StationName.take STATION_WIDTH).length]
    else []
  | .drawRDS =>
    let localRDSText := d.mRDSText.drop d.mRDSTextPos
    if d.mRDSText.length > 0 then
      if localRDSText.length > WINDOW_WIDTH then [] else [(WINDOW_WIDTH : Int) - localRDSText.length]
    else []

def Inside (d : RadioText) : Prop := d.mRDSTextPos ≤ d.mRDSText.length

def Named (d : RadioText) : Prop := d.mRDSStationName.length = STATION_WIDTH

theorem pad_length {text : List UInt8} {width : Nat} (short : text.length ≤ width) : (pad text width).length = width := by
  rw [pad, List.length_append, List.length_replicate]
  omega

theorem radioDABUpdate_inside (inside : d.Inside) (rdsInfo : DABInfo) : (d.radioDABUpdate rdsInfo).Inside := by
  unfold Inside radioDABUpdate
  dsimp only
  split
  · exact Nat.zero_le _
  · exact inside

/-- A name that is new is cut or padded. -/
theorem radioDABUpdate_new {rdsInfo : DABInfo} (new : d.mRDSStationName ≠ rdsInfo.StationName) :
    (d.radioDABUpdate rdsInfo).Named := by
  unfold Named radioDABUpdate
  dsimp only
  rw [if_pos new]
  exact pad_length (List.length_take_le _ _)

theorem radioDABUpdate_named (named : d.Named) (rdsInfo : DABInfo) : (d.radioDABUpdate rdsInfo).Named := by
  by_cases new : d.mRDSStationName ≠ rdsInfo.StationName
  · exact radioDABUpdate_new new
  · unfold Named radioDABUpdate
    dsimp only
    rw [if_neg new]
    exact named

/-- Within the text, `drawRDS` leaves the window within the text, and the name as it is. -/
theorem drawRDS_inside (inside : d.Inside) :
    ∃ next methods, d.drawRDS = some (next, methods) ∧ next.Inside ∧ next.mRDSStationName = d.mRDSStationName := by
  by_cases more : WINDOW_WIDTH < d.mRDSText.length - d.mRDSTextPos
  · refine ⟨_, _, drawRDS_moves more, ?_, rfl⟩
    show d.mRDSTextPos + WINDOW_STEP ≤ d.mRDSText.length
    unfold WINDOW_WIDTH at more
    unfold WINDOW_STEP
    omega
  · obtain ⟨text, drawn, -⟩ := drawRDS_returns inside (Nat.not_lt.mp more)
    exact ⟨_, _, drawn, Nat.zero_le _, rfl⟩

theorem step_inside (inside : d.Inside) (e : Event) :
    ∃ next, d.step e = some next ∧ next.Inside ∧ (d.Named → next.Named) := by
  cases e with
  | radioDABUpdate rdsInfo =>
    exact ⟨_, rfl, radioDABUpdate_inside inside rdsInfo, fun named => radioDABUpdate_named named rdsInfo⟩
  | drawRDS =>
    obtain ⟨next, methods, drawn, stays, name⟩ := drawRDS_inside inside
    refine ⟨next, ?_, stays, fun named => ?_⟩
    · rw [step, drawn]
      rfl
    · rw [Named, name]
      exact named

theorem appends_nonneg (d : RadioText) (e : Event) : ∀ count ∈ d.appends e, 0 ≤ count := by
  intro count called
  cases e with
  | radioDABUpdate rdsInfo =>
    have short := List.length_take_le STATION_WIDTH rdsInfo.StationName
    rw [appends] at called
    split at called
    · rw [List.mem_singleton.mp called]
      omega
    · cases called
  | drawRDS =>
    rw [appends] at called
    split at called
    · split at called
      · cases called
      · rename_i narrow
        rw [List.mem_singleton.mp called]
        omega
    · cases called

theorem run_inside (inside : d.Inside) (events : List Event) :
    ∃ last, events.foldlM step d = some last ∧ last.Inside ∧ (d.Named → last.Named) := by
  apply @Runs.foldlM_keeps _ _ fun now : RadioText => now.Inside ∧ (d.Named → now.Named)
  · intro now e _ holds
    obtain ⟨next, taken, stays, kept⟩ := step_inside holds.1 e
    exact ⟨next, taken, stays, fun named => kept (holds.2 named)⟩
  · exact ⟨inside, fun named => named⟩

/-- Whatever comes in whatever order, `drawRDS` starts within the text, so that `substr` does not throw; the
name of the station has its width from the first new name on, and no count of `append` is negative. -/
theorem window_stays_inside (events : List Event) :
    ∃ d, events.foldlM step {} = some d ∧ d.mRDSTextPos ≤ d.mRDSText.length ∧
      (∀ first rdsInfo rest before, events = first ++ .radioDABUpdate rdsInfo :: rest →
        first.foldlM step {} = some before → before.mRDSStationName ≠ rdsInfo.StationName →
        d.mRDSStationName.length = 7) ∧
      ∀ e, ∀ count ∈ d.appends e, 0 ≤ count := by
  have empty : Inside {} := Nat.le_refl 0
  obtain ⟨d, run, inside, -⟩ := run_inside empty events
  refine ⟨d, run, inside, fun first rdsInfo rest before split reached new => ?_, d.appends_nonneg⟩
  obtain ⟨other, again, within, -⟩ := run_inside empty first
  cases reached.symm.trans again
  -- From the new name on.
  obtain ⟨last, later, -, named⟩ := run_inside (radioDABUpdate_inside within rdsInfo) rest
  have whole : events.foldlM step {} = some last := by
    rw [split, List.foldlM_append, reached]
    exact later
  cases run.symm.trans whole
  exact named (radioDABUpdate_new new)

end RadioText

end RgbClock.Units
