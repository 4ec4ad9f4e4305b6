import RgbClock.Lcd.Driver
import RgbClock.Lib.Run

/-!
Which frames reach the display. The ready poll and the write of a method are two bus
transactions, and nothing holds `mDisplayMutex` between them, so another host thread may
write its own frame in the gap; and a frame without text is taken for one that is too
short. `delivered_iff` states exactly when every frame becomes the call it asks for.
-/

namespace RgbClock.Lcd
open Runs

def Method.withoutText : Method → Prop
  | .writeGraphicText _ _ text _ _ => text = []
  | _ => False

instance instDecidableWithoutText (method : Method) : Decidable method.withoutText := by
  unfold Method.withoutText
  split
  · infer_instance
  · exact isFalse id

variable {τ : Type} [DecidableEq τ]

theorem byteOfBool_ne_zero (b : Bool) : decide (byteOfBool b ≠ 0) = b := by
  cases b <;> rfl

/-- A ready driver holds a frame that fits with all its bytes. -/
theorem receive_holds {d : LcdDriver} (ready : d.commandProcessed = true) {command : UInt8} {bytes : List UInt8}
    (nonzero : command > 0) (fits : bytes.length ≤ MAX_DATA_SIZE) :
    ∃ rest, (d.receiveEvent (command :: bytes)).receivedCommandData = bytes ++ rest ∧
      (d.receiveEvent (command :: bytes)).receivedCommand = command ∧
      (d.receiveEvent (command :: bytes)).receivedCommandLength = bytes.length := by
  refine ⟨d.receivedCommandData.drop bytes.length, ?_⟩
  have length : min bytes.length MAX_DATA_SIZE = bytes.length := Nat.min_eq_left fits
  simp only [LcdDriver.receiveEvent, ready, nonzero, if_true, LcdDriver.storeData, List.take_of_length_le fits, length,
    and_self]

theorem dispatch_writeText {d : LcdDriver} {size col row clearLength : UInt8} {text rest : List UInt8}
    (command : d.receivedCommand = LCD_WRITE_TEXT)
    (data : d.receivedCommandData = (size :: col :: row :: clearLength :: text) ++ rest)
    (length : d.receivedCommandLength = (size :: col :: row :: clearLength :: text).length) :
    d.dispatch = if text = [] then none else some (.lcdWriteText size col row clearLength text) := by
  have payload : (d.receivedCommandData.take d.receivedCommandLength).drop 4 = text := by
    rw [data, length, List.take_left]
    rfl
  have other : LCD_WRITE_TEXT ≠ LCD_RESET ∧ LCD_WRITE_TEXT ≠ LCD_CLEAR_SCREEN ∧ LCD_WRITE_TEXT ≠ LCD_CLEAR_REGION := by
    decide
  have long : d.receivedCommandLength ≥ 5 ↔ text ≠ [] := by
    rw [length, ← List.length_pos_iff]
    simp only [List.length_cons]
    omega
  simp only [LcdDriver.dispatch, command, other, if_false, if_true, payload, long]
  by_cases empty : text = []
  · rw [if_pos empty, if_neg (not_not_intro empty)]
  · rw [if_neg empty, if_pos empty, data]
    rfl

theorem dispatch_rectangle {d : LcdDriver} {x1 y1 x2 y2 set fill : UInt8} {rest : List UInt8}
    (command : d.receivedCommand = LCD_RECTANGLE) (data : d.receivedCommandData = [x1, y1, x2, y2, set, fill] ++ rest)
    (length : d.receivedCommandLength = 6) :
    d.dispatch = some (.lcdRectangle x1 y1 x2 y2 (set ≠ 0) (fill ≠ 0)) := by
  have other : LCD_RECTANGLE ≠ LCD_RESET ∧ LCD_RECTANGLE ≠ LCD_CLEAR_SCREEN ∧ LCD_RECTANGLE ≠ LCD_CLEAR_REGION ∧
      LCD_RECTANGLE ≠ LCD_WRITE_TEXT := by
    decide
  have long : d.receivedCommandLength ≥ 5 := by omega
  simp only [LcdDriver.dispatch, command, other, if_false, if_true, long, data]
  rfl

theorem dispatch_clear {d : LcdDriver} (command : d.receivedCommand = LCD_CLEAR_SCREEN) :
    d.dispatch = some .lcdClearScreen := by
  have other : LCD_CLEAR_SCREEN ≠ LCD_RESET := by decide
  simp only [LcdDriver.dispatch, command, other, if_false, if_true]

/-- A frame that a ready driver accepts is decoded to the call that it asks for, unless it has no text. -/
theorem receive_dispatch {d : LcdDriver} (ready : d.commandProcessed = true) (method : Method) :
    (d.receiveEvent method.frame).dispatch = if method.withoutText then none else some method.request := by
  cases method with
  | clearGraphicDisplay =>
    have fits : ([] : List UInt8).length ≤ MAX_DATA_SIZE := Nat.zero_le _
    obtain ⟨-, -, command, -⟩ := receive_holds ready (show LCD_CLEAR_SCREEN > 0 by decide) fits
    exact (dispatch_clear command).trans (if_neg id).symm
  | rectangle col1 row1 col2 row2 set fill =>
    have fits : [col1, row1, col2, row2, byteOfBool set, byteOfBool fill].length ≤ MAX_DATA_SIZE := by
      simp [MAX_DATA_SIZE]
    obtain ⟨rest, data, command, length⟩ := receive_holds ready (show LCD_RECTANGLE > 0 by decide) fits
    rw [Method.frame, dispatch_rectangle command data length, byteOfBool_ne_zero, byteOfBool_ne_zero]
    exact (if_neg id).symm
  | writeGraphicText col row text font clearLength =>
    have size : (if font = .Verdana20 then 2 else 1) = font.size := by cases font <;> rfl
    have fits : (font.size :: col :: row :: byteOfInt clearLength :: text.take MAX_TEXT_SIZE).length ≤ MAX_DATA_SIZE := by
      simp only [List.length_cons, List.length_take, MAX_TEXT_SIZE, MAX_DATA_SIZE]
      omega
    have cut : text.take MAX_TEXT_SIZE = [] ↔ text = [] := by
      simp [MAX_TEXT_SIZE]
    obtain ⟨rest, data, command, length⟩ := receive_holds ready (show LCD_WRITE_TEXT > 0 by decide) fits
    rw [Method.frame, size, dispatch_writeText command data length]
    exact if_congr cut rfl rfl

namespace Link

/-- Four statements bring `loop` from any point back to its test with nothing left to do. -/
def settle (l : Link τ) : Link τ := l.loop.loop.loop.loop

/-- Once the driver has finished what it holds, it has executed every written frame, once,
with its own bytes and in the order written, and has made the calls that these ask for. -/
def Delivered (l : Link τ) : Prop := l.settle.executed = l.written ∧ l.settle.calls = l.requested

/-- The step writes no frame to a driver that still has one to execute, and none without text. -/
def WritesWell (l : Link τ) : Event τ → Prop
  | .write thread =>
    match l.threads thread with
    | .ready method => l.driver.commandProcessed = true ∧ ¬ method.withoutText
    | _ => True
  | _ => True

instance (l : Link τ) (event : Event τ) : Decidable (l.WritesWell event) := by
  unfold WritesWell
  split
  · split <;> infer_instance
  · exact isTrue trivial

def FlagsAgree (l : Link τ) : Prop :=
  match l.pc with
  | .test => l.driver.commandReceived = !l.driver.commandProcessed
  | .switch | .clearReceived => l.driver.commandReceived = true ∧ l.driver.commandProcessed = false
  | .setProcessed => l.driver.commandReceived = false ∧ l.driver.commandProcessed = false

/-- The driver has a frame that its loop has not acted on. -/
def holds (l : Link τ) : Bool :=
  match l.pc with
  | .test | .switch => l.driver.commandReceived
  | _ => false

def accepted (l : Link τ) : List Frame := l.executed ++ if l.holds then [l.driver.current] else []

/-- The calls that are made and the one that the frame in the driver will become. -/
def made (l : Link τ) : List LcdCall := l.calls ++ if l.holds then l.driver.dispatch.toList else []

omit [DecidableEq τ] in
theorem settle_eq (l : Link τ) (flags : l.FlagsAgree) : l.settle.executed = l.accepted ∧ l.settle.calls = l.made := by
  obtain ⟨threads, ⟨received, processed, command, data, length⟩, pc, written, requested, executed, calls⟩ := l
  cases pc <;> cases received <;> cases processed <;>
    simp_all [settle, accepted, made, holds, loop, FlagsAgree]

omit [DecidableEq τ] in
theorem delivered_iff_accepted (l : Link τ) (flags : l.FlagsAgree) :
    l.Delivered ↔ l.accepted = l.written ∧ l.made = l.requested := by
  rw [Delivered, (settle_eq l flags).1, (settle_eq l flags).2]

/-! ### What one message does to the driver -/

theorem receive_busy {d : LcdDriver} {message : List UInt8} (busy : d.commandProcessed = false) :
    d.receiveEvent message = d := by
  cases message with
  | nil => rfl
  | cons command bytes => simp [LcdDriver.receiveEvent, busy]

theorem receive_frame {d : LcdDriver} {command : UInt8} {bytes : List UInt8}
    (ready : d.commandProcessed = true) (nonzero : command > 0) (fits : bytes.length ≤ MAX_DATA_SIZE) :
    (d.receiveEvent (command :: bytes)).commandReceived = true ∧
      (d.receiveEvent (command :: bytes)).commandProcessed = false ∧
      (d.receiveEvent (command :: bytes)).current = command :: bytes := by
  have length : min bytes.length MAX_DATA_SIZE = bytes.length := Nat.min_eq_left fits
  simp only [LcdDriver.receiveEvent, ready, nonzero, if_true, LcdDriver.current, LcdDriver.storeData,
    List.take_of_length_le fits, length, List.take_left, and_self]

theorem receive_poll (d : LcdDriver) :
    (d.receiveEvent [0]).commandReceived = d.commandReceived ∧
      (d.receiveEvent [0]).commandProcessed = d.commandProcessed := by
  cases processed : d.commandProcessed with
  | false => simp [receive_busy processed, processed]
  | true => simp [LcdDriver.receiveEvent, processed]

theorem frame_shape (method : Method) :
    ∃ command bytes, method.frame = command :: bytes ∧ command > 0 ∧ bytes.length ≤ MAX_DATA_SIZE := by
  cases method with
  | clearGraphicDisplay => exact ⟨_, _, rfl, by decide, by decide⟩
  | writeGraphicText col row text font clearLength =>
    refine ⟨_, _, rfl, by decide, ?_⟩
    simp only [List.length_cons, List.length_take, MAX_TEXT_SIZE, MAX_DATA_SIZE]
    omega
  | rectangle col1 row1 col2 row2 set fill => exact ⟨_, _, rfl, by decide, by simp [MAX_DATA_SIZE]⟩

/-! ### What one step does to the link -/

/-- The step leaves the logs alone, or it writes one frame; this becomes the call that it asks
for exactly if the step writes well. -/
inductive Effect (l : Link τ) (event : Event τ) (next : Link τ) : Prop where
  | silent (written : next.written = l.written) (requested : next.requested = l.requested)
      (accepted : next.accepted = l.accepted) (made : next.made = l.made) (allowed : l.WritesWell event)
  | decodes (frame : Frame) (call : LcdCall) (written : next.written = l.written ++ [frame])
      (requested : next.requested = l.requested ++ [call]) (accepted : next.accepted = l.accepted ++ [frame])
      (made : next.made = l.made ++ [call]) (allowed : l.WritesWell event)
  | loses (call : LcdCall) (requested : next.requested = l.requested ++ [call]) (made : next.made = l.made)
      (refused : ¬ l.WritesWell event)

omit [DecidableEq τ] in
theorem loop_keeps (l : Link τ) (flags : l.FlagsAgree) :
    l.loop.FlagsAgree ∧ l.loop.accepted = l.accepted ∧ l.loop.made = l.made := by
  obtain ⟨threads, ⟨received, processed, command, data, length⟩, pc, written, requested, executed, calls⟩ := l
  cases pc <;> cases received <;> cases processed <;>
    simp_all [accepted, made, holds, loop, FlagsAgree]

omit [DecidableEq τ] in
theorem loop_written (l : Link τ) : l.loop.written = l.written ∧ l.loop.requested = l.requested := by
  unfold loop
  split
  · split <;> exact ⟨rfl, rfl⟩
  all_goals exact ⟨rfl, rfl⟩

omit [DecidableEq τ] in
/-- A frame that the driver holds keeps it busy. -/
theorem busy_of_holds {l : Link τ} (flags : l.FlagsAgree) (holding : l.holds = true) : l.driver.commandProcessed = false := by
  unfold FlagsAgree at flags
  unfold holds at holding
  split at holding
  · rename_i place
    simp only [place, holding] at flags
    simpa using flags
  · rename_i place
    simp only [place] at flags
    exact flags.2
  · cases holding

omit [DecidableEq τ] in
theorem driver_frame {l next : Link τ} (flags : l.FlagsAgree) (pc : next.pc = l.pc)
    (executed : next.executed = l.executed) (calls : next.calls = l.calls)
    (received : next.driver.commandReceived = l.driver.commandReceived)
    (processed : next.driver.commandProcessed = l.driver.commandProcessed)
    (same : l.driver.commandProcessed = false → next.driver = l.driver) :
    next.FlagsAgree ∧ next.accepted = l.accepted ∧ next.made = l.made := by
  have holding : next.holds = l.holds := by simp only [holds, pc, received]
  refine ⟨?_, ?_, ?_⟩
  · simpa only [FlagsAgree, pc, received, processed] using flags
  · rw [accepted, accepted, holding, executed]
    cases held : l.holds with
    | false => rfl
    | true => rw [same (busy_of_holds flags held)]
  · rw [made, made, holding, calls]
    cases held : l.holds with
    | false => rfl
    | true => rw [same (busy_of_holds flags held)]

theorem call_keeps (l : Link τ) (thread : τ) (method : Method) (flags : l.FlagsAgree) :
    (l.call thread method).FlagsAgree ∧ Effect l (.call thread method) (l.call thread method) := by
  unfold call
  split
  · exact ⟨flags, .silent rfl rfl rfl rfl trivial⟩
  · exact ⟨flags, .silent rfl rfl rfl rfl trivial⟩

theorem poll_keeps (l : Link τ) (thread : τ) (flags : l.FlagsAgree) :
    (l.poll thread).FlagsAgree ∧ Effect l (.poll thread) (l.poll thread) := by
  obtain ⟨received, processed⟩ := receive_poll l.driver
  have moved : ∀ phase, (Link.enter { l with driver := l.driver.receiveEvent [0] } thread phase).FlagsAgree ∧
      Effect l (.poll thread) (Link.enter { l with driver := l.driver.receiveEvent [0] } thread phase) := by
    intro phase
    have same : l.driver.commandProcessed = false → l.driver.receiveEvent [0] = l.driver := fun busy => receive_busy busy
    obtain ⟨agree, accepted, made⟩ := @driver_frame _ l
      (Link.enter { l with driver := l.driver.receiveEvent [0] } thread phase) flags rfl rfl rfl received processed same
    exact ⟨agree, .silent rfl rfl accepted made trivial⟩
  unfold poll
  split
  · dsimp only
    split
    · apply moved
    · split
      · apply moved
      · apply moved
  · exact ⟨flags, .silent rfl rfl rfl rfl trivial⟩

/-- A driver that is ready has finished its loop, so the frame lands in an empty place. -/
theorem write_ready {l : Link τ} {thread : τ} {method : Method} (flags : l.FlagsAgree)
    (standing : l.threads thread = .ready method) (ready : l.driver.commandProcessed = true) :
    (l.write thread).FlagsAgree ∧ (l.write thread).accepted = l.accepted ++ [method.frame] ∧
      (l.write thread).made = l.made ++ (l.driver.receiveEvent method.frame).dispatch.toList := by
  obtain ⟨command, bytes, frame, nonzero, fits⟩ := frame_shape method
  have place : l.pc = .test := by
    cases at_pc : l.pc <;> simp_all [FlagsAgree]
  have empty : l.driver.commandReceived = false := by
    simpa [FlagsAgree, place, ready] using flags
  obtain ⟨received, taken, current⟩ := receive_frame (d := l.driver) ready nonzero fits
  rw [← frame] at received taken current
  simp only [write, standing]
  refine ⟨?_, ?_, ?_⟩
  · simp [FlagsAgree, enter, place, received, taken]
  · simp [accepted, holds, enter, place, received, current, empty]
  · simp [made, holds, enter, place, received, empty]

theorem write_effect (l : Link τ) (thread : τ) (flags : l.FlagsAgree) :
    (l.write thread).FlagsAgree ∧ Effect l (.write thread) (l.write thread) := by
  cases phase : l.threads thread with
  | idle =>
    simp only [write, phase]
    exact ⟨flags, .silent rfl rfl rfl rfl (by simp [WritesWell, phase])⟩
  | waiting method retry =>
    simp only [write, phase]
    exact ⟨flags, .silent rfl rfl rfl rfl (by simp [WritesWell, phase])⟩
  | ready method =>
    have logs : (l.write thread).written = l.written ++ [method.frame] ∧
        (l.write thread).requested = l.requested ++ [method.request] := by
      simp [write, phase]
    cases processed : l.driver.commandProcessed with
    | false =>
      have busy := @receive_busy _ method.frame processed
      have kept : (l.write thread).FlagsAgree ∧ (l.write thread).accepted = l.accepted ∧ (l.write thread).made = l.made := by
        simp only [write, phase]
        exact driver_frame flags rfl rfl rfl (by rw [busy]) (by rw [busy]) fun _ => busy
      exact ⟨kept.1, .loses method.request logs.2 kept.2.2 (by simp [WritesWell, phase, processed])⟩
    | true =>
      obtain ⟨agree, accepted, made⟩ := write_ready flags phase processed
      rw [receive_dispatch processed] at made
      refine ⟨agree, ?_⟩
      by_cases short : method.withoutText
      · rw [if_pos short] at made
        exact .loses method.request logs.2 (made.trans (List.append_nil _)) (by simp [WritesWell, phase, short])
      · rw [if_neg short] at made
        exact .decodes method.frame method.request logs.1 logs.2 accepted made (by simp [WritesWell, phase, processed, short])

theorem step_effect (l : Link τ) (event : Event τ) (flags : l.FlagsAgree) :
    (l.step event).FlagsAgree ∧ Effect l event (l.step event) := by
  cases event with
  | call thread method => exact call_keeps l thread method flags
  | poll thread => exact poll_keeps l thread flags
  | write thread => exact write_effect l thread flags
  | loop =>
    obtain ⟨agree, accepted, made⟩ := loop_keeps l flags
    obtain ⟨written, requested⟩ := loop_written l
    exact ⟨agree, .silent written requested accepted made trivial⟩

/-! ### Whole runs -/

omit [DecidableEq τ] in
theorem start_flags : (start : Link τ).FlagsAgree := by
  rfl

omit [DecidableEq τ] in
theorem start_delivers : (start : Link τ).accepted = (start : Link τ).written ∧
    (start : Link τ).made = (start : Link τ).requested :=
  ⟨rfl, rfl⟩

theorem run_flags (events : List (Event τ)) : (run step (start : Link τ) events).FlagsAgree :=
  run_invariant (fun l event flags => (step_effect l event flags).1) start_flags

theorem made_length_le (events : List (Event τ)) :
    (run step (start : Link τ) events).made.length ≤ (run step start events).requested.length := by
  induction events using List.reverseRecOn with
  | nil => exact Nat.le_of_eq (congrArg List.length start_delivers.2)
  | append_singleton events event ih =>
    rw [run_concat]
    obtain ⟨_, effect⟩ := step_effect _ event (run_flags events)
    cases effect with
    | silent _ requested _ made _ => rw [requested, made]; exact ih
    | decodes frame call _ requested _ made _ => rw [requested, made]; simpa using ih
    | loses call requested made _ =>
      rw [requested, made, List.length_append]
      exact Nat.le_add_right_of_le ih

theorem accepted_iff (events : List (Event τ)) :
    ((run step (start : Link τ) events).accepted = (run step start events).written ∧
        (run step (start : Link τ) events).made = (run step start events).requested) ↔
      Meets step WritesWell (start : Link τ) events := by
  induction events using List.reverseRecOn with
  | nil => exact ⟨fun _ => trivial, fun _ => start_delivers⟩
  | append_singleton events event ih =>
    rw [run_concat, meets_concat, ← ih]
    obtain ⟨_, effect⟩ := step_effect _ event (run_flags events)
    cases effect with
    | silent written requested accepted made allowed =>
      rw [written, requested, accepted, made]
      exact ⟨fun same => ⟨same, allowed⟩, fun both => both.1⟩
    | decodes frame call written requested accepted made allowed =>
      rw [written, requested, accepted, made, List.append_left_inj, List.append_left_inj]
      exact ⟨fun same => ⟨same, allowed⟩, fun both => both.1⟩
    | loses call requested made refused =>
      rw [requested, made]
      constructor
      · rintro ⟨-, same⟩
        -- a call that is lost is never made up for
        have length := congrArg List.length same
        have bound := made_length_le events
        rw [List.length_append, List.length_singleton] at length
        omega
      · exact fun both => absurd both.2 refused

/-- In every state a run reaches, every frame written so far is executed exactly once, with
its own bytes and in order, and becomes the call that it asks for, if and only if no step of
the run wrote to a driver that another thread's frame kept busy, or wrote an empty text. -/
theorem delivered_iff (events : List (Event τ)) :
    (run step (start : Link τ) events).Delivered ↔ Meets step WritesWell (start : Link τ) events := by
  rw [delivered_iff_accepted _ (run_flags events), accepted_iff]

end Link

inductive HostThread where
  | keyboardWorker | refreshThread
  deriving DecidableEq

/-- Both threads see the display ready, then both write. -/
def overlappingWrites : List (Event HostThread) :=
  [.loop, .loop, .loop, .loop,
   .call .keyboardWorker (.rectangle 0 0 163 63 false true),
   .call .refreshThread (.writeGraphicText 0 24 [0x20, 0x20] .Terminal8 0),
   .poll .keyboardWorker, .poll .refreshThread,
   .write .keyboardWorker, .write .refreshThread]

theorem overlapping_writes_lose_a_frame :
    let l := run Link.step Link.start overlappingWrites
    l.written.length = 3 ∧ l.settle.calls = [.lcdReset, .lcdRectangle 0 0 163 63 false true] ∧ ¬ l.Delivered := by
  intro l
  have calls : l.settle.calls = [.lcdReset, .lcdRectangle 0 0 163 63 false true] := by decide
  refine ⟨by decide, calls, fun delivered => ?_⟩
  have requested : l.requested.length = 3 := by decide
  rw [← delivered.2, calls] at requested
  cases requested

end RgbClock.Lcd
