import RgbClock.Lcd.Delivery

/-! What the driver makes of a frame that it accepts: the call that the method asked for, except that
a text of no characters is taken for a frame that is too short. -/

namespace RgbClock.Lcd
open Runs

/-- The call on the display that a method asks for. The clear length of a text is one byte. -/
inductive Requests : Method → LcdCall → Prop where
  | text (col row : UInt8) (text : List UInt8) (font : FontType) (clearLength : UInt8) :
      Requests (.writeGraphicText col row text font clearLength.toNat)
        (.lcdWriteText font.size col row clearLength (text.take MAX_TEXT_SIZE))
  | rectangle (col1 row1 col2 row2 : UInt8) (set fill : Bool) :
      Requests (.rectangle col1 row1 col2 row2 set fill) (.lcdRectangle col1 row1 col2 row2 set fill)

theorem byteOfInt_toNat (byte : UInt8) : byteOfInt byte.toNat = byte := by
  have small := byte.toNat_lt
  have same : ((byte.toNat : Int) % 256).toNat = byte.toNat := by omega
  rw [byteOfInt, same, UInt8.ofNat_toNat]

theorem Requests.request_eq {method : Method} {call : LcdCall} (requests : Requests method call) : method.request = call := by
  cases requests with
  | rectangle col1 row1 col2 row2 set fill => rfl
  | text col row text font clearLength => rw [Method.request, byteOfInt_toNat]

/-! ### Through the link -/

variable {τ : Type} [DecidableEq τ]

namespace Link

/-- The driver holds the whole frame, and its loop makes the one call that was asked for. -/
def Decoded (l : Link τ) (thread : τ) (method : Method) (call : LcdCall) : Prop :=
  (l.write thread).driver.current = method.frame ∧
    ∀ n, (run step (l.write thread) (List.replicate (n + 2) .loop)).calls = l.calls ++ [call]

/-- The driver has made its calls: its loop is behind the `switch`, or has nothing to do. -/
def Spent (l : Link τ) (calls : List LcdCall) : Prop :=
  l.calls = calls ∧
    match l.pc with
    | .test | .setProcessed => l.driver.commandReceived = false
    | .switch => False
    | .clearReceived => True

theorem spent_loops {l : Link τ} {calls : List LcdCall} (spent : l.Spent calls) (n : Nat) :
    (run step l (List.replicate n .loop)).Spent calls := by
  have keep : ∀ (l : Link τ), l.Spent calls → (l.step .loop).Spent calls := by
    rintro l ⟨made, place⟩
    cases pc : l.pc <;> rw [pc] at place
    · exact ⟨by simp [step, loop, pc, place, made], by simp [step, loop, pc, place]⟩
    · exact place.elim
    · exact ⟨by simp [step, loop, pc, made], by simp [step, loop, pc]⟩
    · exact ⟨by simp [step, loop, pc, made], by simp [step, loop, pc, place]⟩
  induction n generalizing l with
  | zero => exact spent
  | succ n ih => exact ih (keep l spent)

/-- What a ready driver makes of the next frame. -/
theorem write_calls {l : Link τ} {thread : τ} {method : Method} (flags : l.FlagsAgree)
    (standing : l.threads thread = .ready method) (ready : l.driver.commandProcessed = true) (n : Nat) :
    (run step (l.write thread) (List.replicate (n + 2) .loop)).calls =
      l.calls ++ (l.driver.receiveEvent method.frame).dispatch.toList := by
  obtain ⟨command, bytes, frame, nonzero, fits⟩ := frame_shape method
  have received : (l.driver.receiveEvent method.frame).commandReceived = true := by
    rw [frame]
    exact (receive_frame ready nonzero fits).1
  have place : l.pc = .test := by
    cases at_pc : l.pc <;> simp_all [FlagsAgree]
  have spent : ((l.write thread).loop.loop).Spent
      (l.calls ++ (l.driver.receiveEvent method.frame).dispatch.toList) := by
    simp [write, standing, enter, loop, place, received, Spent]
  exact (spent_loops spent n).1

/-- A frame that is written to a ready driver becomes the one call that was asked for, exactly if it is
not that of an empty text. -/
theorem decoded_iff (events : List (Event τ)) (thread : τ) {method : Method} {call : LcdCall}
    (requests : Requests method call)
    (standing : (run step (start : Link τ) events).threads thread = .ready method)
    (ready : (run step (start : Link τ) events).driver.commandProcessed = true) :
    (run step (start : Link τ) events).Decoded thread method call ↔ ¬ method.withoutText := by
  have made := write_calls (run_flags events) standing ready
  rw [receive_dispatch ready, requests.request_eq] at made
  obtain ⟨command, bytes, frame, nonzero, fits⟩ := frame_shape method
  constructor
  · rintro ⟨-, calls⟩ empty
    have none := (calls 0).symm.trans (made 0)
    rw [if_pos empty] at none
    simp at none
  · intro long
    refine ⟨?_, fun n => ?_⟩
    · simp only [write, standing]
      rw [frame]
      exact (receive_frame ready nonzero fits).2.2
    · rw [made n, if_neg long]
      rfl

end Link

/-- The refresh thread is about to write a text to the driver, which has executed its reset. -/
def aboutToWrite (text : List UInt8) : List (Event HostThread) :=
  [.loop, .loop, .loop, .loop, .call .refreshThread (.writeGraphicText 0 24 text .Terminal8 0), .poll .refreshThread]

theorem digit_is_written :
    (run Link.step (Link.start : Link HostThread) (aboutToWrite [0x31])).Decoded .refreshThread
      (.writeGraphicText 0 24 [0x31] .Terminal8 0) (.lcdWriteText LCD_FONT_SMALL 0 24 0 [0x31]) :=
  (Link.decoded_iff (aboutToWrite [0x31]) .refreshThread (.text 0 24 [0x31] .Terminal8 0) (by decide) (by decide)).mpr
    (by simp [Method.withoutText])

/-- The frame with which `drawRDS` erases the text is executed without a call. -/
theorem empty_text_is_not_written :
    let l := run Link.step (Link.start : Link HostThread) (aboutToWrite [])
    (l.write .refreshThread).settle.calls = l.calls ∧
      ¬ l.Decoded .refreshThread (.writeGraphicText 0 24 [] .Terminal8 0) (.lcdWriteText LCD_FONT_SMALL 0 24 0 []) := by
  refine ⟨by decide, ?_⟩
  intro given
  obtain ⟨-, calls⟩ := given
  exact absurd (calls 0) (by decide)

end RgbClock.Lcd
