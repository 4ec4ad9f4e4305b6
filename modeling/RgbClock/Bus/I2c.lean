import RgbClock.Lib.Run
import Mathlib.Logic.Function.Basic
import Mathlib.Algebra.Ring.Nat

/-! The I2C bus. Every attempt opens the bus, selects the device, writes and reads; a transfer is attempted again
until an attempt succeeds. All threads share one `I2C`, which takes an attempt, a pass of the statistics thread and
each of its other methods under a mutex, so a run is any interleaving of these. -/

namespace RgbClock.Bus

/-- What the kernel makes of one attempt: `open`, the `ioctl` that selects the device, how many bytes `write`
reports, and the bytes that `read` stores if it does not fail. -/
structure Answer where
  opened : Bool
  selected : Bool
  written : Int
  read : Option (List UInt8)
  deriving DecidableEq

inductive Outcome where
  | returned (result : Bool)
  /-- The bus cannot be opened. -/
  | thrown
  deriving DecidableEq

namespace Answer

def readCount (answer : Answer) (size : Nat) : Int :=
  match answer.read with
  | some bytes => (min bytes.length size : Nat)
  | none => -1

def stored (answer : Answer) (readData : List UInt8) : List UInt8 :=
  match answer.read with
  | some bytes => bytes.take readData.length ++ readData.drop bytes.length
  | none => readData

/-- `readWriteDataNoRetry`: what it returns, and the read buffer that it leaves. -/
def readWriteDataNoRetry (answer : Answer) (writeData readData : List UInt8) : Outcome × List UInt8 :=
  if writeData.length = 0 then (.returned false, readData)
  else if !answer.opened then (.thrown, readData)
  else if !answer.selected then (.returned false, readData)
  else if answer.written ≠ (writeData.length : Int) then (.returned false, readData)
  else if readData.length > 0 then
    let stored := answer.stored readData
    if answer.readCount readData.length ≠ (readData.length : Int) then (.returned false, stored)
    else (.returned true, stored)
  else (.returned true, readData)

end Answer

/-! ### A transfer -/

structure Transfer where
  outcome : Outcome
  readData : List UInt8
  /-- How often `readWriteDataNoRetry` was called. -/
  attempts : Nat
  deriving DecidableEq

/-- The loop of `readWriteDataWithRetry`; `left` is what remains of the attempts, and `retry` counts those made. -/
def retryLoop (answers : Nat → Answer) (writeData : List UInt8) : (left retry : Nat) → List UInt8 → Transfer
  | 0, retry, readData => ⟨.returned false, readData, retry⟩
  | left + 1, retry, readData =>
    match (answers retry).readWriteDataNoRetry writeData readData with
    | (.returned false, readData) => retryLoop answers writeData left (retry + 1) readData
    | (outcome, readData) => ⟨outcome, readData, retry + 1⟩

/-- The source counts its retries from -1 up to `retryCount`. -/
def readWriteDataWithRetry (answers : Nat → Answer) (writeData readData : List UInt8) (retryCount : Int) : Transfer :=
  retryLoop answers writeData (retryCount + 1).toNat 0 readData

def probeAddress (answers : Nat → Answer) : Transfer := readWriteDataWithRetry answers [0] [] 0

/-- The byte is what the buffer holds, whether the transfer has succeeded or not. -/
def readByte (answers : Nat → Answer) (reg : UInt8) (retryCount : Int) : Transfer × UInt8 :=
  let transfer := readWriteDataWithRetry answers [reg] [0] retryCount
  (transfer, transfer.readData.getD 0 0)

def readWord (answers : Nat → Answer) (reg : UInt8) (retryCount : Int) : Transfer × UInt16 :=
  let transfer := readWriteDataWithRetry answers [reg] [0, 0] retryCount
  (transfer, (transfer.readData.getD 0 0).toUInt16 ||| ((transfer.readData.getD 1 0).toUInt16 <<< 8))

/-! ### The shared state -/

/-- The byte count is an `int`, which is enough as long as fewer than 2^31 bytes are moved between two passes of the
statistics thread. -/
structure StatData where
  mName : String := ""
  mByteCount : Nat := 0
  mBytesPerSecond : Nat := 0
  mMaxBytesPerSecond : Nat := 0
  deriving DecidableEq

/-- The lines that an attempt logs as errors. -/
inductive LogLine where
  | zeroSize (address : UInt8)
  | settingAddress (address : UInt8)
  | writingData (address : UInt8)
  | readingData (address : UInt8)
  deriving DecidableEq

/-- The entries of `std::map<uint8_t, StatData>`, which is walked from the lowest address up. `operator[]` makes
an entry where there is none. -/
structure I2C where
  mI2CWriteError : UInt8 → Bool := fun _ => false
  mAddressStatistics : UInt8 → Option StatData := fun _ => none
  mGeneralStatistics : StatData := {}
  log : List LogLine := []

/-- One call of `readWriteDataNoRetry`. -/
structure Attempt where
  address : UInt8
  writeData : List UInt8
  readSize : Nat
  answer : Answer

/-- What it adds to the byte count: the address, the bytes to write and those to read. -/
def Attempt.byteCount (attempt : Attempt) : Nat := 1 + attempt.writeData.length + attempt.readSize

inductive Event where
  | attempt (attempt : Attempt)
  | statistics
  | registerAddress (address : UInt8) (name : String)
  | resetStat

def addresses : List UInt8 := (List.range 256).map UInt8.ofNat

namespace I2C

def stat (bus : I2C) (address : UInt8) : StatData := (bus.mAddressStatistics address).getD {}

def setStat (bus : I2C) (address : UInt8) (stat : StatData) : I2C :=
  { bus with mAddressStatistics := Function.update bus.mAddressStatistics address (some stat) }

def logError (bus : I2C) (line : LogLine) : I2C := { bus with log := bus.log ++ [line] }

/-- A failure to reach the device is logged where the last attempt has reached it. -/
def linkError (bus : I2C) (address : UInt8) (line : LogLine) : I2C :=
  let bus := if bus.mI2CWriteError address then bus else bus.logError line
  { bus with mI2CWriteError := Function.update bus.mI2CWriteError address true }

def passed (stat : StatData) : StatData :=
  { stat with
    mBytesPerSecond := stat.mByteCount
    mMaxBytesPerSecond :=
      if stat.mByteCount > stat.mMaxBytesPerSecond then stat.mByteCount else stat.mMaxBytesPerSecond
    mByteCount := 0 }

def count (bus : I2C) (attempt : Attempt) : I2C :=
  let stat := bus.stat attempt.address
  bus.setStat attempt.address { stat with mByteCount := stat.mByteCount + attempt.byteCount }

/-- What is left of an attempt once its bytes are counted. -/
def transfer (bus : I2C) (attempt : Attempt) : I2C :=
  if attempt.writeData.length = 0 then bus.logError (.zeroSize attempt.address)
  else if !attempt.answer.opened then bus
  else if !attempt.answer.selected then bus.linkError attempt.address (.settingAddress attempt.address)
  else if attempt.answer.written ≠ (attempt.writeData.length : Int) then
    bus.linkError attempt.address (.writingData attempt.address)
  else
    let bus := { bus with mI2CWriteError := Function.update bus.mI2CWriteError attempt.address false }
    if attempt.readSize > 0 ∧ attempt.answer.readCount attempt.readSize ≠ (attempt.readSize : Int) then
      bus.logError (.readingData attempt.address)
    else bus

/-- What `readWriteDataNoRetry` does to the shared state. -/
def attempted (bus : I2C) (attempt : Attempt) : I2C := (bus.count attempt).transfer attempt

def statisticsPass (bus : I2C) : I2C :=
  let mAddressStatistics := fun address => (bus.mAddressStatistics address).map passed
  let mBytesPerSecond := (addresses.map fun address => ((mAddressStatistics address).getD {}).mBytesPerSecond).sum
  let mMaxBytesPerSecond := bus.mGeneralStatistics.mMaxBytesPerSecond
  { bus with
    mAddressStatistics
    mGeneralStatistics :=
      { bus.mGeneralStatistics with
        mName := "General Statistics"
        mBytesPerSecond
        mMaxBytesPerSecond := if mBytesPerSecond > mMaxBytesPerSecond then mBytesPerSecond else mMaxBytesPerSecond } }

def registerAddress (bus : I2C) (address : UInt8) (name : String) : I2C :=
  match bus.mAddressStatistics address with
  | none => bus.setStat address { mName := name }
  | some _ => bus

def resetStat (bus : I2C) : I2C :=
  { bus with
    mGeneralStatistics := { bus.mGeneralStatistics with mBytesPerSecond := 0, mMaxBytesPerSecond := 0 }
    mAddressStatistics := fun address =>
      (bus.mAddressStatistics address).map fun stat => { stat with mMaxBytesPerSecond := 0 } }

def step (bus : I2C) : Event → I2C
  | .attempt attempt => bus.attempted attempt
  | .statistics => bus.statisticsPass
  | .registerAddress address name => bus.registerAddress address name
  | .resetStat => bus.resetStat

end I2C

/-! ### How a transfer ends -/

namespace Answer

def throws (answer : Answer) (writeData : List UInt8) : Bool := !writeData.isEmpty && !answer.opened

/-- The device takes its address and all the bytes, and the read fills the buffer. -/
def succeeds (answer : Answer) (writeData : List UInt8) (size : Nat) : Bool :=
  !writeData.isEmpty && answer.opened && answer.selected && answer.written == (writeData.length : Int) &&
    (size == 0 || answer.readCount size == (size : Int))

variable {answer : Answer} {writeData readData : List UInt8}

theorem stored_length : (answer.stored readData).length = readData.length := by
  unfold stored
  split
  · simp only [List.length_append, List.length_take, List.length_drop]
    omega
  · rfl

/-- A read that fills the buffer leaves nothing of what was there. -/
theorem stored_full (full : answer.readCount readData.length = (readData.length : Int)) :
    answer.stored readData = (answer.read.getD []).take readData.length := by
  unfold readCount at full
  unfold stored
  split at full
  case h_1 bytes found =>
    have enough : readData.length ≤ bytes.length := by omega
    simp [found, List.drop_eq_nil_of_le enough]
  case h_2 found => omega

theorem outcome_noRetry :
    (answer.readWriteDataNoRetry writeData readData).1 =
      if answer.throws writeData then .thrown else .returned (answer.succeeds writeData readData.length) := by
  unfold readWriteDataNoRetry throws succeeds
  by_cases none : writeData = []
  · simp [none]
  have bytes : writeData.length ≠ 0 := fun empty => none (List.length_eq_zero_iff.mp empty)
  have nonempty : writeData.isEmpty = false := List.isEmpty_eq_false_iff.mpr none
  rw [if_neg bytes, nonempty]
  cases answer.opened with
  | false => simp
  | true =>
    cases answer.selected with
    | false => simp
    | true =>
      by_cases wrote : answer.written = (writeData.length : Int)
      · by_cases empty : readData.length = 0
        · simp [wrote, empty]
        · have some : readData.length > 0 := Nat.pos_of_ne_zero empty
          by_cases full : answer.readCount readData.length = (readData.length : Int)
          · simp [wrote, some, full]
          · simp [wrote, empty, some, full]
      · simp [wrote]

theorem length_noRetry : (answer.readWriteDataNoRetry writeData readData).2.length = readData.length := by
  unfold readWriteDataNoRetry
  repeat' split
  all_goals first
    | rfl
    | exact stored_length

theorem data_noRetry (success : answer.succeeds writeData readData.length = true) :
    (answer.readWriteDataNoRetry writeData readData).2 = (answer.read.getD []).take readData.length := by
  unfold succeeds at success
  simp only [Bool.and_eq_true, Bool.or_eq_true, Bool.not_eq_true', List.isEmpty_eq_false_iff, beq_iff_eq] at success
  obtain ⟨⟨⟨⟨some, opened⟩, selected⟩, written⟩, full⟩ := success
  have bytes : writeData.length ≠ 0 := fun none => some (List.length_eq_zero_iff.mp none)
  unfold readWriteDataNoRetry
  rw [if_neg bytes, if_neg (by simp [opened]), if_neg (by simp [selected]), if_neg (by simp [written])]
  by_cases empty : readData.length = 0
  · rw [if_neg (by omega), List.length_eq_zero_iff.mp empty]
    simp
  · have filled := full.resolve_left empty
    rw [if_pos (by omega)]
    dsimp only
    rw [if_neg (by simp [filled]), stored_full filled]

end Answer

section
variable {answers : Nat → Answer} {writeData : List UInt8}

def stops (answers : Nat → Answer) (writeData : List UInt8) (size attempt : Nat) : Bool :=
  (answers attempt).throws writeData || (answers attempt).succeeds writeData size

/-- How the attempts of a transfer end: the first that succeeds gives its bytes, the first that throws ends the
transfer, and where all fail the transfer fails. -/
inductive Settles (answers : Nat → Answer) (writeData : List UInt8) (size : Nat) (first limit : Nat) (transfer : Transfer) :
    Prop where
  | succeeded (attempt : Nat) (within : first ≤ attempt ∧ attempt < limit)
      (success : (answers attempt).succeeds writeData size = true)
      (before : ∀ earlier, first ≤ earlier → earlier < attempt → stops answers writeData size earlier = false)
      (outcome : transfer.outcome = .returned true) (attempts : transfer.attempts = attempt + 1)
      (read : transfer.readData = ((answers attempt).read.getD []).take size)
  | thrown (attempt : Nat) (within : first ≤ attempt ∧ attempt < limit)
      (throws : (answers attempt).throws writeData = true)
      (before : ∀ earlier, first ≤ earlier → earlier < attempt → stops answers writeData size earlier = false)
      (outcome : transfer.outcome = .thrown) (attempts : transfer.attempts = attempt + 1)
  | exhausted (all : ∀ attempt, first ≤ attempt → attempt < limit → stops answers writeData size attempt = false)
      (outcome : transfer.outcome = .returned false) (attempts : transfer.attempts = limit)

theorem Settles.later {size first limit : Nat} {transfer : Transfer}
    (fails : stops answers writeData size first = false) (settles : Settles answers writeData size (first + 1) limit transfer) :
    Settles answers writeData size first limit transfer := by
  have also {upTo : Nat}
      (before : ∀ earlier, first + 1 ≤ earlier → earlier < upTo → stops answers writeData size earlier = false) :
      ∀ earlier, first ≤ earlier → earlier < upTo → stops answers writeData size earlier = false := by
    intro earlier above below
    rcases Nat.eq_or_lt_of_le above with rfl | after
    · exact fails
    · exact before earlier after below
  rcases settles with ⟨attempt, within, success, before, outcome, attempts, read⟩ |
    ⟨attempt, within, throws, before, outcome, attempts⟩ | ⟨all, outcome, attempts⟩
  · exact .succeeded attempt ⟨by omega, within.2⟩ success (also before) outcome attempts read
  · exact .thrown attempt ⟨by omega, within.2⟩ throws (also before) outcome attempts
  · exact .exhausted (also all) outcome attempts

theorem retryLoop_settles (left retry : Nat) (readData : List UInt8) :
    Settles answers writeData readData.length retry (retry + left) (retryLoop answers writeData left retry readData) ∧
      (retryLoop answers writeData left retry readData).readData.length = readData.length := by
  induction left generalizing retry readData with
  | zero => exact ⟨.exhausted (fun attempt above below => by omega) rfl rfl, rfl⟩
  | succ left ih =>
    have outcome := @Answer.outcome_noRetry (answers retry) writeData readData
    have length := @Answer.length_noRetry (answers retry) writeData readData
    have data := @Answer.data_noRetry (answers retry) writeData readData
    unfold retryLoop
    split
    case h_1 readData' answered =>
      rw [answered] at outcome length
      have fails : stops answers writeData readData.length retry = false := by
        unfold stops
        split at outcome
        · cases outcome
        · rename_i returns
          injection outcome with failed
          rw [← failed, Bool.or_false]
          exact (Bool.not_eq_true _).mp returns
      have rest := ih (retry + 1) readData'
      dsimp only at length
      rw [length] at rest
      rw [show retry + 1 + left = retry + (left + 1) by omega] at rest
      exact ⟨rest.1.later fails, rest.2⟩
    case h_2 result readData' stopped answered =>
      rw [answered] at outcome length data
      refine ⟨?_, length⟩
      split at outcome
      case isTrue throws =>
        exact .thrown retry ⟨Nat.le_refl _, by omega⟩ throws (fun earlier above below => by omega) outcome rfl
      case isFalse returns =>
        cases success : (answers retry).succeeds writeData readData.length with
        | true =>
          rw [success] at outcome
          exact .succeeded retry ⟨Nat.le_refl _, by omega⟩ success (fun earlier above below => by omega) outcome rfl
            (data success)
        | false =>
          rw [success] at outcome
          exact absurd outcome stopped

end

/-- A transfer is attempted at most `retryCount + 1` times, stops at the first attempt that succeeds and then returns
what that attempt has read; the buffer keeps its size whatever happens. -/
theorem readWriteDataWithRetry_settles (answers : Nat → Answer) (writeData readData : List UInt8) (retryCount : Int) :
    Settles answers writeData readData.length 0 (retryCount + 1).toNat
        (readWriteDataWithRetry answers writeData readData retryCount) ∧
      (readWriteDataWithRetry answers writeData readData retryCount).readData.length = readData.length := by
  have settles := @retryLoop_settles answers writeData (retryCount + 1).toNat 0 readData
  rw [Nat.zero_add] at settles
  exact settles

section
variable {answers : Nat → Answer}

/-- A transfer that returns true has filled its buffer from its last attempt. -/
theorem read_of_returned {writeData readData : List UInt8} {retryCount : Int}
    (success : (readWriteDataWithRetry answers writeData readData retryCount).outcome = .returned true) :
    ∃ attempt, (readWriteDataWithRetry answers writeData readData retryCount).attempts = attempt + 1 ∧
      (readWriteDataWithRetry answers writeData readData retryCount).readData =
        ((answers attempt).read.getD []).take readData.length ∧
      (readWriteDataWithRetry answers writeData readData retryCount).readData.length = readData.length := by
  obtain ⟨settles, length⟩ := @retryLoop_settles answers writeData (retryCount + 1).toNat 0 readData
  unfold readWriteDataWithRetry at success ⊢
  rcases settles with ⟨attempt, -, -, -, -, attempts, read⟩ | ⟨-, -, -, -, outcome, -⟩ | ⟨-, outcome, -⟩
  · exact ⟨attempt, attempts, read, length⟩
  · rw [outcome] at success
    cases success
  · rw [outcome] at success
    cases success

theorem readByte_read {reg : UInt8} {retryCount : Int}
    (success : (readByte answers reg retryCount).1.outcome = .returned true) :
    ∃ attempt rest, (readByte answers reg retryCount).1.attempts = attempt + 1 ∧
      (answers attempt).read.getD [] = (readByte answers reg retryCount).2 :: rest := by
  obtain ⟨attempt, attempts, read, length⟩ := read_of_returned success
  rw [read] at length
  unfold readByte
  simp only [read]
  cases bytes : (answers attempt).read.getD [] with
  | nil => simp [bytes] at length
  | cons byte rest => exact ⟨attempt, rest, attempts, by simp [bytes]⟩

/-- The device sends the low byte of a word first. -/
theorem readWord_read {reg : UInt8} {retryCount : Int}
    (success : (readWord answers reg retryCount).1.outcome = .returned true) :
    ∃ attempt low high rest, (readWord answers reg retryCount).1.attempts = attempt + 1 ∧
      (answers attempt).read.getD [] = low :: high :: rest ∧
      (readWord answers reg retryCount).2 = low.toUInt16 ||| (high.toUInt16 <<< 8) := by
  obtain ⟨attempt, attempts, read, length⟩ := read_of_returned success
  rw [read] at length
  unfold readWord
  simp only [read]
  match bytes : (answers attempt).read.getD [] with
  | [] => simp [bytes] at length
  | [_] => simp [bytes] at length
  | low :: high :: rest => exact ⟨attempt, low, high, rest, attempts, bytes, by simp⟩

end

/-- A probe is one attempt to write one byte. -/
theorem probeAddress_once (answers : Nat → Answer) :
    (probeAddress answers).attempts = 1 ∧
      ((probeAddress answers).outcome = .returned true ↔ (answers 0).succeeds [0] 0 = true) := by
  obtain ⟨settles, -⟩ := @retryLoop_settles answers [0] (0 + 1) 0 []
  change Settles answers [0] 0 0 1 (probeAddress answers) at settles
  rcases settles with ⟨attempt, within, success, -, outcome, attempts, -⟩ | ⟨attempt, within, throws, -, outcome, attempts⟩ |
    ⟨all, outcome, attempts⟩
  · obtain rfl : attempt = 0 := by omega
    exact ⟨attempts, iff_of_true outcome success⟩
  · obtain rfl : attempt = 0 := by omega
    have closed : (answers 0).opened = false := by simpa [Answer.throws] using throws
    exact ⟨attempts, iff_of_false (by simp [outcome]) (by simp [Answer.succeeds, closed])⟩
  · have fails := all 0 (Nat.le_refl 0) (by decide)
    have failed : (answers 0).succeeds [0] 0 = false := (Bool.or_eq_false_iff.mp fails).2
    exact ⟨attempts, iff_of_false (by simp [outcome]) (by simp [failed])⟩

end RgbClock.Bus
