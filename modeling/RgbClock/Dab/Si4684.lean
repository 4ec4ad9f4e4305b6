import RgbClock.Dab.Replies
import RgbClock.Lib.Polling

/-! The driver of the Si4684: a command is written, then the status is polled until the chip raises the
bits of the wait mask. The chip answers each read with bytes of its own choice. -/

namespace RgbClock.Dab
open Polling

def FIRMWARE_BLOCK_SIZE : Nat := 2 * 1024
def MAX_RETRIES : Nat := 500
def WAIT_CTS : UInt8 := 0x80

def SI468X_POWER_UP : UInt8 := 0x01
def SI468X_HOST_LOAD : UInt8 := 0x04
def SI468X_FLASH_LOAD : UInt8 := 0x05
def SI468X_LOAD_INIT : UInt8 := 0x06
def SI468X_SET_PROPERTY : UInt8 := 0x13
def SI468X_START_DIGITAL_SERVICE : UInt8 := 0x81
def SI468X_STOP_DIGITAL_SERVICE : UInt8 := 0x82

/-- The bytes with which the chip answers the reads of one command. -/
abbrev Answers := (read byte : Nat) → UInt8

/-- The answers to the reads of each command, and the memory under each status that is constructed. -/
structure Chip where
  answers : Nat → Answers
  uninitialised : Nat → Bool

structure Command where
  command : UInt8
  param : List UInt8
  resultLength : Nat
  waitMask : UInt8
  deriving DecidableEq

/-- A command that was sent, the statuses it polled, and what `sendCommand` returned. -/
structure Exchange where
  sent : Command
  polls : List (List UInt8)
  reply : List UInt8

def readWriteData (answer : Nat → UInt8) (size : Nat) : List UInt8 := (List.range size).map answer

def acknowledges (waitMask : UInt8) (rawStatus : List UInt8) : Bool := rawStatus.getD 0 0 &&& waitMask = waitMask

structure Polled where
  polls : List (List UInt8)
  rawStatus : List UInt8
  failed : Bool
  retries : Nat

/-- The polling loop; `left` is what remains of `MAX_RETRIES`. -/
def poll (answers : Answers) (uninitialised : Bool) (waitMask : UInt8) :
    (left retries : Nat) → (rawStatus : List UInt8) → Polled
  | 0, retries, rawStatus => { polls := [], rawStatus, failed := false, retries }
  | left + 1, retries, rawStatus =>
    if acknowledges waitMask rawStatus then { polls := [], rawStatus, failed := false, retries }
    else
      let rawStatus := readWriteData (answers retries) 5
      if (DABStatus.parse uninitialised rawStatus).any DABStatus.error then
        { polls := [rawStatus], rawStatus, failed := true, retries }
      else
        let rest := poll answers uninitialised waitMask left (retries + 1) rawStatus
        { rest with polls := rawStatus :: rest.polls }

/-- The error status, the reply in full, or nothing after a timeout. -/
def exchange (answers : Answers) (uninitialised : Bool) (c : Command) : Exchange :=
  let polled := poll answers uninitialised c.waitMask MAX_RETRIES 0 (List.replicate 5 0)
  { sent := c
    polls := polled.polls
    reply :=
      if polled.failed then polled.rawStatus
      else if polled.retries < MAX_RETRIES then
        if c.resultLength > 5 then readWriteData (answers polled.retries) c.resultLength else polled.rawStatus
      else [] }

/-- The driver keeps the commands that it has sent. -/
abbrev Driver := StateM (List Exchange)

section
variable (chip : Chip)

def sendCommand (command : UInt8) (param : List UInt8) (resultLength : Nat) (waitMask : UInt8) : Driver (List UInt8) := do
  let sent ← get
  let x := exchange (chip.answers sent.length) (chip.uninitialised sent.length)
    { command, param, resultLength, waitMask }
  set (sent ++ [x])
  return x.reply

/-- `error()` of the status that is constructed from the reply. -/
def statusError (command : UInt8) (param : List UInt8) (resultLength : Nat) (waitMask : UInt8) : Driver Bool := do
  let sent ← get
  let reply ← sendCommand chip command param resultLength waitMask
  return (DABStatus.parse (chip.uninitialised sent.length) reply).any DABStatus.error

def bytesOf (word : UInt32) : List UInt8 :=
  [word.toUInt8, (word >>> 8).toUInt8, (word >>> 16).toUInt8, (word >>> 24).toUInt8]

def powerUpParams : List UInt8 :=
  [0x00, 0x17, 0x28, 0x00, 0xF8, 0x24, 0x01, 0x28, 0x10, 0x00, 0x00, 0x00, 0x12, 0x00, 0x00]

def powerUp : Driver Bool := do
  if ← statusError chip SI468X_POWER_UP powerUpParams 0 WAIT_CTS then return false
  return true

/-- The loop over the blocks of the firmware. -/
def loadBlocks (firmware : List UInt8) : Driver Bool :=
  if firmware = [] then return true
  else do
    let firmwareBlock := firmware.take FIRMWARE_BLOCK_SIZE
    if ← statusError chip SI468X_HOST_LOAD ([0x00, 0x00, 0x00] ++ firmwareBlock) 0 WAIT_CTS then return false
    loadBlocks (firmware.drop FIRMWARE_BLOCK_SIZE)
  termination_by firmware.length
  decreasing_by
    rename_i more
    have := List.length_pos_iff.mpr more
    simp only [FIRMWARE_BLOCK_SIZE, List.length_drop]
    omega

/-- The firmware is what `readFile` read from the file, if it could be opened. -/
def hostLoad (firmware : Option (List UInt8)) : Driver Bool := do
  match firmware with
  | some firmware =>
    if ← statusError chip SI468X_LOAD_INIT [0x00] 0 WAIT_CTS then return false
    loadBlocks chip firmware
  | none => return false

def flashLoad (address : UInt32) : Driver Bool := do
  if ← statusError chip SI468X_LOAD_INIT [0x00] 0 WAIT_CTS then return false
  let params := [0x00, 0x00, 0x00] ++ bytesOf address ++ [0x00, 0x00, 0x00, 0x00]
  return !(← statusError chip SI468X_FLASH_LOAD params 4 WAIT_CTS)

def serviceParams (serviceId componentId : UInt32) : List UInt8 :=
  [0x00, 0x00, 0x00] ++ bytesOf serviceId ++ bytesOf componentId

def startService (serviceId componentId : UInt32) : Driver Bool := do
  return !(← statusError chip SI468X_START_DIGITAL_SERVICE (serviceParams serviceId componentId) 4 WAIT_CTS)

def stopService (serviceId componentId : UInt32) : Driver Bool := do
  return !(← statusError chip SI468X_STOP_DIGITAL_SERVICE (serviceParams serviceId componentId) 4 WAIT_CTS)

def setProperty (property value : UInt16) : Driver Bool := do
  let setPropertyParams := [0x00, property.toUInt8, (property >>> 8).toUInt8, value.toUInt8, (value >>> 8).toUInt8]
  return !(← statusError chip SI468X_SET_PROPERTY setPropertyParams 0 WAIT_CTS)

end

/-! ### One command -/

/-- `ERR_CMD`, or one of `CMDOFERR`, `REPOFERR` and `ERRNR`. -/
def showsError (rawStatus : List UInt8) : Bool :=
  decide (rawStatus.getD 0 0 &&& 0x40 ≠ 0) || decide (rawStatus.getD 3 0 &&& 0x04 ≠ 0) ||
    decide (rawStatus.getD 3 0 &&& 0x08 ≠ 0) || decide (rawStatus.getD 3 0 &&& 0x01 ≠ 0)

/-- The status that a poll of the command reads. -/
def Answers.status (answers : Answers) (poll : Nat) : List UInt8 := readWriteData (answers poll) 5

/-- A poll shows an error bit, and no earlier one acknowledges the command. -/
def Answers.Fails (answers : Answers) : Prop :=
  ∃ p < MAX_RETRIES, showsError (answers.status p) ∧ ∀ q < p, ¬ acknowledges WAIT_CTS (answers.status q)

/-- A poll but the last acknowledges the command, and none up to it shows an error bit. -/
def Answers.Acknowledged (answers : Answers) : Prop :=
  ∃ p, p + 1 < MAX_RETRIES ∧ acknowledges WAIT_CTS (answers.status p) ∧ ∀ q ≤ p, ¬ showsError (answers.status q)

theorem any_error_long {rawStatus : List UInt8} (long : rawStatus.length > 3) (uninitialised : Bool) :
    (DABStatus.parse uninitialised rawStatus).any DABStatus.error = showsError rawStatus := by
  have told := DABStatus.map_error uninitialised rawStatus
  obtain ⟨status, parsed, error⟩ := Option.map_eq_some_iff.mp told
  rw [parsed, Option.any_some, error, if_pos long, showsError]
  simp only [Bool.or_assoc]

theorem any_error_nil (uninitialised : Bool) :
    (DABStatus.parse uninitialised []).any DABStatus.error = uninitialised := by
  cases uninitialised <;> rfl

theorem length_readWriteData (answer : Nat → UInt8) (size : Nat) : (readWriteData answer size).length = size := by
  rw [readWriteData, List.length_map, List.length_range]

theorem Answers.length_status (answers : Answers) (p : Nat) : (answers.status p).length = 5 :=
  length_readWriteData (answers p) 5

theorem Answers.status_long (answers : Answers) (p : Nat) : (answers.status p).length > 3 := by
  rw [answers.length_status]
  decide

section
variable {answers : Answers} {uninitialised : Bool}

theorem poll_acknowledged {left retries : Nat} {rawStatus : List UInt8} {waitMask : UInt8}
    (acknowledged : acknowledges waitMask rawStatus = true) :
    poll answers uninitialised waitMask left retries rawStatus =
      { polls := [], rawStatus, failed := false, retries } := by
  cases left with
  | zero => rfl
  | succ left => rw [poll, if_pos acknowledged]

theorem poll_succ {left retries : Nat} {rawStatus : List UInt8} {waitMask : UInt8}
    (waiting : ¬ acknowledges waitMask rawStatus) :
    poll answers uninitialised waitMask (left + 1) retries rawStatus =
      if showsError (answers.status retries) then
        { polls := [answers.status retries], rawStatus := answers.status retries, failed := true, retries }
      else
        let rest := poll answers uninitialised waitMask left (retries + 1) (answers.status retries)
        { rest with polls := answers.status retries :: rest.polls } := by
  rw [poll, if_neg waiting]
  show (if (DABStatus.parse uninitialised (answers.status retries)).any DABStatus.error then _ else _) = _
  rw [any_error_long (answers.status_long retries)]
  rfl

/-- The polls with which the loop of a command ends. -/
def stops (answers : Answers) (waitMask : UInt8) (p : Nat) : Bool :=
  acknowledges waitMask (answers.status p) || showsError (answers.status p)

theorem stops_eq_false {waitMask : UInt8} {p : Nat} :
    stops answers waitMask p = false ↔
      ¬ acknowledges waitMask (answers.status p) ∧ ¬ showsError (answers.status p) := by
  unfold stops
  rw [Bool.or_eq_false_iff, Bool.not_eq_true, Bool.not_eq_true]

/-- What the loop leaves, by the first of its polls that stops it. -/
theorem poll_firstHit {waitMask : UInt8} (left retries : Nat) {rawStatus : List UInt8}
    (waiting : ¬ acknowledges waitMask rawStatus) :
    (poll answers uninitialised waitMask left retries rawStatus).polls =
        (List.range' retries (pollCount (stops answers waitMask) left retries)).map answers.status ∧
      (poll answers uninitialised waitMask left retries rawStatus).failed =
        ((firstHit (stops answers waitMask) left retries).any fun p => showsError (answers.status p)) ∧
      ((poll answers uninitialised waitMask left retries rawStatus).failed = false →
        (poll answers uninitialised waitMask left retries rawStatus).retries =
          retries + pollCount (stops answers waitMask) left retries) ∧
      ∀ p, firstHit (stops answers waitMask) left retries = some p →
        (poll answers uninitialised waitMask left retries rawStatus).rawStatus = answers.status p := by
  induction left generalizing retries rawStatus with
  | zero => exact ⟨rfl, rfl, fun _ => rfl, fun _ found => by cases found⟩
  | succ left ih =>
    rw [poll_succ waiting]
    by_cases error : showsError (answers.status retries) = true
    · have stopped : stops answers waitMask retries = true := by
        unfold stops
        rw [error, Bool.or_true]
      rw [if_pos error, pollCount_now stopped, firstHit_now stopped]
      exact ⟨rfl, error.symm, fun none => absurd none (Ne.symm Bool.false_ne_true), fun _ found => by cases found; rfl⟩
    rw [if_neg error]
    by_cases acknowledged : acknowledges waitMask (answers.status retries) = true
    · have stopped : stops answers waitMask retries = true := by
        unfold stops
        rw [acknowledged, Bool.true_or]
      rw [poll_acknowledged acknowledged, pollCount_now stopped, firstHit_now stopped]
      exact ⟨rfl, (Bool.not_eq_true _).mp error |>.symm, fun _ => rfl, fun _ found => by cases found; rfl⟩
    · have goesOn : stops answers waitMask retries = false := stops_eq_false.mpr ⟨acknowledged, error⟩
      obtain ⟨polls, failed, retried, raw⟩ := ih (retries + 1) acknowledged
      rw [pollCount_later goesOn, firstHit_later goesOn]
      refine ⟨?_, failed, fun none => ?_, raw⟩
      · show _ :: _ = _
        rw [polls, List.range'_succ, List.map_cons]
      · have more := retried none
        dsimp only
        rw [more]
        omega

/-- How the loop ends: at the first error, at the first acknowledgement that leaves a retry, or with none left. -/
inductive Ends (answers : Answers) (waitMask : UInt8) (left retries : Nat) (polled : Polled) : Prop where
  | failed (p : Nat) (bounds : retries ≤ p ∧ p < retries + left) (error : showsError (answers.status p) = true)
      (before : ∀ q, retries ≤ q → q < p → ¬ acknowledges waitMask (answers.status q))
      (failed : polled.failed = true) (raw : polled.rawStatus = answers.status p)
  | ready (p : Nat) (bounds : retries ≤ p ∧ p + 1 < retries + left)
      (acknowledged : acknowledges waitMask (answers.status p) = true)
      (clear : ∀ q, retries ≤ q → q ≤ p → ¬ showsError (answers.status q))
      (failed : polled.failed = false) (retried : polled.retries = p + 1) (raw : polled.rawStatus = answers.status p)
      (polls : polled.polls = (List.range' retries (p + 1 - retries)).map answers.status)
  | timeout (silent : ∀ q, retries ≤ q → q + 1 < retries + left → ¬ acknowledges waitMask (answers.status q))
      (clear : ∀ q, retries ≤ q → q < retries + left → ¬ showsError (answers.status q))
      (failed : polled.failed = false) (retried : polled.retries = retries + left)

theorem poll_ends (waitMask : UInt8) (left retries : Nat) {rawStatus : List UInt8}
    (waiting : ¬ acknowledges waitMask rawStatus) :
    Ends answers waitMask left retries (poll answers uninitialised waitMask left retries rawStatus) := by
  obtain ⟨polls, failed, retried, raw⟩ := @poll_firstHit answers uninitialised waitMask left retries rawStatus waiting
  unfold pollCount at polls retried
  cases found : firstHit (stops answers waitMask) left retries with
  | none =>
    have quiet := firstHit_none found
    rw [found] at failed retried
    refine .timeout (fun q above below => ?_) (fun q above below => ?_) failed (retried failed)
    · exact (stops_eq_false.mp (quiet q above (by omega))).1
    · exact (stops_eq_false.mp (quiet q above below)).2
  | some p =>
    obtain ⟨first, inside, hits, before⟩ := firstHit_some found
    rw [found] at polls failed retried
    rw [Option.any_some] at failed
    by_cases error : showsError (answers.status p) = true
    · refine .failed p ⟨first, inside⟩ error (fun q above below => ?_) (failed.trans error) (raw p found)
      exact (stops_eq_false.mp (before q above below)).1
    -- without an error it is the acknowledgement that stops the loop
    have clear : ∀ q, retries ≤ q → q ≤ p → ¬ showsError (answers.status q) := by
      intro q above upTo
      obtain rfl | below := Nat.eq_or_lt_of_le upTo
      · exact error
      · exact (stops_eq_false.mp (before q above below)).2
    have none := failed.trans ((Bool.not_eq_true _).mp error)
    have after : (poll answers uninitialised waitMask left retries rawStatus).retries = p + 1 := by
      have total := retried none
      dsimp only at total
      omega
    by_cases last : p + 1 < retries + left
    · have answered : acknowledges waitMask (answers.status p) = true := by
        by_contra silent
        rw [stops_eq_false.mpr ⟨silent, error⟩] at hits
        cases hits
      exact .ready p ⟨first, last⟩ answered clear none after (raw p found) polls
    · refine .timeout (fun q above below => ?_) (fun q above below => ?_) none (by omega)
      · exact (stops_eq_false.mp (before q above (by omega))).1
      · exact clear q above (by omega)

/-- The commands of the driver wait for `CTS` and ask for no more than the status. -/
def Command.Plain (c : Command) : Prop := c.resultLength ≤ 5 ∧ c.waitMask = WAIT_CTS

def Exchange.Acked (x : Exchange) : Prop :=
  (∃ rawStatus ∈ x.polls, acknowledges x.sent.waitMask rawStatus) ∧ ∀ rawStatus ∈ x.polls, ¬ showsError rawStatus

/-- `error()` of a status that is constructed from the reply. -/
def Exchange.error (x : Exchange) (uninitialised : Bool) : Bool :=
  (DABStatus.parse uninitialised x.reply).any DABStatus.error

/-- What a command comes to. -/
inductive Outcome (answers : Answers) (uninitialised : Bool) (x : Exchange) : Prop where
  | failed (fails : answers.Fails) (error : x.error uninitialised = true)
  | acked (acknowledged : answers.Acknowledged) (acked : x.Acked) (reply : x.reply ≠ [])
      (error : x.error uninitialised = false)
  | timedOut (clear : ¬ answers.Fails) (silent : ¬ answers.Acknowledged) (reply : x.reply = [])
      (error : x.error uninitialised = uninitialised)

theorem exchange_outcome {c : Command} (plain : c.Plain) :
    Outcome answers uninitialised (exchange answers uninitialised c) := by
  obtain ⟨short, mask⟩ := plain
  have waiting : ¬ acknowledges c.waitMask (List.replicate 5 0) := by
    rw [mask]
    decide
  have nonempty : ∀ p, answers.status p ≠ [] := by
    intro p empty
    have long := answers.status_long p
    rw [empty] at long
    cases long
  have ends : Ends answers c.waitMask MAX_RETRIES 0
      (poll answers uninitialised c.waitMask MAX_RETRIES 0 (List.replicate 5 0)) :=
    poll_ends c.waitMask MAX_RETRIES 0 waiting
  cases ends with
  | failed p bounds shown before failed raw =>
    have reply : (exchange answers uninitialised c).reply = answers.status p := by
      simp only [exchange, failed, if_true, raw]
    refine .failed ⟨p, by omega, shown, fun q below => ?_⟩ ?_
    · rw [← mask]
      exact before q (Nat.zero_le q) below
    · rw [Exchange.error, reply, any_error_long (answers.status_long p)]
      exact shown
  | ready p bounds answered clear failed retried raw polls =>
    have early : p + 1 < MAX_RETRIES := by omega
    have reply : (exchange answers uninitialised c).reply = answers.status p := by
      simp only [exchange, failed, retried, raw, early, if_true, if_neg (Nat.not_lt.mpr short), Bool.false_eq_true, if_false]
    refine .acked ⟨p, early, mask ▸ answered, fun q below => clear q (Nat.zero_le q) below⟩ ⟨?_, ?_⟩ ?_ ?_
    · refine ⟨answers.status p, ?_, answered⟩
      simp only [exchange, polls, List.mem_map, List.mem_range'_1]
      exact ⟨p, by omega, rfl⟩
    · intro rawStatus member
      simp only [exchange, polls, List.mem_map, List.mem_range'_1] at member
      obtain ⟨q, bound, rfl⟩ := member
      exact clear q (Nat.zero_le q) (by omega)
    · rw [reply]
      exact nonempty p
    · rw [Exchange.error, reply, any_error_long (answers.status_long p), ← Bool.not_eq_true]
      exact clear p (Nat.zero_le p) (Nat.le_refl p)
  | timeout silent clear failed retried =>
    have reply : (exchange answers uninitialised c).reply = [] := by
      simp only [exchange, failed, retried, Nat.zero_add, Nat.lt_irrefl, Bool.false_eq_true, if_false]
    refine .timedOut ?_ ?_ reply ?_
    · intro given
      obtain ⟨p, bound, shown, -⟩ := given
      exact clear p (Nat.zero_le p) (by omega) shown
    · intro given
      obtain ⟨p, bound, answered, -⟩ := given
      exact silent p (Nat.zero_le p) (by omega) (mask ▸ answered)
    · rw [Exchange.error, reply, any_error_nil]

theorem Answers.Acknowledged.clear (acknowledged : answers.Acknowledged) : ¬ answers.Fails := by
  obtain ⟨p, -, answered, clear⟩ := acknowledged
  intro given
  obtain ⟨q, -, shown, before⟩ := given
  rcases Nat.lt_or_ge p q with earlier | later
  · exact before p earlier answered
  · exact clear q later shown

end

/-! ### Sequences of commands -/

section
variable (chip : Chip)

/-- The commands one after the other, up to the first whose status is an error. -/
def inOrder : List Command → Driver Bool
  | [] => return true
  | c :: rest => do
    if ← statusError chip c.command c.param c.resultLength c.waitMask then return false
    inOrder rest

/-- The exchange of the next command after `n` others. -/
def Chip.exchange (n : Nat) (c : Command) : Exchange := Dab.exchange (chip.answers n) (chip.uninitialised n) c

def Chip.error (n : Nat) (c : Command) : Bool := (chip.exchange n c).error (chip.uninitialised n)

theorem inOrder_cons (c : Command) (rest : List Command) (sent : List Exchange) :
    inOrder chip (c :: rest) sent =
      if chip.error sent.length c then (false, sent ++ [chip.exchange sent.length c])
      else inOrder chip rest (sent ++ [chip.exchange sent.length c]) := by
  show (if chip.error sent.length c = true then pure false else inOrder chip rest : Driver Bool)
    (sent ++ [chip.exchange sent.length c]) = _
  split <;> rfl

/-- The exchanges of the commands after `n` others, if none of them stops the sequence. -/
def Chip.exchanges (n : Nat) (commands : List Command) : List Exchange :=
  commands.mapIdx fun i c => chip.exchange (n + i) c

theorem inOrder_true {commands : List Command} {sent : List Exchange}
    (clear : ∀ i c, commands[i]? = some c → chip.error (sent.length + i) c = false) :
    inOrder chip commands sent = (true, sent ++ chip.exchanges sent.length commands) := by
  induction commands generalizing sent with
  | nil =>
    show (true, sent) = (true, sent ++ [])
    rw [List.append_nil]
  | cons c rest ih =>
    have here : ¬ chip.error sent.length c = true := by
      rw [Bool.not_eq_true]
      exact clear 0 c rfl
    have next : (sent ++ [chip.exchange sent.length c]).length = sent.length + 1 := by simp
    have later := @ih (sent ++ [chip.exchange sent.length c]) (fun i c found => by
      rw [next, Nat.add_assoc, Nat.add_comm 1 i]
      exact clear (i + 1) c found)
    rw [inOrder_cons, if_neg here, later, next, List.append_assoc]
    simp only [Chip.exchanges, List.mapIdx_cons, List.singleton_append, Nat.add_zero, Nat.add_assoc, Nat.add_comm 1]

theorem inOrder_false {commands : List Command} {sent : List Exchange} {i : Nat} {c : Command}
    (found : commands[i]? = some c) (error : chip.error (sent.length + i) c = true) :
    (inOrder chip commands sent).1 = false := by
  induction commands generalizing sent i with
  | nil => cases found
  | cons first rest ih =>
    rw [inOrder_cons]
    split
    · rfl
    · rename_i clear
      cases i with
      | zero =>
        cases found
        exact absurd error clear
      | succ i =>
        apply ih found
        rw [List.length_append, List.length_singleton, Nat.add_assoc, Nat.add_comm 1 i]
        exact error

end

/-- A function of the driver, with its arguments. -/
inductive Request where
  | powerUp
  | hostLoad (firmware : Option (List UInt8))
  | flashLoad (address : UInt32)
  | startService (serviceId componentId : UInt32)
  | stopService (serviceId componentId : UInt32)
  | setProperty (property value : UInt16)
  deriving DecidableEq

namespace Request

def call (chip : Chip) : Request → Driver Bool
  | powerUp => Dab.powerUp chip
  | hostLoad firmware => Dab.hostLoad chip firmware
  | flashLoad address => Dab.flashLoad chip address
  | startService serviceId componentId => Dab.startService chip serviceId componentId
  | stopService serviceId componentId => Dab.stopService chip serviceId componentId
  | setProperty property value => Dab.setProperty chip property value

/-- The result of a call to a driver that has sent nothing before, and the commands it sends. -/
def result (chip : Chip) (r : Request) : Bool × List Exchange := r.call chip []

/-- The number of commands of a call in which nothing fails. -/
def commandCount : Request → Nat
  | hostLoad none => 0
  | hostLoad (some firmware) => 1 + (firmware.length + (FIRMWARE_BLOCK_SIZE - 1)) / FIRMWARE_BLOCK_SIZE
  | flashLoad _ => 2
  | powerUp | startService _ _ | stopService _ _ | setProperty _ _ => 1

/-- Whatever the memory held, a call is true only if every command was acknowledged without an error bit,
and false if one timed out. -/
def Honest (answers : Nat → Answers) (r : Request) : Prop :=
  ∀ uninitialised,
    ((r.result ⟨answers, uninitialised⟩).1 = true → ∀ x ∈ (r.result ⟨answers, uninitialised⟩).2, x.Acked) ∧
      ((∃ x ∈ (r.result ⟨answers, uninitialised⟩).2, x.reply = []) → (r.result ⟨answers, uninitialised⟩).1 = false)

def loadInit : Command := ⟨SI468X_LOAD_INIT, [0x00], 0, WAIT_CTS⟩

def blocks (firmware : List UInt8) : List Command :=
  if firmware = [] then []
  else
    ⟨SI468X_HOST_LOAD, [0x00, 0x00, 0x00] ++ firmware.take FIRMWARE_BLOCK_SIZE, 0, WAIT_CTS⟩ ::
      blocks (firmware.drop FIRMWARE_BLOCK_SIZE)
  termination_by firmware.length
  decreasing_by
    rename_i more
    have := List.length_pos_iff.mpr more
    simp only [FIRMWARE_BLOCK_SIZE, List.length_drop]
    omega

/-- The commands of a call in which nothing fails. -/
def commands : Request → List Command
  | powerUp => [⟨SI468X_POWER_UP, powerUpParams, 0, WAIT_CTS⟩]
  | hostLoad none => []
  | hostLoad (some firmware) => loadInit :: blocks firmware
  | flashLoad address =>
    [loadInit, ⟨SI468X_FLASH_LOAD, [0x00, 0x00, 0x00] ++ bytesOf address ++ [0x00, 0x00, 0x00, 0x00], 4, WAIT_CTS⟩]
  | startService serviceId componentId =>
    [⟨SI468X_START_DIGITAL_SERVICE, serviceParams serviceId componentId, 4, WAIT_CTS⟩]
  | stopService serviceId componentId =>
    [⟨SI468X_STOP_DIGITAL_SERVICE, serviceParams serviceId componentId, 4, WAIT_CTS⟩]
  | setProperty property value =>
    [⟨SI468X_SET_PROPERTY, [0x00, property.toUInt8, (property >>> 8).toUInt8, value.toUInt8, (value >>> 8).toUInt8],
      0, WAIT_CTS⟩]

/-- The last command of a function decides its result. -/
theorem not_statusError_eq (chip : Chip) (c : Command) (sent : List Exchange) :
    (do return !(← statusError chip c.command c.param c.resultLength c.waitMask) : Driver Bool) sent =
      inOrder chip [c] sent := by
  rw [inOrder_cons]
  show (!chip.error sent.length c, sent ++ [chip.exchange sent.length c]) = _
  cases chip.error sent.length c <;> rfl

/-- An earlier command decides whether the function goes on. -/
theorem guarded_eq (chip : Chip) (c : Command) {rest : Driver Bool} {commands : List Command}
    (same : ∀ sent, rest sent = inOrder chip commands sent) (sent : List Exchange) :
    (do if ← statusError chip c.command c.param c.resultLength c.waitMask then return false
        rest : Driver Bool) sent = inOrder chip (c :: commands) sent := by
  rw [inOrder_cons, ← same]
  show (if chip.error sent.length c = true then pure false else rest : Driver Bool)
    (sent ++ [chip.exchange sent.length c]) = _
  split <;> rfl

theorem loadBlocks_eq (chip : Chip) (firmware : List UInt8) (sent : List Exchange) :
    loadBlocks chip firmware sent = inOrder chip (blocks firmware) sent := by
  induction firmware using blocks.induct generalizing sent with
  | case1 => rw [loadBlocks, blocks, if_pos rfl, if_pos rfl]; rfl
  | case2 firmware more ih =>
    rw [loadBlocks, blocks, if_neg more, if_neg more]
    exact guarded_eq chip ⟨SI468X_HOST_LOAD, _, 0, WAIT_CTS⟩ ih sent

theorem call_eq (chip : Chip) {r : Request} (readable : r ≠ hostLoad none) (sent : List Exchange) :
    r.call chip sent = inOrder chip r.commands sent := by
  cases r with
  | powerUp =>
    have done : ∀ sent, (pure true : Driver Bool) sent = inOrder chip [] sent := fun _ => rfl
    exact guarded_eq chip ⟨SI468X_POWER_UP, _, 0, WAIT_CTS⟩ done sent
  | hostLoad firmware =>
    cases firmware with
    | none => exact absurd rfl readable
    | some firmware => exact guarded_eq chip loadInit (loadBlocks_eq chip firmware) sent
  | flashLoad address =>
    exact guarded_eq chip loadInit (not_statusError_eq chip ⟨SI468X_FLASH_LOAD, _, 4, WAIT_CTS⟩) sent
  | startService => exact not_statusError_eq chip ⟨SI468X_START_DIGITAL_SERVICE, _, 4, WAIT_CTS⟩ sent
  | stopService => exact not_statusError_eq chip ⟨SI468X_STOP_DIGITAL_SERVICE, _, 4, WAIT_CTS⟩ sent
  | setProperty => exact not_statusError_eq chip ⟨SI468X_SET_PROPERTY, _, 0, WAIT_CTS⟩ sent

theorem blocks_plain (firmware : List UInt8) : ∀ c ∈ blocks firmware, c.Plain := by
  induction firmware using blocks.induct with
  | case1 => simp [blocks]
  | case2 firmware more ih =>
    rw [blocks, if_neg more]
    intro c member
    rcases List.mem_cons.mp member with rfl | later
    · exact ⟨Nat.zero_le 5, rfl⟩
    · exact ih c later

theorem length_blocks (firmware : List UInt8) :
    (blocks firmware).length = (firmware.length + (FIRMWARE_BLOCK_SIZE - 1)) / FIRMWARE_BLOCK_SIZE := by
  induction firmware using blocks.induct with
  | case1 => simp [blocks, FIRMWARE_BLOCK_SIZE]
  | case2 firmware more ih =>
    have := List.length_pos_iff.mpr more
    rw [blocks, if_neg more, List.length_cons, ih, List.length_drop]
    simp only [FIRMWARE_BLOCK_SIZE]
    omega

theorem commands_plain (r : Request) : ∀ c ∈ r.commands, c.Plain := by
  cases r with
  | hostLoad firmware =>
    cases firmware with
    | none => simp [commands]
    | some firmware =>
      intro c member
      rcases List.mem_cons.mp member with rfl | later
      · exact ⟨Nat.zero_le 5, rfl⟩
      · exact blocks_plain firmware c later
  | _ => simp [commands, loadInit, Command.Plain]

theorem length_commands (r : Request) : r.commands.length = r.commandCount := by
  cases r with
  | hostLoad firmware =>
    cases firmware with
    | none => rfl
    | some firmware => rw [commands, List.length_cons, length_blocks, commandCount, Nat.add_comm]
  | _ => rfl

/-! ### Honest calls -/

section
variable {r : Request} {answers : Nat → Answers} {uninitialised : Nat → Bool}

theorem command_outcome (answers : Nat → Answers) (uninitialised : Nat → Bool) {i : Nat} {c : Command}
    (found : r.commands[i]? = some c) :
    Outcome (answers i) (uninitialised i) (Chip.exchange ⟨answers, uninitialised⟩ i c) :=
  exchange_outcome (commands_plain r c (List.mem_of_getElem? found))

theorem found_command {i : Nat} (bound : i < r.commandCount) : ∃ c, r.commands[i]? = some c := by
  rw [← length_commands] at bound
  exact ⟨_, List.getElem?_eq_getElem bound⟩

theorem bound_command {i : Nat} {c : Command} (found : r.commands[i]? = some c) : i < r.commandCount := by
  rw [← length_commands]
  exact (List.getElem?_eq_some_iff.mp found).1

/-- A command that shows an error makes the call false. -/
theorem result_of_fails {i : Nat} (bound : i < r.commandCount) (fails : (answers i).Fails) :
    (r.result ⟨answers, uninitialised⟩).1 = false := by
  obtain ⟨c, found⟩ := found_command bound
  have readable : r ≠ hostLoad none := by
    rintro rfl
    cases bound
  rw [result, call_eq _ readable]
  apply inOrder_false _ found
  rw [List.length_nil, Nat.zero_add]
  cases command_outcome answers uninitialised found with
  | failed _ error => exact error
  | acked acknowledged => exact absurd fails acknowledged.clear
  | timedOut clear => exact absurd fails clear

theorem result_of_clear (readable : r ≠ hostLoad none)
    (clear : ∀ i c, r.commands[i]? = some c → Chip.error ⟨answers, uninitialised⟩ i c = false) :
    r.result ⟨answers, uninitialised⟩ = (true, Chip.exchanges ⟨answers, uninitialised⟩ 0 r.commands) := by
  rw [result, call_eq _ readable, inOrder_true]
  · rfl
  · intro i c found
    rw [List.length_nil, Nat.zero_add]
    exact clear i c found

theorem mem_exchanges {chip : Chip} {commands : List Command} {x : Exchange} :
    x ∈ chip.exchanges 0 commands ↔ ∃ i c, commands[i]? = some c ∧ chip.exchange i c = x := by
  simp only [Chip.exchanges, List.mem_mapIdx, Nat.zero_add]
  constructor
  · intro given
    obtain ⟨i, bound, same⟩ := given
    exact ⟨i, _, List.getElem?_eq_getElem bound, same⟩
  · intro given
    obtain ⟨i, c, found, same⟩ := given
    obtain ⟨bound, rfl⟩ := List.getElem?_eq_some_iff.mp found
    exact ⟨i, bound, same⟩

/-- A call is honest if one of its commands shows an error before it is acknowledged, or if all of them are
acknowledged in time and without an error. -/
theorem honest_of (met : (∃ i < r.commandCount, (answers i).Fails) ∨ ∀ i < r.commandCount, (answers i).Acknowledged) :
    r.Honest answers := by
  intro uninitialised
  rcases met with ⟨i, bound, fails⟩ | acknowledged
  · rw [result_of_fails bound fails]
    exact ⟨fun done => absurd done Bool.false_ne_true, fun _ => rfl⟩
  · by_cases readable : r = hostLoad none
    · subst readable
      exact ⟨fun done => absurd done Bool.false_ne_true, fun _ => rfl⟩
    have acked : ∀ i c, r.commands[i]? = some c →
        (Chip.exchange ⟨answers, uninitialised⟩ i c).Acked ∧ (Chip.exchange ⟨answers, uninitialised⟩ i c).reply ≠ [] ∧
          Chip.error ⟨answers, uninitialised⟩ i c = false := by
      intro i c found
      have answered := acknowledged i (bound_command found)
      cases command_outcome answers uninitialised found with
      | failed fails => exact absurd fails answered.clear
      | acked _ acked reply error => exact ⟨acked, reply, error⟩
      | timedOut _ silent => exact absurd answered silent
    rw [result_of_clear readable fun i c found => (acked i c found).2.2]
    refine ⟨fun _ x member => ?_, fun ⟨x, member, empty⟩ => ?_⟩
    · obtain ⟨i, c, found, rfl⟩ := mem_exchanges.mp member
      exact (acked i c found).1
    · obtain ⟨i, c, found, rfl⟩ := mem_exchanges.mp member
      exact absurd empty (acked i c found).2.1

/-- Memory that happens to be clear makes a timeout look like success. -/
theorem timeout_is_true (clear : ∀ i < r.commandCount, ¬ (answers i).Fails) {i : Nat} (bound : i < r.commandCount)
    (silent : ¬ (answers i).Acknowledged) :
    (r.result ⟨answers, fun _ => false⟩).1 = true ∧ ∃ x ∈ (r.result ⟨answers, fun _ => false⟩).2, x.reply = [] := by
  have readable : r ≠ hostLoad none := by
    rintro rfl
    cases bound
  have noError : ∀ i c, r.commands[i]? = some c → Chip.error ⟨answers, fun _ => false⟩ i c = false := by
    intro i c found
    cases command_outcome answers (fun _ => false) found with
    | failed fails => exact absurd fails (clear i (bound_command found))
    | acked _ _ _ error => exact error
    | timedOut _ _ _ error => exact error
  rw [result_of_clear readable noError]
  obtain ⟨c, found⟩ := found_command bound
  refine ⟨rfl, _, mem_exchanges.mpr ⟨i, c, found, rfl⟩, ?_⟩
  cases command_outcome answers (fun _ => false) found with
  | failed fails => exact absurd fails (clear i bound)
  | acked acknowledged => exact absurd acknowledged silent
  | timedOut _ _ reply => exact reply

end

end Request

/-- The reply decides what `error()` is. -/
def Determined (reply : List UInt8) : Prop :=
  ∀ first second, (DABStatus.parse first reply).map DABStatus.error = (DABStatus.parse second reply).map DABStatus.error

theorem determined_iff (reply : List UInt8) : Determined reply ↔ 3 < reply.length ∨ reply.getD 0 0 &&& 0x40 ≠ 0 := by
  unfold Determined
  simp only [DABStatus.map_error, Option.some.injEq]
  by_cases long : 3 < reply.length
  · exact iff_of_true (fun _ _ => by rw [if_pos long, if_pos long]) (Or.inl long)
  by_cases error : reply.getD 0 0 &&& 0x40 = 0
  · refine iff_of_false (fun same => ?_) (not_or.mpr ⟨long, not_not_intro error⟩)
    have differ := same true false
    rw [error, if_neg long, if_neg long] at differ
    exact absurd differ (by decide)
  · refine iff_of_true (fun first second => ?_) (Or.inr error)
    rw [decide_eq_true error, Bool.true_or, Bool.true_or]

/-- The reply decides `error()` if it is long enough or shows `ERR_CMD`; and a call reports truly exactly if
one of its commands shows an error or all of them are acknowledged in time. -/
theorem honest_iff (reply : List UInt8) (r : Request) (answers : Nat → Answers) :
    (Determined reply ↔ 3 < reply.length ∨ reply.getD 0 0 &&& 0x40 ≠ 0) ∧
      (r.Honest answers ↔
        (∃ i < r.commandCount, (answers i).Fails) ∨ ∀ i < r.commandCount, (answers i).Acknowledged) := by
  refine ⟨determined_iff reply, fun honest => ?_, Request.honest_of⟩
  by_contra neither
  obtain ⟨clear, silent⟩ := not_or.mp neither
  obtain ⟨i, silent⟩ := not_forall.mp silent
  obtain ⟨bound, silent⟩ := Classical.not_imp.mp silent
  have clear : ∀ i < r.commandCount, ¬ (answers i).Fails := fun i bound fails => clear ⟨i, bound, fails⟩
  obtain ⟨done, empty⟩ := Request.timeout_is_true clear bound silent
  have said := (honest fun _ => false).2 empty
  rw [said] at done
  cases done

/-- A chip that never raises `CTS`. -/
def silentChip : Nat → Answers := fun _ _ _ => 0

/-- `powerUp` reports success to a chip that has not acknowledged it. -/
theorem silent_chip_is_powered_up :
    (Request.powerUp.result ⟨silentChip, fun _ => false⟩).1 = true ∧ ¬ Request.powerUp.Honest silentChip ∧
      ¬ Determined [] := by
  have zero : ∀ i p, (silentChip i).status p = [0, 0, 0, 0, 0] := fun _ _ => rfl
  have silent : ∀ i, ¬ (silentChip i).Acknowledged := by
    rintro i ⟨p, -, answered, -⟩
    rw [zero] at answered
    exact absurd answered (by decide)
  have clear : ∀ i < Request.powerUp.commandCount, ¬ (silentChip i).Fails := by
    rintro i - ⟨p, -, shown, -⟩
    rw [zero] at shown
    exact absurd shown (by decide)
  obtain ⟨done, empty⟩ := Request.timeout_is_true clear Nat.zero_lt_one (silent 0)
  refine ⟨done, fun honest => ?_, fun same => absurd (same true false) (by decide)⟩
  have said := (honest fun _ => false).2 empty
  rw [said] at done
  cases done

end RgbClock.Dab
