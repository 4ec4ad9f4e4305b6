import RgbClock.Dab.Si4684
import RgbClock.Lcd.Driver
import RgbClock.Lib.Polling

/-! The loops that wait for a device and give up after a number of polls: the commands of the Si4684, the
two waits of the FM receiver and the one of the display. The first three read their answer off the number
of retries, which is used up by a last poll that was answered as by one that was not. -/

namespace RgbClock.Devices
open Polling

/-- What a wait returns, and how often it has polled the device. -/
structure Wait where
  result : Bool
  polls : Nat

/-- The wait is within its bound, and it is true exactly if a poll was answered. -/
def Wait.Truthful (w : Wait) (most : Nat) (answered : Nat → Prop) : Prop :=
  w.polls ≤ most ∧ (w.result = true ↔ ∃ p < w.polls, answered p)

/-! ### The FM receiver -/

namespace FMReceiver

def MAX_RETRIES : Nat := 20

/-- The `&&` of the source: no bit of the one operand is compared with the other. -/
def logicalAnd (a b : UInt8) : Bool := a ≠ 0 && b ≠ 0

def readCTS (readIntStatusResponse : UInt8) : Bool := logicalAnd readIntStatusResponse 0x80

def readSTC (readIntStatusResponse : UInt8) : Bool := logicalAnd readIntStatusResponse 0x01

/-- The retries at the end of the loop; `left` is what remains of `MAX_RETRIES`. -/
def waitLoop (read : Nat → Bool) : (left retries : Nat) → (flag : Bool) → Nat
  | 0, retries, _ => retries
  | left + 1, retries, flag => if flag then retries else waitLoop read left (retries + 1) (read retries)

/-- The status bytes are those of the successive polls. -/
def waitFor (read : UInt8 → Bool) (status : Nat → UInt8) : Wait :=
  let retries := waitLoop (fun p => read (status p)) MAX_RETRIES 0 false
  { result := if retries ≥ MAX_RETRIES then false else true, polls := retries }

def waitForCTS (status : Nat → UInt8) : Wait := waitFor readCTS status

def waitForSTC (status : Nat → UInt8) : Wait := waitFor readSTC status

end FMReceiver

/-! ### The display -/

namespace FastLCDisplay

def isReady (data : UInt8) : Bool := data ≠ 0

def readyLoop (data : Nat → UInt8) : (left retry : Nat) → (isReadyValue : Bool) → Wait
  | 0, retry, isReadyValue => ⟨isReadyValue, retry + 1⟩
  | left + 1, retry, isReadyValue =>
    if isReadyValue then ⟨isReadyValue, retry + 1⟩
    else readyLoop data left (retry + 1) (isReady (data (retry + 1)))

def waitForReady (data : Nat → UInt8) : Wait := readyLoop data Lcd.COMMAND_MAX_RETRY 0 (isReady (data 0))

end FastLCDisplay

/-! ### How the loops end -/

theorem waitLoop_true (read : Nat → Bool) (left retries : Nat) : FMReceiver.waitLoop read left retries true = retries := by
  cases left with
  | zero => rfl
  | succ left => rfl

theorem waitLoop_eq (read : Nat → Bool) (left retries : Nat) :
    FMReceiver.waitLoop read left retries false =
      match firstHit read left retries with
      | some p => p + 1
      | none => retries + left := by
  induction left generalizing retries with
  | zero => rfl
  | succ left ih =>
    show FMReceiver.waitLoop read left (retries + 1) (read retries) = _
    cases answered : read retries with
    | true => rw [waitLoop_true, firstHit_now answered]
    | false =>
      rw [ih, firstHit_later answered, Nat.add_assoc, Nat.add_comm 1 left]

theorem readyLoop_eq (data : Nat → UInt8) (left retry : Nat) :
    FastLCDisplay.readyLoop data left retry (FastLCDisplay.isReady (data retry)) =
      match firstHit (fun p => FastLCDisplay.isReady (data p)) (left + 1) retry with
      | some p => ⟨true, p + 1⟩
      | none => ⟨false, retry + left + 1⟩ := by
  induction left generalizing retry with
  | zero =>
    cases answered : FastLCDisplay.isReady (data retry) with
    | true => rw [firstHit_now answered]; rfl
    | false => rw [firstHit_later answered]; rfl
  | succ left ih =>
    cases answered : FastLCDisplay.isReady (data retry) with
    | true => rw [firstHit_now answered]; rfl
    | false =>
      rw [firstHit_later answered]
      show FastLCDisplay.readyLoop data left (retry + 1) (FastLCDisplay.isReady (data (retry + 1))) = _
      rw [ih, Nat.add_assoc retry 1 left, Nat.add_comm 1 left]

/-! ### What the waits tell -/

theorem waitForReady_truthful (data : Nat → UInt8) :
    (FastLCDisplay.waitForReady data).Truthful (Lcd.COMMAND_MAX_RETRY + 1) fun p => data p ≠ 0 := by
  have ends := readyLoop_eq data Lcd.COMMAND_MAX_RETRY 0
  unfold FastLCDisplay.waitForReady
  rw [ends]
  cases found : firstHit (fun p => FastLCDisplay.isReady (data p)) (Lcd.COMMAND_MAX_RETRY + 1) 0 with
  | some p =>
    obtain ⟨-, below, hits, -⟩ := firstHit_some found
    refine ⟨by dsimp only; omega, iff_of_true rfl ⟨p, Nat.lt_succ_self p, of_decide_eq_true hits⟩⟩
  | none =>
    refine ⟨by dsimp only; omega, iff_of_false Bool.false_ne_true fun given => ?_⟩
    obtain ⟨p, below, ready⟩ := given
    have silent := firstHit_none found p (Nat.zero_le p) (by dsimp only at below; omega)
    exact of_decide_eq_false silent ready

/-- Among the polls of the wait, the first status that is not zero has the bit, unless it is the last one
that is allowed, which then does not have it. -/
def FMReceiver.Tells (mask : UInt8) (status : Nat → UInt8) : Prop :=
  ∀ k < MAX_RETRIES, status k ≠ 0 → (∀ j < k, status j = 0) → (status k &&& mask ≠ 0 ↔ k + 1 < MAX_RETRIES)

section
variable {mask : UInt8} {status : Nat → UInt8} {first : Nat}

theorem masked_zero {p : Nat} (silent : status p = 0) : ¬ status p &&& mask ≠ 0 := by
  rw [silent, UInt8.zero_and]
  exact not_not_intro rfl

/-- Up to the first status that is not zero, no other one has the bit. -/
theorem answered_by_first (quiet : ∀ j < first, status j = 0) :
    (∃ p < first + 1, status p &&& mask ≠ 0) ↔ status first &&& mask ≠ 0 := by
  constructor
  · intro given
    obtain ⟨p, bound, bit⟩ := given
    obtain rfl | earlier := Nat.eq_or_lt_of_le (Nat.le_of_lt_succ bound)
    · exact bit
    · exact absurd bit (masked_zero (quiet p earlier))
  · exact fun bit => ⟨first, Nat.lt_succ_self first, bit⟩

theorem tells_iff_first (inside : first < FMReceiver.MAX_RETRIES) (nonzero : status first ≠ 0)
    (quiet : ∀ j < first, status j = 0) :
    FMReceiver.Tells mask status ↔ (status first &&& mask ≠ 0 ↔ first + 1 < FMReceiver.MAX_RETRIES) := by
  constructor
  · exact fun all => all first inside nonzero quiet
  · intro here k _ filled silent
    -- no other status is the first that is not zero
    obtain earlier | rfl | later := Nat.lt_trichotomy k first
    · exact absurd (quiet k earlier) filled
    · exact here
    · exact absurd (silent first later) nonzero

end

theorem waitFor_truthful_iff (mask : UInt8) {read : UInt8 → Bool} (reads : ∀ byte, read byte = decide (byte ≠ 0))
    (status : Nat → UInt8) :
    (FMReceiver.waitFor read status).Truthful FMReceiver.MAX_RETRIES (fun p => status p &&& mask ≠ 0) ↔
      FMReceiver.Tells mask status := by
  have ends := waitLoop_eq (fun p => read (status p)) FMReceiver.MAX_RETRIES 0
  have zero : ∀ p, read (status p) = false → status p = 0 := by
    intro p silent
    rw [reads] at silent
    exact not_not.mp (of_decide_eq_false silent)
  unfold FMReceiver.waitFor Wait.Truthful
  rw [ends]
  cases found : firstHit (fun p => read (status p)) FMReceiver.MAX_RETRIES 0 with
  | some first =>
    obtain ⟨-, below, hits, before⟩ := firstHit_some found
    have inside : first < FMReceiver.MAX_RETRIES := by omega
    have quiet : ∀ j < first, status j = 0 := fun j earlier => zero j (before j (Nat.zero_le j) earlier)
    have nonzero : status first ≠ 0 := by
      rw [reads] at hits
      exact of_decide_eq_true hits
    dsimp only
    rw [answered_by_first quiet, tells_iff_first inside nonzero quiet]
    by_cases last : first + 1 ≥ FMReceiver.MAX_RETRIES
    · have late : ¬ first + 1 < FMReceiver.MAX_RETRIES := by omega
      rw [if_pos last]
      simp only [Nat.succ_le_of_lt inside, late, true_and, Bool.false_eq_true, false_iff, iff_false]
    · have early : first + 1 < FMReceiver.MAX_RETRIES := by omega
      rw [if_neg last]
      simp only [Nat.succ_le_of_lt inside, early, true_and, true_iff, iff_true]
  | none =>
    have quiet : ∀ j < FMReceiver.MAX_RETRIES, status j = 0 :=
      fun j inside => zero j (firstHit_none found j (Nat.zero_le j) (by omega))
    dsimp only
    rw [Nat.zero_add, if_pos (Nat.le_refl _)]
    refine iff_of_true ⟨Nat.le_refl _, iff_of_false Bool.false_ne_true fun given => ?_⟩ fun k inside filled _ => ?_
    · obtain ⟨p, bound, bit⟩ := given
      exact masked_zero (quiet p bound) bit
    · exact absurd (quiet k inside) filled

theorem logicalAnd_bit {mask : UInt8} (bit : mask ≠ 0) (byte : UInt8) :
    FMReceiver.logicalAnd byte mask = decide (byte ≠ 0) := by
  unfold FMReceiver.logicalAnd
  rw [decide_eq_true bit, Bool.and_true]

/-! ### The commands of the Si4684 -/

section
open Dab

variable {answers : Answers} {uninitialised : Bool} {waitMask : UInt8}

theorem poll_rawStatus (left retries : Nat) {rawStatus : List UInt8} (five : rawStatus.length = 5) :
    (poll answers uninitialised waitMask left retries rawStatus).rawStatus.length = 5 := by
  induction left generalizing retries rawStatus with
  | zero => exact five
  | succ left ih =>
    unfold poll
    split
    · exact five
    · dsimp only
      split
      · apply length_readWriteData
      · exact ih (retries + 1) (length_readWriteData _ _)

/-- Nothing is returned exactly if the retries are used up. -/
theorem reply_nil_iff (answers : Answers) (uninitialised : Bool) (c : Command) :
    (exchange answers uninitialised c).reply = [] ↔
      (poll answers uninitialised c.waitMask Dab.MAX_RETRIES 0 (List.replicate 5 0)).failed = false ∧
        Dab.MAX_RETRIES ≤ (poll answers uninitialised c.waitMask Dab.MAX_RETRIES 0 (List.replicate 5 0)).retries := by
  have five := @poll_rawStatus answers uninitialised c.waitMask Dab.MAX_RETRIES 0 (List.replicate 5 0) rfl
  unfold exchange
  dsimp only
  generalize poll answers uninitialised c.waitMask Dab.MAX_RETRIES 0 (List.replicate 5 0) = polled at five ⊢
  have status : polled.rawStatus ≠ [] := by
    intro empty
    rw [empty] at five
    cases five
  cases polled.failed with
  | true =>
    rw [if_pos rfl]
    exact iff_of_false status fun given => absurd given.1 (Ne.symm Bool.false_ne_true)
  | false =>
    rw [if_neg Bool.false_ne_true]
    by_cases early : polled.retries < Dab.MAX_RETRIES
    · rw [if_pos early]
      refine iff_of_false ?_ (by omega)
      split
      · intro empty
        have long := length_readWriteData (answers polled.retries) c.resultLength
        rw [empty, List.length_nil] at long
        omega
      · exact status
    · rw [if_neg early]
      exact iff_of_true rfl ⟨rfl, Nat.not_lt.mp early⟩

/-- The loop is bounded, and nothing is returned only if no poll was acknowledged. -/
def CommandTruthful (answers : Answers) (uninitialised : Bool) (c : Command) : Prop :=
  (exchange answers uninitialised c).polls.length ≤ Dab.MAX_RETRIES ∧
    ((exchange answers uninitialised c).reply = [] →
      ∀ rawStatus ∈ (exchange answers uninitialised c).polls, ¬ acknowledges c.waitMask rawStatus)

/-- The command is acknowledged by the last poll that is allowed and not before, and without an error. -/
def AnsweredLast (answers : Answers) (waitMask : UInt8) : Prop :=
  (∀ q, q + 1 < Dab.MAX_RETRIES → ¬ acknowledges waitMask (answers.status q)) ∧
    acknowledges waitMask (answers.status (Dab.MAX_RETRIES - 1)) = true ∧
    ∀ q < Dab.MAX_RETRIES, ¬ showsError (answers.status q)

/-- A mask without bits is acknowledged by everything. -/
theorem acknowledges_empty (acknowledged : acknowledges waitMask (List.replicate 5 0) = true) (rawStatus : List UInt8) :
    acknowledges waitMask rawStatus = true := by
  have empty : waitMask = 0 := by
    have same : (0 : UInt8) &&& waitMask = waitMask := of_decide_eq_true acknowledged
    rw [← same, UInt8.zero_and]
  unfold acknowledges
  rw [empty, UInt8.and_zero]
  rfl

theorem answeredLast_iff :
    AnsweredLast answers waitMask ↔ firstHit (stops answers waitMask) Dab.MAX_RETRIES 0 = some (Dab.MAX_RETRIES - 1) ∧
      ¬ showsError (answers.status (Dab.MAX_RETRIES - 1)) := by
  unfold AnsweredLast Dab.MAX_RETRIES
  rw [show 500 - 1 = 499 from rfl]
  constructor
  · intro given
    obtain ⟨silent, answered, clear⟩ := given
    refine ⟨?_, clear 499 (by decide)⟩
    cases found : firstHit (stops answers waitMask) 500 0 with
    | none =>
      have none := stops_eq_false.mp (firstHit_none found 499 (by decide) (by decide))
      exact absurd answered none.1
    | some p =>
      obtain ⟨-, below, hits, -⟩ := firstHit_some found
      have last : ¬ p + 1 < 500 := by
        intro early
        have quiet := stops_eq_false.mpr ⟨silent p early, clear p (by omega)⟩
        rw [hits] at quiet
        cases quiet
      have same : p = 499 := by omega
      rw [same]
  · intro given
    obtain ⟨found, clear⟩ := given
    obtain ⟨-, -, hits, before⟩ := firstHit_some found
    have quiet : ∀ q, q < 499 → _ := fun q early => stops_eq_false.mp (before q (Nat.zero_le q) early)
    refine ⟨fun q early => (quiet q (by omega)).1, ?_, fun q inside => ?_⟩
    · by_contra silent
      have none := stops_eq_false.mpr ⟨silent, clear⟩
      rw [hits] at none
      cases none
    · obtain early | last := Nat.lt_or_ge q 499
      · exact (quiet q early).2
      · have same : q = 499 := by omega
        rw [same]
        exact clear

/-- A command that waits returns nothing if it is never answered, or answered by its last poll. -/
theorem reply_nil_cases {c : Command} (waiting : ¬ acknowledges c.waitMask (List.replicate 5 0)) :
    (exchange answers uninitialised c).reply = [] ↔
      firstHit (stops answers c.waitMask) Dab.MAX_RETRIES 0 = none ∨ AnsweredLast answers c.waitMask := by
  obtain ⟨-, failed, retried, -⟩ :=
    @poll_firstHit answers uninitialised c.waitMask Dab.MAX_RETRIES 0 (List.replicate 5 0) waiting
  rw [reply_nil_iff, answeredLast_iff]
  unfold pollCount at retried
  cases found : firstHit (stops answers c.waitMask) Dab.MAX_RETRIES 0 with
  | none =>
    rw [found] at failed retried
    have clear : (poll answers uninitialised c.waitMask Dab.MAX_RETRIES 0 (List.replicate 5 0)).failed = false := failed
    have late := retried clear
    dsimp only at late
    exact iff_of_true ⟨clear, by omega⟩ (Or.inl rfl)
  | some p =>
    obtain ⟨-, below, -, -⟩ := firstHit_some found
    rw [found] at failed retried
    rw [Option.any_some] at failed
    dsimp only at retried
    rw [failed]
    cases error : showsError (answers.status p) with
    | true =>
      refine iff_of_false (fun given => absurd given.1 (Ne.symm Bool.false_ne_true)) fun either => ?_
      obtain none | ⟨same, clear⟩ := either
      · cases none
      · rw [← Option.some.inj same, error] at clear
        exact clear rfl
    | false =>
      have late := retried (failed.trans error)
      rw [late]
      constructor
      · intro given
        have same : p = Dab.MAX_RETRIES - 1 := by omega
        rw [← same, error]
        exact Or.inr ⟨rfl, Bool.false_ne_true⟩
      · intro either
        obtain none | ⟨same, -⟩ := either
        · cases none
        · have last := Option.some.inj same
          have positive : 0 < Dab.MAX_RETRIES := by decide
          exact ⟨rfl, by omega⟩

theorem mem_polls {c : Command} (waiting : ¬ acknowledges c.waitMask (List.replicate 5 0)) {rawStatus : List UInt8} :
    rawStatus ∈ (exchange answers uninitialised c).polls ↔
      ∃ p < pollCount (stops answers c.waitMask) Dab.MAX_RETRIES 0, answers.status p = rawStatus := by
  obtain ⟨polls, -⟩ :=
    @poll_firstHit answers uninitialised c.waitMask Dab.MAX_RETRIES 0 (List.replicate 5 0) waiting
  show rawStatus ∈ (poll answers uninitialised c.waitMask Dab.MAX_RETRIES 0 (List.replicate 5 0)).polls ↔ _
  rw [polls, List.mem_map]
  simp only [List.mem_range'_1, Nat.zero_le, true_and, Nat.zero_add]

theorem length_polls (answers : Answers) (uninitialised : Bool) (c : Command) :
    (exchange answers uninitialised c).polls.length ≤ Dab.MAX_RETRIES := by
  show (poll answers uninitialised c.waitMask Dab.MAX_RETRIES 0 (List.replicate 5 0)).polls.length ≤ _
  by_cases waiting : acknowledges c.waitMask (List.replicate 5 0) = true
  · rw [poll_acknowledged waiting]
    apply Nat.zero_le
  · obtain ⟨polls, -, -⟩ :=
      @poll_firstHit answers uninitialised c.waitMask Dab.MAX_RETRIES 0 (List.replicate 5 0) waiting
    rw [polls, List.length_map, List.length_range']
    apply pollCount_le

theorem commandTruthful_iff (answers : Answers) (uninitialised : Bool) (c : Command) :
    CommandTruthful answers uninitialised c ↔ ¬ AnsweredLast answers c.waitMask := by
  have bound := length_polls answers uninitialised c
  by_cases waiting : acknowledges c.waitMask (List.replicate 5 0) = true
  · -- the loop is not entered
    have none : (exchange answers uninitialised c).polls = [] := by
      unfold exchange
      rw [poll_acknowledged waiting]
    refine iff_of_true ⟨bound, fun _ rawStatus member => ?_⟩ fun last => ?_
    · rw [none] at member
      cases member
    · exact last.1 0 (by decide) (acknowledges_empty waiting _)
  constructor
  · intro truthful last
    have found := (answeredLast_iff.mp last).1
    have empty := (@reply_nil_cases answers uninitialised c waiting).mpr (Or.inr last)
    refine truthful.2 empty _ ((mem_polls waiting).mpr ⟨Dab.MAX_RETRIES - 1, ?_, rfl⟩) last.2.1
    unfold pollCount
    rw [found]
    decide
  · intro early
    refine ⟨bound, fun empty rawStatus member => ?_⟩
    obtain ⟨p, inside, rfl⟩ := (mem_polls waiting).mp member
    have found := ((reply_nil_cases waiting).mp empty).resolve_right early
    unfold pollCount at inside
    rw [found] at inside
    exact (stops_eq_false.mp (firstHit_none found p (Nat.zero_le p) (by dsimp only at inside; omega))).1

/-- Each wait tells the truth exactly under its condition: a command unless it is answered by its last poll, a
wait of the FM receiver if the first status that is not zero has the bit and is not its last, or has it not and
is; and the wait for the display always. -/
theorem waits_truthful_iff (answers : Answers) (uninitialised : Bool) (c : Command) (cts stc data : Nat → UInt8) :
    (CommandTruthful answers uninitialised c ↔ ¬ AnsweredLast answers c.waitMask) ∧
      ((FMReceiver.waitForCTS cts).Truthful FMReceiver.MAX_RETRIES (fun p => cts p &&& 0x80 ≠ 0) ↔
        FMReceiver.Tells 0x80 cts) ∧
      ((FMReceiver.waitForSTC stc).Truthful FMReceiver.MAX_RETRIES (fun p => stc p &&& 0x01 ≠ 0) ↔
        FMReceiver.Tells 0x01 stc) ∧
      (FastLCDisplay.waitForReady data).Truthful (Lcd.COMMAND_MAX_RETRY + 1) (fun p => data p ≠ 0) :=
  ⟨commandTruthful_iff answers uninitialised c, waitFor_truthful_iff 0x80 (logicalAnd_bit (by decide)) cts,
    waitFor_truthful_iff 0x01 (logicalAnd_bit (by decide)) stc, waitForReady_truthful data⟩

/-- A chip that raises `CTS` with the last poll of a command. -/
def lateChip : Answers := fun read byte => if read = 499 ∧ byte = 0 then 0x80 else 0

theorem lateChip_status {p : Nat} (early : p ≠ 499) : lateChip.status p = [0, 0, 0, 0, 0] := by
  have zero : lateChip p = fun _ => 0 := by
    funext byte
    unfold lateChip
    rw [if_neg fun both => early both.1]
  unfold Answers.status
  rw [zero]
  rfl

/-- The command that was acknowledged last returns nothing, `STC` is taken for `CTS`, and an `STC` that came
with the last poll is not seen. -/
theorem waits_that_do_not_tell :
    ¬ CommandTruthful lateChip false ⟨SI468X_POWER_UP, [], 0, WAIT_CTS⟩ ∧
      ¬ (FMReceiver.waitForCTS fun _ => 0x01).Truthful FMReceiver.MAX_RETRIES (fun _ => (0x01 : UInt8) &&& 0x80 ≠ 0) ∧
      ¬ (FMReceiver.waitForSTC fun p => if p = 19 then 0x01 else 0).Truthful FMReceiver.MAX_RETRIES
        (fun p => (if p = 19 then 0x01 else 0 : UInt8) &&& 0x01 ≠ 0) := by
  refine ⟨?_, ?_, ?_⟩
  · rw [commandTruthful_iff, not_not]
    refine ⟨fun q early => ?_, by decide, fun q inside => ?_⟩
    · rw [lateChip_status (by unfold Dab.MAX_RETRIES at early; omega)]
      decide
    · by_cases last : q = 499
      · rw [last]
        decide
      · rw [lateChip_status last]
        decide
  · intro truthful
    obtain ⟨p, -, bit⟩ := truthful.2.mp rfl
    exact bit rfl
  · intro truthful
    have said := truthful.2.mpr ⟨19, by decide, by decide⟩
    exact absurd said (by decide)

end

end RgbClock.Devices
