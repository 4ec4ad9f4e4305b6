import RgbClock.Keys.Holds

/-!
What the passes of `readThread` report, over arbitrary samples of the nine keys. A key's
history is always that of the hold it is in, so its flags are a function of its own samples;
and every flag an observer acts on comes with a change that makes the pass queue its report.
-/

namespace RgbClock.Keys
open Runs

/-- Two runs in which key `i` has the same samples. -/
def SameKey (i : Key) (first second : List Sample) : Prop :=
  first.map (·.pressed i) = second.map (·.pressed i)

instance (i : Key) (first second : List Sample) : Decidable (SameKey i first second) :=
  inferInstanceAs (Decidable (_ = _))

/-- A long press that is not a repeat: what enters and leaves the alarm editor. -/
def KeyInfo.firstLong (info : KeyInfo) : Bool := info.mLongPress && !info.mRepeat

def KeyInfo.repeatedLong (info : KeyInfo) : Bool := info.mLongPress && info.mRepeat

def KeyInfo.acts (info : KeyInfo) : Bool := info.mShortPressed || info.mReleased || info.mLongPress

/-- The flags of key `i` at sample `n` of a hold that follows `before`. -/
def reportedAt (i : Key) (before hold : List Sample) (n : Nat) : KeyInfo :=
  match hold[n]? with
  | some sample => reported (before ++ hold.take n) sample i
  | none => {}

/-! ### One key does not see the others -/

def bitOf (pressed : Bool) : UInt16 := if pressed then 1 else 0

theorem bit_eq (sample : Sample) (i : Key) : sample.bit i = bitOf (sample.pressed i) := by
  cases pressed : sample.pressed i with
  | true => exact bit_of_pressed pressed
  | false => exact bit_of_released pressed

/-- The history of key `i` is a fold over the samples of key `i`. -/
theorem history_eq_foldl (samples : List Sample) (i : Key) :
    (run Keyboard.readThread {} samples).mKeyHistory i =
      (samples.map (·.pressed i)).foldl (fun h pressed => (scanKey h (bitOf pressed)).mKeyHistory) 0 := by
  induction samples using List.reverseRecOn with
  | nil => rfl
  | append_singleton front sample ih =>
    rw [history_concat, ih, bit_eq, List.map_append, List.foldl_append]
    rfl

theorem reported_sameKey {i : Key} {first second : List Sample} {sample other : Sample}
    (past : SameKey i first second) (now : sample.pressed i = other.pressed i) :
    reported first sample i = reported second other i := by
  unfold reported Keyboard.scan
  rw [history_eq_foldl, history_eq_foldl, past, bit_eq, bit_eq, now]

/-! ### The long presses of a hold -/

theorem firstLong_at (n : Nat) : (scanKey (heldHistory n) 1).info.firstLong = true ↔ n = 7 := by
  refine heldHistory_cases (P := fun n h => (scanKey h 1).info.firstLong = true ↔ n = 7) ?_ ?_ n
  · decide
  · intro n large
    have full : (scanKey 0xFFFF 1).info.firstLong = false := by decide
    simp only [full, Bool.false_eq_true, false_iff]
    omega

theorem repeatedLong_at (n : Nat) : (scanKey (heldHistory n) 1).info.repeatedLong = true ↔ 8 ≤ n := by
  refine heldHistory_cases (P := fun n h => (scanKey h 1).info.repeatedLong = true ↔ 8 ≤ n) ?_ ?_ n
  · decide
  · intro n large
    have full : (scanKey 0xFFFF 1).info.repeatedLong = true := by decide
    simp only [full, true_iff]
    omega

section
variable {i : Key} {before hold : List Sample}

theorem reportedAt_held (fresh : ∀ last, before.getLast? = some last → last.pressed i = false)
    (held : ∀ sample ∈ hold, sample.pressed i = true) {n : Nat} (inside : n < hold.length) :
    reportedAt i before hold n = (scanKey (heldHistory n) 1).info := by
  have heldFront : ∀ sample ∈ hold.take n, sample.pressed i = true :=
    fun sample member => held sample (List.mem_of_mem_take member)
  unfold reportedAt
  rw [List.getElem?_eq_getElem inside]
  show reported (before ++ hold.take n) hold[n] i = _
  unfold reported Keyboard.scan
  rw [history_held fresh heldFront, bit_of_pressed (held _ (List.getElem_mem inside)), List.length_take,
    Nat.min_eq_left (Nat.le_of_lt inside)]

end

/-! ### What is queued -/

/-- Every history a run reaches is the history of some hold. -/
theorem history_is_held (samples : List Sample) (i : Key) :
    ∃ n, (run Keyboard.readThread {} samples).mKeyHistory i = heldHistory n := by
  induction samples using List.reverseRecOn with
  | nil => exact ⟨0, rfl⟩
  | append_singleton front sample ih =>
    obtain ⟨n, held⟩ := ih
    rw [history_concat, held]
    cases pressed : sample.pressed i with
    | true =>
      rw [bit_of_pressed pressed]
      exact ⟨n + 1, rfl⟩
    | false =>
      rw [bit_of_released pressed]
      exact ⟨0, scanKey_released _⟩

/-- A flag that is acted on comes with an edge of the history or with a long press. -/
theorem acts_changes (n : Nat) (pressed : Bool) (acts : (scanKey (heldHistory n) (bitOf pressed)).info.acts = true) :
    (scanKey (heldHistory n) (bitOf pressed)).stateChange = true := by
  revert pressed
  refine heldHistory_cases (P := fun _ h => ∀ pressed, (scanKey h (bitOf pressed)).info.acts = true →
    (scanKey h (bitOf pressed)).stateChange = true) ?_ ?_ n
  · decide
  · intro n large
    decide

/-- The keyboard `k` stands where the passes over `samples` leave it; other threads may have
taken reports from its queue or changed its state. -/
def After (samples : List Sample) (k : Keyboard) : Prop :=
  k.mKeyHistory = (run Keyboard.readThread {} samples).mKeyHistory

theorem scan_after {samples : List Sample} {k : Keyboard} (after : After samples k) (sample : Sample) (i : Key) :
    (k.scan sample i).info = reported samples sample i := by
  unfold reported Keyboard.scan
  rw [after]

theorem queued_of_acts {samples : List Sample} {k : Keyboard} (after : After samples k) {sample : Sample} {i : Key}
    (acts : (reported samples sample i).acts = true) :
    (k.readThread sample).mKeyboardQueue =
      k.mKeyboardQueue ++ [⟨fun key => reported samples sample key, k.mKeyboardState⟩] := by
  obtain ⟨n, held⟩ := history_is_held samples i
  have history : k.mKeyHistory i = heldHistory n := by rw [after, held]
  have changed : (k.scan sample i).stateChange = true := by
    rw [← scan_after after] at acts
    unfold Keyboard.scan at acts ⊢
    rw [history, bit_eq] at acts ⊢
    exact acts_changes n _ acts
  have some : ((List.finRange MONITORED_KEYS).any fun i => (k.scan sample i).stateChange) = true :=
    List.any_eq_true.mpr ⟨i, List.mem_finRange i, changed⟩
  unfold Keyboard.readThread
  simp only [some, if_true, scan_after after]

/-- The flags of a key depend on its own samples only; a hold reports a long press that is no
repeat at its eighth sample and a repeat at each later one; and a pass with a flag to act on
queues one report with the flags of all nine keys. -/
theorem key_reports (i : Key) (before : List Sample) :
    (∀ other sample otherSample, SameKey i before other → sample.pressed i = otherSample.pressed i →
      reported before sample i = reported other otherSample i) ∧
    (∀ hold, (∀ last, before.getLast? = some last → last.pressed i = false) →
      (∀ sample ∈ hold, sample.pressed i = true) →
      (8 ≤ hold.length → ∃! n, n < hold.length ∧ (reportedAt i before hold n).firstLong = true) ∧
      (∀ n < hold.length, (reportedAt i before hold n).firstLong = true ↔ n + 1 = 8) ∧
      ∀ n < hold.length, (reportedAt i before hold n).repeatedLong = true ↔ 8 < n + 1) ∧
    ∀ k sample, After before k → (∃ key, (reported before sample key).acts = true) →
      (k.readThread sample).mKeyboardQueue =
        k.mKeyboardQueue ++ [⟨fun key => reported before sample key, k.mKeyboardState⟩] := by
  refine ⟨fun other sample otherSample past now => reported_sameKey past now, fun hold fresh held => ?_, ?_⟩
  · have first : ∀ n < hold.length, (reportedAt i before hold n).firstLong = true ↔ n + 1 = 8 := by
      intro n inside
      rw [reportedAt_held fresh held inside, firstLong_at]
      omega
    refine ⟨fun long => ⟨7, ⟨by omega, (first 7 (by omega)).mpr rfl⟩, ?_⟩, first, fun n inside => ?_⟩
    · intro n given
      obtain ⟨inside, reported⟩ := given
      have eighth := (first n inside).mp reported
      omega
    · rw [reportedAt_held fresh held inside, repeatedLong_at]
      omega
  · intro k sample after given
    obtain ⟨key, acts⟩ := given
    exact queued_of_acts after acts

/-- A hold of twenty samples, and the pass that first reports it as long, while another key is down. -/
theorem hold_of_twenty_reported :
    (∃! n, n < (heldLeft 20).length ∧ (reportedAt KEY_LEFT [] (heldLeft 20) n).firstLong = true) ∧
      reported (heldLeft 7) ⟨true, 1⟩ KEY_LEFT = reported (List.replicate 7 ⟨true, 3⟩) ⟨true, 5⟩ KEY_LEFT ∧
      (Keyboard.readThread (run Keyboard.readThread {} (heldLeft 7)) ⟨true, 1⟩).mKeyboardQueue.length =
        (run Keyboard.readThread {} (heldLeft 7)).mKeyboardQueue.length + 1 := by
  refine ⟨?_, ?_, ?_⟩
  · have hold := heldLeft_hold 20 (by decide)
    obtain ⟨once, _⟩ := (key_reports KEY_LEFT []).2.1 (heldLeft 20) hold.fresh hold.held
    exact once (by decide)
  · exact (key_reports KEY_LEFT (heldLeft 7)).1 _ _ _ (by decide) (by decide)
  · have queued := (key_reports KEY_LEFT (heldLeft 7)).2.2 _ ⟨true, 1⟩ rfl ⟨KEY_LEFT, by decide⟩
    rw [queued, List.length_append]
    rfl

end RgbClock.Keys
