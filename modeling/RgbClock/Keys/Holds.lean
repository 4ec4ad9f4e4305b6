import RgbClock.Keys.Keyboard
import RgbClock.Lib.Run
import Mathlib.Tactic.IntervalCases

/-!
How `readThread` classifies one hold of a key. A hold is a maximal run of pressed
samples; while it lasts the history of the key is a block of ones, and after sixteen
samples it no longer changes. Each threshold of the source is a bound on the length of
that block.
-/

namespace RgbClock.Keys
open Runs

def reported (before : List Sample) (sample : Sample) (i : Key) : KeyInfo :=
  ((run Keyboard.readThread {} before).scan sample i).info

/-- `hold` is a maximal run of pressed samples of key `i` that `release` ends. -/
structure Hold (i : Key) (before hold : List Sample) (release : Sample) : Prop where
  fresh : ∀ last, before.getLast? = some last → last.pressed i = false
  held : ∀ sample ∈ hold, sample.pressed i = true
  nonempty : hold ≠ []
  ends : release.pressed i = false

def LongReported (i : Key) (before hold : List Sample) : Prop :=
  ∃ front sample back, hold = front ++ sample :: back ∧
    (reported (before ++ front) sample i).mLongPress = true

/-- The hold is classified as it ends: released after a long press, or else short pressed
when it has at least two samples. -/
def Classified (i : Key) (before hold : List Sample) (release : Sample) : Prop :=
  ((reported (before ++ hold) release i).mReleased = true ↔ LongReported i before hold) ∧
  ((reported (before ++ hold) release i).mShortPressed = true ↔
    2 ≤ hold.length ∧ ¬ LongReported i before hold)

/-! ### The history of one key -/

def heldHistory : Nat → UInt16
  | 0 => 0
  | n + 1 => (scanKey (heldHistory n) 1).mKeyHistory

theorem low_bit (x : UInt16) : x &&& 0x01 = 0 ∨ x &&& 0x01 = 1 := by
  have parity : (x &&& 0x01).toNat = x.toNat % 2 := by simp [UInt16.toNat_and, Nat.and_one_is_mod]
  rcases Nat.mod_two_eq_zero_or_one x.toNat with even | odd
  · exact Or.inl (UInt16.toNat_inj.mp (by rw [parity, even]; rfl))
  · exact Or.inr (UInt16.toNat_inj.mp (by rw [parity, odd]; rfl))

theorem bit_of_pressed {sample : Sample} {i : Key} (pressed : sample.pressed i = true) :
    sample.bit i = 1 := by
  simp only [Sample.pressed, ne_eq, decide_eq_true_eq] at pressed
  exact (low_bit _).resolve_left pressed

theorem bit_of_released {sample : Sample} {i : Key} (released : sample.pressed i = false) :
    sample.bit i = 0 := by
  simpa [Sample.pressed] using released

theorem lowest_bit_of_shift (h : UInt16) : (h <<< 1 ||| (0 &&& 0x01)) &&& 0x01 = 0 := by
  apply UInt16.toNat_inj.mp
  simp [UInt16.toNat_and, UInt16.toNat_shiftLeft, Nat.and_one_is_mod, Nat.shiftLeft_eq]

theorem scanKey_released (h : UInt16) : (scanKey h 0).mKeyHistory = 0 := by
  simp only [scanKey, lowest_bit_of_shift, if_true]

theorem history_concat (samples : List Sample) (sample : Sample) (i : Key) :
    (run Keyboard.readThread {} (samples ++ [sample])).mKeyHistory i =
      (scanKey ((run Keyboard.readThread {} samples).mKeyHistory i) (sample.bit i)).mKeyHistory := by
  rw [run_concat]
  rfl

theorem history_fresh {i : Key} {before : List Sample}
    (fresh : ∀ last, before.getLast? = some last → last.pressed i = false) :
    (run Keyboard.readThread {} before).mKeyHistory i = 0 := by
  rcases List.eq_nil_or_concat' before with rfl | ⟨front, last, rfl⟩
  · rfl
  · rw [history_concat, bit_of_released (fresh last (by simp)), scanKey_released]

theorem history_held {i : Key} {before hold : List Sample}
    (fresh : ∀ last, before.getLast? = some last → last.pressed i = false)
    (held : ∀ sample ∈ hold, sample.pressed i = true) :
    (run Keyboard.readThread {} (before ++ hold)).mKeyHistory i = heldHistory hold.length := by
  induction hold using List.reverseRecOn with
  | nil => simpa [heldHistory] using history_fresh fresh
  | append_singleton front sample ih =>
    have earlier := ih (fun s member => held s (List.mem_append_left _ member))
    rw [← List.append_assoc, history_concat, earlier, bit_of_pressed (held sample (by simp))]
    simp [heldHistory]

theorem heldHistory_full (n : Nat) : heldHistory (16 + n) = 0xFFFF := by
  induction n with
  | zero => decide +kernel
  | succ n ih =>
    change (scanKey (heldHistory (16 + n)) 1).mKeyHistory = 0xFFFF
    rw [ih]
    decide

/-- A fact about every held history needs a check of the first sixteen lengths and of the full one. -/
theorem heldHistory_cases {P : Nat → UInt16 → Prop} (short : ∀ n < 16, P n (heldHistory n))
    (full : ∀ n, 16 ≤ n → P n 0xFFFF) (n : Nat) : P n (heldHistory n) := by
  rcases Nat.lt_or_ge n 16 with small | large
  · exact short n small
  · obtain ⟨m, rfl⟩ := Nat.exists_eq_add_of_le large
    rw [heldHistory_full]
    exact full _ large

/-! ### The thresholds -/

theorem long_at (n : Nat) : (scanKey (heldHistory n) 1).info.mLongPress = true ↔ 7 ≤ n := by
  refine heldHistory_cases (P := fun n h => (scanKey h 1).info.mLongPress = true ↔ 7 ≤ n) ?_ ?_ n
  · decide
  · intro n large
    have full : (scanKey 0xFFFF 1).info.mLongPress = true := by decide
    simp only [full, true_iff]
    omega

theorem released_at (n : Nat) : (scanKey (heldHistory n) 0).info.mReleased = true ↔ 7 ≤ n := by
  refine heldHistory_cases (P := fun n h => (scanKey h 0).info.mReleased = true ↔ 7 ≤ n) ?_ ?_ n
  · decide
  · intro n large
    have full : (scanKey 0xFFFF 0).info.mReleased = true := by decide
    simp only [full, true_iff]
    omega

theorem shortPressed_at (n : Nat) :
    (scanKey (heldHistory n) 0).info.mShortPressed = true ↔ 3 ≤ n ∧ n ≤ 6 := by
  refine heldHistory_cases (P := fun n h => (scanKey h 0).info.mShortPressed = true ↔ 3 ≤ n ∧ n ≤ 6) ?_ ?_ n
  · decide
  · intro n large
    have full : (scanKey 0xFFFF 0).info.mShortPressed = false := by decide
    simp only [full, Bool.false_eq_true, false_iff]
    omega

section
variable {i : Key} {before hold : List Sample} {release : Sample}

theorem reported_release (h : Hold i before hold release) :
    reported (before ++ hold) release i = (scanKey (heldHistory hold.length) 0).info := by
  unfold reported Keyboard.scan
  rw [history_held h.fresh h.held, bit_of_released h.ends]

theorem longReported_iff (h : Hold i before hold release) :
    LongReported i before hold ↔ 8 ≤ hold.length := by
  have at_sample : ∀ front sample back, hold = front ++ sample :: back →
      ((reported (before ++ front) sample i).mLongPress = true ↔ 7 ≤ front.length) := by
    intro front sample back split
    have heldFront : ∀ s ∈ front, s.pressed i = true := fun s member => h.held s (by simp [split, member])
    unfold reported Keyboard.scan
    rw [history_held h.fresh heldFront, bit_of_pressed (h.held sample (by simp [split])), long_at]
  constructor
  · intro given
    obtain ⟨front, sample, back, split, long⟩ := given
    have enough := (at_sample front sample back split).mp long
    simp only [split, List.length_append, List.length_cons]
    omega
  · intro enough
    have inside : 7 < hold.length := by omega
    have split : hold = hold.take 7 ++ hold[7] :: hold.drop 8 := by
      rw [List.getElem_cons_drop inside, List.take_append_drop]
    refine ⟨_, _, _, split, (at_sample _ _ _ split).mpr ?_⟩
    simp only [List.length_take]
    omega

/-- A hold is classified as intended unless it has two or seven samples: two samples leave
the history at `0b110`, which the test `> 0b110` excludes, and seven leave it above
`LONG_MASK` although no pass has reported a long press. -/
theorem hold_classified_iff (h : Hold i before hold release) :
    Classified i before hold release ↔ hold.length ≠ 2 ∧ hold.length ≠ 7 := by
  have positive : 0 < hold.length := List.length_pos_iff.mpr h.nonempty
  unfold Classified
  rw [reported_release h, released_at, shortPressed_at, longReported_iff h]
  omega

end

def heldLeft (n : Nat) : List Sample := List.replicate n ⟨true, 1⟩

theorem heldLeft_hold (n : Nat) (positive : 0 < n) : Hold KEY_LEFT [] (heldLeft n) ⟨true, 0⟩ where
  fresh := by simp
  held := by
    intro sample member
    rw [List.eq_of_mem_replicate member]
    decide
  nonempty := by
    intro empty
    have length := congrArg List.length empty
    simp only [heldLeft, List.length_replicate, List.length_nil] at length
    omega
  ends := by decide

theorem hold_of_three_classified : Classified KEY_LEFT [] (heldLeft 3) ⟨true, 0⟩ :=
  (hold_classified_iff (heldLeft_hold 3 (by decide))).mpr (by decide)

/-- Neither a hold of two samples nor one of seven is classified: the first is swallowed,
the second is released without its long press. -/
theorem holds_of_two_and_seven_misclassified :
    (Hold KEY_LEFT [] (heldLeft 2) ⟨true, 0⟩ ∧ ¬ Classified KEY_LEFT [] (heldLeft 2) ⟨true, 0⟩) ∧
    (Hold KEY_LEFT [] (heldLeft 7) ⟨true, 0⟩ ∧ ¬ Classified KEY_LEFT [] (heldLeft 7) ⟨true, 0⟩) := by
  have two := heldLeft_hold 2 (by decide)
  have seven := heldLeft_hold 7 (by decide)
  refine ⟨⟨two, ?_⟩, seven, ?_⟩
  · intro given
    obtain ⟨_, short⟩ := given
    rw [reported_release two, shortPressed_at, longReported_iff two] at short
    have length : (heldLeft 2).length = 2 := rfl
    omega
  · intro given
    obtain ⟨released, _⟩ := given
    rw [reported_release seven, released_at, longReported_iff seven] at released
    have length : (heldLeft 7).length = 7 := rfl
    omega

end RgbClock.Keys
