import Mathlib.Data.List.Basic

/-! Bounded polling: a loop asks again and again, up to some number of times, until an answer is the one
that it waits for. -/

namespace Polling

variable {hit : Nat → Bool}

/-- The first of the polls from `start` on that is answered, if one of `count` is. -/
def firstHit (hit : Nat → Bool) : (count start : Nat) → Option Nat
  | 0, _ => none
  | count + 1, start => if hit start then some start else firstHit hit count (start + 1)

/-- How many polls are made up to the first that is answered. -/
def pollCount (hit : Nat → Bool) (count start : Nat) : Nat :=
  match firstHit hit count start with
  | some p => p + 1 - start
  | none => count

theorem firstHit_now {count start : Nat} (answered : hit start = true) : firstHit hit (count + 1) start = some start := by
  rw [firstHit, if_pos answered]

theorem firstHit_later {count start : Nat} (silent : hit start = false) :
    firstHit hit (count + 1) start = firstHit hit count (start + 1) := by
  rw [firstHit, if_neg (by rw [silent]; exact Bool.false_ne_true)]

theorem firstHit_some {count start p : Nat} (found : firstHit hit count start = some p) :
    start ≤ p ∧ p < start + count ∧ hit p = true ∧ ∀ q, start ≤ q → q < p → hit q = false := by
  induction count generalizing start with
  | zero => cases found
  | succ count ih =>
    cases answered : hit start with
    | true =>
      rw [firstHit_now answered] at found
      cases found
      exact ⟨Nat.le_refl _, by omega, answered, fun q above below => by omega⟩
    | false =>
      rw [firstHit_later answered] at found
      obtain ⟨above, below, hits, before⟩ := ih found
      refine ⟨by omega, by omega, hits, fun q first last => ?_⟩
      obtain rfl | later := Nat.eq_or_lt_of_le first
      · exact answered
      · exact before q later last

theorem firstHit_none {count start : Nat} (missing : firstHit hit count start = none) :
    ∀ q, start ≤ q → q < start + count → hit q = false := by
  induction count generalizing start with
  | zero => exact fun q above below => by omega
  | succ count ih =>
    cases answered : hit start with
    | true =>
      rw [firstHit_now answered] at missing
      cases missing
    | false =>
      rw [firstHit_later answered] at missing
      intro q first last
      obtain rfl | later := Nat.eq_or_lt_of_le first
      · exact answered
      · exact ih missing q later (by omega)

theorem pollCount_now {count start : Nat} (answered : hit start = true) : pollCount hit (count + 1) start = 1 := by
  unfold pollCount
  rw [firstHit_now answered]
  exact Nat.add_sub_cancel_left start 1

theorem pollCount_later {count start : Nat} (silent : hit start = false) :
    pollCount hit (count + 1) start = pollCount hit count (start + 1) + 1 := by
  unfold pollCount
  rw [firstHit_later silent]
  split
  · rename_i p found
    have above := (firstHit_some found).1
    omega
  · rfl

theorem pollCount_le (hit : Nat → Bool) (count start : Nat) : pollCount hit count start ≤ count := by
  unfold pollCount
  split
  · rename_i p found
    obtain ⟨above, below, -⟩ := firstHit_some found
    omega
  · exact Nat.le_refl count

end Polling
