import RgbClock.Lib.Run
import Mathlib.Algebra.Polynomial.Div
import Mathlib.Algebra.CharP.Two
import Mathlib.Algebra.Field.ZMod

/-! Cyclic redundancy checks: a register of `w` bits divides a stream of bits by a polynomial over the field of two
elements, the highest power first. -/

namespace Crc
open Runs

variable {w : Nat}

/-- The register times `X`, reduced: where a bit leaves at the top, the polynomial is taken away. -/
def shift (poly c : BitVec w) : BitVec w := if c.msb then (c <<< 1) ^^^ poly else c <<< 1

def shifts (poly : BitVec w) (n : Nat) : BitVec w → BitVec w := (shift poly)^[n]

def top (bit : Bool) : BitVec w := if bit then BitVec.twoPow w (w - 1) else 0

def feed (poly c : BitVec w) (bit : Bool) : BitVec w := shift poly (c ^^^ top bit)

def divide (poly c : BitVec w) (bits : List Bool) : BitVec w := run (feed poly) c bits

/-- Bits as they stand in the register, the first one at the top. -/
def align : List Bool → BitVec w
  | [] => 0
  | bit :: rest => top bit ^^^ (align rest >>> 1)

/-! ### One place -/

variable (poly : BitVec w)

theorem shift_xor (a b : BitVec w) : shift poly (a ^^^ b) = shift poly a ^^^ shift poly b := by
  have moved : (a ^^^ b) <<< 1 = (a <<< 1) ^^^ (b <<< 1) := BitVec.shiftLeft_xor_distrib a b 1
  unfold shift
  rw [BitVec.msb_xor, moved]
  cases a.msb with
  | false =>
    cases b.msb with
    | false => rfl
    | true => simp [BitVec.xor_assoc]
  | true =>
    cases b.msb with
    | false => simp [BitVec.xor_assoc, BitVec.xor_comm poly]
    | true =>
      simp only [Bool.xor_self, Bool.false_eq_true, if_false, if_true]
      rw [BitVec.xor_assoc, ← BitVec.xor_assoc poly, BitVec.xor_comm poly (b <<< 1), BitVec.xor_assoc (b <<< 1),
        BitVec.xor_self, BitVec.xor_zero]

theorem shifts_xor (n : Nat) (a b : BitVec w) : shifts poly n (a ^^^ b) = shifts poly n a ^^^ shifts poly n b := by
  unfold shifts
  induction n generalizing a b with
  | zero => rfl
  | succ n ih =>
    rw [Function.iterate_succ_apply, Function.iterate_succ_apply, Function.iterate_succ_apply, shift_xor, ih]

/-- A register whose `n` highest bits are clear is only moved. -/
theorem shifts_low {n : Nat} {c : BitVec w} (clear : ∀ i, w ≤ i + n → c.getLsbD i = false) :
    shifts poly n c = c <<< n := by
  induction n generalizing c with
  | zero => exact (BitVec.shiftLeft_zero c).symm
  | succ n ih =>
    have high : c.msb = false := by
      rw [BitVec.msb_eq_getLsbD_last]
      exact clear (w - 1) (by omega)
    have once : shift poly c = c <<< 1 := by rw [shift, high, if_neg Bool.false_ne_true]
    have next : ∀ i, w ≤ i + n → (c <<< 1).getLsbD i = false := by
      intro i above
      rw [BitVec.getLsbD_shiftLeft]
      by_cases low : i < 1
      · simp [low]
      · rw [clear (i - 1) (by omega), Bool.and_false]
    show (shift poly)^[n + 1] c = _
    rw [Function.iterate_succ_apply, once]
    show shifts poly n (c <<< 1) = _
    rw [ih next, ← BitVec.shiftLeft_add, Nat.add_comm 1 n]

/-! ### Bits fed one by one -/

theorem getLsbD_top (bit : Bool) (i : Nat) : (top bit : BitVec w).getLsbD i = (bit && decide (i + 1 = w)) := by
  cases bit with
  | false => simp [top]
  | true =>
    simp only [top, if_true, BitVec.getLsbD_twoPow, Bool.true_and]
    by_cases last : i + 1 = w
    · simp only [last, decide_true, Bool.and_eq_true, decide_eq_true_eq]
      omega
    · simp only [last, decide_false, Bool.and_eq_false_iff, decide_eq_false_iff_not]
      omega

theorem getLsbD_align (bits : List Bool) (i : Nat) :
    (align bits : BitVec w).getLsbD i = (decide (i < w) && bits.getD (w - 1 - i) false) := by
  induction bits generalizing i with
  | nil => simp [align]
  | cons bit rest ih =>
    rw [align, BitVec.getLsbD_xor, getLsbD_top, BitVec.getLsbD_ushiftRight, ih]
    by_cases inside : i < w
    · by_cases last : i + 1 = w
      · have first : w - 1 - i = 0 := by omega
        have outside : ¬ 1 + i < w := by omega
        simp [last, first, outside, inside]
      · have later : w - 1 - i = (w - 1 - (1 + i)) + 1 := by omega
        have below : 1 + i < w := by omega
        simp [last, later, below, inside]
    · have apart : ¬ i + 1 = w := by omega
      have outside : ¬ 1 + i < w := by omega
      simp [inside, apart, outside]

/-- Feeding bits is adding them at the top and then shifting as often. -/
theorem divide_align (c : BitVec w) {bits : List Bool} (fits : bits.length ≤ w) :
    divide poly c bits = shifts poly bits.length (c ^^^ align bits) := by
  induction bits generalizing c with
  | nil =>
    show c = c ^^^ 0
    simp
  | cons bit rest ih =>
    have back : shift poly (align rest >>> 1) = align rest := by
      have high : (align rest >>> 1 : BitVec w).msb = false := by
        rw [BitVec.msb_eq_getLsbD_last, BitVec.getLsbD_ushiftRight]
        exact BitVec.getLsbD_of_ge _ _ (by omega)
      rw [shift, high, if_neg Bool.false_ne_true]
      apply BitVec.eq_of_getLsbD_eq
      intro i inside
      rw [BitVec.getLsbD_shiftLeft, BitVec.getLsbD_ushiftRight]
      rw [List.length_cons] at fits
      cases i with
      | zero =>
        have outside : rest[w - 1 - 0]? = none := List.getElem?_eq_none (by omega)
        have clear : (align rest : BitVec w).getLsbD 0 = false := by
          rw [getLsbD_align, List.getD_eq_getElem?_getD, outside, Option.getD_none, Bool.and_false]
        rw [clear]
        simp
      | succ i => simp [inside, Nat.add_comm 1 i]
    show divide poly (feed poly c bit) rest = _
    rw [ih _ (by rw [List.length_cons] at fits; omega), align, List.length_cons]
    show shifts poly rest.length _ = (shift poly)^[rest.length + 1] _
    rw [Function.iterate_succ_apply, ← BitVec.xor_assoc, shift_xor, back]
    rfl

/-! ### Errors that are found -/

variable {poly}

theorem shift_eq_zero (odd : poly.getLsbD 0 = true) {c : BitVec w} (zero : shift poly c = 0#w) : c = 0#w := by
  have wide : 0 < w := BitVec.lt_of_getLsbD odd
  cases high : c.msb with
  | true =>
    have bit := congrArg (fun c : BitVec w => c.getLsbD 0) zero
    rw [shift, high, if_pos rfl] at bit
    simp [odd] at bit
  | false =>
    rw [shift, high, if_neg Bool.false_ne_true] at zero
    apply BitVec.eq_of_getLsbD_eq
    intro i inside
    rw [BitVec.getLsbD_zero]
    by_cases last : i + 1 = w
    · rw [BitVec.msb_eq_getLsbD_last] at high
      rwa [show i = w - 1 by omega]
    · have bit := congrArg (fun c : BitVec w => c.getLsbD (i + 1)) zero
      have below : i + 1 < w := by omega
      simpa only [BitVec.getLsbD_shiftLeft, below, decide_true, Bool.true_and, Nat.not_lt_zero, Nat.add_sub_cancel,
        show ¬ i + 1 < 1 by omega, decide_false, Bool.not_false, BitVec.getLsbD_zero] using bit

theorem shift_injective (odd : poly.getLsbD 0 = true) : Function.Injective (shift poly) := by
  intro a b same
  have difference : shift poly (a ^^^ b) = 0#w := by rw [shift_xor, same, BitVec.xor_self]
  exact BitVec.xor_eq_zero_iff.mp (shift_eq_zero odd difference)

/-- After equal bits, registers that differed before still differ. -/
theorem divide_injective (odd : poly.getLsbD 0 = true) {a b : BitVec w} (bits : List Bool)
    (same : divide poly a bits = divide poly b bits) : a = b := by
  induction bits generalizing a b with
  | nil => exact same
  | cons bit rest ih =>
    have fed := shift_injective odd (ih same)
    exact (BitVec.xor_left_inj _).mp fed

theorem align_injective {first second : List Bool} (lengths : first.length = second.length) (fits : first.length ≤ w)
    (same : (align first : BitVec w) = align second) : first = second := by
  apply List.ext_getElem lengths
  intro n inside also
  have bit := congrArg (fun c : BitVec w => c.getLsbD (w - 1 - n)) same
  simp only [getLsbD_align] at bit
  have back : w - 1 - (w - 1 - n) = n := by omega
  have within : w - 1 - n < w := by omega
  simpa [back, within, inside, also] using bit

/-- A polynomial with a constant term finds every error within as many bits as the register has, wherever in the
message it is. -/
theorem divide_burst (odd : poly.getLsbD 0 = true) (c : BitVec w) (before after : List Bool) {first second : List Bool}
    (lengths : first.length = second.length) (fits : first.length ≤ w) (differ : first ≠ second) :
    divide poly c (before ++ first ++ after) ≠ divide poly c (before ++ second ++ after) := by
  intro same
  unfold divide at same
  rw [run_append, run_append, run_append, run_append] at same
  have inner : divide poly (divide poly c before) first = divide poly (divide poly c before) second :=
    divide_injective odd after same
  generalize divide poly c before = register at inner
  rw [divide_align poly register fits, divide_align poly register (lengths ▸ fits), ← lengths] at inner
  have aligned := (BitVec.xor_right_inj _).mp ((shift_injective odd).iterate first.length inner)
  exact differ (align_injective lengths fits aligned)

/-- The same by positions: messages of one length that agree outside a window of `w` bits. -/
theorem divide_window (odd : poly.getLsbD 0 = true) (c : BitVec w) {start : Nat} {first second : List Bool}
    (lengths : first.length = second.length) (outside : ∀ n, n < start ∨ start + w ≤ n → first[n]? = second[n]?)
    (same : divide poly c first = divide poly c second) : first = second := by
  have before : first.take start = second.take start := by
    apply List.ext_getElem?
    intro n
    rw [List.getElem?_take, List.getElem?_take]
    split
    · exact outside n (.inl ‹_›)
    · rfl
  have after : (first.drop start).drop w = (second.drop start).drop w := by
    apply List.ext_getElem?
    intro n
    rw [List.drop_drop, List.drop_drop, List.getElem?_drop, List.getElem?_drop]
    exact outside _ (.inr (by omega))
  have parted (bits : List Bool) : bits = bits.take start ++ (bits.drop start).take w ++ (bits.drop start).drop w := by
    rw [List.append_assoc, List.take_append_drop, List.take_append_drop]
  by_contra apart
  have inner : (first.drop start).take w ≠ (second.drop start).take w := by
    intro window
    apply apart
    rw [parted first, parted second, before, window, after]
  refine divide_burst odd c (second.take start) ((second.drop start).drop w) ?_ (List.length_take_le _ _) inner ?_
  · simp [lengths]
  · rw [← parted second, ← before, ← after, ← parted first]
    exact same

/-! ### The remainder -/

section Remainder
open Polynomial

/-- The polynomial whose coefficients are the bits. -/
noncomputable def toPoly (c : BitVec w) : (ZMod 2)[X] := ∑ i ∈ Finset.range w, if c.getLsbD i then X ^ i else 0

/-- The message, the first bit with the highest power. -/
noncomputable def message : List Bool → (ZMod 2)[X]
  | [] => 0
  | bit :: rest => (if bit then X ^ rest.length else 0) + message rest

/-- What is divided by: the register holds all of it but the highest power. -/
noncomputable def divisor (poly : BitVec w) : (ZMod 2)[X] := X ^ w + toPoly poly

theorem coeff_toPoly (c : BitVec w) (n : Nat) : (toPoly c).coeff n = if c.getLsbD n then 1 else 0 := by
  unfold toPoly
  rw [finsetSum_coeff]
  have terms : ∀ i, ((if c.getLsbD i then X ^ i else 0 : (ZMod 2)[X])).coeff n =
      if n = i then (if c.getLsbD n then 1 else 0) else 0 := by
    intro i
    by_cases same : n = i
    · subst same
      cases c.getLsbD n <;> simp
    · cases c.getLsbD i <;> simp [coeff_X_pow, same]
  simp only [terms, Finset.sum_ite_eq, Finset.mem_range]
  by_cases inside : n < w
  · rw [if_pos inside]
  · rw [if_neg inside, BitVec.getLsbD_of_ge c n (Nat.le_of_not_lt inside), if_neg Bool.false_ne_true]

theorem toPoly_xor (a b : BitVec w) : toPoly (a ^^^ b) = toPoly a + toPoly b := by
  ext n
  rw [coeff_add, coeff_toPoly, coeff_toPoly, coeff_toPoly, BitVec.getLsbD_xor]
  cases a.getLsbD n <;> cases b.getLsbD n <;> decide

theorem degree_toPoly_lt (c : BitVec w) : (toPoly c).degree < w := by
  rw [degree_lt_iff_coeff_zero]
  intro n above
  rw [coeff_toPoly, BitVec.getLsbD_of_ge c n above, if_neg Bool.false_ne_true]

/-- A shift multiplies by `X`, and takes the divisor away where the product is as long. -/
theorem X_mul_toPoly (poly c : BitVec w) :
    X * toPoly c = toPoly (shift poly c) + if c.msb then divisor poly else 0 := by
  have moved : X * toPoly c = toPoly (c <<< 1) + if c.msb then X ^ w else 0 := by
    ext n
    rw [coeff_add, coeff_toPoly, BitVec.getLsbD_shiftLeft]
    cases n with
    | zero =>
      rw [coeff_X_mul_zero]
      cases high : c.msb with
      | false => simp
      | true =>
        have wide : 0 ≠ w := by
          rw [BitVec.msb_eq_getLsbD_last] at high
          have := BitVec.lt_of_getLsbD high
          omega
        simp [coeff_X_pow, wide]
    | succ n =>
      rw [coeff_X_mul, coeff_toPoly]
      rcases Nat.lt_trichotomy (n + 1) w with below | here | beyond
      · have other : ¬ n + 1 = w := by omega
        cases c.msb <;> simp [below, coeff_X_pow, other]
      · have last : c.getLsbD n = c.msb := by
          rw [BitVec.msb_eq_getLsbD_last]
          congr 1
          omega
        cases high : c.msb <;> simp [here, coeff_X_pow, last, high]
      · have outside : c.getLsbD n = false := BitVec.getLsbD_of_ge c n (by omega)
        have other : ¬ n + 1 = w := by omega
        cases c.msb <;> simp [outside, coeff_X_pow, other]
  rw [moved]
  unfold shift
  cases c.msb with
  | false => rfl
  | true =>
    simp only [if_true]
    rw [toPoly_xor, divisor, add_assoc, add_comm (toPoly poly), add_assoc, CharTwo.add_self_eq_zero, add_zero]

theorem divisor_monic (poly : BitVec w) : (divisor poly).Monic := monic_X_pow_add (degree_toPoly_lt poly)

theorem degree_divisor (poly : BitVec w) : (divisor poly).degree = w := by
  unfold divisor
  rw [degree_add_eq_left_of_degree_lt]
  · exact degree_X_pow w
  · rw [degree_X_pow]
    exact degree_toPoly_lt poly

theorem toPoly_top (wide : 0 < w) (bit : Bool) : X * toPoly (top bit : BitVec w) = if bit then X ^ w else 0 := by
  ext n
  have written : (toPoly (top bit : BitVec w)) = if bit then X ^ (w - 1) else 0 := by
    ext n
    rw [coeff_toPoly, getLsbD_top]
    have last : n + 1 = w ↔ n = w - 1 := by omega
    cases bit <;> simp [coeff_X_pow, last]
  rw [written]
  cases bit with
  | false => simp
  | true =>
    simp only [if_true]
    rw [← pow_succ', Nat.sub_add_cancel wide]

/-- The register and the bits that are still to come, as one polynomial; feeding a bit changes it by a multiple of
the divisor. -/
theorem divide_congruent (wide : 0 < w) (poly c : BitVec w) (bits : List Bool) :
    divisor poly ∣ toPoly c * X ^ bits.length + message bits * X ^ w - toPoly (divide poly c bits) := by
  induction bits generalizing c with
  | nil => simp [message, divide]
  | cons bit rest ih =>
    have fed : X * toPoly c + (if bit then X ^ w else 0) =
        toPoly (feed poly c bit) + if (c ^^^ top bit).msb then divisor poly else 0 := by
      rw [← toPoly_top wide, ← mul_add, ← toPoly_xor, X_mul_toPoly poly]
      rfl
    have whole : toPoly c * X ^ (bit :: rest).length + message (bit :: rest) * X ^ w -
        toPoly (divide poly c (bit :: rest)) =
        (toPoly (feed poly c bit) * X ^ rest.length + message rest * X ^ w -
          toPoly (divide poly (feed poly c bit) rest)) +
        (if (c ^^^ top bit).msb then divisor poly else 0) * X ^ rest.length := by
      have moved : toPoly c * X ^ (bit :: rest).length + (if bit then X ^ rest.length else 0) * X ^ w =
          (toPoly (feed poly c bit) + if (c ^^^ top bit).msb then divisor poly else 0) * X ^ rest.length := by
        rw [← fed, List.length_cons, pow_succ]
        cases bit <;> simp <;> ring
      show _ + ((if bit then X ^ rest.length else 0) + message rest) * X ^ w - toPoly (divide poly (feed poly c bit) rest) = _
      rw [add_mul _ _ (X ^ w), ← add_assoc, moved]
      ring
    rw [whole]
    refine dvd_add (ih _) (Dvd.dvd.mul_right ?_ _)
    split
    · exact dvd_rfl
    · exact dvd_zero _

/-- What a register computes bit by bit is the remainder of a division of polynomials: of the message, moved up to make
room for the remainder, with the first contents of the register before it. -/
theorem toPoly_divide (wide : 0 < w) (poly c : BitVec w) (bits : List Bool) :
    toPoly (divide poly c bits) = (toPoly c * X ^ bits.length + message bits * X ^ w) %ₘ divisor poly := by
  obtain ⟨quotient, whole⟩ := divide_congruent wide poly c bits
  refine ((div_modByMonic_unique quotient (toPoly (divide poly c bits)) (divisor_monic poly) ⟨?_, ?_⟩).2).symm
  · rw [← whole]
    ring
  · rw [degree_divisor]
    exact degree_toPoly_lt _

end Remainder

end Crc
