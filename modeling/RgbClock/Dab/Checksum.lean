import RgbClock.Lib.Crc

/-! The checksum of a firmware image and of each of its blocks, as `Crc32.hpp` computes it: a table of 256 words that
the compiler fills in, and one look-up for each byte. It is compared with the long division it stands for. -/

namespace RgbClock.Dab
open Runs

def IEEE8023_CRC32_POLYNOMIAL : UInt32 := 0x04C11DB7

/-- An element of the table after `n` of its eight places. -/
def crc32TableElem (poly : UInt32) (index : UInt8) : Nat → UInt32
  | 0 => index.toUInt32 <<< 24
  | n + 1 =>
    let previous := crc32TableElem poly index n
    let carry := previous &&& 0x80000000 != 0
    (previous <<< 1) ^^^ (if carry then poly else 0)

def crc32Table (poly : UInt32) : Vector UInt32 256 :=
  Vector.ofFn fun index => crc32TableElem poly (UInt8.ofNat index) 8

/-- The place in the table: the byte that leaves the register, with the next one of the data. -/
def crc32Index (crc : UInt32) (x : UInt8) : UInt32 := ((crc >>> 24) ^^^ x.toUInt32) &&& 0xFF

theorem crc32Index_lt (crc : UInt32) (x : UInt8) : (crc32Index crc x).toNat < 256 := by
  unfold crc32Index
  rw [UInt32.toNat_and]
  exact Nat.lt_succ_of_le Nat.and_le_right

def crc32Step (poly crc : UInt32) (x : UInt8) : UInt32 :=
  (crc <<< 8) ^^^ (crc32Table poly).get ⟨(crc32Index crc x).toNat, crc32Index_lt crc x⟩

def crc32 (poly crc : UInt32) (bytes : List UInt8) : UInt32 := run (crc32Step poly) crc bytes

/-! ### The table -/

theorem carry_msb (word : UInt32) : (word &&& 0x80000000 != 0) = word.toBitVec.msb := by
  have masked : (word &&& 0x80000000).toBitVec = if word.toBitVec.getLsbD 31 then BitVec.twoPow 32 31 else 0#32 := by
    rw [UInt32.toBitVec_and]
    exact BitVec.and_twoPow word.toBitVec 31
  rw [BitVec.msb_eq_getLsbD_last]
  cases bit : word.toBitVec.getLsbD 31 with
  | false =>
    rw [bit, if_neg Bool.false_ne_true] at masked
    have zero : word &&& 0x80000000 = 0 := UInt32.toBitVec_inj.mp masked
    rw [zero]
    rfl
  | true =>
    have apart : word &&& 0x80000000 ≠ 0 := by
      intro zero
      rw [zero, bit, if_pos rfl] at masked
      exact absurd masked (by decide)
    exact bne_iff_ne.mpr apart

theorem crc32TableElem_shifts (poly : UInt32) (index : UInt8) (n : Nat) :
    (crc32TableElem poly index n).toBitVec = Crc.shifts poly.toBitVec n (index.toUInt32 <<< 24).toBitVec := by
  induction n with
  | zero => rfl
  | succ n ih =>
    unfold Crc.shifts at ih ⊢
    rw [Function.iterate_succ_apply', ← ih]
    unfold Crc.shift
    rw [← carry_msb]
    simp only [crc32TableElem]
    cases crc32TableElem poly index n &&& 0x80000000 != 0 with
    | false => simp
    | true => simp

theorem crc32Table_get (poly : UInt32) {place : Nat} (inside : place < 256) :
    ((crc32Table poly).get ⟨place, inside⟩).toBitVec =
      Crc.shifts poly.toBitVec 8 (BitVec.ofNat 32 place <<< 24) := by
  have entry : (crc32Table poly).get ⟨place, inside⟩ = crc32TableElem poly (UInt8.ofNat place) 8 := by
    exact Vector.getElem_ofFn inside
  have index : ((UInt8.ofNat place).toUInt32 <<< 24).toBitVec = BitVec.ofNat 32 place <<< 24 := by
    apply BitVec.eq_of_toNat_eq
    have small : place % 256 = place := Nat.mod_eq_of_lt inside
    have wide : place % 4294967296 = place := Nat.mod_eq_of_lt (by omega)
    simp [small, wide]
  rw [entry, crc32TableElem_shifts, index]

/-! ### A byte -/

/-- The bits of a byte, the highest first. -/
def bitsOf (x : UInt8) : List Bool := (List.range 8).map fun i => x.toBitVec.getMsbD i

theorem length_bitsOf (x : UInt8) : (bitsOf x).length = 8 := by
  rw [bitsOf, List.length_map, List.length_range]

theorem align_bitsOf (x : UInt8) : (Crc.align (bitsOf x) : BitVec 32) = x.toBitVec.setWidth 32 <<< 24 := by
  apply BitVec.eq_of_getLsbD_eq
  intro i inside
  rw [Crc.getLsbD_align, BitVec.getLsbD_shiftLeft, BitVec.getLsbD_setWidth]
  by_cases low : i < 24
  · have beyond : (bitsOf x)[32 - 1 - i]? = none := List.getElem?_eq_none (by rw [length_bitsOf]; omega)
    simp [beyond, low]
  · have place : 8 - 1 - (31 - i) = i - 24 := by omega
    have within : 31 - i < 8 := by omega
    have taken : i - 24 < 32 := by omega
    have bit : (bitsOf x)[31 - i]? = some (x.toBitVec.getLsbD (i - 24)) := by
      simp [bitsOf, within, BitVec.getMsbD, place]
    simp [bit, low, inside, taken]

/-- What stays in the register and what leaves it, the byte of the data with the latter. -/
theorem xor_align_bitsOf (crc : UInt32) (x : UInt8) :
    crc.toBitVec ^^^ Crc.align (bitsOf x) =
      (crc.toBitVec.setWidth 24).setWidth 32 ^^^ (BitVec.ofNat 32 (crc32Index crc x).toNat <<< 24) := by
  have index : BitVec.ofNat 32 (crc32Index crc x).toNat =
      ((crc.toBitVec >>> 24) ^^^ x.toBitVec.setWidth 32) &&& 255#32 := by
    have word : BitVec.ofNat 32 (crc32Index crc x).toNat = (crc32Index crc x).toBitVec := BitVec.ofNat_toNat _ _
    rw [word]
    rfl
  have mask (n : Nat) : (255#32).getLsbD n = decide (n < 8) := by
    rw [BitVec.getLsbD_ofNat]
    have ones : Nat.testBit 255 n = decide (n < 8) := Nat.testBit_two_pow_sub_one 8 n
    rw [ones]
    by_cases within : n < 8
    · have taken : n < 32 := by omega
      simp [within, taken]
    · simp [within]
  rw [align_bitsOf, index]
  apply BitVec.eq_of_getLsbD_eq
  intro i inside
  simp only [BitVec.getLsbD_xor, BitVec.getLsbD_shiftLeft, BitVec.getLsbD_setWidth, BitVec.getLsbD_and,
    BitVec.getLsbD_ushiftRight, mask, inside, decide_true, Bool.true_and]
  by_cases low : i < 24
  · simp [low]
  · have high : 24 + (i - 24) = i := by omega
    have within : i - 24 < 8 := by omega
    simp [low, high, within]

/-- One look-up does what the division does over the eight bits of a byte. -/
theorem crc32Step_divide (poly crc : UInt32) (x : UInt8) :
    (crc32Step poly crc x).toBitVec = Crc.divide poly.toBitVec crc.toBitVec (bitsOf x) := by
  have low : Crc.shifts poly.toBitVec 8 ((crc.toBitVec.setWidth 24).setWidth 32) = crc.toBitVec <<< 8 := by
    rw [Crc.shifts_low]
    · apply BitVec.eq_of_getLsbD_eq
      intro i inside
      have below : i - 8 < 24 := by omega
      have within : i - 8 < 32 := by omega
      simp [below, within]
    · intro i above
      have outside : ¬ i < 24 := by omega
      simp [outside]
  rw [Crc.divide_align poly.toBitVec crc.toBitVec (by rw [length_bitsOf]; decide), length_bitsOf, xor_align_bitsOf,
    Crc.shifts_xor, low, ← crc32Table_get poly (crc32Index_lt crc x)]
  rfl

/-- The table and the long division agree, whatever the polynomial, the first contents and the data. -/
theorem crc32_divide (poly crc : UInt32) (bytes : List UInt8) :
    (crc32 poly crc bytes).toBitVec = Crc.divide poly.toBitVec crc.toBitVec (bytes.flatMap bitsOf) := by
  induction bytes generalizing crc with
  | nil => rfl
  | cons x rest ih =>
    show (crc32 poly (crc32Step poly crc x) rest).toBitVec = _
    rw [ih, crc32Step_divide, List.flatMap_cons]
    exact (run_append _ _ _ _).symm

theorem length_flatMap_bitsOf (bytes : List UInt8) : (bytes.flatMap bitsOf).length = 8 * bytes.length := by
  induction bytes with
  | nil => rfl
  | cons x rest ih =>
    rw [List.flatMap_cons, List.length_append, ih, length_bitsOf, List.length_cons]
    omega

/-! ### What the checksum is -/

section Remainder
open Polynomial

/-- The checksum is the remainder of the data, read as a polynomial over the field of two elements with the first bit
highest and moved up by 32 places, with the first contents of the register added above it. -/
theorem crc32_remainder (poly crc : UInt32) (bytes : List UInt8) :
    Crc.toPoly (crc32 poly crc bytes).toBitVec =
      (Crc.toPoly crc.toBitVec * X ^ (8 * bytes.length) + Crc.message (bytes.flatMap bitsOf) * X ^ 32) %ₘ
        Crc.divisor poly.toBitVec := by
  rw [crc32_divide, Crc.toPoly_divide (by decide), length_flatMap_bitsOf]

end Remainder

/-! ### What it finds -/

/-- Outside a window of 32 bits, which need not start with a byte, the images are the same. -/
def Burst (start : Nat) (original written : List UInt8) : Prop :=
  original.length = written.length ∧
    ∀ n, n < start ∨ start + 32 ≤ n → (original.flatMap bitsOf)[n]? = (written.flatMap bitsOf)[n]?

theorem bitsOf_injective : Function.Injective bitsOf := by
  intro x y same
  apply UInt8.toBitVec_inj.mp
  apply BitVec.eq_of_getMsbD_eq
  intro i inside
  have bit := congrArg (fun bits : List Bool => bits[i]?) same
  simpa [bitsOf, inside] using bit

theorem flatMap_bitsOf_injective {original written : List UInt8}
    (same : original.flatMap bitsOf = written.flatMap bitsOf) : original = written := by
  induction original generalizing written with
  | nil =>
    have lengths := congrArg List.length same
    rw [length_flatMap_bitsOf, length_flatMap_bitsOf, List.length_nil] at lengths
    exact (List.eq_nil_of_length_eq_zero (by omega)).symm
  | cons x rest ih =>
    cases written with
    | nil =>
      have lengths := congrArg List.length same
      rw [length_flatMap_bitsOf, length_flatMap_bitsOf, List.length_cons, List.length_nil] at lengths
      omega
    | cons y others =>
      rw [List.flatMap_cons, List.flatMap_cons] at same
      have parts := List.append_inj same (by rw [length_bitsOf, length_bitsOf])
      rw [bitsOf_injective parts.1, ih parts.2]

/-- Images that differ, but only within 32 bits in a row, have different checksums: no such fault of a transfer goes
unseen. -/
theorem crc32_burst (crc : UInt32) {start : Nat} {original written : List UInt8} (burst : Burst start original written)
    (differ : original ≠ written) :
    crc32 IEEE8023_CRC32_POLYNOMIAL crc original ≠ crc32 IEEE8023_CRC32_POLYNOMIAL crc written := by
  intro same
  have division := congrArg UInt32.toBitVec same
  rw [crc32_divide, crc32_divide] at division
  apply differ
  have lengths : (original.flatMap bitsOf).length = (written.flatMap bitsOf).length := by
    rw [length_flatMap_bitsOf, length_flatMap_bitsOf, burst.1]
  have odd : IEEE8023_CRC32_POLYNOMIAL.toBitVec.getLsbD 0 = true := by decide
  exact flatMap_bitsOf_injective (Crc.divide_window odd crc.toBitVec lengths burst.2 division)

/-- A burst over three bytes that starts within the second one. -/
theorem crc32_burst_three_bytes :
    crc32 IEEE8023_CRC32_POLYNOMIAL 0xFFFFFFFF [0x01, 0x02, 0x03, 0x04, 0x05] ≠
      crc32 IEEE8023_CRC32_POLYNOMIAL 0xFFFFFFFF [0x01, 0x03, 0xFF, 0x84, 0x05] := by
  refine @crc32_burst 0xFFFFFFFF 15 _ _ ⟨rfl, ?_⟩ (by decide)
  intro n outside
  by_cases inside : n < 40
  · have checked : ∀ n < 40, (n < 15 ∨ 15 + 32 ≤ n) →
        ([0x01, 0x02, 0x03, 0x04, 0x05].flatMap bitsOf)[n]? = ([0x01, 0x03, 0xFF, 0x84, 0x05].flatMap bitsOf)[n]? := by
      decide
    exact checked n inside outside
  · rw [List.getElem?_eq_none, List.getElem?_eq_none]
    · show 40 ≤ n
      omega
    · show 40 ≤ n
      omega

end RgbClock.Dab
