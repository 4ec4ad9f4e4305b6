import Mathlib.Algebra.Order.Floor.Ring
import Mathlib.Data.Rat.Floor
import Mathlib.Tactic.NormNum

/-! The backlight of the display: `backLightThread` turns the light that the sensor measures into a value for
the PWM driver, which writes it to the chip as the time at which the channel goes off. -/

namespace RgbClock.Devices

def MAX_RESOLUTION : UInt16 := 4000

/-- The buffer that is written to the chip: the register, when the channel goes on, and when it goes off. -/
def pwmSingle (value : UInt16) : List UInt8 :=
  let offTime : Int16 :=
    if value = MAX_RESOLUTION then 4095 else Int16.ofNat (4095 / MAX_RESOLUTION.toNat * value.toNat)
  [0x06, 0x00, 0x00, (offTime &&& 0xFF).toUInt16.toUInt8, ((offTime >>> 8) &&& 0x0F).toUInt16.toUInt8]

/-- The twelve bits of `LedOff` in the last two bytes. -/
def ledOff (value : UInt16) : Nat :=
  match pwmSingle value with
  | [_, _, _, low, high] => high.toNat % 16 * 256 + low.toNat
  | _ => 0

section
-- `pow(x, 1.4)`
variable (pow : ℚ → ℚ)

/-- The lux without rounding. At some channels the code's doubles stay just below it, and the value that is made of them is
one less: for 410 and 214 it is 250 there and 251 here. -/
def calculateLux (channel0 channel1 : UInt16) : ℚ :=
  let ch0 : ℚ := channel0.toNat
  let ch1 : ℚ := channel1.toNat
  if 0 < ch1 / ch0 ∧ ch1 / ch0 ≤ 0.50 then 0.0304 * ch0 - 0.062 * ch0 * pow (ch1 / ch0)
  else if 0.50 < ch1 / ch0 ∧ ch1 / ch0 ≤ 0.61 then 0.0224 * ch0 - 0.031 * ch1
  else if 0.61 < ch1 / ch0 ∧ ch1 / ch0 ≤ 0.80 then 0.0128 * ch0 - 0.0153 * ch1
  else if 0.80 < ch1 / ch0 ∧ ch1 / ch0 ≤ 1.30 then 0.00146 * ch0 - 0.00112 * ch1
  else 0

structure LCDBacklight where
  mUserActivityTimer : Nat := 0

/-- One pass of `backLightThread` with the channels of the sensor, and the value that it passes to the driver. -/
def backLightThread (b : LCDBacklight) (channel0 channel1 : UInt16) : LCDBacklight × UInt16 :=
  if b.mUserActivityTimer > 0 then ({ b with mUserActivityTimer := b.mUserActivityTimer - 1 }, 2500)
  else (b, UInt16.ofNat ⌊200 + calculateLux pow channel0 channel1 * 20⌋.toNat)

end

/-! ### What the chip receives -/

theorem low_byte (x : Int16) : (x &&& 0xFF).toUInt16.toUInt8.toNat = x.toBitVec.toNat % 256 := by
  show (x.toBitVec &&& 0xFF#16).toNat % 256 = _
  rw [BitVec.toNat_and, show (0xFF#16).toNat = 2 ^ 8 - 1 from rfl, Nat.and_two_pow_sub_one_eq_mod]
  exact Nat.mod_mod _ _

theorem nibble_mask : ∀ i : Fin 16, 4 ≤ i.val → (0x0F#16).getLsbD i = false := by decide

/-- The sign that the shift brings in is masked away. -/
theorem nibble_unsigned (x : BitVec 16) : x.sshiftRight 8 &&& 0x0F#16 = x >>> 8 &&& 0x0F#16 := by
  apply BitVec.eq_of_getLsbD_eq
  intro i inside
  rw [BitVec.getLsbD_and, BitVec.getLsbD_and, BitVec.getLsbD_sshiftRight, BitVec.getLsbD_ushiftRight]
  by_cases low : i < 4
  · have within : 8 + i < 16 := by omega
    have below : ¬ 16 ≤ i := by omega
    rw [if_pos within, decide_eq_false below, Bool.not_false, Bool.true_and]
  · rw [nibble_mask ⟨i, inside⟩ (Nat.not_lt.mp low), Bool.and_false, Bool.and_false]

theorem high_nibble (x : Int16) : ((x >>> 8) &&& 0x0F).toUInt16.toUInt8.toNat = x.toBitVec.toNat / 256 % 16 := by
  show ((x >>> 8).toBitVec &&& 0x0F#16).toNat % 256 = _
  have amount : (Int16.toBitVec 8).smod 16 = 8#16 := by decide
  have shifted : (x >>> 8).toBitVec = x.toBitVec.sshiftRight 8 := by
    rw [Int16.toBitVec_shiftRight, amount]
    rfl
  rw [shifted, nibble_unsigned, BitVec.toNat_and, BitVec.toNat_ushiftRight, Nat.shiftRight_eq_div_pow,
    show (0x0F#16).toNat = 2 ^ 4 - 1 from rfl, Nat.and_two_pow_sub_one_eq_mod]
  omega

/-- `LedOff` is the value modulo 4096, except for full scale. -/
theorem ledOff_eq (value : UInt16) : ledOff value = if value = 4000 then 4095 else value.toNat % 4096 := by
  by_cases full : value = 4000
  · subst full
    decide
  · have offTime : (if value = MAX_RESOLUTION then 4095 else Int16.ofNat (4095 / MAX_RESOLUTION.toNat * value.toNat)) =
        Int16.ofNat value.toNat := by
      rw [if_neg (show value ≠ MAX_RESOLUTION from full), show 4095 / MAX_RESOLUTION.toNat = 1 from rfl, Nat.one_mul]
    have bound := value.toNat_lt
    have bits : (Int16.ofNat value.toNat).toBitVec.toNat = value.toNat := by
      rw [Int16.toBitVec_ofNat', BitVec.toNat_ofNat]
      exact Nat.mod_eq_of_lt bound
    rw [if_neg full]
    unfold ledOff pwmSingle
    simp only [offTime, low_byte, high_nibble, bits]
    omega

/-- The light that is shown does not drop from one value to a higher one exactly if the higher one is full
scale or ends in 4095, or the lower one is not full scale and not further in its block of 4096 values. -/
theorem backlight_rises_iff {v w : UInt16} (lighter : v ≤ w) :
    ledOff v ≤ ledOff w ∧ ledOff w ≤ 4095 ↔
      w = 4000 ∨ w.toNat % 4096 = 4095 ∨ v ≠ 4000 ∧ v.toNat % 4096 ≤ w.toNat % 4096 := by
  have ordered : v.toNat ≤ w.toNat := UInt16.le_iff_toNat_le.mp lighter
  have below : w.toNat % 4096 ≤ 4095 := by omega
  rw [ledOff_eq, ledOff_eq]
  by_cases high : w = 4000
  · rw [if_pos high]
    refine iff_of_true ⟨?_, Nat.le_refl _⟩ (Or.inl high)
    split <;> omega
  · rw [if_neg high]
    by_cases low : v = 4000
    · rw [if_pos low]
      simp only [high, low, false_or, ne_eq, not_true_eq_false, false_and, or_false]
      omega
    · rw [if_neg low]
      simp only [high, low, false_or, ne_eq, not_false_eq_true, true_and]
      omega

/-- The step up to full scale. -/
theorem up_to_full_scale_rises : ledOff 3999 ≤ ledOff 4000 ∧ ledOff 4000 ≤ 4095 :=
  (backlight_rises_iff (by decide)).mpr (Or.inl rfl)

theorem passed_of_lux {pow : ℚ → ℚ} {channel0 channel1 : UInt16} {lux : ℚ} {n : Nat}
    (measured : calculateLux pow channel0 channel1 = lux) (least : (n : ℚ) ≤ 200 + lux * 20)
    (next : 200 + lux * 20 < n + 1) : (backLightThread pow {} channel0 channel1).2 = UInt16.ofNat n := by
  have whole : ⌊200 + lux * 20⌋ = (n : Int) := by
    rw [Int.floor_eq_iff]
    exact ⟨by exact_mod_cast least, by exact_mod_cast next⟩
  show UInt16.ofNat ⌊200 + calculateLux pow channel0 channel1 * 20⌋.toNat = _
  rw [measured, whole, Int.toNat_natCast]

/-- In a bright room a little more light turns the backlight off: the sensor's channels 31000 and 16117 make the
thread pass 4095, and 32000 and 16838 make it pass 4096. -/
theorem more_light_turns_backlight_off :
    (∀ pow, (backLightThread pow {} 31000 16117).2 = 4095 ∧ (backLightThread pow {} 32000 16838).2 = 4096) ∧
      (4095 : UInt16) ≤ 4096 ∧ ledOff 4095 = 4095 ∧ ledOff 4096 = 0 ∧
      ¬ (ledOff 4095 ≤ ledOff 4096 ∧ ledOff 4096 ≤ 4095) := by
  refine ⟨fun pow => ⟨?_, ?_⟩, by decide, by decide, by decide, by decide⟩
  · have channel0 : (31000 : UInt16).toNat = 31000 := rfl
    have channel1 : (16117 : UInt16).toNat = 16117 := rfl
    have measured : calculateLux pow 31000 16117 = 194.773 := by
      unfold calculateLux
      rw [channel0, channel1]
      norm_num
    exact passed_of_lux measured (by norm_num) (by norm_num)
  · have channel0 : (32000 : UInt16).toNat = 32000 := rfl
    have channel1 : (16838 : UInt16).toNat = 16838 := rfl
    have measured : calculateLux pow 32000 16838 = 194.822 := by
      unfold calculateLux
      rw [channel0, channel1]
      norm_num
    exact passed_of_lux measured (by norm_num) (by norm_num)

end RgbClock.Devices
