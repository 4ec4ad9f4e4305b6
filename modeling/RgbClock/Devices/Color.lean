import Mathlib.Algebra.Order.Field.Basic
import Mathlib.Algebra.Order.Field.Rat
import Mathlib.Tactic.Linarith
import Mathlib.Tactic.NormNum
import Mathlib.Tactic.Positivity
import Mathlib.Tactic.Ring

/-! The conversion of hue, saturation and luminance to red, green and blue, over exact rationals. The three
channels are a third of the circle of hues apart; so one of them always has the largest value and one the
smallest, and these two do not depend on the hue. -/

namespace RgbClock.Devices

namespace RgbLed

def MAX_RESOLUTION : UInt16 := 4000

/-- The channels, before they are cut to integers. -/
structure Color where
  mRed : ℚ
  mGreen : ℚ
  mBlue : ℚ

def hue2rgb (p q t : ℚ) : ℚ :=
  let t := if t < 0 then t + 1 else t
  let t := if t > 1 then t - 1 else t
  if t < 1 / 6 then p + (q - p) * 6 * t
  else if t < 1 / 2 then q
  else if t < 2 / 3 then p + (q - p) * (2 / 3 - t) * 6
  else p

def hslToRgb (mHue mSat mLum : UInt16) : Color :=
  let h : ℚ := mHue.toNat / MAX_RESOLUTION.toNat
  let l : ℚ := mLum.toNat / MAX_RESOLUTION.toNat
  let s : ℚ := mSat.toNat / MAX_RESOLUTION.toNat
  -- achromatic
  if mSat = 0 then ⟨l * MAX_RESOLUTION.toNat, l * MAX_RESOLUTION.toNat, l * MAX_RESOLUTION.toNat⟩
  else
    let q := if l < 1 / 2 then l * (1 + s) else l + s - l * s
    let p := 2 * l - q
    let r := hue2rgb p q (h + 1 / 3)
    let g := hue2rgb p q h
    let b := hue2rgb p q (h - 1 / 3)
    ⟨r * MAX_RESOLUTION.toNat, g * MAX_RESOLUTION.toNat, b * MAX_RESOLUTION.toNat⟩

def Color.largest (c : Color) : ℚ := max c.mRed (max c.mGreen c.mBlue)

def Color.smallest (c : Color) : ℚ := min c.mRed (min c.mGreen c.mBlue)

/-! ### One channel -/

variable {p q t : ℚ}

theorem hue2rgb_before (negative : t < 0) (turn : -1 ≤ t) : hue2rgb p q t = hue2rgb p q (t + 1) := by
  have first : ¬ t + 1 < 0 := by linarith
  simp only [hue2rgb, if_pos negative, if_neg first]

theorem hue2rgb_beyond (beyond : 1 < t) (turn : t ≤ 2) : hue2rgb p q t = hue2rgb p q (t - 1) := by
  have first : ¬ t < 0 := by linarith
  have second : ¬ t - 1 < 0 := by linarith
  have third : ¬ t - 1 > 1 := by linarith
  simp only [hue2rgb, if_neg first, if_pos beyond, if_neg second, if_neg third]

/-- On the circle, by its four sectors. -/
theorem hue2rgb_eq (start : 0 ≤ t) (stop : t ≤ 1) :
    hue2rgb p q t =
      if t < 1 / 6 then p + (q - p) * 6 * t
      else if t < 1 / 2 then q
      else if t < 2 / 3 then p + (q - p) * (2 / 3 - t) * 6
      else p := by
  have first : ¬ t < 0 := by linarith
  have second : ¬ t > 1 := by linarith
  simp only [hue2rgb, if_neg first, if_neg second]

theorem hue2rgb_top (above : 1 / 6 ≤ t) (below : t < 1 / 2) : hue2rgb p q t = q := by
  rw [hue2rgb_eq (by linarith) (by linarith), if_neg (by linarith), if_pos below]

theorem hue2rgb_bottom (above : 2 / 3 ≤ t) (below : t ≤ 1) : hue2rgb p q t = p := by
  rw [hue2rgb_eq (by linarith) below, if_neg (by linarith), if_neg (by linarith), if_neg (by linarith)]

theorem hue2rgb_between (ordered : p ≤ q) (above : -1 ≤ t) (below : t ≤ 2) :
    p ≤ hue2rgb p q t ∧ hue2rgb p q t ≤ q := by
  have circle (u : ℚ) (start : 0 ≤ u) (stop : u ≤ 1) : p ≤ hue2rgb p q u ∧ hue2rgb p q u ≤ q := by
    rw [hue2rgb_eq start stop]
    split_ifs with rising top falling
    · constructor <;> nlinarith
    · exact ⟨ordered, le_rfl⟩
    · constructor <;> nlinarith
    · exact ⟨le_rfl, ordered⟩
  by_cases negative : t < 0
  · rw [hue2rgb_before negative above]
    exact circle _ (by linarith) (by linarith)
  · by_cases beyond : 1 < t
    · rw [hue2rgb_beyond beyond below]
      exact circle _ (by linarith) (by linarith)
    · exact circle t (not_lt.mp negative) (not_lt.mp beyond)

/-! ### The three channels -/

/-- All channels are between two values, and both are reached. -/
structure Color.Spans (c : Color) (low high : ℚ) : Prop where
  red : low ≤ c.mRed ∧ c.mRed ≤ high
  green : low ≤ c.mGreen ∧ c.mGreen ≤ high
  blue : low ≤ c.mBlue ∧ c.mBlue ≤ high
  top : c.mRed = high ∨ c.mGreen = high ∨ c.mBlue = high
  bottom : c.mRed = low ∨ c.mGreen = low ∨ c.mBlue = low

theorem Color.Spans.largest_eq {c : Color} {low high : ℚ} (spans : c.Spans low high) : c.largest = high := by
  apply le_antisymm
  · exact max_le spans.red.2 (max_le spans.green.2 spans.blue.2)
  · unfold Color.largest
    rcases spans.top with red | green | blue
    · rw [← red]
      exact le_max_left _ _
    · rw [← green]
      exact (le_max_left _ _).trans (le_max_right _ _)
    · rw [← blue]
      exact (le_max_right _ _).trans (le_max_right _ _)

theorem Color.Spans.smallest_eq {c : Color} {low high : ℚ} (spans : c.Spans low high) : c.smallest = low := by
  apply le_antisymm
  · unfold Color.smallest
    rcases spans.bottom with red | green | blue
    · rw [← red]
      exact min_le_left _ _
    · rw [← green]
      exact (min_le_right _ _).trans (min_le_left _ _)
    · rw [← blue]
      exact (min_le_right _ _).trans (min_le_right _ _)
  · exact le_min spans.red.1 (le_min spans.green.1 spans.blue.1)

/-- The channels of a hue, a third of the circle apart. -/
def channels (p q h : ℚ) : Color := ⟨hue2rgb p q (h + 1 / 3), hue2rgb p q h, hue2rgb p q (h - 1 / 3)⟩

/-- One of the three is in the sector of the largest value, and one in that of the smallest. -/
theorem channels_spans {h : ℚ} (ordered : p ≤ q) (start : 0 ≤ h) (stop : h ≤ 1) : (channels p q h).Spans p q := by
  constructor
  · exact hue2rgb_between ordered (by linarith) (by linarith)
  · exact hue2rgb_between ordered (by linarith) (by linarith)
  · exact hue2rgb_between ordered (by linarith) (by linarith)
  · show hue2rgb p q (h + 1 / 3) = q ∨ hue2rgb p q h = q ∨ hue2rgb p q (h - 1 / 3) = q
    rcases lt_or_ge h (1 / 6) with first | beyond
    · exact Or.inl (hue2rgb_top (by linarith) (by linarith))
    rcases lt_or_ge h (1 / 2) with second | beyond
    · exact Or.inr (Or.inl (hue2rgb_top (by linarith) second))
    rcases lt_or_ge h (5 / 6) with third | beyond
    · exact Or.inr (Or.inr (hue2rgb_top (by linarith) (by linarith)))
    · rw [hue2rgb_beyond (by linarith) (by linarith)]
      exact Or.inl (hue2rgb_top (by linarith) (by linarith))
  · show hue2rgb p q (h + 1 / 3) = p ∨ hue2rgb p q h = p ∨ hue2rgb p q (h - 1 / 3) = p
    rcases lt_or_ge h (1 / 3) with first | beyond
    · rw [hue2rgb_before (t := h - 1 / 3) (by linarith) (by linarith)]
      exact Or.inr (Or.inr (hue2rgb_bottom (by linarith) (by linarith)))
    rcases lt_or_ge h (2 / 3) with second | beyond
    · exact Or.inl (hue2rgb_bottom (by linarith) (by linarith))
    · exact Or.inr (Or.inl (hue2rgb_bottom beyond stop))

theorem Color.Spans.scale {r g b low high scale : ℚ} (spans : Color.Spans ⟨r, g, b⟩ low high) (positive : 0 ≤ scale) :
    Color.Spans ⟨r * scale, g * scale, b * scale⟩ (low * scale) (high * scale) := by
  obtain ⟨⟨redLow, redHigh⟩, ⟨greenLow, greenHigh⟩, ⟨blueLow, blueHigh⟩, top, bottom⟩ := spans
  have mono {x y : ℚ} (ordered : x ≤ y) : x * scale ≤ y * scale := mul_le_mul_of_nonneg_right ordered positive
  have same {x y : ℚ} (equal : x = y) : x * scale = y * scale := congrArg (· * scale) equal
  refine ⟨⟨mono redLow, mono redHigh⟩, ⟨mono greenLow, mono greenHigh⟩, ⟨mono blueLow, mono blueHigh⟩, ?_, ?_⟩
  · exact top.imp same (Or.imp same same)
  · exact bottom.imp same (Or.imp same same)

/-! ### The two extremes -/

/-- Twice the chroma that lightness and saturation leave. -/
theorem extremes {l s : ℚ} (dark : 0 ≤ l) (light : l ≤ 1) (dull : 0 ≤ s) (full : s ≤ 1) :
    let q := if l < 1 / 2 then l * (1 + s) else l + s - l * s
    let p := 2 * l - q
    0 ≤ p ∧ p ≤ q ∧ q ≤ 1 ∧ q + p = 2 * l ∧ q - p = 2 * s * min l (1 - l) := by
  dsimp only
  split
  case isTrue half =>
    rw [min_eq_left (by linarith)]
    refine ⟨by nlinarith, by nlinarith, by nlinarith, by ring, by ring⟩
  case isFalse half =>
    rw [min_eq_right (by linarith)]
    refine ⟨by nlinarith, by nlinarith, by nlinarith, by ring, by ring⟩

theorem resolution : (MAX_RESOLUTION.toNat : ℚ) = 4000 := by
  have exact : MAX_RESOLUTION.toNat = 4000 := rfl
  rw [exact]
  norm_num

theorem fraction {value : UInt16} (inside : value ≤ MAX_RESOLUTION) :
    (0 : ℚ) ≤ value.toNat / MAX_RESOLUTION.toNat ∧ (value.toNat / MAX_RESOLUTION.toNat : ℚ) ≤ 1 := by
  have bound : value.toNat ≤ MAX_RESOLUTION.toNat := UInt16.le_iff_toNat_le.mp inside
  have scale : (0 : ℚ) < MAX_RESOLUTION.toNat := by
    rw [resolution]
    norm_num
  refine ⟨by positivity, ?_⟩
  rw [div_le_one scale]
  exact_mod_cast bound

variable {mHue mSat mLum : UInt16}

/-- In both branches the channels span the range that lightness and saturation give. -/
theorem hslToRgb_spans (hue : mHue ≤ MAX_RESOLUTION) (sat : mSat ≤ MAX_RESOLUTION) (lum : mLum ≤ MAX_RESOLUTION) :
    ∃ p q : ℚ, (hslToRgb mHue mSat mLum).Spans (p * 4000) (q * 4000) ∧ 0 ≤ p ∧ q ≤ 1 ∧
      q + p = 2 * (mLum.toNat / 4000) ∧
      q - p = 2 * (mSat.toNat / 4000) * min (mLum.toNat / 4000 : ℚ) (1 - mLum.toNat / 4000) := by
  obtain ⟨start, stop⟩ := fraction hue
  obtain ⟨dull, full⟩ := fraction sat
  obtain ⟨dark, light⟩ := fraction lum
  simp only [hslToRgb, resolution] at *
  by_cases gray : mSat = 0
  · rw [if_pos gray]
    refine ⟨mLum.toNat / 4000, mLum.toNat / 4000, ?_, dark, light, by ring, ?_⟩
    · exact ⟨⟨le_rfl, le_rfl⟩, ⟨le_rfl, le_rfl⟩, ⟨le_rfl, le_rfl⟩, Or.inl rfl, Or.inl rfl⟩
    · rw [gray]
      norm_num
  · rw [if_neg gray]
    obtain ⟨least, ordered, most, sum, difference⟩ := extremes dark light dull full
    exact ⟨_, _, (channels_spans ordered start stop).scale (by norm_num), least, most, sum, difference⟩

/-- The conversion keeps its range, and lightness and saturation come out of it again for every hue. -/
theorem hslToRgb_correct (hue : mHue ≤ MAX_RESOLUTION) (sat : mSat ≤ MAX_RESOLUTION) (lum : mLum ≤ MAX_RESOLUTION) :
    let c := hslToRgb mHue mSat mLum
    ((0 ≤ c.mRed ∧ c.mRed ≤ 4000) ∧ (0 ≤ c.mGreen ∧ c.mGreen ≤ 4000) ∧ (0 ≤ c.mBlue ∧ c.mBlue ≤ 4000)) ∧
      c.largest + c.smallest = 2 * mLum.toNat ∧
      c.largest - c.smallest = 2 * mSat.toNat * min (mLum.toNat : ℚ) (4000 - mLum.toNat) / 4000 := by
  obtain ⟨p, q, spans, least, most, sum, difference⟩ := hslToRgb_spans hue sat lum
  have scaled : min (mLum.toNat / 4000 : ℚ) (1 - mLum.toNat / 4000) = min (mLum.toNat : ℚ) (4000 - mLum.toNat) / 4000 := by
    have positive : (0 : ℚ) ≤ 4000 := by norm_num
    rw [← min_div_div_right positive, sub_div, div_self (by norm_num)]
  rw [scaled] at difference
  dsimp only
  rw [spans.largest_eq, spans.smallest_eq]
  refine ⟨⟨?_, ?_, ?_⟩, by linarith, by linarith⟩
  · exact ⟨by linarith [spans.red.1], by linarith [spans.red.2]⟩
  · exact ⟨by linarith [spans.green.1], by linarith [spans.green.2]⟩
  · exact ⟨by linarith [spans.blue.1], by linarith [spans.blue.2]⟩

/-- The color of the lights, at half luminance. -/
theorem light_color_correct :
    (hslToRgb 200 4000 2000).largest + (hslToRgb 200 4000 2000).smallest = 4000 ∧
      (hslToRgb 200 4000 2000).largest - (hslToRgb 200 4000 2000).smallest = 4000 := by
  obtain ⟨_, sum, difference⟩ := @hslToRgb_correct 200 4000 2000 (by decide) (by decide) (by decide)
  have full : (UInt16.toNat 4000 : ℚ) = 4000 := resolution
  have half : (UInt16.toNat 2000 : ℚ) = 2000 := by
    rw [show UInt16.toNat 2000 = 2000 from rfl]
    norm_num
  rw [half] at sum
  rw [full, half] at difference
  norm_num at sum difference
  exact ⟨sum, difference⟩

end RgbLed

end RgbClock.Devices
