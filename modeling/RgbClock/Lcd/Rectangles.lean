import RgbClock.Lcd.Format
import Mathlib.Data.Finset.Basic

/-! The two implementations of `LCDisplayIf::rectangle`. `LCDisplay` draws into its own graphic memory, words
of 16 pixels, and refreshes the words that have changed; `FastLCDisplay` sends the corners to the driver,
which draws a box. -/

namespace RgbClock.Lcd

/-- What a display of 160 by 32 pixels shows. -/
abbrev Picture := Fin 160 → Fin 32 → Bool

/-! ### The display with its own memory -/

structure MyGraphicWord where
  mBits : Fin 16 → Bool
  mChanged : Bool

/-- `panel` is the memory of the display itself. -/
structure LCDisplay where
  mGraphicRam : Fin 32 → Fin 10 → MyGraphicWord
  panel : Fin 32 → Fin 10 → Fin 16 → Bool

namespace LCDisplay

def wordOf (col : Fin 160) : Fin 10 := ⟨col.val / 16, by omega⟩

def bitOf (col : Fin 160) : Fin 16 := ⟨15 - col.val % 16, by omega⟩

def setPoint (d : LCDisplay) (col : Fin 160) (row : Fin 32) (set : Bool) : LCDisplay :=
  let word := d.mGraphicRam row (wordOf col)
  -- If there is a difference.
  if word.mBits (bitOf col) ≠ set then
    { d with
      mGraphicRam := Function.update d.mGraphicRam row (Function.update (d.mGraphicRam row) (wordOf col)
        { mBits := Function.update word.mBits (bitOf col) set, mChanged := true }) }
  else d

def rawPoint (d : LCDisplay) (col row : Nat) (set : Bool) : LCDisplay :=
  if outside : col > 159 ∨ row > 31 then d
  else d.setPoint ⟨col, by omega⟩ ⟨row, by omega⟩ set

/-- The values of a loop variable that goes from `first` to `last`. -/
def through (first last : Nat) : List Nat := List.range' first (last + 1 - first)

def rawHLine (d : LCDisplay) (col1 col2 row : Nat) (set : Bool) : LCDisplay :=
  (through col1 col2).foldl (fun d i => d.rawPoint i row set) d

def rawVLine (d : LCDisplay) (col row1 row2 : Nat) (set : Bool) : LCDisplay :=
  (through row1 row2).foldl (fun d i => d.rawPoint col i set) d

/-- The words that have changed are written to the display. -/
def refreshDisplay (d : LCDisplay) : LCDisplay where
  mGraphicRam := fun row word => { d.mGraphicRam row word with mChanged := false }
  panel := fun row word => if (d.mGraphicRam row word).mChanged then (d.mGraphicRam row word).mBits else d.panel row word

def drawRectangle (d : LCDisplay) (col1 row1 col2 row2 : Nat) (set fill : Bool) : LCDisplay :=
  if fill then (through row1 row2).foldl (fun d row => d.rawHLine col1 col2 row set) d
  else (((d.rawHLine col1 col2 row1 set).rawHLine col1 col2 row2 set).rawVLine col1 row1 row2 set).rawVLine col2 row1 row2 set

def rectangle (d : LCDisplay) (col1 row1 col2 row2 : UInt8) (set fill : Bool) : LCDisplay :=
  (d.drawRectangle col1.toNat row1.toNat col2.toNat row2.toNat set fill).refreshDisplay

def clearGraphicDisplay (d : LCDisplay) : LCDisplay :=
  { d with mGraphicRam := fun _ _ => { mBits := fun _ => false, mChanged := true } }.refreshDisplay

def picture (d : LCDisplay) : Picture := fun col row => d.panel row (wordOf col) (bitOf col)

/-- The picture in the graphic memory. -/
def drawn (d : LCDisplay) : Picture := fun col row => (d.mGraphicRam row (wordOf col)).mBits (bitOf col)

/-- The display shows every word that is not marked as changed. -/
def InSync (d : LCDisplay) : Prop :=
  ∀ row word, (d.mGraphicRam row word).mChanged = false → d.panel row word = (d.mGraphicRam row word).mBits

/-- The display shows the graphic memory, and no word waits to be written. Every method leaves it so. -/
def Settled (d : LCDisplay) : Prop :=
  ∀ row word, (d.mGraphicRam row word).mChanged = false ∧ d.panel row word = (d.mGraphicRam row word).mBits

theorem refreshDisplay_settled {d : LCDisplay} (sync : d.InSync) : d.refreshDisplay.Settled := by
  intro row word
  refine ⟨rfl, ?_⟩
  show (if (d.mGraphicRam row word).mChanged then _ else _) = (d.mGraphicRam row word).mBits
  split
  · rfl
  · rename_i unchanged
    exact sync row word ((Bool.not_eq_true _).mp unchanged)

theorem clearGraphicDisplay_settled (d : LCDisplay) : d.clearGraphicDisplay.Settled :=
  refreshDisplay_settled fun _ _ unchanged => absurd unchanged (Ne.symm Bool.false_ne_true)

theorem Settled.inSync {d : LCDisplay} (settled : d.Settled) : d.InSync := fun row word _ => (settled row word).2

theorem Settled.picture_eq {d : LCDisplay} (settled : d.Settled) : d.picture = d.drawn := by
  funext col row
  exact congrFun (settled row (wordOf col)).2 (bitOf col)

/-- Two columns with the same place in the same word are the same. -/
theorem col_eq {first second : Fin 160} (word : wordOf first = wordOf second) (bit : bitOf first = bitOf second) :
    first = second := by
  have quotient := congrArg Fin.val word
  have place := congrArg Fin.val bit
  simp only [wordOf, bitOf] at quotient place
  apply Fin.ext
  omega

end LCDisplay

/-! ### The display behind the driver -/

/-- `u8g2.drawBox`. -/
def drawBox (x y w h : Nat) (color : Bool) (picture : Picture) : Picture := fun col row =>
  if x ≤ col.val ∧ col.val < x + w ∧ y ≤ row.val ∧ row.val < y + h then color else picture col row

/-- The driver prints `fill` but does not use it. -/
def lcdRectangle (x1 y1 x2 y2 : Int) (set _fill : Bool) (picture : Picture) : Picture :=
  drawBox x1.toNat y1.toNat (x2 - x1).natAbs (y2 - y1).natAbs set picture

/-- The picture after the frame of `FastLCDisplay::rectangle` has been executed. -/
def fastRectangle (driver : LcdDriver) (picture : Picture) (col1 row1 col2 row2 : UInt8) (set fill : Bool) :
    Option Picture :=
  match (driver.receiveEvent (Method.rectangle col1 row1 col2 row2 set fill).frame).dispatch with
  | some (.lcdRectangle x1 y1 x2 y2 set fill) => some (lcdRectangle x1.toNat y1.toNat x2.toNat y2.toNat set fill picture)
  | _ => none

/-! ### What is painted -/

/-- `draw` gives the pixels of `area` the colour `set` and leaves the others. -/
structure Paints (set : Bool) (area : Fin 160 → Fin 32 → Prop) (draw : LCDisplay → LCDisplay) : Prop where
  inside : ∀ d col row, area col row → (draw d).drawn col row = set
  outside : ∀ d col row, ¬ area col row → (draw d).drawn col row = d.drawn col row
  panel : ∀ d, (draw d).panel = d.panel
  marked : ∀ d : LCDisplay, d.InSync → (draw d).InSync

section
variable {set : Bool}

theorem Paints.nothing : Paints set (fun _ _ => False) fun d => d :=
  ⟨fun _ _ _ none => none.elim, fun _ _ _ _ => rfl, fun _ => rfl, fun _ sync => sync⟩

theorem Paints.andThen {first second : Fin 160 → Fin 32 → Prop} {draw more : LCDisplay → LCDisplay}
    (before : Paints set first draw) (after : Paints set second more) :
    Paints set (fun col row => first col row ∨ second col row) fun d => more (draw d) where
  inside := by
    intro d col row either
    by_cases again : second col row
    · exact after.inside _ col row again
    · rw [after.outside _ col row again]
      exact before.inside d col row (either.resolve_right again)
  outside := by
    intro d col row neither
    obtain ⟨one, two⟩ := not_or.mp neither
    rw [after.outside _ col row two, before.outside d col row one]
  panel := fun d => (after.panel _).trans (before.panel d)
  marked := fun d sync => after.marked _ (before.marked d sync)

theorem Paints.congr {first second : Fin 160 → Fin 32 → Prop} {draw : LCDisplay → LCDisplay}
    (paints : Paints set first draw) (same : ∀ col row, second col row ↔ first col row) : Paints set second draw where
  inside := fun d col row within => paints.inside d col row ((same col row).mp within)
  outside := fun d col row without => paints.outside d col row (fun within => without ((same col row).mpr within))
  panel := paints.panel
  marked := paints.marked

/-- A loop paints what its passes paint. -/
theorem Paints.foldl {area : Nat → Fin 160 → Fin 32 → Prop} {draw : LCDisplay → Nat → LCDisplay}
    (passes : ∀ i, Paints set (area i) fun d => draw d i) (values : List Nat) :
    Paints set (fun col row => ∃ i ∈ values, area i col row) fun d => values.foldl draw d := by
  induction values with
  | nil => exact Paints.nothing.congr fun col row => by simp
  | cons first rest ih => exact ((passes first).andThen ih).congr fun col row => by simp

open LCDisplay

theorem drawn_setPoint (d : LCDisplay) (col : Fin 160) (row : Fin 32) (set : Bool) (c : Fin 160) (r : Fin 32) :
    (d.setPoint col row set).drawn c r = if c = col ∧ r = row then set else d.drawn c r := by
  unfold setPoint
  by_cases same : (d.mGraphicRam row (wordOf col)).mBits (bitOf col) = set
  · rw [if_neg (not_not_intro same)]
    split
    · rename_i here
      rw [here.1, here.2]
      exact same
    · rfl
  · rw [if_pos same]
    show (Function.update d.mGraphicRam row _ r (wordOf c)).mBits (bitOf c) = _
    by_cases onRow : r = row
    · subst onRow
      rw [Function.update_self]
      by_cases inWord : wordOf c = wordOf col
      · rw [inWord, Function.update_self]
        by_cases atBit : bitOf c = bitOf col
        · rw [if_pos ⟨col_eq inWord atBit, rfl⟩, atBit]
          exact Function.update_self _ _ _
        · rw [if_neg fun here => atBit (by rw [here.1])]
          refine (Function.update_of_ne atBit _ _).trans ?_
          rw [← inWord]
          rfl
      · rw [Function.update_of_ne inWord, if_neg fun here => inWord (by rw [here.1])]
        rfl
    · rw [Function.update_of_ne onRow, if_neg fun here => onRow here.2]
      rfl

theorem setPoint_inSync {d : LCDisplay} (sync : d.InSync) (col : Fin 160) (row : Fin 32) (set : Bool) :
    (d.setPoint col row set).InSync := by
  unfold setPoint
  dsimp only
  split
  · intro r word unchanged
    show d.panel r word = (Function.update d.mGraphicRam row _ r word).mBits
    change (Function.update d.mGraphicRam row _ r word).mChanged = false at unchanged
    by_cases onRow : r = row
    · subst onRow
      rw [Function.update_self] at unchanged ⊢
      by_cases inWord : word = wordOf col
      · rw [inWord, Function.update_self] at unchanged
        cases unchanged
      · rw [Function.update_of_ne inWord] at unchanged ⊢
        exact sync r word unchanged
    · rw [Function.update_of_ne onRow] at unchanged ⊢
      exact sync r word unchanged
  · exact sync

theorem setPoint_panel (d : LCDisplay) (col : Fin 160) (row : Fin 32) (set : Bool) :
    (d.setPoint col row set).panel = d.panel := by
  unfold setPoint
  dsimp only
  split <;> rfl

theorem rawPoint_paints (col row : Nat) :
    Paints set (fun c r => c.val = col ∧ r.val = row) fun d => d.rawPoint col row set := by
  by_cases outside : col > 159 ∨ row > 31
  · have same : (fun d : LCDisplay => d.rawPoint col row set) = fun d => d := funext fun d => dif_pos outside
    rw [same]
    exact Paints.nothing.congr fun c r => by
      simp only [iff_false]
      omega
  · have same : (fun d : LCDisplay => d.rawPoint col row set) =
        fun d => d.setPoint ⟨col, by omega⟩ ⟨row, by omega⟩ set := funext fun d => dif_neg outside
    rw [same]
    refine ⟨fun d c r here => ?_, fun d c r elsewhere => ?_, fun d => setPoint_panel d _ _ set, fun d sync =>
      setPoint_inSync sync _ _ set⟩
    · rw [drawn_setPoint, if_pos ⟨Fin.ext here.1, Fin.ext here.2⟩]
    · rw [drawn_setPoint, if_neg fun here => elsewhere ⟨congrArg Fin.val here.1, congrArg Fin.val here.2⟩]

theorem mem_through {i first last : Nat} : i ∈ through first last ↔ first ≤ i ∧ i ≤ last := by
  unfold through
  rw [List.mem_range'_1]
  omega

theorem rawHLine_paints (col1 col2 row : Nat) :
    Paints set (fun c r => col1 ≤ c.val ∧ c.val ≤ col2 ∧ r.val = row) fun d => d.rawHLine col1 col2 row set := by
  refine (Paints.foldl (fun i => rawPoint_paints i row) (through col1 col2)).congr fun c r => ?_
  simp only [mem_through]
  constructor
  · intro within
    exact ⟨c.val, ⟨within.1, within.2.1⟩, rfl, within.2.2⟩
  · intro given
    obtain ⟨i, bounds, here, there⟩ := given
    omega

theorem rawVLine_paints (col row1 row2 : Nat) :
    Paints set (fun c r => c.val = col ∧ row1 ≤ r.val ∧ r.val ≤ row2) fun d => d.rawVLine col row1 row2 set := by
  refine (Paints.foldl (fun i => rawPoint_paints col i) (through row1 row2)).congr fun c r => ?_
  simp only [mem_through]
  constructor
  · intro within
    exact ⟨r.val, within.2, within.1, rfl⟩
  · intro given
    obtain ⟨i, bounds, here, there⟩ := given
    omega

/-- The pixels of the rectangle with both corners, and of its outline. -/
def InRectangle (col1 row1 col2 row2 : Nat) (fill : Bool) (c : Fin 160) (r : Fin 32) : Prop :=
  (col1 ≤ c.val ∧ c.val ≤ col2 ∧ row1 ≤ r.val ∧ r.val ≤ row2) ∧
    (fill = true ∨ c.val = col1 ∨ c.val = col2 ∨ r.val = row1 ∨ r.val = row2)

theorem drawRectangle_paints {col1 row1 col2 row2 : Nat} (cols : col1 ≤ col2) (rows : row1 ≤ row2) (fill : Bool) :
    Paints set (InRectangle col1 row1 col2 row2 fill) fun d => d.drawRectangle col1 row1 col2 row2 set fill := by
  cases fill with
  | true =>
    refine (Paints.foldl (fun row => rawHLine_paints col1 col2 row) (through row1 row2)).congr fun c r => ?_
    simp only [InRectangle, mem_through, true_or, and_true]
    constructor
    · intro within
      exact ⟨r.val, within.2.2, within.1, within.2.1, rfl⟩
    · intro given
      obtain ⟨i, bounds, here⟩ := given
      omega
  | false =>
    refine ((((rawHLine_paints col1 col2 row1).andThen (rawHLine_paints col1 col2 row2)).andThen
      (rawVLine_paints col1 row1 row2)).andThen (rawVLine_paints col2 row1 row2)).congr fun c r => ?_
    simp only [InRectangle, Bool.false_eq_true, false_or]
    omega

end

/-! ### The two pictures -/

section
open LCDisplay

variable {col1 row1 col2 row2 : UInt8}

theorem rectangle_settled {d : LCDisplay} (settled : d.Settled) (cols : col1.toNat ≤ col2.toNat)
    (rows : row1.toNat ≤ row2.toNat) (set fill : Bool) : (d.rectangle col1 row1 col2 row2 set fill).Settled :=
  refreshDisplay_settled ((drawRectangle_paints cols rows fill).marked d settled.inSync)

/-- The pixels that `LCDisplay::rectangle` changes, both corners included. -/
theorem picture_rectangle {d : LCDisplay} (settled : d.Settled) (cols : col1.toNat ≤ col2.toNat)
    (rows : row1.toNat ≤ row2.toNat) (set fill : Bool) (c : Fin 160) (r : Fin 32) :
    (InRectangle col1.toNat row1.toNat col2.toNat row2.toNat fill c r →
        (d.rectangle col1 row1 col2 row2 set fill).picture c r = set) ∧
      (¬ InRectangle col1.toNat row1.toNat col2.toNat row2.toNat fill c r →
        (d.rectangle col1 row1 col2 row2 set fill).picture c r = d.picture c r) := by
  have paints := @drawRectangle_paints set _ _ _ _ cols rows fill
  rw [(rectangle_settled settled cols rows set fill).picture_eq, settled.picture_eq]
  exact ⟨paints.inside d c r, paints.outside d c r⟩

/-- The driver draws what is left of the rectangle without its last column and its last row. -/
def InBox (col1 row1 col2 row2 : Nat) (c : Fin 160) (r : Fin 32) : Prop :=
  col1 ≤ c.val ∧ c.val < col2 ∧ row1 ≤ r.val ∧ r.val < row2

theorem fastRectangle_eq {driver : LcdDriver} (ready : driver.commandProcessed = true) (picture : Picture)
    (col1 row1 col2 row2 : UInt8) (set fill : Bool) :
    fastRectangle driver picture col1 row1 col2 row2 set fill =
      some (lcdRectangle col1.toNat row1.toNat col2.toNat row2.toNat set fill picture) := by
  have decoded : (driver.receiveEvent (Method.rectangle col1 row1 col2 row2 set fill).frame).dispatch =
      some (.lcdRectangle col1 row1 col2 row2 set fill) :=
    (receive_dispatch ready (.rectangle col1 row1 col2 row2 set fill)).trans (if_neg id)
  unfold fastRectangle
  rw [decoded]

theorem lcdRectangle_at (cols : col1.toNat ≤ col2.toNat) (rows : row1.toNat ≤ row2.toNat) (set fill : Bool)
    (picture : Picture) (c : Fin 160) (r : Fin 32) :
    (InBox col1.toNat row1.toNat col2.toNat row2.toNat c r →
        lcdRectangle col1.toNat row1.toNat col2.toNat row2.toNat set fill picture c r = set) ∧
      (¬ InBox col1.toNat row1.toNat col2.toNat row2.toNat c r →
        lcdRectangle col1.toNat row1.toNat col2.toNat row2.toNat set fill picture c r = picture c r) := by
  unfold lcdRectangle drawBox InBox
  refine ⟨fun within => if_pos (by omega), fun without => if_neg (by omega)⟩

/-- The pixels in which the two may differ: the last column and the last row, and the inside of an outline. -/
def Disputed (col1 row1 col2 row2 : Nat) (fill : Bool) (c : Fin 160) (r : Fin 32) : Prop :=
  (col1 ≤ c.val ∧ c.val ≤ col2 ∧ row1 ≤ r.val ∧ r.val ≤ row2) ∧
    (c.val = col2 ∨ r.val = row2 ∨ fill = false ∧ col1 < c.val ∧ row1 < r.val)

theorem disputed_iff {a b c d : Nat} (fill : Bool) (col : Fin 160) (row : Fin 32) :
    Disputed a b c d fill col row ↔ ¬ (InRectangle a b c d fill col row ↔ InBox a b c d col row) := by
  unfold Disputed InRectangle InBox
  cases fill with
  | true =>
    simp only [true_or, and_true, reduceCtorEq, false_and, or_false]
    omega
  | false =>
    simp only [Bool.false_eq_true, false_or, true_and]
    omega

/-- A pixel painted twice comes out the same exactly if both paint it, or neither, or it has had the colour. -/
theorem painted_alike_iff {first second : Prop} {before color a b : Bool} (inFirst : first → a = color)
    (outFirst : ¬ first → a = before) (inSecond : second → b = color) (outSecond : ¬ second → b = before) :
    b = a ↔ (¬ (first ↔ second) → before = color) := by
  by_cases one : first
  · rw [inFirst one]
    by_cases two : second
    · rw [inSecond two]
      exact iff_of_true rfl fun differ => absurd (iff_of_true one two) differ
    · rw [outSecond two]
      exact ⟨fun same _ => same, fun given => given fun same => two (same.mp one)⟩
  · rw [outFirst one]
    by_cases two : second
    · rw [inSecond two]
      exact ⟨fun same _ => same.symm, fun given => (given fun same => one (same.mpr two)).symm⟩
    · rw [outSecond two]
      exact iff_of_true rfl fun differ => absurd (iff_of_false one two) differ

/-- The two displays show the same picture afterwards exactly if every disputed pixel has had its colour before. -/
theorem rectangles_agree_iff {d : LCDisplay} {driver : LcdDriver} (settled : d.Settled)
    (ready : driver.commandProcessed = true) (cols : col1 ≤ col2) (rows : row1 ≤ row2) (set fill : Bool) :
    fastRectangle driver d.picture col1 row1 col2 row2 set fill =
        some (d.rectangle col1 row1 col2 row2 set fill).picture ↔
      ∀ c r, Disputed col1.toNat row1.toNat col2.toNat row2.toNat fill c r → d.picture c r = set := by
  have across : col1.toNat ≤ col2.toNat := UInt8.le_iff_toNat_le.mp cols
  have down : row1.toNat ≤ row2.toNat := UInt8.le_iff_toNat_le.mp rows
  have pixel (c : Fin 160) (r : Fin 32) :
      lcdRectangle col1.toNat row1.toNat col2.toNat row2.toNat set fill d.picture c r =
          (d.rectangle col1 row1 col2 row2 set fill).picture c r ↔
        (Disputed col1.toNat row1.toNat col2.toNat row2.toNat fill c r → d.picture c r = set) := by
    obtain ⟨inside, outside⟩ := picture_rectangle settled across down set fill c r
    obtain ⟨inBox, outBox⟩ := lcdRectangle_at across down set fill d.picture c r
    rw [disputed_iff]
    exact painted_alike_iff inside outside inBox outBox
  rw [fastRectangle_eq ready, Option.some.injEq]
  constructor
  · intro same c r
    exact (pixel c r).mp (congrFun (congrFun same c) r)
  · intro before
    funext c r
    exact (pixel c r).mpr (before c r)

/-- A display that shows the same colour everywhere. -/
def plainDisplay (color : Bool) : LCDisplay where
  mGraphicRam := fun _ _ => { mBits := fun _ => color, mChanged := false }
  panel := fun _ _ _ => color

theorem plainDisplay_settled (color : Bool) : (plainDisplay color).Settled := fun _ _ => ⟨rfl, rfl⟩

/-- Erasing what is empty looks the same on both. -/
theorem erasing_empty_agrees :
    fastRectangle .setup (plainDisplay false).picture 0 0 159 31 false true =
      some ((plainDisplay false).rectangle 0 0 159 31 false true).picture :=
  (rectangles_agree_iff (plainDisplay_settled false) rfl (by decide) (by decide) false true).mpr fun _ _ _ => rfl

/-- A single pixel is drawn by one of them only. -/
theorem single_pixel_differs :
    fastRectangle .setup (plainDisplay false).picture 0 0 0 0 true true ≠
      some ((plainDisplay false).rectangle 0 0 0 0 true true).picture := by
  have here : ((plainDisplay false).rectangle 0 0 0 0 true true).picture 0 0 = true := by
    apply (picture_rectangle (plainDisplay_settled false) (by decide) (by decide) true true 0 0).1
    exact ⟨by decide, Or.inl rfl⟩
  rw [fastRectangle_eq rfl]
  intro same
  have pixel := congrFun (congrFun (Option.some.inj same) 0) 0
  rw [here] at pixel
  exact absurd pixel (by decide)

end

end RgbClock.Lcd
