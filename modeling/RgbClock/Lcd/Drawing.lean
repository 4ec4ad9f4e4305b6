import RgbClock.Lcd.Controller

/-! The drawing methods of `LCDisplay`. Each draws into the graphic memory and then refreshes the display. -/

namespace RgbClock.Lcd

structure FontInfo where
  mWidth : UInt8
  mHeight : UInt8
  mSpacing : UInt8
  mPointer : Array UInt8

/-- The tables of the two fonts, each with 96 characters from the space on. -/
structure Fonts where
  VerdanaBold32x27 : Vector UInt8 12384
  Terminal6x8 : Vector UInt8 672

def Fonts.mFontMap (fonts : Fonts) : FontType → FontInfo
  | .Verdana20 => { mWidth := 32, mSpacing := 22, mHeight := 25, mPointer := fonts.VerdanaBold32x27.toArray }
  | .Terminal8 => { mWidth := 6, mSpacing := 6, mHeight := 8, mPointer := fonts.Terminal6x8.toArray }

def FontInfo.bytesPerCharCol (info : FontInfo) : Nat :=
  if info.mHeight.toNat % 8 > 0 then info.mHeight.toNat / 8 + 1 else info.mHeight.toNat / 8

/-- The first byte of a character is ignored. -/
def FontInfo.arrayOffset (info : FontInfo) (character : UInt8) : Int :=
  let characterNumber : Int := character.toNat - 0x20
  (info.mWidth.toNat * info.bytesPerCharCol + 1) * characterNumber + 1

def FontInfo.arrayPos (info : FontInfo) (character : UInt8) (charCol byteNr : Nat) : UInt16 :=
  UInt16.ofInt (info.arrayOffset character) + UInt16.ofNat (charCol * info.bytesPerCharCol + byteNr)

namespace LCDisplay

/-- The loop of `rawVertByte` between two bits. -/
structure VertByte where
  d : LCDisplay
  row : UInt8
  bitMask : UInt8

def rawVertBit (col byte : UInt8) (s : VertByte) (_ : Nat) : VertByte where
  d := s.d.rawPoint col.toNat s.row.toNat (byte &&& s.bitMask ≠ 0)
  row := s.row + 1
  bitMask := s.bitMask <<< 1

/-- The second component is the row, which the source takes by reference. -/
def rawVertByte (d : LCDisplay) (col row maxRemainingRows byte : UInt8) : LCDisplay × UInt8 :=
  let s := Runs.run (rawVertBit col byte) ⟨d, row, 0x01⟩ (List.range (min 8 maxRemainingRows.toNat))
  (s.d, s.row)

/-- A read outside the table has no result. -/
def rawCharByte (info : FontInfo) (col row character : UInt8) (charCol : Nat) (s : LCDisplay × UInt8) (byteNr : Nat) :
    Option (LCDisplay × UInt8) := do
  let myCol := col + UInt8.ofNat charCol
  let byte ← info.mPointer[(info.arrayPos character charCol byteNr).toNat]?
  let maxRemainingRows := info.mHeight - (s.2 - row)
  some (s.1.rawVertByte myCol s.2 maxRemainingRows byte)

def rawCharCol (info : FontInfo) (col row character : UInt8) (d : LCDisplay) (charCol : Nat) : Option LCDisplay := do
  let s ← (List.range info.bytesPerCharCol).foldlM (rawCharByte info col row character charCol) (d, row)
  some s.1

def rawGraphicChar (fonts : Fonts) (d : LCDisplay) (col row character : UInt8) (font : FontType) : Option LCDisplay :=
  let info := fonts.mFontMap font
  (List.range info.mWidth.toNat).foldlM (rawCharCol info col row character) d

def rawGraphicText (fonts : Fonts) (row : UInt8) (font : FontType) (s : LCDisplay × UInt8) (myChar : UInt8) :
    Option (LCDisplay × UInt8) := do
  let d ← s.1.rawGraphicChar fonts s.2 row myChar font
  some (d, s.2 + (fonts.mFontMap font).mSpacing)

def rawSignal (d : LCDisplay) (signal : Int8) : LCDisplay :=
  let d := d.rawHLine (159 - 3) 159 0 (signal ≥ 75)
  let d := d.rawHLine (159 - 2) 159 1 (signal ≥ 50)
  let d := d.rawHLine (159 - 1) 159 2 (signal ≥ 25)
  d.rawPoint 159 3 (signal ≥ 0)

def rawNTPState (d : LCDisplay) : LCDisplay :=
  ((((d.rawPoint 150 2 true).rawPoint 151 3 true).rawPoint 152 2 true).rawPoint 153 1 true).rawPoint 154 0 true

def rawClear (d : LCDisplay) : LCDisplay :=
  { d with mGraphicRam := fun _ _ => { mBits := fun _ => false, mChanged := true } }

end LCDisplay

/-! ### The methods -/

namespace WiredDisplay

/-- The graphic memory as drawn. -/
def redraw (w : WiredDisplay St7920) (d : LCDisplay) : WiredDisplay St7920 := { w with mGraphicRam := d.mGraphicRam }

def clearGraphicDisplay (w : WiredDisplay St7920) : WiredDisplay St7920 := (w.redraw w.toLCDisplay.rawClear).refreshDisplay

def writeGraphicText (fonts : Fonts) (w : WiredDisplay St7920) (col row : UInt8) (text : List UInt8) (font : FontType) :
    Option (WiredDisplay St7920) := do
  let s ← text.foldlM (LCDisplay.rawGraphicText fonts row font) (w.toLCDisplay, col)
  some (w.redraw s.1).refreshDisplay

def point (w : WiredDisplay St7920) (x y : UInt8) (set : Bool) : WiredDisplay St7920 :=
  (w.redraw (w.toLCDisplay.rawPoint x.toNat y.toNat set)).refreshDisplay

def hLine (w : WiredDisplay St7920) (col1 col2 row : UInt8) (set : Bool) : WiredDisplay St7920 :=
  (w.redraw (w.toLCDisplay.rawHLine col1.toNat col2.toNat row.toNat set)).refreshDisplay

def vLine (w : WiredDisplay St7920) (col row1 row2 : UInt8) (set : Bool) : WiredDisplay St7920 :=
  (w.redraw (w.toLCDisplay.rawVLine col.toNat row1.toNat row2.toNat set)).refreshDisplay

def rectangle (w : WiredDisplay St7920) (col1 row1 col2 row2 : UInt8) (set fill : Bool) : WiredDisplay St7920 :=
  (w.redraw (w.toLCDisplay.drawRectangle col1.toNat row1.toNat col2.toNat row2.toNat set fill)).refreshDisplay

def drawSignal (w : WiredDisplay St7920) (signal : Int8) : WiredDisplay St7920 :=
  (w.redraw (w.toLCDisplay.rawSignal signal)).refreshDisplay

def drawNTPState (w : WiredDisplay St7920) (ntpSync : Bool) : WiredDisplay St7920 :=
  if ntpSync then (w.redraw w.toLCDisplay.rawNTPState).refreshDisplay
  else w.rectangle 150 0 155 3 false true

end WiredDisplay

/-- From the space to the tilde. -/
def Printable := { character : UInt8 // 0x20 ≤ character ∧ character ≤ 0x7E }

inductive Drawing where
  | point (x y : UInt8) (set : Bool)
  | hLine (col1 col2 row : UInt8) (set : Bool)
  | vLine (col row1 row2 : UInt8) (set : Bool)
  | rectangle (col1 row1 col2 row2 : UInt8) (set fill : Bool)
  | writeGraphicText (col row : UInt8) (text : List Printable) (font : FontType)
  | drawSignal (signal : Int8)
  | drawNTPState (ntpSync : Bool)
  | clearGraphicDisplay

def WiredDisplay.perform (fonts : Fonts) (w : WiredDisplay St7920) : Drawing → Option (WiredDisplay St7920)
  | .point x y set => some (w.point x y set)
  | .hLine col1 col2 row set => some (w.hLine col1 col2 row set)
  | .vLine col row1 row2 set => some (w.vLine col row1 row2 set)
  | .rectangle col1 row1 col2 row2 set fill => some (w.rectangle col1 row1 col2 row2 set fill)
  | .writeGraphicText col row text font => w.writeGraphicText fonts col row (text.map Subtype.val) font
  | .drawSignal signal => some (w.drawSignal signal)
  | .drawNTPState ntpSync => some (w.drawNTPState ntpSync)
  | .clearGraphicDisplay => some w.clearGraphicDisplay

/-! ### Drawing marks what it changes -/

/-- What drawing does to a display: the panel waits for the refresh, and every word that it does not show is
marked. -/
structure Redrawn (before after : LCDisplay) : Prop where
  panel : after.panel = before.panel
  marked : before.InSync → after.InSync

namespace Redrawn

variable {a b c : LCDisplay}

theorem refl (d : LCDisplay) : Redrawn d d := ⟨rfl, fun sync => sync⟩

theorem trans (first : Redrawn a b) (second : Redrawn b c) : Redrawn a c :=
  ⟨second.panel.trans first.panel, fun sync => second.marked (first.marked sync)⟩

end Redrawn

theorem Paints.redrawn {set : Bool} {area : Fin 160 → Fin 32 → Prop} {draw : LCDisplay → LCDisplay}
    (paints : Paints set area draw) (d : LCDisplay) : Redrawn d (draw d) := ⟨paints.panel d, paints.marked d⟩

namespace LCDisplay

theorem rawPoint_redrawn (d : LCDisplay) (col row : Nat) (set : Bool) : Redrawn d (d.rawPoint col row set) :=
  (rawPoint_paints col row).redrawn d

theorem rawHLine_redrawn (d : LCDisplay) (col1 col2 row : Nat) (set : Bool) : Redrawn d (d.rawHLine col1 col2 row set) :=
  (rawHLine_paints col1 col2 row).redrawn d

theorem rawVLine_redrawn (d : LCDisplay) (col row1 row2 : Nat) (set : Bool) : Redrawn d (d.rawVLine col row1 row2 set) :=
  (rawVLine_paints col row1 row2).redrawn d

/-- The corners may come in any order; a rectangle with its corners swapped may be empty. -/
theorem drawRectangle_redrawn (d : LCDisplay) (col1 row1 col2 row2 : Nat) (set fill : Bool) :
    Redrawn d (d.drawRectangle col1 row1 col2 row2 set fill) := by
  unfold drawRectangle
  split
  · exact (Paints.foldl (fun row => rawHLine_paints col1 col2 row) (through row1 row2)).redrawn d
  · apply Redrawn.trans _ (rawVLine_redrawn _ col2 row1 row2 set)
    apply Redrawn.trans _ (rawVLine_redrawn _ col1 row1 row2 set)
    exact (rawHLine_redrawn d col1 col2 row1 set).trans (rawHLine_redrawn _ col1 col2 row2 set)

theorem rawSignal_redrawn (d : LCDisplay) (signal : Int8) : Redrawn d (d.rawSignal signal) := by
  apply Redrawn.trans _ (rawPoint_redrawn _ 159 3 _)
  apply Redrawn.trans _ (rawHLine_redrawn _ (159 - 1) 159 2 _)
  exact (rawHLine_redrawn d (159 - 3) 159 0 _).trans (rawHLine_redrawn _ (159 - 2) 159 1 _)

theorem rawNTPState_redrawn (d : LCDisplay) : Redrawn d d.rawNTPState := by
  apply Redrawn.trans _ (rawPoint_redrawn _ 154 0 true)
  apply Redrawn.trans _ (rawPoint_redrawn _ 153 1 true)
  apply Redrawn.trans _ (rawPoint_redrawn _ 152 2 true)
  exact (rawPoint_redrawn d 150 2 true).trans (rawPoint_redrawn _ 151 3 true)

theorem rawClear_redrawn (d : LCDisplay) : Redrawn d d.rawClear :=
  ⟨rfl, fun _ _ _ unmarked => absurd unmarked (Ne.symm Bool.false_ne_true)⟩

theorem rawVertByte_redrawn (d : LCDisplay) (col row maxRemainingRows byte : UInt8) :
    Redrawn d (d.rawVertByte col row maxRemainingRows byte).1 := by
  have bits := @Runs.run_invariant _ _ (rawVertBit col byte) (fun s => Redrawn d s.d)
    (fun s _ drawn => drawn.trans (rawPoint_redrawn s.d _ _ _)) ⟨d, row, 0x01⟩
    (List.range (min 8 maxRemainingRows.toNat))
  exact bits (Redrawn.refl d)

/-! ### Text -/

variable {fonts : Fonts}

theorem verdana_bytesPerCharCol : (fonts.mFontMap .Verdana20).bytesPerCharCol = 4 := by
  simp [FontInfo.bytesPerCharCol, Fonts.mFontMap]

theorem terminal_bytesPerCharCol : (fonts.mFontMap .Terminal8).bytesPerCharCol = 1 := by
  simp [FontInfo.bytesPerCharCol, Fonts.mFontMap]

theorem arrayPos_toNat (info : FontInfo) {character : UInt8} (above : 0x20 ≤ character.toNat) (charCol byteNr : Nat) :
    (info.arrayPos character charCol byteNr).toNat =
      ((info.mWidth.toNat * info.bytesPerCharCol + 1) * (character.toNat - 0x20) + 1 +
        (charCol * info.bytesPerCharCol + byteNr)) % 65536 := by
  have offset : info.arrayOffset character =
      (((info.mWidth.toNat * info.bytesPerCharCol + 1) * (character.toNat - 0x20) + 1 : Nat) : Int) := by
    unfold FontInfo.arrayOffset
    push_cast [above]
    rfl
  have reduced (n : Nat) : ((n : Int) % 2 ^ 16).toNat = n % 2 ^ 16 := by omega
  unfold FontInfo.arrayPos
  change _ = _ % 2 ^ 16
  rw [offset, UInt16.toNat_add, UInt16.ofInt, UInt16.toNat_ofNat', UInt16.toNat_ofNat', ← Nat.add_mod, reduced,
    Nat.mod_add_mod]

/-- The bytes of the printable characters lie within the tables. -/
theorem arrayPos_lt (font : FontType) {character : UInt8} (printable : 0x20 ≤ character ∧ character ≤ 0x7E)
    {charCol byteNr : Nat} (cols : charCol < (fonts.mFontMap font).mWidth.toNat)
    (bytes : byteNr < (fonts.mFontMap font).bytesPerCharCol) :
    ((fonts.mFontMap font).arrayPos character charCol byteNr).toNat < (fonts.mFontMap font).mPointer.size := by
  obtain ⟨low, high⟩ := printable
  have above : 0x20 ≤ character.toNat := UInt8.le_iff_toNat_le.mp low
  have below : character.toNat ≤ 0x7E := UInt8.le_iff_toNat_le.mp high
  rw [arrayPos_toNat _ above]
  apply Nat.lt_of_le_of_lt (Nat.mod_le _ _)
  cases font with
  | Verdana20 =>
    have width : (fonts.mFontMap .Verdana20).mWidth.toNat = 32 := rfl
    have size : (fonts.mFontMap .Verdana20).mPointer.size = 12384 := Vector.size_toArray _
    rw [verdana_bytesPerCharCol] at bytes ⊢
    rw [width] at cols ⊢
    omega
  | Terminal8 =>
    have width : (fonts.mFontMap .Terminal8).mWidth.toNat = 6 := rfl
    have size : (fonts.mFontMap .Terminal8).mPointer.size = 672 := Vector.size_toArray _
    rw [terminal_bytesPerCharCol] at bytes ⊢
    rw [width] at cols ⊢
    omega

section
variable {font : FontType} {character : UInt8}

theorem rawCharByte_drawn (printable : 0x20 ≤ character ∧ character ≤ 0x7E) {charCol byteNr : Nat}
    (cols : charCol < (fonts.mFontMap font).mWidth.toNat) (bytes : byteNr < (fonts.mFontMap font).bytesPerCharCol)
    (col row : UInt8) (s : LCDisplay × UInt8) :
    ∃ next, rawCharByte (fonts.mFontMap font) col row character charCol s byteNr = some next ∧ Redrawn s.1 next.1 := by
  unfold rawCharByte
  rw [Array.getElem?_eq_getElem (arrayPos_lt font printable cols bytes)]
  exact ⟨_, rfl, rawVertByte_redrawn s.1 _ s.2 _ _⟩

theorem rawCharCol_drawn (printable : 0x20 ≤ character ∧ character ≤ 0x7E) {charCol : Nat}
    (cols : charCol < (fonts.mFontMap font).mWidth.toNat) (col row : UInt8) (d : LCDisplay) :
    ∃ next, rawCharCol (fonts.mFontMap font) col row character d charCol = some next ∧ Redrawn d next := by
  obtain ⟨last, run, drawn⟩ := @Runs.foldlM_keeps _ _ (fun s => Redrawn d s.1)
    (rawCharByte (fonts.mFontMap font) col row character charCol) (d, row)
    (List.range (fonts.mFontMap font).bytesPerCharCol)
    (fun s byteNr inside before => by
      obtain ⟨next, taken, more⟩ := rawCharByte_drawn printable cols (List.mem_range.mp inside) col row s
      exact ⟨next, taken, before.trans more⟩) (Redrawn.refl d)
  refine ⟨last.1, ?_, drawn⟩
  unfold rawCharCol
  rw [run]
  rfl

theorem rawGraphicChar_drawn (printable : 0x20 ≤ character ∧ character ≤ 0x7E) (col row : UInt8) (d : LCDisplay) :
    ∃ next, d.rawGraphicChar fonts col row character font = some next ∧ Redrawn d next := by
  apply @Runs.foldlM_keeps _ _ (Redrawn d)
  · intro now charCol inside before
    obtain ⟨next, taken, more⟩ := rawCharCol_drawn printable (List.mem_range.mp inside) col row now
    exact ⟨next, taken, before.trans more⟩
  · exact Redrawn.refl d

theorem rawGraphicText_drawn (text : List Printable) (col row : UInt8) (d : LCDisplay) :
    ∃ next, (text.map Subtype.val).foldlM (rawGraphicText fonts row font) (d, col) = some next ∧ Redrawn d next.1 := by
  apply @Runs.foldlM_keeps _ _ (fun s : LCDisplay × UInt8 => Redrawn d s.1)
  · intro s myChar inside before
    obtain ⟨character, -, rfl⟩ := List.mem_map.mp inside
    obtain ⟨next, taken, more⟩ := @rawGraphicChar_drawn fonts font _ character.property s.2 row s.1
    refine ⟨(next, s.2 + (fonts.mFontMap font).mSpacing), ?_, before.trans more⟩
    unfold rawGraphicText
    rw [taken]
    rfl
  · exact Redrawn.refl d

end

end LCDisplay

/-! ### After every method -/

namespace WiredDisplay

variable {w : WiredDisplay St7920}

theorem redraw_toLCDisplay {d : LCDisplay} (drawn : Redrawn w.toLCDisplay d) : (w.redraw d).toLCDisplay = d :=
  congrArg (LCDisplay.mk d.mGraphicRam) drawn.panel.symm

/-- However little the refresh sends, the display takes over what has been drawn as if all of it were sent. -/
theorem redraw_refines {d : LCDisplay} (drawn : Redrawn w.toLCDisplay d) :
    (w.redraw d).refreshDisplay.toLCDisplay = d.refreshDisplay := by
  rw [refreshDisplay_refines, redraw_toLCDisplay drawn]

theorem clearGraphicDisplay_refines (w : WiredDisplay St7920) :
    w.clearGraphicDisplay.toLCDisplay = w.toLCDisplay.clearGraphicDisplay := redraw_refines (LCDisplay.rawClear_redrawn _)

/-- Every word is marked, so nothing is asked of the display before. -/
theorem clearGraphicDisplay_shows (w : WiredDisplay St7920) : w.clearGraphicDisplay.toLCDisplay.Settled := by
  rw [clearGraphicDisplay_refines]
  exact LCDisplay.clearGraphicDisplay_settled _

theorem redraw_shows (sync : w.toLCDisplay.InSync) {d : LCDisplay} (drawn : Redrawn w.toLCDisplay d) :
    (w.redraw d).refreshDisplay.toLCDisplay.Settled := by
  rw [redraw_refines drawn]
  exact LCDisplay.refreshDisplay_settled (drawn.marked sync)

theorem rectangle_shows (sync : w.toLCDisplay.InSync) (col1 row1 col2 row2 : UInt8) (set fill : Bool) :
    (w.rectangle col1 row1 col2 row2 set fill).toLCDisplay.Settled :=
  redraw_shows sync (LCDisplay.drawRectangle_redrawn _ _ _ _ _ set fill)

theorem drawNTPState_shows (sync : w.toLCDisplay.InSync) (ntpSync : Bool) :
    (w.drawNTPState ntpSync).toLCDisplay.Settled := by
  unfold drawNTPState
  split
  · exact redraw_shows sync (LCDisplay.rawNTPState_redrawn _)
  · exact rectangle_shows sync 150 0 155 3 false true

theorem writeGraphicText_shows (fonts : Fonts) (sync : w.toLCDisplay.InSync) (col row : UInt8) (text : List Printable)
    (font : FontType) : ∃ after, w.writeGraphicText fonts col row (text.map Subtype.val) font = some after ∧
      after.toLCDisplay.Settled := by
  obtain ⟨next, run, drawn⟩ := @LCDisplay.rawGraphicText_drawn fonts font text col row w.toLCDisplay
  refine ⟨_, ?_, redraw_shows sync drawn⟩
  unfold writeGraphicText
  rw [run]
  rfl

theorem perform_shows (fonts : Fonts) (sync : w.toLCDisplay.InSync) (operation : Drawing) :
    ∃ after, w.perform fonts operation = some after ∧ after.toLCDisplay.Settled := by
  cases operation with
  | point x y set => exact ⟨_, rfl, redraw_shows sync (LCDisplay.rawPoint_redrawn _ _ _ set)⟩
  | hLine col1 col2 row set => exact ⟨_, rfl, redraw_shows sync (LCDisplay.rawHLine_redrawn _ _ _ _ set)⟩
  | vLine col row1 row2 set => exact ⟨_, rfl, redraw_shows sync (LCDisplay.rawVLine_redrawn _ _ _ _ set)⟩
  | rectangle col1 row1 col2 row2 set fill => exact ⟨_, rfl, rectangle_shows sync col1 row1 col2 row2 set fill⟩
  | writeGraphicText col row text font => exact writeGraphicText_shows fonts sync col row text font
  | drawSignal signal => exact ⟨_, rfl, redraw_shows sync (LCDisplay.rawSignal_redrawn _ signal)⟩
  | drawNTPState ntpSync => exact ⟨_, rfl, drawNTPState_shows sync ntpSync⟩
  | clearGraphicDisplay => exact ⟨_, rfl, clearGraphicDisplay_shows w⟩

/-- Once the display has been cleared, whatever it showed before, it shows the graphic memory after every
operation, and no word waits to be sent. -/
theorem display_shows_graphicRam (fonts : Fonts) (w : WiredDisplay St7920) (operations : List Drawing) :
    ∃ after, (Drawing.clearGraphicDisplay :: operations).foldlM (perform fonts) w = some after ∧
      ∀ row word, after.target.ram row word = (after.mGraphicRam row word).mBits ∧
        (after.mGraphicRam row word).mChanged = false := by
  obtain ⟨after, run, settled⟩ := @Runs.foldlM_keeps _ _ (fun w : WiredDisplay St7920 => w.toLCDisplay.Settled) (perform fonts)
    w.clearGraphicDisplay operations (fun w operation _ settled => perform_shows fonts settled.inSync operation)
    (clearGraphicDisplay_shows w)
  refine ⟨after, ?_, fun row word => ⟨(settled row word).2, (settled row word).1⟩⟩
  simp only [List.foldlM_cons, perform, Option.bind_eq_bind, Option.bind_some]
  exact run

end WiredDisplay

end RgbClock.Lcd
