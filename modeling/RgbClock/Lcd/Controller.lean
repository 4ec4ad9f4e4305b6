import RgbClock.Lcd.Rectangles
import RgbClock.Lib.Run
import Mathlib.Data.Nat.Init

/-! The display controller behind `LCDisplay`, and the refresh that sends it the words that have changed. An
address is sent only where the word before has been skipped; everywhere else the refresh relies on the address
that the controller has counted to. -/

namespace RgbClock.Lcd

/-- The graphic memory of the controller and the address at which it stores the next word. A word comes as two
bytes; `first` is the high one while the low one is awaited. -/
structure St7920 where
  ram : Fin 32 → Fin 10 → Fin 16 → Bool
  row : Nat
  word : Nat
  first : Option UInt8

namespace St7920

def bitsOf (high low : UInt8) : Fin 16 → Bool := fun i =>
  if i.val < 8 then low.toNat.testBit i.val else high.toNat.testBit (i.val - 8)

def store (c : St7920) (bits : Fin 16 → Bool) : St7920 :=
  { c with
    ram := fun row word => if row.val = c.row ∧ word.val = c.word then bits else c.ram row word
    word := c.word + 1
    first := none }

def receiveData (c : St7920) (byte : UInt8) : St7920 :=
  match c.first with
  | none => { c with first := some byte }
  | some high => c.store (bitsOf high byte)

/-- The two control bytes of an address: six bits of the row and four of the word. -/
def receiveAddress (c : St7920) (vertical horizontal : UInt8) : St7920 :=
  { c with row := (vertical &&& 0x3F).toNat, word := (horizontal &&& 0x0F).toNat, first := none }

/-- The controller awaits the high byte of this word. -/
structure At (c : St7920) (row word : Nat) : Prop where
  row : c.row = row
  word : c.word = word
  first : c.first = none

end St7920

/-! ### The refresh -/

/-- What the refresh can send words to. -/
class WordTarget (Target : Type) where
  setGAddress : Target → UInt8 → UInt8 → Target
  writeData : Target → UInt8 → Target

open WordTarget

/-- The controller, where it is reached directly. -/
instance : WordTarget St7920 where
  setGAddress c vertical horizontal := c.receiveAddress (0b10000000 ||| vertical) (0b10000000 ||| horizontal)
  writeData := St7920.receiveData

structure WiredDisplay (Target : Type) where
  mGraphicRam : Fin 32 → Fin 10 → MyGraphicWord
  target : Target

namespace WiredDisplay

/-- The display in the middle of a row, with the last word of the row that has been sent. -/
structure Sweep (Target : Type) where
  display : WiredDisplay Target
  prevHorz : Int

section
variable {Target : Type} [WordTarget Target]

def refreshWord (vert : Fin 32) (s : Sweep Target) (horz : Fin 10) : Sweep Target :=
  let entry := s.display.mGraphicRam vert horz
  if entry.mChanged then
    let target := if s.prevHorz = (horz.val : Int) - 1 then s.display.target
      else setGAddress s.display.target (UInt8.ofNat vert.val) (UInt8.ofNat horz.val)
    let target := writeData target (UInt8.ofNat ((Nat.ofBits entry.mBits >>> 8) &&& 0xFF))
    let target := writeData target (UInt8.ofNat (Nat.ofBits entry.mBits &&& 0xFF))
    { display :=
        { mGraphicRam := Function.update s.display.mGraphicRam vert
            (Function.update (s.display.mGraphicRam vert) horz { entry with mChanged := false })
          target }
      prevHorz := horz.val }
  else s

def refreshRow (w : WiredDisplay Target) (vert : Fin 32) : WiredDisplay Target :=
  (Runs.run (refreshWord vert) { display := w, prevHorz := -2 } (List.finRange 10)).display

def refreshDisplay (w : WiredDisplay Target) : WiredDisplay Target := Runs.run refreshRow w (List.finRange 32)

end

/-- The display as the drawing methods see it. -/
def toLCDisplay (w : WiredDisplay St7920) : LCDisplay where
  mGraphicRam := w.mGraphicRam
  panel := w.target.ram

end WiredDisplay

/-! ### One word -/

namespace St7920

theorem bitsOf_bytes (bits : Fin 16 → Bool) :
    bitsOf (UInt8.ofNat ((Nat.ofBits bits >>> 8) &&& 0xFF)) (UInt8.ofNat (Nat.ofBits bits &&& 0xFF)) = bits := by
  funext i
  have byte (n : Nat) : (UInt8.ofNat (n &&& 0xFF)).toNat = n % 2 ^ 8 := by
    rw [UInt8.toNat_ofNat', show (0xFF : Nat) = 2 ^ 8 - 1 from rfl, Nat.and_two_pow_sub_one_eq_mod, Nat.mod_mod]
  unfold bitsOf
  rw [byte, byte, Nat.testBit_mod_two_pow, Nat.testBit_mod_two_pow, Nat.testBit_shiftRight]
  by_cases low : i.val < 8
  · simp [low, Nat.testBit_ofBits_lt]
  · have back : 8 + (i.val - 8) = i.val := by omega
    have high : i.val - 8 < 8 := by omega
    simp [low, high, back, Nat.testBit_ofBits_lt]

variable {c : St7920} {row word : Nat}

theorem receiveData_pair (awaits : c.At row word) (high low : UInt8) :
    (c.receiveData high).receiveData low = c.store (bitsOf high low) := by
  unfold receiveData
  rw [awaits.first]
  rfl

theorem store_at (awaits : c.At row word) (bits : Fin 16 → Bool) : (c.store bits).At row (word + 1) :=
  ⟨awaits.row, congrArg (· + 1) awaits.word, rfl⟩

theorem store_ram {vert : Fin 32} {horz : Fin 10} (awaits : c.At vert.val horz.val) (bits : Fin 16 → Bool) (r : Fin 32)
    (h : Fin 10) : (c.store bits).ram r h = if r = vert ∧ h = horz then bits else c.ram r h := by
  show (if r.val = c.row ∧ h.val = c.word then bits else c.ram r h) = _
  simp only [awaits.row, awaits.word, Fin.ext_iff]

theorem receiveAddress_at (c : St7920) (vert : Fin 32) (horz : Fin 10) :
    (c.receiveAddress (0b10000000 ||| UInt8.ofNat vert.val) (0b10000000 ||| UInt8.ofNat horz.val)).At vert.val
      horz.val := by
  have rows : ∀ v : Fin 32, ((0b10000000 ||| UInt8.ofNat v.val) &&& 0x3F).toNat = v.val := by decide
  have words : ∀ h : Fin 10, ((0b10000000 ||| UInt8.ofNat h.val) &&& 0x0F).toNat = h.val := by decide
  exact ⟨rows vert, words horz, rfl⟩

end St7920

namespace WiredDisplay

/-- The controller before the two bytes of a word: where it has not counted to the word, it gets the address. -/
def addressed (vert : Fin 32) (s : Sweep St7920) (horz : Fin 10) : St7920 :=
  if s.prevHorz = (horz.val : Int) - 1 then s.display.target
  else setGAddress s.display.target (UInt8.ofNat vert.val) (UInt8.ofNat horz.val)

variable {vert : Fin 32} {horz : Fin 10} {s : Sweep St7920}

theorem addressed_ram : (addressed vert s horz).ram = s.display.target.ram := by
  unfold addressed
  split
  · rfl
  · rfl

theorem addressed_at (follows : s.prevHorz = (horz.val : Int) - 1 → s.display.target.At vert.val horz.val) :
    (addressed vert s horz).At vert.val horz.val := by
  unfold addressed
  split
  · rename_i next
    exact follows next
  · exact St7920.receiveAddress_at _ vert horz

theorem refreshWord_unchanged (unchanged : (s.display.mGraphicRam vert horz).mChanged = false) :
    refreshWord vert s horz = s := by
  simp [refreshWord, unchanged]

theorem refreshWord_changed (changed : (s.display.mGraphicRam vert horz).mChanged = true)
    (awaits : (addressed vert s horz).At vert.val horz.val) :
    refreshWord vert s horz =
      { display :=
          { mGraphicRam := Function.update s.display.mGraphicRam vert (Function.update (s.display.mGraphicRam vert) horz
              { s.display.mGraphicRam vert horz with mChanged := false })
            target := (addressed vert s horz).store (s.display.mGraphicRam vert horz).mBits }
        prevHorz := horz.val } := by
  have sent := St7920.receiveData_pair awaits
    (UInt8.ofNat ((Nat.ofBits (s.display.mGraphicRam vert horz).mBits >>> 8) &&& 0xFF))
    (UInt8.ofNat (Nat.ofBits (s.display.mGraphicRam vert horz).mBits &&& 0xFF))
  rw [St7920.bitsOf_bytes] at sent
  rw [← sent]
  unfold refreshWord addressed
  simp only [changed, if_true]
  split
  · rfl
  · rfl

/-- A word of the graphic memory with what the display has in its place. -/
def place (w : WiredDisplay St7920) (row : Fin 32) (word : Fin 10) : MyGraphicWord × (Fin 16 → Bool) :=
  (w.mGraphicRam row word, w.target.ram row word)

def sent (entry : MyGraphicWord × (Fin 16 → Bool)) : MyGraphicWord × (Fin 16 → Bool) :=
  ({ entry.1 with mChanged := false }, if entry.1.mChanged then entry.1.mBits else entry.2)

theorem sent_unchanged {entry : MyGraphicWord × (Fin 16 → Bool)} (unchanged : entry.1.mChanged = false) :
    sent entry = entry := by
  obtain ⟨⟨mBits, mChanged⟩, bits⟩ := entry
  cases unchanged
  rfl

theorem update_word (words : Fin 32 → Fin 10 → MyGraphicWord) (entry : MyGraphicWord) (r : Fin 32) (c : Fin 10) :
    Function.update words vert (Function.update (words vert) horz entry) r c =
      if r = vert ∧ c = horz then entry else words r c := by
  by_cases row : r = vert
  · subst row
    by_cases word : c = horz
    · subst word
      simp
    · simp [word]
  · simp [row]

/-- One word is sent and no other, in the branch that sends it and in the branch that has nothing to send. -/
theorem refreshWord_place (awaits : (addressed vert s horz).At vert.val horz.val) (r : Fin 32) (c : Fin 10) :
    (refreshWord vert s horz).display.place r c =
      if r = vert ∧ c = horz then sent (s.display.place r c) else s.display.place r c := by
  by_cases changed : (s.display.mGraphicRam vert horz).mChanged = true
  · rw [refreshWord_changed changed awaits]
    dsimp only [place]
    rw [update_word, St7920.store_ram awaits, addressed_ram]
    by_cases this : r = vert ∧ c = horz
    · rw [if_pos this, if_pos this, if_pos this, this.1, this.2]
      simp [sent, changed]
    · rw [if_neg this, if_neg this, if_neg this]
  · have unchanged := (Bool.not_eq_true _).mp changed
    rw [refreshWord_unchanged unchanged]
    split
    · rename_i this
      rw [this.1, this.2, sent_unchanged unchanged]
    · rfl

/-! ### One row -/

/-- The refresh of a row has come to word `n`. Whenever the word before has been sent, the controller has counted
to this one. -/
structure RowDone (w : WiredDisplay St7920) (vert : Fin 32) (n : Nat) (s : Sweep St7920) : Prop where
  places : ∀ row word, s.display.place row word =
    if row = vert ∧ word.val < n then sent (w.place row word) else w.place row word
  follows : s.prevHorz = (n : Int) - 1 → s.display.target.At vert.val n
  behind : s.prevHorz < n

variable {w : WiredDisplay St7920}

theorem refreshWord_places (done : RowDone w vert horz.val s) (row : Fin 32) (word : Fin 10) :
    (refreshWord vert s horz).display.place row word =
      if row = vert ∧ word.val < horz.val + 1 then sent (w.place row word) else w.place row word := by
  rw [refreshWord_place (addressed_at done.follows), done.places]
  by_cases this : row = vert ∧ word = horz
  · have before : ¬ (row = vert ∧ word.val < horz.val) := by
      rw [this.2]
      exact fun within => Nat.lt_irrefl _ within.2
    have now : row = vert ∧ word.val < horz.val + 1 := ⟨this.1, by rw [this.2]; exact Nat.lt_succ_self _⟩
    rw [if_pos this, if_neg before, if_pos now]
  · have same : row = vert ∧ word.val < horz.val + 1 ↔ row = vert ∧ word.val < horz.val := by
      rw [Fin.ext_iff, Fin.ext_iff] at this
      rw [Fin.ext_iff]
      omega
    rw [if_neg this]
    simp only [same]

/-- Where the word is sent, the controller counts on; where it is not, the next one cannot follow. -/
theorem refreshWord_done (done : RowDone w vert horz.val s) :
    RowDone w vert (horz.val + 1) (refreshWord vert s horz) := by
  by_cases changed : (s.display.mGraphicRam vert horz).mChanged = true
  · have awaits := addressed_at done.follows
    refine ⟨refreshWord_places done, fun _ => ?_, ?_⟩
    · rw [refreshWord_changed changed awaits]
      exact St7920.store_at awaits _
    · rw [refreshWord_changed changed awaits]
      exact Int.lt_succ _
  · have same := refreshWord_unchanged ((Bool.not_eq_true _).mp changed)
    have behind := done.behind
    refine ⟨refreshWord_places done, fun next => ?_, ?_⟩
    · rw [same] at next
      push_cast at next
      omega
    · rw [same]
      push_cast
      omega

theorem finRange_at {n k : Nat} {i : Fin n} (found : (List.finRange n)[k]? = some i) : i.val = k := by
  obtain ⟨inside, here⟩ := List.getElem?_eq_some_iff.mp found
  rw [List.getElem_finRange] at here
  rw [← here]
  rfl

theorem refreshRow_done (w : WiredDisplay St7920) (vert : Fin 32) :
    RowDone w vert 10 (Runs.run (refreshWord vert) { display := w, prevHorz := -2 } (List.finRange 10)) := by
  have counted := @Runs.run_counted _ _ (refreshWord vert) (RowDone w vert) { display := w, prevHorz := -2 }
    (List.finRange 10)
  rw [List.length_finRange] at counted
  apply counted
  · intro n s horz found done
    rw [← finRange_at found] at done ⊢
    exact refreshWord_done done
  · have apart : ¬ (-2 : Int) = (0 : Nat) - 1 := by decide
    have below : (-2 : Int) < (0 : Nat) := by decide
    exact ⟨fun row word => by simp, fun next => absurd next apart, below⟩

/-! ### All rows -/

/-- The refresh has come to row `n`. -/
def RowsDone (w : WiredDisplay St7920) (n : Nat) (now : WiredDisplay St7920) : Prop :=
  ∀ row word, now.place row word = if row.val < n then sent (w.place row word) else w.place row word

theorem refreshRow_next {now : WiredDisplay St7920} (done : RowsDone w vert.val now) :
    RowsDone w (vert.val + 1) (now.refreshRow vert) := by
  intro row word
  rw [refreshRow, (refreshRow_done now vert).places, done]
  by_cases this : row = vert
  · subst this
    simp [word.isLt]
  · have other : row.val < vert.val + 1 ↔ row.val < vert.val := by
      rw [Fin.ext_iff] at this
      omega
    simp only [this, false_and, if_false, other]

theorem refreshDisplay_done (w : WiredDisplay St7920) : RowsDone w 32 w.refreshDisplay := by
  have counted := @Runs.run_counted _ _ refreshRow (RowsDone w) w (List.finRange 32)
  rw [List.length_finRange] at counted
  apply counted
  · intro n now vert found done
    rw [← finRange_at found] at done ⊢
    exact refreshRow_next done
  · intro row word
    simp

/-- Sent word by word, the refresh does what the drawing methods take it to do: every word that has changed
arrives in its place, and nothing else does. -/
theorem refreshDisplay_refines (w : WiredDisplay St7920) : w.refreshDisplay.toLCDisplay = w.toLCDisplay.refreshDisplay := by
  have places (row : Fin 32) (word : Fin 10) :
      w.refreshDisplay.mGraphicRam row word = { w.mGraphicRam row word with mChanged := false } ∧
        w.refreshDisplay.target.ram row word =
          if (w.mGraphicRam row word).mChanged then (w.mGraphicRam row word).mBits else w.target.ram row word := by
    have whole := refreshDisplay_done w row word
    rw [if_pos row.isLt] at whole
    exact Prod.mk.inj whole
  have marks := funext fun row => funext fun word => (places row word).1
  have bits := funext fun row => funext fun word => (places row word).2
  exact congrArg₂ LCDisplay.mk marks bits

end WiredDisplay

end RgbClock.Lcd
