import RgbClock.Bus.Expander
import RgbClock.Lcd.Controller

/-! How the bytes of `LCDisplay` reach the display: one port of an expander has the byte, the other the lines that say
what the byte is. The controller takes a byte at a falling edge. The display board makes a pulse out of every change of the
line `E`, as the exclusive or of the line and its delayed inverse, so every byte costs one change. -/

namespace RgbClock.Lcd
open Bus Registers Runs

def RS : Nat := 0
def RW : Nat := 1
def E : Nat := 2

structure LcdBus where
  mIO : IOExpander := {}
  mControlBus : BitVec 8 := 0

namespace LcdBus

section
variable (writes : Nat → Bool) (bus : LcdBus)

def writeControlBus : LcdBus := { bus with mIO := bus.mIO.writeB writes ⟨bus.mControlBus⟩ }

def setRSRWBits (wantedRS wantedRW : Bool) : LcdBus :=
  if bus.mControlBus.getLsbD RS ≠ wantedRS ∨ bus.mControlBus.getLsbD RW ≠ wantedRW then
    { bus with mControlBus := assign (assign bus.mControlBus RS wantedRS) RW wantedRW }.writeControlBus writes
  else bus

def flipE : LcdBus := { bus with mControlBus := assign bus.mControlBus E (!bus.mControlBus.getLsbD E) }

/-- `writeData` and `writeControl`, which differ in the line `RS`. -/
def writeByte (rs : Bool) (byte : UInt8) : LcdBus :=
  let bus := bus.setRSRWBits writes rs false
  let bus := { bus with mIO := bus.mIO.writeA writes byte }
  bus.flipE.writeControlBus writes

def writeData (byte : UInt8) : LcdBus := bus.writeByte writes true byte

def writeControl (byte : UInt8) : LcdBus := bus.writeByte writes false byte

def setGAddress (vertical horizontal : UInt8) : LcdBus :=
  (bus.writeControl writes (0b10000000 ||| vertical)).writeControl writes (0b10000000 ||| horizontal)

end

end LcdBus

/-! ### The other end -/

/-- A byte that the display takes, or one whose meaning changes at the same moment. -/
inductive Taken where
  | byte (rs rw : Bool) (byte : UInt8)
  | glitch
  deriving DecidableEq

/-- What stands on the two ports, and what the display has taken. -/
structure Pins where
  portA : UInt8
  portB : UInt8
  taken : List Taken
  deriving DecidableEq

namespace Pins

def line (byte : UInt8) (bit : Nat) : Bool := byte.toBitVec.getLsbD bit

def observe (pins : Pins) (write : Write UInt8 UInt8) : Pins :=
  if write.arrived then
    if write.reg = GPIOA then { pins with portA := write.value }
    else if write.reg = GPIOB then
      let settled := line pins.portB RS = line write.value RS ∧ line pins.portB RW = line write.value RW
      { pins with
        portB := write.value
        taken :=
          if line pins.portB E = line write.value E then pins.taken
          else if settled then pins.taken ++ [.byte (line write.value RS) (line write.value RW) pins.portA]
          else pins.taken ++ [.glitch] }
    else pins
  else pins

end Pins

def LcdBus.pins (bus : LcdBus) : Pins := run Pins.observe ⟨0, 0, []⟩ bus.mIO.sent

/-- The controller behind the pins. In the extended instruction set a control byte with its highest bit set is half
of an address: first the row, then the word. -/
structure Panel where
  controller : St7920
  vertical : Option UInt8 := none

namespace Panel

def take (panel : Panel) : Taken → Panel
  | .byte true false byte => { panel with controller := panel.controller.receiveData byte }
  | .byte false false byte =>
    if byte &&& 0x80 ≠ 0 then
      match panel.vertical with
      | none => { panel with vertical := some byte }
      | some vertical => { controller := panel.controller.receiveAddress vertical byte, vertical := none }
    else { panel with vertical := none }
  | _ => panel

end Panel

/-! ### One byte -/

/-- No write to the expander is lost. -/
def sure : Nat → Bool := fun _ => true

namespace Pins

/-- The second port shows these lines after the write, and what was there before decides what is taken. -/
theorem observe_control {pins : Pins} {rs rw e : Bool} (before : pins.portB = ⟨lines rs rw e false false⟩)
    (rs' rw' e' : Bool) :
    pins.observe ⟨GPIOB, ⟨lines rs' rw' e' false false⟩, true⟩ =
      { pins with
        portB := ⟨lines rs' rw' e' false false⟩
        taken :=
          if e = e' then pins.taken
          else if rs = rs' ∧ rw = rw' then pins.taken ++ [.byte rs' rw' pins.portA]
          else pins.taken ++ [.glitch] } := by
  have read : ∀ l0 l1 l2 : Bool, line ⟨lines l0 l1 l2 false false⟩ RS = l0 ∧ line ⟨lines l0 l1 l2 false false⟩ RW = l1 ∧
      line ⟨lines l0 l1 l2 false false⟩ E = l2 := by decide
  obtain ⟨oldRS, oldRW, oldE⟩ := read rs rw e
  obtain ⟨newRS, newRW, newE⟩ := read rs' rw' e'
  have other : ¬ GPIOB = GPIOA := by decide
  simp only [observe, before, oldRS, oldRW, oldE, newRS, newRW, newE, other, if_true, if_false]

end Pins

namespace LcdBus

variable {bus : LcdBus}

theorem pins_writeControlBus : (bus.writeControlBus sure).pins = bus.pins.observe ⟨GPIOB, ⟨bus.mControlBus⟩, true⟩ := by
  unfold pins writeControlBus IOExpander.writeB IOExpander.writeData
  rw [run_concat]
  rfl

theorem pins_writeA (byte : UInt8) :
    LcdBus.pins { bus with mIO := bus.mIO.writeA sure byte } = { bus.pins with portA := byte } := by
  unfold pins IOExpander.writeA IOExpander.writeData
  rw [run_concat]
  simp [Pins.observe, sure]

/-- Between two bytes the port shows the control bus, and the display is not being read. -/
structure Idle (bus : LcdBus) (rs e : Bool) : Prop where
  control : bus.mControlBus = lines rs false e false false
  port : bus.pins.portB = ⟨lines rs false e false false⟩

theorem setRSRWBits_idle {rs e : Bool} (idle : bus.Idle rs e) (wantedRS : Bool) :
    (bus.setRSRWBits sure wantedRS false).Idle wantedRS e ∧
      (bus.setRSRWBits sure wantedRS false).pins.taken = bus.pins.taken := by
  have read : ∀ l0 l1 l2 : Bool, (lines l0 l1 l2 false false).getLsbD RS = l0 ∧
      (lines l0 l1 l2 false false).getLsbD RW = l1 := by decide
  unfold setRSRWBits
  rw [idle.control, (read rs false e).1, (read rs false e).2]
  split
  case isTrue =>
    have shown : (({ bus with mControlBus := lines wantedRS false e false false } : LcdBus).writeControlBus sure).pins =
        { bus.pins with portB := ⟨lines wantedRS false e false false⟩ } := by
      rw [pins_writeControlBus]
      show bus.pins.observe _ = _
      rw [Pins.observe_control idle.port, if_pos rfl]
    simp only [RS, RW, assign_zero, assign_one]
    exact ⟨⟨rfl, by rw [shown]⟩, by rw [shown]⟩
  case isFalse same =>
    have equal : rs = wantedRS := by
      by_contra apart
      exact same (Or.inl apart)
    subst equal
    exact ⟨idle, rfl⟩

/-- One byte is taken, with the meaning it was written with, and nothing else. -/
theorem writeByte_taken {before e : Bool} (idle : bus.Idle before e) (rs : Bool) (byte : UInt8) :
    (bus.writeByte sure rs byte).Idle rs (!e) ∧
      (bus.writeByte sure rs byte).pins.taken = bus.pins.taken ++ [.byte rs false byte] := by
  obtain ⟨set, quiet⟩ := setRSRWBits_idle idle rs
  have flips : ∀ l0 l1 l2 : Bool, (lines l0 l1 l2 false false).getLsbD E = l2 := by decide
  have shown : (bus.writeByte sure rs byte).pins =
      ({ (bus.setRSRWBits sure rs false).pins with portA := byte } : Pins).observe
        ⟨GPIOB, ⟨lines rs false (!e) false false⟩, true⟩ := by
    unfold writeByte
    dsimp only
    rw [pins_writeControlBus]
    unfold flipE
    show (LcdBus.pins { bus.setRSRWBits sure rs false with mIO := _ }).observe _ = _
    rw [pins_writeA, set.control, flips]
    simp only [E, assign_two]
  have control : (bus.writeByte sure rs byte).mControlBus = lines rs false (!e) false false := by
    show assign (bus.setRSRWBits sure rs false).mControlBus E (!(bus.setRSRWBits sure rs false).mControlBus.getLsbD E) = _
    rw [set.control, flips]
    simp only [E, assign_two]
  have port : ({ (bus.setRSRWBits sure rs false).pins with portA := byte } : Pins).portB =
      ⟨lines rs false e false false⟩ := set.port
  rw [Pins.observe_control port, if_neg (by cases e <;> decide), if_pos ⟨rfl, rfl⟩] at shown
  refine ⟨⟨control, ?_⟩, ?_⟩
  · rw [shown]
  · rw [shown]
    show (bus.setRSRWBits sure rs false).pins.taken ++ _ = _
    rw [quiet]

/-- The controller after the bytes that have been taken so far. -/
def panel (bus : LcdBus) (controller : St7920) : Panel := run Panel.take { controller } bus.pins.taken

variable {controller : St7920}

/-- A display whose controller is in a known state and awaits no half of an address. -/
def Reaches (bus : LcdBus) (controller reached : St7920) : Prop :=
  (∃ last e, bus.Idle last e) ∧ bus.panel controller = { controller := reached }

theorem Reaches.writeByte {reached : St7920} (reaches : bus.Reaches controller reached) (rs : Bool) (byte : UInt8) :
    (∃ last e, (bus.writeByte sure rs byte).Idle last e) ∧
      (bus.writeByte sure rs byte).panel controller = Panel.take { controller := reached } (.byte rs false byte) := by
  obtain ⟨⟨rs₀, e, idle⟩, state⟩ := reaches
  obtain ⟨next, taken⟩ := writeByte_taken idle rs byte
  refine ⟨⟨rs, !e, next⟩, ?_⟩
  unfold panel at state ⊢
  rw [taken, run_concat, state]

theorem Reaches.writeData {reached : St7920} (reaches : bus.Reaches controller reached) (byte : UInt8) :
    (bus.writeData sure byte).Reaches controller (reached.receiveData byte) := reaches.writeByte true byte

/-- A control byte that is no address leaves the graphic memory alone. -/
theorem Reaches.writeControl {reached : St7920} (reaches : bus.Reaches controller reached) {byte : UInt8}
    (plain : byte &&& 0x80 = 0) : (bus.writeControl sure byte).Reaches controller reached := by
  obtain ⟨idle, state⟩ := reaches.writeByte false byte
  refine ⟨idle, state.trans ?_⟩
  simp [Panel.take, plain]

theorem Reaches.setGAddress {reached : St7920} (reaches : bus.Reaches controller reached) (vertical horizontal : UInt8) :
    (bus.setGAddress sure vertical horizontal).Reaches controller
      (reached.receiveAddress (0b10000000 ||| vertical) (0b10000000 ||| horizontal)) := by
  have high (byte : UInt8) : (0b10000000 ||| byte) &&& 0x80 ≠ 0 := by
    intro none
    have bit := congrArg (fun byte : UInt8 => byte.toBitVec.getLsbD 7) none
    simp at bit
  obtain ⟨⟨rs, e, idle⟩, first⟩ := reaches.writeByte false (0b10000000 ||| vertical)
  obtain ⟨next, taken⟩ := writeByte_taken idle false (0b10000000 ||| horizontal)
  refine ⟨⟨false, !e, next⟩, ?_⟩
  unfold panel at first ⊢
  show run Panel.take _ (LcdBus.writeByte sure (LcdBus.writeByte sure bus false _) false _).pins.taken = _
  rw [taken, run_concat, first]
  simp [Panel.take, high]

/-- The control bytes with which the constructor sets the display up, and those that turn its graphics on. -/
def setUp : List UInt8 :=
  [0b00110000, 0b00110000, 0b00001100, 0b00000010, 0b00000001, 0b00000110, 0b00110100, 0b00110110]

def initGraphic : LcdBus := run (writeControl sure) {} setUp

theorem writeControls_reaches {reached : St7920} {bytes : List UInt8} (plain : ∀ byte ∈ bytes, byte &&& 0x80 = 0)
    (reaches : bus.Reaches controller reached) : (run (LcdBus.writeControl sure) bus bytes).Reaches controller reached := by
  induction bytes generalizing bus with
  | nil => exact reaches
  | cons byte rest ih =>
    have first := reaches.writeControl (plain byte List.mem_cons_self)
    exact ih (fun b member => plain b (List.mem_cons_of_mem _ member)) first

theorem initGraphic_reaches (controller : St7920) : initGraphic.Reaches controller controller := by
  apply writeControls_reaches
  · intro byte member
    simp only [setUp, List.mem_cons, List.not_mem_nil, or_false] at member
    rcases member with rfl | rfl | rfl | rfl | rfl | rfl | rfl | rfl <;> rfl
  · exact ⟨⟨false, false, by decide, by decide⟩, rfl⟩

end LcdBus

/-! ### The refresh -/

/-- The bus, as what the refresh sends its words to. -/
instance : WordTarget LcdBus where
  setGAddress := LcdBus.setGAddress sure
  writeData := LcdBus.writeData sure

abbrev LinkedDisplay := WiredDisplay LcdBus

namespace LinkedDisplay
open WiredDisplay

def redraw (l : LinkedDisplay) (mGraphicRam : Fin 32 → Fin 10 → MyGraphicWord) : LinkedDisplay :=
  refreshDisplay { l with mGraphicRam }

/-- The display behind the bus is the one that is written to directly. -/
structure Stands (controller : St7920) (l : LinkedDisplay) (w : WiredDisplay St7920) : Prop where
  memory : l.mGraphicRam = w.mGraphicRam
  reaches : l.target.Reaches controller w.target

variable {controller : St7920}

theorem refreshWord_stands {vert : Fin 32} {horz : Fin 10} {s : Sweep LcdBus} {t : Sweep St7920}
    (stands : Stands controller s.display t.display) (same : s.prevHorz = t.prevHorz) :
    Stands controller (refreshWord vert s horz).display (refreshWord vert t horz).display ∧
      (refreshWord vert s horz).prevHorz = (refreshWord vert t horz).prevHorz := by
  unfold refreshWord
  rw [stands.memory, same]
  dsimp only
  split
  case isTrue =>
    refine ⟨⟨?_, ?_⟩, rfl⟩
    · split
      · rfl
      · rfl
    · split
      · exact (stands.reaches.writeData _).writeData _
      · exact ((stands.reaches.setGAddress _ _).writeData _).writeData _
  case isFalse => exact ⟨stands, same⟩

theorem refreshRow_stands {l : LinkedDisplay} {w : WiredDisplay St7920} (stands : Stands controller l w) (vert : Fin 32) :
    Stands controller (l.refreshRow vert) (w.refreshRow vert) := by
  have words := @run_simulates _ _ (refreshWord vert) _ (refreshWord vert)
    (fun s t => Stands controller s.display t.display ∧ s.prevHorz = t.prevHorz)
    (fun s t horz related => refreshWord_stands related.1 related.2) { display := l, prevHorz := -2 }
    { display := w, prevHorz := -2 } ⟨stands, rfl⟩ (List.finRange 10)
  exact words.1

theorem refreshDisplay_stands {l : LinkedDisplay} {w : WiredDisplay St7920} (stands : Stands controller l w) :
    Stands controller l.refreshDisplay w.refreshDisplay := by
  unfold refreshDisplay
  generalize List.finRange 32 = rows
  have keep (l : LinkedDisplay) (w : WiredDisplay St7920) (vert : Fin 32) (related : Stands controller l w) :
      Stands controller (l.refreshRow vert) (w.refreshRow vert) := refreshRow_stands related vert
  exact run_simulates keep stands rows

/-- Two levels of one display: whatever is drawn and refreshed, again and again, and while no write is lost, the bytes that
the expander puts on its ports bring the controller behind them exactly to where it is when every call reaches it directly. -/
theorem ports_drive_controller (controller : St7920) (mGraphicRam : Fin 32 → Fin 10 → MyGraphicWord)
    (frames : List (Fin 32 → Fin 10 → MyGraphicWord)) :
    let l := run redraw { mGraphicRam, target := LcdBus.initGraphic } frames
    let w := run (fun w frame => refreshDisplay { w with mGraphicRam := frame }) { mGraphicRam, target := controller } frames
    l.mGraphicRam = w.mGraphicRam ∧ l.target.panel controller = { controller := w.target } := by
  have start : Stands controller { mGraphicRam, target := LcdBus.initGraphic } { mGraphicRam, target := controller } :=
    ⟨rfl, LcdBus.initGraphic_reaches controller⟩
  have stands := @run_simulates _ _ redraw _
    (fun w frame => refreshDisplay { w with mGraphicRam := frame }) (Stands controller)
    (fun l w frame related => refreshDisplay_stands ⟨rfl, related.reaches⟩) _ _ start frames
  exact ⟨stands.memory, stands.reaches.2⟩

end LinkedDisplay

end RgbClock.Lcd
