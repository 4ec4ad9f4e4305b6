import RgbClock.Lib.Registers

/-! The port expander, with two ports of eight lines. Its registers are written over the bus; the driver does not
look at what `writeData` returns, so a write may be lost. -/

namespace RgbClock.Bus
open Registers

def DIRA : UInt8 := 0x00
def DIRB : UInt8 := 0x01
def IOCON : UInt8 := 0x0A
def GPPUA : UInt8 := 0x0C
def GPPUB : UInt8 := 0x0D
def GPIOA : UInt8 := 0x12
def GPIOB : UInt8 := 0x13

/-! ### The lines of a port -/

/-- `bus[bit] = value` of a `std::bitset<8>`. -/
def assign (bus : BitVec 8) (bit : Nat) (value : Bool) : BitVec 8 :=
  if value then bus ||| BitVec.twoPow 8 bit else bus &&& ~~~ BitVec.twoPow 8 bit

/-- A bus by its five lowest lines. -/
def lines (l0 l1 l2 l3 l4 : Bool) : BitVec 8 := BitVec.ofBoolListLE [l0, l1, l2, l3, l4, false, false, false]

section
variable (l0 l1 l2 l3 l4 value : Bool)

@[simp] theorem assign_zero : assign (lines l0 l1 l2 l3 l4) 0 value = lines value l1 l2 l3 l4 := by
  revert l0 l1 l2 l3 l4 value
  decide

@[simp] theorem assign_one : assign (lines l0 l1 l2 l3 l4) 1 value = lines l0 value l2 l3 l4 := by
  revert l0 l1 l2 l3 l4 value
  decide

@[simp] theorem assign_two : assign (lines l0 l1 l2 l3 l4) 2 value = lines l0 l1 value l3 l4 := by
  revert l0 l1 l2 l3 l4 value
  decide

@[simp] theorem assign_three : assign (lines l0 l1 l2 l3 l4) 3 value = lines l0 l1 l2 value l4 := by
  revert l0 l1 l2 l3 l4 value
  decide

@[simp] theorem assign_four : assign (lines l0 l1 l2 l3 l4) 4 value = lines l0 l1 l2 l3 value := by
  revert l0 l1 l2 l3 l4 value
  decide

end

/-! ### The expander -/

inductive DataDirection where
  | dirOut | dirIn
  deriving DecidableEq

/-- The writes to its registers so far. -/
structure IOExpander where
  sent : List (Write UInt8 UInt8) := []

namespace IOExpander

section
variable (writes : Nat → Bool) (io : IOExpander)

/-- `mI2C.writeData` of a register and a byte; `writes` tells which of all writes arrive. -/
def writeData (reg byte : UInt8) : IOExpander := { sent := io.sent ++ [⟨reg, byte, writes io.sent.length⟩] }

def writeA (byte : UInt8) : IOExpander := io.writeData writes GPIOA byte

def writeB (byte : UInt8) : IOExpander := io.writeData writes GPIOB byte

def direction (dir pullUp : UInt8) : DataDirection → IOExpander
  | .dirOut => (io.writeData writes dir 0x00).writeData writes pullUp 0x00
  | .dirIn => (io.writeData writes dir 0xFF).writeData writes pullUp 0xFF

def directionA (d : DataDirection) : IOExpander := io.direction writes DIRA GPPUA d

def directionB (d : DataDirection) : IOExpander := io.direction writes DIRB GPPUB d

def init : IOExpander :=
  ((io.writeData writes IOCON 0b00100000).directionA writes .dirOut).directionB writes .dirOut

end

/-- What a register holds, given what the registers held at first. -/
def port (io : IOExpander) (before : UInt8 → UInt8) (reg : UInt8) : UInt8 := after before io.sent reg

/-- The lines of a port. A clear bit of the direction makes a line an output, which is as the register of the port; on the
others stands what comes from outside. -/
def pins (io : IOExpander) (before : UInt8 → UInt8) (outside dir reg : UInt8) : UInt8 :=
  (io.port before reg &&& ~~~ io.port before dir) ||| (outside &&& io.port before dir)

/-- A write to the register has arrived. -/
def reached (io : IOExpander) (reg : UInt8) : Bool := (writesTo reg io.sent).any Write.arrived

/-- The last write to the register has arrived. -/
def lastArrived (io : IOExpander) (reg : UInt8) : Bool := (writesTo reg io.sent).getLast?.all Write.arrived

/-- The bytes written to a register, whether they have arrived or not. -/
def bytesTo (io : IOExpander) (reg : UInt8) : List UInt8 := (writesTo reg io.sent).map Write.value

section
variable {writes : Nat → Bool} {io : IOExpander} {reg byte other : UInt8}

theorem bytesTo_writeData :
    (io.writeData writes reg byte).bytesTo other = io.bytesTo other ++ if reg = other then [byte] else [] := by
  unfold bytesTo writeData writesTo
  by_cases same : reg = other
  · simp [same]
  · simp [same]

@[simp] theorem bytesTo_writeA_A : (io.writeA writes byte).bytesTo GPIOA = io.bytesTo GPIOA ++ [byte] :=
  bytesTo_writeData

theorem bytesTo_writeA (other : GPIOA ≠ reg) : (io.writeA writes byte).bytesTo reg = io.bytesTo reg := by
  rw [writeA, bytesTo_writeData, if_neg other, List.append_nil]

theorem bytesTo_writeB (other : GPIOB ≠ reg) : (io.writeB writes byte).bytesTo reg = io.bytesTo reg := by
  rw [writeB, bytesTo_writeData, if_neg other, List.append_nil]

@[simp] theorem bytesTo_writeA_B : (io.writeA writes byte).bytesTo GPIOB = io.bytesTo GPIOB := bytesTo_writeA (by decide)

@[simp] theorem bytesTo_writeB_B : (io.writeB writes byte).bytesTo GPIOB = io.bytesTo GPIOB ++ [byte] :=
  bytesTo_writeData

@[simp] theorem bytesTo_writeB_A : (io.writeB writes byte).bytesTo GPIOA = io.bytesTo GPIOA := bytesTo_writeB (by decide)

theorem bytesTo_direction {dir pullUp : UInt8} (d : DataDirection) (apart : dir ≠ other ∧ pullUp ≠ other) :
    (io.direction writes dir pullUp d).bytesTo other = io.bytesTo other := by
  unfold direction
  cases d with
  | dirOut => simp [bytesTo_writeData, apart.1, apart.2]
  | dirIn => simp [bytesTo_writeData, apart.1, apart.2]

/-- The set-up of the expander writes to neither port. -/
theorem bytesTo_init (port : reg = GPIOA ∨ reg = GPIOB) : (io.init writes).bytesTo reg = io.bytesTo reg := by
  unfold init directionA directionB
  rcases port with rfl | rfl
  · rw [bytesTo_direction _ (by decide), bytesTo_direction _ (by decide), bytesTo_writeData, if_neg (by decide),
      List.append_nil]
  · rw [bytesTo_direction _ (by decide), bytesTo_direction _ (by decide), bytesTo_writeData, if_neg (by decide),
      List.append_nil]

/-- A port holds what it held at first or a byte that was written to it. -/
theorem port_written (io : IOExpander) (before : UInt8 → UInt8) (reg : UInt8) :
    io.port before reg = before reg ∨ io.port before reg ∈ io.bytesTo reg := by
  rcases after_written before io.sent reg with untouched | ⟨write, member, value⟩
  · exact Or.inl untouched
  · exact Or.inr (List.mem_map.mpr ⟨write, member, value⟩)

/-- Where the last write to a port has arrived, the port holds its byte. -/
theorem port_last {before : UInt8 → UInt8} {last : UInt8} (wrote : (io.bytesTo reg).getLast? = some last)
    (arrived : io.lastArrived reg = true) : io.port before reg = last := by
  unfold bytesTo at wrote
  unfold lastArrived at arrived
  rw [List.getLast?_map] at wrote
  obtain ⟨write, found, rfl⟩ := Option.map_eq_some_iff.mp wrote
  rw [found] at arrived
  exact after_last found arrived

/-- A port whose direction was only ever set to output shows what it holds, once that has arrived. -/
theorem pins_output {before : UInt8 → UInt8} {outside dir : UInt8} (output : ∀ byte ∈ io.bytesTo dir, byte = 0)
    (arrived : io.reached dir = true) : io.pins before outside dir reg = io.port before reg := by
  have zero : io.port before dir = 0 :=
    after_only (fun write member => output write.value (List.mem_map_of_mem member)) arrived
  rw [pins, zero]
  simp

end

end IOExpander

end RgbClock.Bus
