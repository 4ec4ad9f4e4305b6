import RgbClock.Devices.Backlight
import RgbClock.Devices.Luminance
import RgbClock.Lib.Memory

/-! The LED of a light down to the registers of its PWM chip. `RgbLed` turns hue, saturation and luminance into the off
times of three channels, and `PwmLedDriver` writes them, and sends the chip to sleep and wakes it. -/

namespace RgbClock.Devices
open Runs Memory

def MODE1 : UInt8 := 0x00
def MODE2 : UInt8 := 0x01
def LED0 : UInt8 := 0x06
def PRESCALER_REGISTER : UInt8 := 0xFE
def PRESCALER_VALUE : UInt8 := 2

/-! ### The driver -/

def AWAKE : UInt8 := 0b00100000
def ASLEEP : UInt8 := 0b00110000

def initMessages : List (List UInt8) := [[PRESCALER_REGISTER, PRESCALER_VALUE], [ MODE1, AWAKE], [ MODE2, 0b00000000]]

def chipSleepMessage : List UInt8 := [ MODE1, ASLEEP]

/-- Below the largest value the product in `double` has this integer part. -/
def offTime (value : UInt16) : Int16 :=
  if value = MAX_RESOLUTION then 4095 else Int16.ofNat (4095 * value.toNat / MAX_RESOLUTION.toNat)

/-- When the channel goes on and when it goes off. -/
def channel (value : UInt16) : List UInt8 :=
  [0x00, 0x00, (offTime value &&& 0xFF).toUInt16.toUInt8, ((offTime value >>> 8) &&& 0x0F).toUInt16.toUInt8]

def channels (red green blue : UInt16) : List UInt8 := channel red ++ channel green ++ channel blue

def pwmRGB (red green blue : UInt16) : List UInt8 := LED0 :: channels red green blue

/-! ### The chip -/

structure PwmChip where
  registers : UInt8 → UInt8

namespace PwmChip

def awake (chip : PwmChip) : Bool := chip.registers MODE1 &&& 0b00010000 = 0

/-- Register auto increment. -/
def increments (chip : PwmChip) : Bool := chip.registers MODE1 &&& 0b00100000 ≠ 0

/-- The prescaler cannot be set while the chip is awake. -/
def store (chip : PwmChip) (register value : UInt8) : PwmChip :=
  if register = PRESCALER_REGISTER ∧ chip.awake then chip
  else { chip with registers := Function.update chip.registers register value }

def storeAll (chip : PwmChip) : UInt8 → List UInt8 → PwmChip
  | _, [] => chip
  | register, value :: rest => storeAll (chip.store register value) (if chip.increments then register + 1 else register) rest

/-- A message begins with the first register. -/
def receive (chip : PwmChip) : List UInt8 → PwmChip
  | [] => chip
  | register :: values => chip.storeAll register values

/-- `isAttached`: what stands in the prescaler register is near enough. -/
def isAttached (chip : PwmChip) : Bool :=
  chip.registers PRESCALER_REGISTER ≥ PRESCALER_VALUE - 1 && chip.registers PRESCALER_REGISTER ≤ PRESCALER_VALUE + 1

end PwmChip

/-! ### The calls of a light -/

inductive LedCall where
  | pwrOn
  | pwrOff
  | hue (value : UInt16)
  | saturation (value : UInt16)
  | luminance (value : UInt16)
  deriving DecidableEq

/-- An `RgbLed` with its driver and the chip. -/
structure PwmLed where
  mHue : UInt16 := 0
  mSat : UInt16 := 0
  mLum : UInt16 := 0
  chip : PwmChip

/-- Three luminances that are left out. -/
def skipped (value : UInt16) : UInt16 :=
  let mLum := if value > MAX_RESOLUTION then MAX_RESOLUTION else value
  if mLum = 759 then 758 else if mLum = 1175 then 1174 else if mLum = 1176 then 1174 else mLum

namespace PwmLed

section
-- `hslToRgb`, cut to integers
variable (hslToRgb : UInt16 → UInt16 → UInt16 → UInt16 × UInt16 × UInt16)

def write (led : PwmLed) : PwmLed :=
  let (mRed, mGreen, mBlue) := hslToRgb led.mHue led.mSat led.mLum
  { led with chip := led.chip.receive (pwmRGB mRed mGreen mBlue) }

def call (led : PwmLed) : LedCall → PwmLed
  | .pwrOn => { led with chip := initMessages.foldl PwmChip.receive led.chip }
  | .pwrOff => { led with chip := led.chip.receive chipSleepMessage }
  | .hue value => write hslToRgb { led with mHue := value }
  | .saturation value => write hslToRgb { led with mSat := value }
  | .luminance value => write hslToRgb { led with mLum := skipped value }

end

end PwmLed

/-! ### What the chip holds -/

namespace PwmChip

variable {chip : PwmChip}

/-- The register of the `i`-th byte of the channels. -/
def place (i : Nat) : UInt8 := LED0 + .ofNat i

theorem place_apart : ∀ i < 12, place i ≠ MODE1 ∧ place i ≠ MODE2 ∧ place i ≠ PRESCALER_REGISTER := by decide

theorem place_inj : Set.InjOn place (Finset.range 12) := by
  have inj : ∀ i < 12, ∀ j < 12, place i = place j → i = j := by decide
  intro i first j second same
  exact inj i (Finset.mem_range.mp (Finset.mem_coe.mp first)) j (Finset.mem_range.mp (Finset.mem_coe.mp second)) same

theorem store_eq {register : UInt8} (other : register ≠ PRESCALER_REGISTER) (value : UInt8) :
    chip.store register value = ⟨Function.update chip.registers register value⟩ := if_neg fun both => other both.1

/-- With auto increment, and away from the two registers that matter to it, a message is stored byte by byte. -/
theorem storeAll_eq {values : List UInt8} {register : UInt8} (increments : chip.increments = true)
    (apart : ∀ i < values.length, register + .ofNat i ≠ MODE1 ∧ register + .ofNat i ≠ PRESCALER_REGISTER) :
    (chip.storeAll register values).registers =
      Memory.write (fun i => register + .ofNat i) values chip.registers := by
  induction values generalizing chip register with
  | nil => rfl
  | cons value rest ih =>
    have start : register + .ofNat 0 = register := by simp
    have here := apart 0 (Nat.zero_lt_succ _)
    rw [start] at here
    have shifted : (fun i => register + 1 + UInt8.ofNat i) = fun i => register + UInt8.ofNat (i + 1) := by
      funext i
      rw [UInt8.ofNat_add, UInt8.add_assoc, UInt8.add_comm (UInt8.ofNat i)]
      rfl
    rw [storeAll, if_pos increments, store_eq here.2, ih, shifted, Memory.write]
    · simp only [start]
    · simpa [PwmChip.increments, Function.update_of_ne (Ne.symm here.1)] using increments
    · intro i inside
      have later := apart (i + 1) (Nat.succ_lt_succ inside)
      rw [← congrFun shifted i] at later
      exact later

theorem receive_channels {bytes : List UInt8} (increments : chip.increments = true) (twelve : bytes.length = 12) :
    (chip.receive (LED0 :: bytes)).registers = Memory.write place bytes chip.registers := by
  refine storeAll_eq increments fun i inside => ?_
  obtain ⟨mode, -, prescaler⟩ := place_apart i (twelve ▸ inside)
  exact ⟨mode, prescaler⟩

theorem receive_one {register value : UInt8} (other : register ≠ PRESCALER_REGISTER) :
    (chip.receive [register, value]).registers = Function.update chip.registers register value := by
  show (chip.store register value).registers = _
  rw [store_eq other]

/-- Asleep or not, the chip has the prescaler afterwards if it had it before, and it is awake. -/
theorem init_registers :
    let started := initMessages.foldl receive chip
    started.registers MODE1 = AWAKE ∧ (∀ i < 12, started.registers (place i) = chip.registers (place i)) ∧
      (chip.awake = false ∨ chip.registers PRESCALER_REGISTER = PRESCALER_VALUE →
        started.registers PRESCALER_REGISTER = PRESCALER_VALUE) := by
  intro started
  let prescaled := chip.store PRESCALER_REGISTER PRESCALER_VALUE
  have registers : started.registers =
      Function.update (Function.update prescaled.registers MODE1 AWAKE) MODE2 0b00000000 := by
    show ((prescaled.receive [ MODE1, AWAKE]).receive [ MODE2, 0b00000000]).registers = _
    rw [receive_one (by decide), receive_one (by decide)]
  refine ⟨?_, fun i inside => ?_, fun ready => ?_⟩
  · rw [registers]
    rfl
  · obtain ⟨mode1, mode2, prescaler⟩ := place_apart i inside
    rw [registers, Function.update_of_ne mode2, Function.update_of_ne mode1]
    show (store chip PRESCALER_REGISTER PRESCALER_VALUE).registers (place i) = _
    unfold store
    split
    · rfl
    · exact Function.update_of_ne prescaler _ _
  · rw [registers, Function.update_of_ne (by decide), Function.update_of_ne (by decide)]
    show (store chip PRESCALER_REGISTER PRESCALER_VALUE).registers PRESCALER_REGISTER = _
    unfold store
    split
    · rename_i awake
      rcases ready with asleep | done
      · rw [asleep] at awake
        cases awake.2
      · exact done
    · exact Function.update_self PRESCALER_REGISTER PRESCALER_VALUE chip.registers

end PwmChip

namespace PwmLed

variable {hslToRgb : UInt16 → UInt16 → UInt16 → UInt16 × UInt16 × UInt16} {led : PwmLed} {power : Bool}

/-- The twelve bytes that `write` sends after the register. -/
def colors (hslToRgb : UInt16 → UInt16 → UInt16 → UInt16 × UInt16 × UInt16) (led : PwmLed) : List UInt8 :=
  let (mRed, mGreen, mBlue) := hslToRgb led.mHue led.mSat led.mLum
  channels mRed mGreen mBlue

theorem length_colors (led : PwmLed) : (led.colors hslToRgb).length = 12 := rfl

/-- What the chip has been told, and nothing but that. -/
structure Holds (hslToRgb : UInt16 → UInt16 → UInt16 → UInt16 × UInt16 × UInt16) (led : PwmLed) (power : Bool) : Prop where
  mode : led.chip.registers MODE1 = if power then AWAKE else ASLEEP
  channels : read led.chip.registers PwmChip.place 12 = led.colors hslToRgb
  prescaler : led.chip.registers PRESCALER_REGISTER = PRESCALER_VALUE

theorem Holds.awake (holds : Holds hslToRgb led power) : led.chip.awake = power := by
  unfold PwmChip.awake
  rw [holds.mode]
  cases power <;> decide

theorem increments_of_mode {chip : PwmChip} (mode : chip.registers MODE1 = if power then AWAKE else ASLEEP) :
    chip.increments = true := by
  unfold PwmChip.increments
  rw [mode]
  cases power <;> decide

/-- The channels are read back from an awake chip and from one that sleeps. -/
theorem holds_write (mode : led.chip.registers MODE1 = if power then AWAKE else ASLEEP)
    (prescaler : led.chip.registers PRESCALER_REGISTER = PRESCALER_VALUE) : Holds hslToRgb (led.write hslToRgb) power := by
  have written := PwmChip.receive_channels (increments_of_mode mode) (@length_colors hslToRgb led)
  have outside {register : UInt8} (apart : ∀ i < 12, PwmChip.place i ≠ register) :
      (led.write hslToRgb).chip.registers register = led.chip.registers register := by
    show (led.chip.receive (LED0 :: led.colors hslToRgb)).registers register = _
    rw [written]
    exact write_outside (length_colors led ▸ apart) _
  refine ⟨?_, ?_, ?_⟩
  · rw [outside fun i inside => (PwmChip.place_apart i inside).1, mode]
  · show read (led.chip.receive (LED0 :: led.colors hslToRgb)).registers _ _ = _
    rw [written]
    exact read_write PwmChip.place_inj _
  · rw [outside fun i inside => (PwmChip.place_apart i inside).2.2, prescaler]

theorem Holds.pwrOn (holds : Holds hslToRgb led power) : Holds hslToRgb (led.call hslToRgb .pwrOn) true := by
  obtain ⟨mode, same, prescaler⟩ := @PwmChip.init_registers led.chip
  refine ⟨mode, ?_, prescaler (Or.inr holds.prescaler)⟩
  rw [show (led.call hslToRgb .pwrOn).colors hslToRgb = led.colors hslToRgb from rfl, ← holds.channels]
  exact List.map_congr_left fun i inside => same i (List.mem_range.mp inside)

theorem Holds.pwrOff (holds : Holds hslToRgb led power) : Holds hslToRgb (led.call hslToRgb .pwrOff) false := by
  have registers : (led.call hslToRgb .pwrOff).chip.registers = Function.update led.chip.registers MODE1 ASLEEP :=
    PwmChip.receive_one (by decide)
  refine ⟨?_, ?_, ?_⟩
  · rw [registers]
    rfl
  · rw [show (led.call hslToRgb .pwrOff).colors hslToRgb = led.colors hslToRgb from rfl, ← holds.channels, registers]
    exact List.map_congr_left fun i inside =>
      Function.update_of_ne (PwmChip.place_apart i (List.mem_range.mp inside)).1 _ _
  · rw [registers, Function.update_of_ne (by decide), holds.prescaler]

theorem Holds.hue (holds : Holds hslToRgb led power) (value : UInt16) :
    Holds hslToRgb (led.call hslToRgb (.hue value)) power := holds_write holds.mode holds.prescaler

/-- The state of a light as the LED knows it. -/
structure Tells (hslToRgb : UInt16 → UInt16 → UInt16 → UInt16 × UInt16 × UInt16) (led : PwmLed) (power : Bool)
    (luminance : Int) : Prop extends Holds hslToRgb led power where
  hue : led.mHue = 200
  saturation : led.mSat = 4000
  lum : led.mLum = skipped (UInt16.ofInt luminance)

variable {shown : Int}

theorem Tells.luminance (tells : Tells hslToRgb led power shown) (value : Int) :
    Tells hslToRgb (led.call hslToRgb (.luminance (UInt16.ofInt value))) power value :=
  ⟨holds_write tells.mode tells.prescaler, tells.hue, tells.saturation, rfl⟩

theorem Tells.pwrOn (tells : Tells hslToRgb led power shown) :
    Tells hslToRgb (led.call hslToRgb .pwrOn) true shown :=
  ⟨tells.toHolds.pwrOn, tells.hue, tells.saturation, tells.lum⟩

theorem Tells.pwrOff (tells : Tells hslToRgb led power shown) :
    Tells hslToRgb (led.call hslToRgb .pwrOff) false shown :=
  ⟨tells.toHolds.pwrOff, tells.hue, tells.saturation, tells.lum⟩

end PwmLed

/-! ### The light -/

/-- A light whose LED is the chip behind it. -/
structure WiredLight where
  light : Light
  mRGBLed : PwmLed

namespace WiredLight

section
variable (hslToRgb : UInt16 → UInt16 → UInt16 → UInt16 × UInt16 × UInt16)

def ledCall (w : WiredLight) (call : LedCall) : WiredLight := { w with mRGBLed := w.mRGBLed.call hslToRgb call }

/-- The luminance is an `int` here and a `uint16_t` there. -/
def luminance (w : WiredLight) (mCurrentLuminance : Int) : WiredLight :=
  w.ledCall hslToRgb (.luminance (UInt16.ofInt mCurrentLuminance))

def internalPwrOn (w : WiredLight) : WiredLight := (w.luminance hslToRgb MIN_DIMMER_INTENSITY).ledCall hslToRgb .pwrOn

def internalPwrOff (w : WiredLight) : WiredLight := (w.luminance hslToRgb 0).ledCall hslToRgb .pwrOff

def create (now : Int) (chip : PwmChip) : WiredLight :=
  let driver : PwmLed := { chip := initMessages.foldl PwmChip.receive chip }
  ((internalPwrOff hslToRgb ⟨Light.create now, driver⟩).ledCall hslToRgb (.hue 200)).ledCall hslToRgb (.saturation 4000)

def pwrOn (w : WiredLight) (slow : Bool) : WiredLight :=
  { if w.light.mPowerOn then w else w.internalPwrOn hslToRgb with light := w.light.pwrOn slow }

/-- It makes no call. -/
def pwrOff (w : WiredLight) : WiredLight := { w with light := w.light.pwrOff }

def pwrToggle (w : WiredLight) : WiredLight := if w.light.mPowerOn then w.pwrOff else w.pwrOn hslToRgb false

def up (w : WiredLight) (step : Int) : WiredLight :=
  { if w.light.mPowerOn then w.luminance hslToRgb (w.light.up step).mCurrentLuminance else w with light := w.light.up step }

def down (w : WiredLight) (step : Int) : WiredLight :=
  let lowered := w.light.mCurrentLuminance - step
  let lum := if lowered ≤ MIN_DIMMER_INTENSITY then MIN_DIMMER_INTENSITY else lowered
  let told :=
    if w.light.mPowerOn then
      let dimmed := w.luminance hslToRgb lum
      if lum ≤ MIN_DIMMER_INTENSITY ∧ w.light.mPowerDownInitiated then dimmed.internalPwrOff hslToRgb else dimmed
    else w
  { told with light := w.light.down step }

def keyboardPressed (w : WiredLight) (now : Int) (keyboardInfo : Keys.KeyboardInfo) : WiredLight :=
  let left := keyboardInfo.mKeyInfo Keys.KEY_CENTRAL_L
  let right := keyboardInfo.mKeyInfo Keys.KEY_CENTRAL_R
  if keyboardInfo.mState ≠ .stNormal then w
  else
    let w := if left.mShortPressed || right.mShortPressed then w.pwrToggle hslToRgb else w
    let w :=
      if left.mReleased || right.mReleased then { w with light := { w.light with mDimDown := !w.light.mDimDown } }
      else w
    if left.mLongPress || right.mLongPress then
      if w.light.mPowerOn then
        let dimDown := w.light.mDimDown || decide (now - w.light.mLastLong > 5)
        let w := { w with light := { w.light with mDimDown := dimDown, mLastLong := now } }
        if w.light.mDimDown then w.down hslToRgb DIMMER_STEP else w.up hslToRgb DIMMER_STEP
      else w.pwrOn hslToRgb true
    else w

def dimmerThread (w : WiredLight) : WiredLight :=
  let (timer, dimming) := w.light.mUpDownTimer.dimmerThread
  let w := { w with light := { w.light with mUpDownTimer := timer } }
  match dimming with
  | some (.up step) => w.up hslToRgb step
  | some (.down step) => w.down hslToRgb step
  | none => w

def autoOffThread (w : WiredLight) : WiredLight := { w with light := w.light.autoOffThread }

def operate (w : WiredLight) : Light.Operation → WiredLight
  | .step (.pwrOn slow) => w.pwrOn hslToRgb slow
  | .step .pwrOff => w.pwrOff
  | .step .pwrToggle => w.pwrToggle hslToRgb
  | .step (.keyboardPressed now info) => w.keyboardPressed hslToRgb now info
  | .step .dimmerThread => w.dimmerThread hslToRgb
  | .step .autoOffThread => w.autoOffThread
  | .up step _ => w.up hslToRgb step
  | .down step _ => w.down hslToRgb step

end

variable {hslToRgb : UInt16 → UInt16 → UInt16 → UInt16 × UInt16 × UInt16} {w : WiredLight}

/-! ### The light stays the one without the chip -/

@[simp] theorem light_pwrOn (slow : Bool) : (w.pwrOn hslToRgb slow).light = w.light.pwrOn slow := rfl

@[simp] theorem light_up (step : Int) : (w.up hslToRgb step).light = w.light.up step := rfl

@[simp] theorem light_down (step : Int) : (w.down hslToRgb step).light = w.light.down step := rfl

@[simp] theorem light_pwrToggle : (w.pwrToggle hslToRgb).light = w.light.pwrToggle := by
  unfold pwrToggle Light.pwrToggle
  split
  · rfl
  · rfl

theorem light_keyboardPressed (now : Int) (info : Keys.KeyboardInfo) :
    (w.keyboardPressed hslToRgb now info).light = w.light.keyboardPressed now info := by
  unfold keyboardPressed Light.keyboardPressed
  simp only [apply_ite light, light_pwrOn, light_up, light_down, light_pwrToggle]

theorem light_dimmerThread : (w.dimmerThread hslToRgb).light = w.light.dimmerThread := by
  unfold dimmerThread Light.dimmerThread
  rcases w.light.mUpDownTimer.dimmerThread with ⟨timer, none | (step | step)⟩
  · rfl
  · rfl
  · rfl

theorem light_operate (operation : Light.Operation) :
    (w.operate hslToRgb operation).light = w.light.operate operation := by
  rcases operation with (slow | _ | _ | ⟨now, info⟩ | _ | _) | ⟨step, _⟩ | ⟨step, _⟩
  · rfl
  · rfl
  · exact light_pwrToggle
  · exact light_keyboardPressed now info
  · exact light_dimmerThread
  · rfl
  · rfl
  · rfl

/-! ### What the registers hold -/

/-- The chip has been told what the light is like. -/
def Drives (hslToRgb : UInt16 → UInt16 → UInt16 → UInt16 × UInt16 × UInt16) (w : WiredLight) : Prop :=
  w.mRGBLed.Tells hslToRgb w.light.mPowerOn w.light.mCurrentLuminance

/-- Where a step changes neither the power nor the luminance. -/
theorem Drives.same (drives : Drives hslToRgb w) {l : Light} (on : l.mPowerOn = w.light.mPowerOn)
    (luminance : l.mCurrentLuminance = w.light.mCurrentLuminance) : Drives hslToRgb { w with light := l } := by
  show w.mRGBLed.Tells hslToRgb l.mPowerOn l.mCurrentLuminance
  rw [on, luminance]
  exact drives

theorem drives_pwrOn (drives : Drives hslToRgb w) (slow : Bool) : Drives hslToRgb (w.pwrOn hslToRgb slow) := by
  unfold pwrOn
  cases on : w.light.mPowerOn with
  | true =>
    apply drives.same
    · simp [Light.pwrOn, on]
    · simp [Light.pwrOn, on]
  | false =>
    have lit : (w.light.pwrOn slow).mPowerOn = true ∧ (w.light.pwrOn slow).mCurrentLuminance = MIN_DIMMER_INTENSITY := by
      unfold Light.pwrOn
      simp only [on, Bool.false_eq_true, if_false]
      cases slow with
      | true => exact ⟨rfl, rfl⟩
      | false => exact ⟨rfl, rfl⟩
    show (w.internalPwrOn hslToRgb).mRGBLed.Tells hslToRgb (w.light.pwrOn slow).mPowerOn _
    rw [lit.1, lit.2]
    exact (PwmLed.Tells.luminance drives _).pwrOn

theorem drives_pwrOff (drives : Drives hslToRgb w) : Drives hslToRgb w.pwrOff := by
  have same : w.light.pwrOff.mPowerOn = w.light.mPowerOn ∧
      w.light.pwrOff.mCurrentLuminance = w.light.mCurrentLuminance := by
    unfold Light.pwrOff
    dsimp only
    split
    · exact ⟨rfl, rfl⟩
    · exact ⟨rfl, rfl⟩
  exact drives.same same.1 same.2

theorem drives_up (drives : Drives hslToRgb w) (step : Int) : Drives hslToRgb (w.up hslToRgb step) := by
  unfold up
  cases on : w.light.mPowerOn with
  | true =>
    have lit : (w.light.up step).mPowerOn = w.light.mPowerOn := by simp [Light.up, on]
    show (w.luminance hslToRgb _).mRGBLed.Tells hslToRgb (w.light.up step).mPowerOn _
    rw [lit]
    exact PwmLed.Tells.luminance drives _
  | false =>
    apply drives.same
    · simp [Light.up, on]
    · simp [Light.up, on]

/-- At the lowest luminance of a light that is going off, the chip is sent to sleep. -/
theorem drives_down (drives : Drives hslToRgb w) (step : Int) : Drives hslToRgb (w.down hslToRgb step) := by
  unfold down Light.down
  by_cases on : w.light.mPowerOn = true
  · simp only [if_pos on]
    generalize (if w.light.mCurrentLuminance - step ≤ MIN_DIMMER_INTENSITY then MIN_DIMMER_INTENSITY
      else w.light.mCurrentLuminance - step) = lum
    have dimmed := PwmLed.Tells.luminance drives lum
    by_cases last : lum ≤ MIN_DIMMER_INTENSITY ∧ w.light.mPowerDownInitiated = true
    · simp only [if_pos last]
      exact (dimmed.luminance 0).pwrOff
    · simp only [if_neg last]
      exact dimmed
  · simp only [if_neg on]
    exact drives

theorem drives_pwrToggle (drives : Drives hslToRgb w) : Drives hslToRgb (w.pwrToggle hslToRgb) := by
  unfold pwrToggle
  split
  · exact drives_pwrOff drives
  · exact drives_pwrOn drives false

theorem drives_keyboardPressed (drives : Drives hslToRgb w) (now : Int) (info : Keys.KeyboardInfo) :
    Drives hslToRgb (w.keyboardPressed hslToRgb now info) := by
  have turned {v : WiredLight} (held : Drives hslToRgb v) (released : Bool) : Drives hslToRgb
      (if released then { v with light := { v.light with mDimDown := !v.light.mDimDown } } else v) := by
    split
    · exact held.same rfl rfl
    · exact held
  have dimmed {v : WiredLight} (held : Drives hslToRgb v) (long : Bool) : Drives hslToRgb
      (if long then
        if v.light.mPowerOn then
          let dimDown := v.light.mDimDown || decide (now - v.light.mLastLong > 5)
          let w := { v with light := { v.light with mDimDown := dimDown, mLastLong := now } }
          if w.light.mDimDown then w.down hslToRgb DIMMER_STEP else w.up hslToRgb DIMMER_STEP
        else v.pwrOn hslToRgb true
      else v) := by
    have keyed (dimDown : Bool) : Drives hslToRgb { v with light := { v.light with mDimDown := dimDown, mLastLong := now } } :=
      held.same rfl rfl
    split
    · split
      · dsimp only
        split
        · exact drives_down (keyed _) DIMMER_STEP
        · exact drives_up (keyed _) DIMMER_STEP
      · exact drives_pwrOn held true
    · exact held
  have toggled (short : Bool) : Drives hslToRgb (if short then w.pwrToggle hslToRgb else w) := by
    split
    · exact drives_pwrToggle drives
    · exact drives
  unfold keyboardPressed
  split
  · exact drives
  · exact dimmed (turned (toggled _) _) _

theorem Drives.timed (drives : Drives hslToRgb w) (timer : UpDownTimer) :
    Drives hslToRgb { w with light := { w.light with mUpDownTimer := timer } } := drives.same rfl rfl

theorem drives_dimmerThread (drives : Drives hslToRgb w) : Drives hslToRgb (w.dimmerThread hslToRgb) := by
  unfold dimmerThread
  rcases w.light.mUpDownTimer.dimmerThread with ⟨timer, none | (step | step)⟩
  · exact drives.same rfl rfl
  · exact drives_up (drives.timed timer) step
  · exact drives_down (drives.timed timer) step

theorem drives_autoOffThread (drives : Drives hslToRgb w) : Drives hslToRgb w.autoOffThread := by
  unfold autoOffThread Light.autoOffThread
  rcases w.light.mAutoPowerOffTimer.autoOffThread with ⟨timer, _ | _⟩
  · exact drives.same rfl rfl
  · have counted : Drives hslToRgb { w with light := { w.light with mAutoPowerOffTimer := timer } } :=
      drives.same rfl rfl
    exact drives_pwrOff counted

theorem drives_operate (drives : Drives hslToRgb w) (operation : Light.Operation) :
    Drives hslToRgb (w.operate hslToRgb operation) := by
  rcases operation with (slow | _ | _ | ⟨now, info⟩ | _ | _) | ⟨step, _⟩ | ⟨step, _⟩
  · exact drives_pwrOn drives slow
  · exact drives_pwrOff drives
  · exact drives_pwrToggle drives
  · exact drives_keyboardPressed drives now info
  · exact drives_dimmerThread drives
  · exact drives_autoOffThread drives
  · exact drives_up drives step
  · exact drives_down drives step

/-- The driver wakes the chip, which has no colours yet, and the light sends it to sleep. -/
theorem drives_create (now : Int) {chip : PwmChip}
    (ready : chip.awake = false ∨ chip.registers PRESCALER_REGISTER = PRESCALER_VALUE) :
    Drives hslToRgb (create hslToRgb now chip) := by
  obtain ⟨mode, -, prescaler⟩ := @PwmChip.init_registers chip
  have started : PwmLed.Holds hslToRgb
      (({ chip := initMessages.foldl PwmChip.receive chip } : PwmLed).call hslToRgb (.luminance 0)) true :=
    PwmLed.holds_write mode (prescaler ready)
  have hued := started.pwrOff.hue 200
  exact ⟨PwmLed.holds_write hued.mode hued.prescaler, rfl, rfl, rfl⟩

theorem skipped_close {value : UInt16} (small : value.toNat ≤ 4000) :
    value.toNat ≤ (skipped value).toNat + 2 ∧ (skipped value).toNat ≤ value.toNat := by
  have within : ¬ value > MAX_RESOLUTION := fun above => by
    have beyond : 4000 < value.toNat := above
    omega
  simp only [skipped, if_neg within]
  by_cases first : value = 759
  · subst first
    decide
  · by_cases second : value = 1175
    · subst second
      decide
    · by_cases third : value = 1176
      · subst third
        decide
      · rw [if_neg first, if_neg second, if_neg third]
        omega

theorem skipped_near {luminance : Int} (start : 0 ≤ luminance) (stop : luminance ≤ 4000) :
    luminance - 2 ≤ (skipped (UInt16.ofInt luminance)).toNat ∧
      ((skipped (UInt16.ofInt luminance)).toNat : Int) ≤ luminance := by
  obtain ⟨n, rfl⟩ := Int.eq_ofNat_of_zero_le start
  have same : (UInt16.ofInt n).toNat = n := by
    show ((n : Int) % 65536).toNat % 65536 = n
    omega
  obtain ⟨low, high⟩ := @skipped_close (UInt16.ofInt n) (by omega)
  rw [same] at low high
  omega

/-- For a chip that is asleep at first or has its prescaler already, and in every order of the operations, while no message
is lost: the chip is awake exactly while the light is on, it is seen as attached, and its channels hold the colour of the
light at the luminance that it has, which may be shown two steps too dark. -/
theorem registers_of_light (hslToRgb : UInt16 → UInt16 → UInt16 → UInt16 × UInt16 × UInt16) (now : Int) {chip : PwmChip}
    (ready : chip.awake = false ∨ chip.registers PRESCALER_REGISTER = PRESCALER_VALUE)
    (operations : List Light.Operation) :
    let w := run (operate hslToRgb) (create hslToRgb now chip) operations
    let l := run Light.operate (Light.create now) operations
    w.light = l ∧ w.mRGBLed.chip.awake = l.mPowerOn ∧ w.mRGBLed.chip.isAttached = true ∧
      ∃ lum : UInt16, l.mCurrentLuminance - 2 ≤ lum.toNat ∧ (lum.toNat : Int) ≤ l.mCurrentLuminance ∧
        read w.mRGBLed.chip.registers PwmChip.place 12 =
          let (red, green, blue) := hslToRgb 200 4000 lum
          channels red green blue := by
  intro w l
  have related : w.light = l ∧ Drives hslToRgb w ∧ l.Shown := by
    refine @run_simulates _ _ _ _ _ (fun w l => w.light = l ∧ Drives hslToRgb w ∧ l.Shown) (fun v m operation held => ?_)
      _ _ ⟨rfl, drives_create now ready, Light.shown_create now⟩ operations
    obtain ⟨same, drives, shown⟩ := held
    refine ⟨?_, drives_operate drives operation, Light.shown_operate shown operation⟩
    rw [light_operate, same]
  obtain ⟨same, drives, shown⟩ := related
  have range : 0 ≤ l.mCurrentLuminance ∧ l.mCurrentLuminance ≤ 4000 := by
    cases on : l.mPowerOn with
    | false =>
      have zero := shown.dark on
      omega
    | true =>
      have lit : 40 ≤ l.mCurrentLuminance ∧ l.mCurrentLuminance ≤ 4000 := shown.lit on
      omega
  have drawn : w.mRGBLed.Tells hslToRgb l.mPowerOn l.mCurrentLuminance := same ▸ drives
  have near := skipped_near range.1 range.2
  refine ⟨same, drawn.awake, ?_, w.mRGBLed.mLum, ?_, ?_, ?_⟩
  · unfold PwmChip.isAttached
    rw [drawn.prescaler]
    decide
  · rw [drawn.lum]
    exact near.1
  · rw [drawn.lum]
    exact near.2
  · rw [drawn.channels, PwmLed.colors, drawn.hue, drawn.saturation]

/-- A chip that has just got its supply, and a light that is turned on and dimmed. -/
theorem registers_of_light_after_reset :
    (run (operate fun _ _ lum => (lum, lum, lum))
      (create (fun _ _ lum => (lum, lum, lum)) 0
        ⟨fun register => if register = MODE1 then 0x11 else if register = PRESCALER_REGISTER then 0x1E else 0⟩)
      [.step (.pwrOn true), .up 100 (by decide), .down 20 (by decide)]).mRGBLed.chip.awake = true :=
  (registers_of_light _ 0 (Or.inl rfl) _).2.1

end WiredLight

end RgbClock.Devices
