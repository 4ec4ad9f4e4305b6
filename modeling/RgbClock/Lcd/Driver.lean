import Mathlib.Logic.Function.Basic

/-! The display link: the `FastLCDisplay` methods that host threads call, and the Arduino
driver that receives their frames over I2C and executes them from its `loop`. -/

namespace RgbClock.Lcd

abbrev Frame := List UInt8

def LCD_RESET : UInt8 := 0x01
def LCD_CLEAR_SCREEN : UInt8 := 0x02
def LCD_CLEAR_REGION : UInt8 := 0x03
def LCD_WRITE_TEXT : UInt8 := 0x04
def LCD_RECTANGLE : UInt8 := 0x05

def LCD_FONT_SMALL : UInt8 := 0x01
def LCD_FONT_LARGE : UInt8 := 0x02

def COMMAND_MAX_RETRY : Nat := 100
def MAX_TEXT_SIZE : Nat := 20
def MAX_DATA_SIZE : Nat := 25

/-! ### Host side -/

inductive FontType where
  | Verdana20 | Terminal8
  deriving DecidableEq

inductive Method where
  | clearGraphicDisplay
  | writeGraphicText (col row : UInt8) (text : List UInt8) (font : FontType) (clearLength : Int)
  | rectangle (col1 row1 col2 row2 : UInt8) (set fill : Bool)
  deriving DecidableEq

def byteOfBool (b : Bool) : UInt8 := if b then 1 else 0

def byteOfInt (n : Int) : UInt8 := UInt8.ofNat (n % 256).toNat

def Method.frame : Method → Frame
  | .clearGraphicDisplay => [LCD_CLEAR_SCREEN]
  | .writeGraphicText col row text font clearLength =>
    LCD_WRITE_TEXT :: (if font = .Verdana20 then 2 else 1) :: col :: row :: byteOfInt clearLength ::
      text.take MAX_TEXT_SIZE
  | .rectangle col1 row1 col2 row2 set fill =>
    [LCD_RECTANGLE, col1, row1, col2, row2, byteOfBool set, byteOfBool fill]

/-- Where a host thread stands in the method it is executing. `waiting` counts the retries
of `waitForReady`; `ready` is the point between its return with `true` and the write. -/
inductive Phase where
  | idle
  | waiting (method : Method) (retry : Nat)
  | ready (method : Method)
  deriving DecidableEq

/-! ### Driver side -/

structure LcdDriver where
  commandReceived : Bool
  commandProcessed : Bool
  receivedCommand : UInt8 := 0
  receivedCommandData : List UInt8 := List.replicate MAX_DATA_SIZE 0
  receivedCommandLength : Nat := 0
  deriving DecidableEq

inductive LcdCall where
  | lcdReset
  | lcdClearScreen
  | lcdClearRegion (x1 y1 x2 y2 : UInt8)
  | lcdWriteText (size x y clearLength : UInt8) (text : List UInt8)
  | lcdRectangle (x1 y1 x2 y2 : UInt8) (set fill : Bool)
  deriving DecidableEq

def FontType.size : FontType → UInt8
  | .Verdana20 => LCD_FONT_LARGE
  | .Terminal8 => LCD_FONT_SMALL

/-- The call that the host asks for; the clear length and the text are cut as in the frame. -/
def Method.request : Method → LcdCall
  | .clearGraphicDisplay => .lcdClearScreen
  | .writeGraphicText col row text font clearLength =>
    .lcdWriteText font.size col row (byteOfInt clearLength) (text.take MAX_TEXT_SIZE)
  | .rectangle col1 row1 col2 row2 set fill => .lcdRectangle col1 row1 col2 row2 set fill

namespace LcdDriver

def setup : LcdDriver where
  commandReceived := false
  commandProcessed := true

def storeData (buffer bytes : List UInt8) : List UInt8 :=
  bytes.take MAX_DATA_SIZE ++ buffer.drop (min bytes.length MAX_DATA_SIZE)

def receiveEvent (d : LcdDriver) (message : List UInt8) : LcdDriver :=
  match message with
  | [] => d
  | command :: bytes =>
    if d.commandProcessed then
      if command > 0 then
        { d with
          receivedCommand := command
          receivedCommandData := storeData d.receivedCommandData bytes
          receivedCommandLength := min bytes.length MAX_DATA_SIZE
          commandProcessed := false
          commandReceived := true }
      else { d with receivedCommand := command }
    -- Command was not processed; read all data, and throw away.
    else d

def requestEvent (d : LcdDriver) : UInt8 := byteOfBool d.commandProcessed

def current (d : LcdDriver) : Frame :=
  d.receivedCommand :: d.receivedCommandData.take d.receivedCommandLength

/-- The `switch` of `loop`; an unknown or a short command calls nothing. -/
def dispatch (d : LcdDriver) : Option LcdCall :=
  let data := fun i => d.receivedCommandData.getD i 0
  if d.receivedCommand = LCD_RESET then some .lcdReset
  else if d.receivedCommand = LCD_CLEAR_SCREEN then some .lcdClearScreen
  else if d.receivedCommand = LCD_CLEAR_REGION then
    if d.receivedCommandLength ≥ 4 then some (.lcdClearRegion (data 0) (data 1) (data 2) (data 3)) else none
  else if d.receivedCommand = LCD_WRITE_TEXT then
    if d.receivedCommandLength ≥ 5 then
      some (.lcdWriteText (data 0) (data 1) (data 2) (data 3)
        ((d.receivedCommandData.take d.receivedCommandLength).drop 4))
    else none
  else if d.receivedCommand = LCD_RECTANGLE then
    if d.receivedCommandLength ≥ 5 then
      some (.lcdRectangle (data 0) (data 1) (data 2) (data 3) (data 4 ≠ 0) (data 5 ≠ 0))
    else none
  else none

end LcdDriver

/-- The statement of `loop` that runs next. The interrupts may come between any two. -/
inductive LoopPc where
  | test | switch | clearReceived | setProcessed
  deriving DecidableEq

/-! ### The link -/

/-- Host threads of type `τ` and the driver. `written` lists the frames handed to the bus and
`requested` the calls that they ask for, `executed` the frames that `loop` acted on and `calls`
the routines it called. -/
structure Link (τ : Type) where
  threads : τ → Phase := fun _ => .idle
  driver : LcdDriver
  pc : LoopPc := .test
  written : List Frame := []
  requested : List LcdCall := []
  executed : List Frame := []
  calls : List LcdCall := []

inductive Event (τ : Type) where
  | call (thread : τ) (method : Method)
  | poll (thread : τ)
  | write (thread : τ)
  | loop

section
variable {τ : Type} [DecidableEq τ]

namespace Link

/-- The driver is set up and the constructor of `FastLCDisplay` has sent its reset. -/
def start : Link τ where
  driver := LcdDriver.setup.receiveEvent [LCD_RESET]
  written := [[LCD_RESET]]
  requested := [.lcdReset]

def enter (l : Link τ) (thread : τ) (phase : Phase) : Link τ :=
  { l with threads := Function.update l.threads thread phase }

def call (l : Link τ) (thread : τ) (method : Method) : Link τ :=
  match l.threads thread with
  | .idle => l.enter thread (.waiting method 0)
  | _ => l

/-- `isReady` as one bus transaction: the register byte zero is written, then a byte is read. -/
def poll (l : Link τ) (thread : τ) : Link τ :=
  match l.threads thread with
  | .waiting method retry =>
    let driver := l.driver.receiveEvent [0]
    let l := { l with driver := driver }
    if driver.requestEvent ≠ 0 then l.enter thread (.ready method)
    else if retry < COMMAND_MAX_RETRY then l.enter thread (.waiting method (retry + 1))
    else l.enter thread .idle
  | _ => l

def write (l : Link τ) (thread : τ) : Link τ :=
  match l.threads thread with
  | .ready method =>
    { l.enter thread .idle with
      driver := l.driver.receiveEvent method.frame
      written := l.written ++ [method.frame]
      requested := l.requested ++ [method.request] }
  | _ => l

omit [DecidableEq τ] in
def loop (l : Link τ) : Link τ :=
  match l.pc with
  | .test => if l.driver.commandReceived then { l with pc := .switch } else l
  | .switch =>
    { l with
      pc := .clearReceived
      executed := l.executed ++ [l.driver.current]
      calls := l.calls ++ l.driver.dispatch.toList }
  | .clearReceived => { l with pc := .setProcessed, driver := { l.driver with commandReceived := false } }
  | .setProcessed => { l with pc := .test, driver := { l.driver with commandProcessed := true } }

def step (l : Link τ) : Event τ → Link τ
  | .call thread method => l.call thread method
  | .poll thread => l.poll thread
  | .write thread => l.write thread
  | .loop => l.loop

end Link

end

end RgbClock.Lcd
