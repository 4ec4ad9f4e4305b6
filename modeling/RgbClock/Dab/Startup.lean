import RgbClock.Dab.Flash
import RgbClock.Dab.Packets

/-! How the chip is started: `init` powers it up, loads a boot image and the DAB image, from files or from the flash,
and boots it. It stops at the first command whose status is an error. -/

namespace RgbClock.Dab
open Memory Bytes

def DAB_IMDAGE_ADDRESS : UInt32 := 0x00086000

def SI468X_BOOT : UInt8 := 0x07
def SI468X_GET_PART_INFO : UInt8 := 0x08
def SI468X_GET_SYS_STATE : UInt8 := 0x09
def SI468X_DIGITAL_SERVICE_INT_SOURCE : UInt16 := 0x8100

structure Si4684Settings where
  MiniPatch : String := ""
  BootFile : String := ""
  DABFile : String := ""
  LoadFromFlash : Bool := false

section
variable (chip : Chip) (files : String → Option (List UInt8)) (settings : Si4684Settings)

def getStatus : Driver (Option DABStatus) := do
  let sent ← get
  let reply ← sendCommand chip SI468X_RD_REPLY [0x00] 4 WAIT_CTS
  return DABStatus.parse (chip.uninitialised sent.length) reply

def readSysState : Driver (Option DABSysState) := do
  let reply ← sendCommand chip SI468X_GET_SYS_STATE [0x00] 6 WAIT_CTS
  return DABSysState.parse reply

/-- The boot and the DAB image, out of the flash behind a patch of the loader or out of their files. The statuses between
the files are only logged. -/
def loadImages : Driver Bool :=
  if settings.LoadFromFlash then do
    if !(← hostLoad chip (files settings.MiniPatch)) then return false
    if !(← flashLoad chip BOOT_IMAGE_ADDRESS) then return false
    flashLoad chip DAB_IMDAGE_ADDRESS
  else do
    if !(← hostLoad chip (files settings.BootFile)) then return false
    let _bootImageStatus ← getStatus chip
    if !(← hostLoad chip (files settings.DABFile)) then return false
    let _dabImageStatus ← getStatus chip
    return true

def boot : Driver Bool := do
  if ← statusError chip SI468X_BOOT [0x00] 0 WAIT_CTS then return false
  let sysState ← readSysState chip
  let _partInfo ← sendCommand chip SI468X_GET_PART_INFO [0x00] 23 WAIT_CTS
  let _ ← setProperty chip SI468X_DIGITAL_SERVICE_INT_SOURCE 0x03
  return sysState.any fun s => s.IMAGE == 2

def init : Driver Bool := do
  if !settings.LoadFromFlash then
    if settings.BootFile.isEmpty then return false
    if settings.DABFile.isEmpty then return false
  if !(← powerUp chip) then return false
  if !(← loadImages chip files settings) then return false
  boot chip

end

/-! ### Sequences of steps -/

/-- A command whose error ends the sequence, one whose reply is only logged, or a file that cannot be read. -/
inductive Step where
  | checked (c : Command)
  | logged (c : Command)
  | unreadable

def Step.command : Step → Option Command
  | checked c | logged c => some c
  | unreadable => none

section
variable (chip : Chip)

end

/-! ### The images -/

section
variable (chip : Chip) (files : String → Option (List UInt8)) (settings : Si4684Settings)

/-- The settings name the files that are needed. -/
def Si4684Settings.named (settings : Si4684Settings) : Bool :=
  settings.LoadFromFlash || (!settings.BootFile.isEmpty && !settings.DABFile.isEmpty)

def bootCommand : Command := ⟨SI468X_BOOT, [0x00], 0, WAIT_CTS⟩

def sysStateCommand : Command := ⟨SI468X_GET_SYS_STATE, [0x00], 6, WAIT_CTS⟩

def partInfoCommand : Command := ⟨SI468X_GET_PART_INFO, [0x00], 23, WAIT_CTS⟩

def intSourceCommand : Command := ⟨SI468X_SET_PROPERTY, [0x00, 0x00, 0x81, 0x03, 0x00], 0, WAIT_CTS⟩

/-- The byte of the reply that names the image which runs. -/
def runsDab (reply : List UInt8) : Bool := reply[4]? == some 2

end

/-! ### Nothing is booted in part -/

section
variable (chip : Chip) (files : String → Option (List UInt8)) (settings : Si4684Settings)

def Unread : Prop :=
  if settings.LoadFromFlash then files settings.MiniPatch = none
  else files settings.BootFile = none ∨ files settings.DABFile = none

/-- What has been sent when the chip is booted: out of the files both images as a whole, one after the other; out of the
flash the patch of the loader, and the places of both images. Only statuses that are not looked at may show an error. -/
structure Loaded (before : List Exchange) : Prop where
  first : ∀ x ∈ before, x.sent.command ≠ SI468X_BOOT
  clear : ∀ (i : Nat) (x : Exchange), before[i]? = some x → x.sent.command ≠ SI468X_RD_REPLY → x.error (chip.uninitialised i) = false
  images : if settings.LoadFromFlash then
      ∃ patch, files settings.MiniPatch = some patch ∧ (hostBlocks before).flatten = patch ∧
        namedPlaces .little before = [BOOT_IMAGE_ADDRESS, DAB_IMDAGE_ADDRESS]
    else
      ∃ boot dab, files settings.BootFile = some boot ∧ files settings.DABFile = some dab ∧
        (hostBlocks before).flatten = boot ++ dab

/-- How `init` ends, with what it has sent. -/
inductive Started : Bool → List Exchange → Prop where
  | refused (unnamed : settings.named = false) : Started false []
  | unread {sent : List Exchange} (first : ∀ x ∈ sent, x.sent.command ≠ SI468X_BOOT) (unread : Unread files settings) :
      Started false sent
  | stopped {before : List Exchange} {x : Exchange} (first : ∀ y ∈ before ++ [x], y.sent.command ≠ SI468X_BOOT)
      (error : x.error (chip.uninitialised before.length) = true) : Started false (before ++ [x])
  | failed {before : List Exchange} (loaded : Loaded chip files settings before)
      (error : chip.error before.length bootCommand = true) :
      Started false (before ++ [chip.exchange before.length bootCommand])
  | booted {before : List Exchange} (loaded : Loaded chip files settings before)
      (clear : chip.error before.length bootCommand = false) :
      Started (runsDab (chip.exchange (before.length + 1) sysStateCommand).reply)
        (before ++ chip.exchanges before.length [bootCommand, sysStateCommand, partInfoCommand, intSourceCommand])

end

end RgbClock.Dab
