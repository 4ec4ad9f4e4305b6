import RgbClock.Dab.Startup

/-! `writeFlash` stores the boot image and the DAB image in the flash behind the chip, each behind its own address. -/

namespace RgbClock.Dab
open Memory

section
variable (chip : Chip) (files : String → Option (List UInt8)) (settings : Si4684Settings)

end

/-! ### The steps of a call -/

section
variable (chip : Chip) (files : String → Option (List UInt8)) (settings : Si4684Settings)

end

end RgbClock.Dab
