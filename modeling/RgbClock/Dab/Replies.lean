import RgbClock.Lib.Bytes

/-! The replies of the Si4684 and their parsers. A parser is `none` if it reads outside its vector. -/

namespace RgbClock.Dab
open Bytes

/-! ### Replies with fixed offsets -/

/-- The fields that `error` and `interrupt` look at, and the ones the driver logs. -/
structure DABStatus where
  CTS : Bool
  ERR_CMD : Bool
  DACQ_INT : Bool
  DSRV_INT : Bool
  STC_INT : Bool
  DFIC_INT : Bool
  DEVNT_INT : Bool
  DACF_INT : Bool
  PUP_STATE : UInt8
  RFFE_ERR : Bool
  REPOFERR : Bool
  CMDOFERR : Bool
  ERRNR : Bool
  ERROR : UInt8
  deriving DecidableEq

namespace DABStatus

def bit (byte : Option UInt8) (mask : UInt8) : Option Bool := byte.map fun b => b &&& mask ≠ 0

/-- The constructor sets every flag but `ERRNR`, which keeps what the memory held before. -/
def parse (uninitialised : Bool) (data : List UInt8) : Option DABStatus := do
  let CTS ← whenLonger data 0 (bit data[0]? 0x80) false
  let ERR_CMD ← whenLonger data 0 (bit data[0]? 0x40) false
  let DACQ_INT ← whenLonger data 0 (bit data[0]? 0x20) false
  let DSRV_INT ← whenLonger data 0 (bit data[0]? 0x10) false
  let STC_INT ← whenLonger data 0 (bit data[0]? 0x01) false
  let DFIC_INT ← whenLonger data 1 (bit data[1]? 0x40) false
  let DEVNT_INT ← whenLonger data 1 (bit data[1]? 0x20) false
  let DACF_INT ← whenLonger data 1 (bit data[1]? 0x01) false
  let PUP_STATE : UInt8 ← whenLonger data 3 (data[3]?.map fun b => b >>> (6 : UInt8)) 0
  let RFFE_ERR ← whenLonger data 3 (bit data[3]? 0x20) false
  let REPOFERR ← whenLonger data 3 (bit data[3]? 0x08) false
  let CMDOFERR ← whenLonger data 3 (bit data[3]? 0x04) false
  let ERRNR ← whenLonger data 3 (bit data[3]? 0x01) uninitialised
  let ERROR ← if data.length > 4 ∧ ERR_CMD then data[4]? else some 0
  return { CTS, ERR_CMD, DACQ_INT, DSRV_INT, STC_INT, DFIC_INT, DEVNT_INT, DACF_INT, PUP_STATE, RFFE_ERR, REPOFERR,
           CMDOFERR, ERRNR, ERROR }

def error (s : DABStatus) : Bool := s.ERR_CMD || s.CMDOFERR || s.REPOFERR || s.ERRNR

end DABStatus

structure DABDigiradStatus where
  VALID : Bool
  RSSI : UInt8
  SNR : UInt8
  FIC_QUALITY : UInt8
  CNR : UInt8
  FIB_ERROR_COUNT : UInt16
  TUNE_FREQ : UInt32
  TUNE_INDEX : UInt8
  FFT_OFFSET : UInt8
  READANTCAP : UInt16
  CU_LEVEL : UInt16
  FAST_DECT : UInt8
  SAMPLE_RATE_OFFSET : UInt16
  FREQ_OFFSET : UInt32
  FIC_BIT_CNT : UInt32
  FIC_ERR_CNT : UInt32

def DABDigiradStatus.parse (data : List UInt8) : Option DABDigiradStatus := do
  let VALID ← whenLonger data 5 (DABStatus.bit data[5]? 0x01) false
  let RSSI ← whenLonger data 6 data[6]? 0
  let SNR ← whenLonger data 7 data[7]? 0
  let FIC_QUALITY ← whenLonger data 8 data[8]? 0
  let CNR ← whenLonger data 9 data[9]? 0
  let FIB_ERROR_COUNT ← whenLonger data 0x0b (u16 data 0x0a) 0
  let TUNE_FREQ ← whenLonger data 0x0f (u32 data 0x0c) 0
  let TUNE_INDEX ← whenLonger data 0x10 data[0x10]? 0
  let FFT_OFFSET ← whenLonger data 0x11 data[0x11]? 0
  let READANTCAP ← whenLonger data 0x13 (u16 data 0x12) 0
  let CU_LEVEL ← whenLonger data 0x15 (u16 data 0x14) 0
  let FAST_DECT ← whenLonger data 0x16 data[0x16]? 0
  let SAMPLE_RATE_OFFSET ← whenLonger data 0x1b (u16 data 0x1a) 0
  let FREQ_OFFSET ← whenLonger data 0x1f (u32 data 0x1c) 0
  let FIC_BIT_CNT ← whenLonger data 0x23 (u32 data 0x20) 0
  let FIC_ERR_CNT ← whenLonger data 0x27 (u32 data 0x24) 0
  return { VALID, RSSI, SNR, FIC_QUALITY, CNR, FIB_ERROR_COUNT, TUNE_FREQ, TUNE_INDEX, FFT_OFFSET, READANTCAP, CU_LEVEL,
           FAST_DECT, SAMPLE_RATE_OFFSET, FREQ_OFFSET, FIC_BIT_CNT, FIC_ERR_CNT }

structure DigitalServiceData where
  DSRVPCKTINT : Bool
  DSRVOVFLINT : Bool
  BUFF_COUNT : UInt8
  SRV_STATE : UInt8
  DATA_TYPE : UInt8
  SERVICE_ID : UInt32
  COMPONENT_ID : UInt32
  BYTE_COUNT : UInt16
  SEG_NUM : UInt16
  NUM_SEGS : UInt16
  mPayload : List UInt8

def DigitalServiceData.parse (data : List UInt8) : Option DigitalServiceData := do
  let DSRVPCKTINT ← whenLonger data 0x04 (DABStatus.bit data[0x04]? 0x01) false
  let DSRVOVFLINT ← whenLonger data 0x04 (DABStatus.bit data[0x04]? 0x02) false
  let BUFF_COUNT ← whenLonger data 0x05 data[0x05]? 0
  let SRV_STATE ← whenLonger data 0x06 data[0x06]? 0
  let DATA_TYPE ← whenLonger data 0x07 data[0x07]? 0
  let SERVICE_ID ← whenLonger data 0x0b (u32 data 0x08) 0
  let COMPONENT_ID ← whenLonger data 0x0f (u32 data 0x0c) 0
  let BYTE_COUNT ← whenLonger data 0x13 (u16 data 0x12) 0
  let SEG_NUM ← whenLonger data 0x15 (u16 data 0x14) 0
  let NUM_SEGS ← whenLonger data 0x18 (u16 data 0x17) 0
  let mPayload ← whenLonger data 0x18 (slice data 0x18 (data.length - 0x18)) []
  return { DSRVPCKTINT, DSRVOVFLINT, BUFF_COUNT, SRV_STATE, DATA_TYPE, SERVICE_ID, COMPONENT_ID, BYTE_COUNT, SEG_NUM,
           NUM_SEGS, mPayload }

structure DABReadProperty where
  ID : UInt16
  VALUE : UInt16

/-- The guard asks for the low byte of the value only. -/
def DABReadProperty.parse (id : UInt16) (data : List UInt8) : Option DABReadProperty := do
  let VALUE ← whenLonger data 4 (u16 data 4) 0
  return { ID := id, VALUE }

structure DABPartInfo where
  CHIPREV : UInt8 := 0
  ROMID : UInt8 := 0
  PART : UInt16 := 0

def DABPartInfo.parse (data : List UInt8) : Option DABPartInfo :=
  if data.length ≥ 10 then do
    let CHIPREV ← data[4]?
    let ROMID ← data[5]?
    let PART ← u16 data 8
    return { CHIPREV, ROMID, PART }
  else some {}

structure DABComponentInfo where
  LABEL : List UInt8

def DABComponentInfo.parse (data : List UInt8) : Option DABComponentInfo := do
  let LABEL ← whenLonger data 17 (slice data 8 (17 - 8)) []
  return { LABEL }

structure DABRssiInfo where
  RSSI_LOW : UInt8
  RSSI_HIGH : UInt8

def DABRssiInfo.parse (data : List UInt8) : Option DABRssiInfo := do
  let RSSI_LOW ← whenLonger data 5 data[0x04]? 0
  let RSSI_HIGH ← whenLonger data 5 data[0x05]? 0
  return { RSSI_LOW, RSSI_HIGH }

structure DABSysState where
  IMAGE : UInt8

def DABSysState.parse (data : List UInt8) : Option DABSysState := do
  let IMAGE ← whenLonger data 4 data[4]? 0
  return { IMAGE }

/-! ### Lists -/

structure DABFrequencyList where
  NUM_FREQS : UInt8
  mFrequencies : List Int32

namespace DABFrequencyList

/-- The loop asks for three bytes after `index` and reads four. -/
def frequencies (data : List UInt8) (index : Nat) : Option (List Int32) :=
  if index + 3 ≤ data.length then do
    let frequency ← u32 data index
    let rest ← frequencies data (index + 4)
    return frequency.toInt32 :: rest
  else some []
  termination_by data.length - index

def parse (data : List UInt8) : Option DABFrequencyList := do
  let NUM_FREQS ← whenLonger data 4 data[4]? 0
  let mFrequencies ← frequencies data 8
  return { NUM_FREQS, mFrequencies }

end DABFrequencyList

structure DABService where
  ServiceId : UInt32
  Components : List UInt16
  Label : List UInt8

structure DABServiceList where
  SIZE : UInt16
  mFullParsed : Bool := false
  VERSION : UInt16 := 0
  SERVICECOUNT : UInt8 := 0
  mServices : List DABService := []

def isspace (ch : UInt8) : Bool := ch = 32 || (9 ≤ ch && ch ≤ 13)

def trim (s : List UInt8) : List UInt8 := ((s.dropWhile isspace).reverse.dropWhile isspace).reverse

namespace DABServiceList

def components (data : List UInt8) (pos : Nat) : Nat → Option (List UInt16)
  | 0 => some []
  | count + 1 => do
    let componentId ← u16 data (pos + 24)
    let rest ← components data (pos + 4) count
    return componentId :: rest

/-- The loop asks only for the first byte of a record. -/
def services (data : List UInt8) (pos : Nat) : Option (List DABService) :=
  if pos < data.length then do
    let ServiceId ← u32 data pos
    let componentCount ← data[pos + 5]?.map fun b => (b &&& 0x0F).toNat
    let Label ← slice data (pos + 8) 16
    let Components ← components data pos componentCount
    let rest ← services data (pos + 4 * componentCount + 24)
    return { ServiceId, Components, Label := trim Label } :: rest
  else some []
  termination_by data.length - pos

def parse (data : List UInt8) : Option DABServiceList := do
  let SIZE ← whenLonger data 0x05 (u16 data 0x04) 0
  if data.length > SIZE.toNat then
    let VERSION ← u16 data 0x06
    let SERVICECOUNT ← data[0x08]?
    let mServices ← services data 12
    return { SIZE, mFullParsed := true, VERSION, SERVICECOUNT, mServices }
  else return { SIZE }

end DABServiceList

/-! ### Reads inside the reply -/

namespace DABStatus

@[simp] theorem isSome_bit (byte : Option UInt8) (mask : UInt8) : (bit byte mask).isSome = byte.isSome := by
  simp [bit]

/-- What `error` tells of a reply. -/
theorem map_error (uninitialised : Bool) (data : List UInt8) :
    (parse uninitialised data).map error =
      some (decide (data.getD 0 0 &&& 0x40 ≠ 0) ||
        if data.length > 3 then
          decide (data.getD 3 0 &&& 0x04 ≠ 0) || decide (data.getD 3 0 &&& 0x08 ≠ 0) || decide (data.getD 3 0 &&& 0x01 ≠ 0)
        else uninitialised) := by
  rcases data with _ | ⟨b0, _ | ⟨b1, _ | ⟨b2, _ | ⟨b3, _ | ⟨b4, rest⟩⟩⟩⟩⟩
  · rfl
  · simp [parse, whenLonger, bit, error]
  · simp [parse, whenLonger, bit, error]
  · simp [parse, whenLonger, bit, error]
  · simp [parse, whenLonger, bit, error, Bool.or_assoc]
  · by_cases failed : b0 &&& 0x40 = 0 <;> simp [parse, whenLonger, bit, error, failed, Bool.or_assoc]

theorem parse_inside (uninitialised : Bool) (data : List UInt8) : (parse uninitialised data).isSome = true := by
  rw [← Option.isSome_map (f := error), map_error]
  rfl

end DABStatus

theorem DABDigiradStatus.parse_inside (data : List UInt8) : (parse data).isSome = true := by
  unfold parse
  repeat' refine isSome_field (fun longer => ?_) fun _ => ?_
  all_goals simp
  all_goals omega

theorem DigitalServiceData.parse_inside (data : List UInt8) : (parse data).isSome = true := by
  unfold parse
  repeat' refine isSome_field (fun longer => ?_) fun _ => ?_
  all_goals simp
  all_goals omega

theorem DABReadProperty.parse_inside (id : UInt16) (data : List UInt8) :
    (parse id data).isSome = true ↔ data.length ≠ 5 := by
  simp [parse, Option.isSome_bind]
  omega

theorem DABPartInfo.parse_inside (data : List UInt8) : (parse data).isSome = true := by
  unfold parse
  split
  · simp [Option.isSome_bind]
    omega
  · rfl

theorem DABComponentInfo.parse_inside (data : List UInt8) : (parse data).isSome = true := by
  simp [parse, Option.isSome_bind]
  omega

theorem DABRssiInfo.parse_inside (data : List UInt8) : (parse data).isSome = true := by
  simp [parse, Option.isSome_bind]
  omega

theorem DABSysState.parse_inside (data : List UInt8) : (parse data).isSome = true := by
  simp [parse, Option.isSome_bind]

namespace DABFrequencyList

theorem frequencies_inside (data : List UInt8) (index : Nat) :
    (frequencies data index).isSome = true ↔ data.length < index + 3 ∨ (data.length - index) % 4 ≠ 3 := by
  induction index using frequencies.induct data with
  | case1 index more ih =>
    rw [frequencies, if_pos more]
    simp [Option.isSome_bind, ih]
    omega
  | case2 index short =>
    rw [frequencies, if_neg short]
    exact iff_of_true rfl (Or.inl (by omega))

theorem parse_inside (data : List UInt8) :
    (parse data).isSome = true ↔ data.length < 11 ∨ data.length % 4 ≠ 3 := by
  simp [parse, Option.isSome_bind, frequencies_inside]
  omega

end DABFrequencyList

namespace DABServiceList

/-- The number of components of the record at `pos`. -/
def componentCount (data : List UInt8) (pos : Nat) : Nat := (data.getD (pos + 5) 0 &&& 0x0F).toNat

/-- From `pos` on, every record that starts in the reply lies in it: 24 bytes, and the id of each component. -/
inductive Records (data : List UInt8) : Nat → Prop where
  | done {pos : Nat} (done : data.length ≤ pos) : Records data pos
  | record {pos : Nat} (header : pos + 24 ≤ data.length)
      (ids : ∀ i < componentCount data pos, pos + 24 + 4 * i + 2 ≤ data.length)
      (rest : Records data (pos + 4 * componentCount data pos + 24)) : Records data pos

theorem components_inside (data : List UInt8) (pos count : Nat) :
    (components data pos count).isSome = true ↔ ∀ i < count, pos + 24 + 4 * i + 2 ≤ data.length := by
  induction count generalizing pos with
  | zero => exact iff_of_true rfl fun _ below => absurd below (Nat.not_lt_zero _)
  | succ count ih =>
    rw [Nat.forall_lt_succ_left]
    simp only [components, bind, Option.isSome_bind, any_const, isSome_u16, ih, pure, Option.isSome_some, Bool.and_true,
      Bool.and_eq_true]
    constructor
    · intro given
      obtain ⟨first, rest⟩ := given
      refine ⟨by omega, fun i below => ?_⟩
      have := rest i below
      omega
    · intro given
      obtain ⟨first, rest⟩ := given
      refine ⟨by omega, fun i below => ?_⟩
      have := rest i below
      omega

theorem services_inside (data : List UInt8) (pos : Nat) :
    (services data pos).isSome = true ↔ Records data pos := by
  induction pos using services.induct data with
  | case1 pos more ih =>
    rw [services, if_pos more]
    by_cases header : pos + 24 ≤ data.length
    · have counted : (data[pos + 5]?.map fun b => (b &&& 0x0F).toNat) = some (componentCount data pos) := by
        have inside : pos + 5 < data.length := by omega
        simp [componentCount, List.getElem?_eq_getElem inside]
      have word : pos + 3 < data.length := by omega
      have label : pos + 8 + 16 ≤ data.length := by omega
      simp only [counted, bind, Option.bind_some, Option.isSome_bind, any_const, pure, Option.isSome_some, Bool.and_true,
        Bool.and_eq_true, isSome_u32, isSome_slice, word, label, true_and, components_inside, ih]
      constructor
      · intro given
        obtain ⟨ids, rest⟩ := given
        exact .record header ids rest
      · intro given
        obtain done | ⟨-, ids, rest⟩ := given
        · omega
        · exact ⟨ids, rest⟩
    · -- The label ends behind the reply.
      have cut : slice data (pos + 8) 16 = none := by
        rw [slice, if_neg (by omega)]
      refine iff_of_false ?_ ?_
      · simp [cut]
      · rintro (done | ⟨fits, -, -⟩) <;> omega
  | case2 pos done =>
    rw [services, if_neg done]
    exact iff_of_true rfl (.done (by omega))

/-- The length that a reply announces. -/
def announced (data : List UInt8) : UInt16 :=
  if data.length > 5 then ((data.getD 5 0).toUInt16 <<< 8) + (data.getD 4 0).toUInt16 else 0

/-- The reply is not longer than it announces, so that it is not parsed in full, or its records lie in it. -/
def WellFormed (data : List UInt8) : Prop :=
  data.length ≤ (announced data).toNat ∨ 9 ≤ data.length ∧ Records data 12

theorem parse_inside (data : List UInt8) : (parse data).isSome = true ↔ WellFormed data := by
  have size : whenLonger data 0x05 (u16 data 0x04) 0 = some (announced data) := by
    unfold whenLonger announced
    split
    · rename_i long
      exact u16_eq long
    · rfl
  rw [parse, size]
  simp only [bind, Option.bind_some, WellFormed]
  split
  · rename_i full
    simp only [Option.isSome_bind, any_const, pure, Option.isSome_some, Bool.and_true, Bool.and_eq_true, isSome_u16,
      isSome_getElem?, services_inside]
    constructor
    · intro given
      obtain ⟨-, long, records⟩ := given
      exact Or.inr ⟨long, records⟩
    · intro given
      obtain short | ⟨long, records⟩ := given
      · omega
      · exact ⟨by omega, long, records⟩
  · rename_i short
    exact iff_of_true rfl (Or.inl (by omega))

end DABServiceList

/-! ### Every reply -/

/-- The classes that are constructed from a reply. -/
inductive Reply where
  | DABServiceList
  | DABFrequencyList
  | DigitalServiceData
  | DABReadProperty (id : UInt16)
  | DABDigiradStatus
  | DABStatus (uninitialised : Bool)
  | DABPartInfo
  | DABComponentInfo
  | DABRssiInfo
  | DABSysState
  deriving DecidableEq

namespace Reply

/-- The constructor accesses only indices smaller than the size. -/
def inside (data : List UInt8) : Reply → Bool
  | DABServiceList => (Dab.DABServiceList.parse data).isSome
  | DABFrequencyList => (Dab.DABFrequencyList.parse data).isSome
  | DigitalServiceData => (Dab.DigitalServiceData.parse data).isSome
  | DABReadProperty id => (Dab.DABReadProperty.parse id data).isSome
  | DABDigiradStatus => (Dab.DABDigiradStatus.parse data).isSome
  | DABStatus uninitialised => (Dab.DABStatus.parse uninitialised data).isSome
  | DABPartInfo => (Dab.DABPartInfo.parse data).isSome
  | DABComponentInfo => (Dab.DABComponentInfo.parse data).isSome
  | DABRssiInfo => (Dab.DABRssiInfo.parse data).isSome
  | DABSysState => (Dab.DABSysState.parse data).isSome

/-- The replies that a constructor reads within their bounds. -/
def Readable (data : List UInt8) : Reply → Prop
  | DABServiceList => Dab.DABServiceList.WellFormed data
  | DABFrequencyList => data.length < 11 ∨ data.length % 4 ≠ 3
  | DABReadProperty _ => data.length ≠ 5
  | _ => True

/-- Seven of the constructors read every vector within its bounds, the other three exactly the readable ones. -/
theorem inside_iff_readable (reply : Reply) (data : List UInt8) : reply.inside data = true ↔ reply.Readable data := by
  cases reply with
  | DABServiceList => exact Dab.DABServiceList.parse_inside data
  | DABFrequencyList => exact Dab.DABFrequencyList.parse_inside data
  | DABReadProperty id => exact Dab.DABReadProperty.parse_inside id data
  | DigitalServiceData => exact iff_of_true (Dab.DigitalServiceData.parse_inside data) trivial
  | DABDigiradStatus => exact iff_of_true (Dab.DABDigiradStatus.parse_inside data) trivial
  | DABStatus uninitialised => exact iff_of_true (Dab.DABStatus.parse_inside uninitialised data) trivial
  | DABPartInfo => exact iff_of_true (Dab.DABPartInfo.parse_inside data) trivial
  | DABComponentInfo => exact iff_of_true (Dab.DABComponentInfo.parse_inside data) trivial
  | DABRssiInfo => exact iff_of_true (Dab.DABRssiInfo.parse_inside data) trivial
  | DABSysState => exact iff_of_true (Dab.DABSysState.parse_inside data) trivial

/-- The 5-byte error status of `sendCommand` makes the constructors of a property and of a service list read
behind its end. -/
theorem error_status_is_overrun :
    (DABReadProperty 0x0001).inside [0xC0, 0, 0, 0, 0x40] = false ∧
      DABServiceList.inside [0xC0, 0, 0, 0, 0x40] = false := by
  decide

end Reply

end RgbClock.Dab
