import RgbClock.Dab.Si4684

/-! A packet of a digital service: how the driver fetches it with two commands, what the parser takes for
its header, and which part of it `readThread` shows as a text. -/

namespace RgbClock.Dab
open Bytes

def SI468X_RD_REPLY : UInt8 := 0x00
def SI468X_GET_DIGITAL_SERVICE_DATA : UInt8 := 0x84

/-- The first reply tells how long the packet is, the second one is the packet. -/
def getServiceData (chip : Chip) : Driver (Option DigitalServiceData) := do
  let size ← sendCommand chip SI468X_GET_DIGITAL_SERVICE_DATA [0x01] 20 WAIT_CTS
  match DigitalServiceData.parse size with
  | some serviceDataSize =>
    let data ← sendCommand chip SI468X_RD_REPLY [] (serviceDataSize.BYTE_COUNT.toNat + 24) WAIT_CTS
    return DigitalServiceData.parse data
  | none => return none

structure DABInfo where
  StationName : List UInt8
  Info : List UInt8
  ReceiveLevel : Int

inductive TextField where
  | StationName | Info
  deriving DecidableEq

def DABInfo.set (info : DABInfo) (text : List UInt8) : TextField → DABInfo
  | .StationName => { info with StationName := text }
  | .Info => { info with Info := text }

/-- A text that is copied out of the payload, as two offsets from its begin. -/
structure TextRange where
  field : TextField
  first : Int
  last : Int
  deriving DecidableEq

/-- The texts that `readThread` builds from a packet. -/
def textRanges (serviceData : DigitalServiceData) : List TextRange :=
  if serviceData.mPayload.length > 4 then
    (if serviceData.mPayload.getD 0 0 = 0x00 then [⟨.StationName, 2, (serviceData.BYTE_COUNT.toNat : Int) - 1⟩] else []) ++
      (if serviceData.mPayload.getD 0 0 = 0x80 then [⟨.Info, 2, (serviceData.BYTE_COUNT.toNat : Int) - 1⟩] else [])
  else []

/-- The range is a part of the payload. -/
def TextRange.Inside (range : TextRange) (mPayload : List UInt8) : Prop :=
  range.first ≤ range.last ∧ range.last ≤ mPayload.length

instance (range : TextRange) (mPayload : List UInt8) : Decidable (range.Inside mPayload) :=
  inferInstanceAs (Decidable (_ ∧ _))

def TextRange.text (range : TextRange) (mPayload : List UInt8) : Option (List UInt8) :=
  if range.Inside mPayload then some ((mPayload.drop range.first.toNat).take (range.last - range.first).toNat) else none

/-- What a packet does to the texts that the observers get; `none` where it is read outside the payload. -/
def readServiceData (info : DABInfo) (serviceData : DigitalServiceData) : Option DABInfo :=
  (textRanges serviceData).foldlM (fun info range =>
    (range.text serviceData.mPayload).map fun text => info.set text range.field) info

/-- The texts are built exactly if each of them is a part of the payload. -/
theorem readServiceData_isSome (info : DABInfo) (serviceData : DigitalServiceData) :
    (readServiceData info serviceData).isSome = true ↔
      ∀ range ∈ textRanges serviceData, range.Inside serviceData.mPayload := by
  unfold readServiceData
  generalize textRanges serviceData = ranges
  induction ranges generalizing info with
  | nil => exact iff_of_true rfl fun range member => by cases member
  | cons range rest ih =>
    rw [List.foldlM_cons, List.forall_mem_cons]
    by_cases inside : range.Inside serviceData.mPayload
    · rw [TextRange.text, if_pos inside]
      exact (ih _).trans (and_iff_right inside).symm
    · rw [TextRange.text, if_neg inside]
      exact iff_of_false Bool.false_ne_true fun both => inside both.1

/-! ### What the parser reads -/

section
variable (data : List UInt8)

theorem whenLonger_bit (i : Nat) (mask : UInt8) :
    whenLonger data i (DABStatus.bit data[i]? mask) false = some (decide (data.getD i 0 &&& mask ≠ 0)) := by
  unfold whenLonger DABStatus.bit
  split
  · rename_i longer
    rw [List.getElem?_eq_getElem longer, List.getD_eq_getElem data 0 longer]
    rfl
  · rename_i short
    rw [List.getD_eq_default data 0 (Nat.not_lt.mp short), UInt8.zero_and]
    rfl

theorem DigitalServiceData.parse_eq : parse data = some
    { DSRVPCKTINT := decide (data.getD 0x04 0 &&& 0x01 ≠ 0)
      DSRVOVFLINT := decide (data.getD 0x04 0 &&& 0x02 ≠ 0)
      BUFF_COUNT := data.getD 0x05 0
      SRV_STATE := data.getD 0x06 0
      DATA_TYPE := data.getD 0x07 0
      SERVICE_ID := field32 data 0x08
      COMPONENT_ID := field32 data 0x0c
      BYTE_COUNT := field16 data 0x12
      SEG_NUM := field16 data 0x14
      NUM_SEGS := field16 data 0x17
      mPayload := data.drop 0x18 } := by
  unfold parse
  rw [whenLonger_bit, whenLonger_bit, whenLonger_byte, whenLonger_byte, whenLonger_byte, whenLonger_u32 data rfl,
    whenLonger_u32 data rfl, whenLonger_u16 data rfl, whenLonger_u16 data rfl, whenLonger_u16 data rfl, whenLonger_rest]
  rfl

end

/-! ### Header and payload -/

inductive WideField where
  | SERVICE_ID | COMPONENT_ID | BYTE_COUNT | SEG_NUM | NUM_SEGS

namespace WideField

def value (serviceData : DigitalServiceData) : WideField → Nat
  | SERVICE_ID => serviceData.SERVICE_ID.toNat
  | COMPONENT_ID => serviceData.COMPONENT_ID.toNat
  | BYTE_COUNT => serviceData.BYTE_COUNT.toNat
  | SEG_NUM => serviceData.SEG_NUM.toNat
  | NUM_SEGS => serviceData.NUM_SEGS.toNat

/-- Some header byte, changed in some packet, changes the field. -/
def DependsOn (field : WideField) (i : Nat) : Prop :=
  ∃ (header payload : List UInt8) (byte : UInt8), header.length = 24 ∧ payload ≠ [] ∧
    (DigitalServiceData.parse (header ++ payload)).map field.value ≠
      (DigitalServiceData.parse (header.set i byte ++ payload)).map field.value

/-- The bytes from which the field is put together. -/
def bytes : WideField → List Nat
  | SERVICE_ID => [0x08, 0x09, 0x0a, 0x0b]
  | COMPONENT_ID => [0x0c, 0x0d, 0x0e, 0x0f]
  | BYTE_COUNT => [0x12, 0x13]
  | SEG_NUM => [0x14, 0x15]
  | NUM_SEGS => [0x17, 0x18]

theorem value_congr (field : WideField) {first second : List UInt8} (length : first.length = second.length)
    (same : ∀ i ∈ field.bytes, first.getD i 0 = second.getD i 0) :
    (DigitalServiceData.parse first).map field.value = (DigitalServiceData.parse second).map field.value := by
  rw [DigitalServiceData.parse_eq, DigitalServiceData.parse_eq, Option.map_some, Option.map_some]
  apply congrArg some
  cases field with
  | SERVICE_ID | COMPONENT_ID =>
    simp only [bytes, List.mem_cons, List.not_mem_nil, or_false, forall_eq_or_imp, forall_eq] at same
    simp only [value, field32, length, same]
  | BYTE_COUNT | SEG_NUM | NUM_SEGS =>
    simp only [bytes, List.mem_cons, List.not_mem_nil, or_false, forall_eq_or_imp, forall_eq] at same
    simp only [value, field16, length, same]

theorem DependsOn.mem_bytes {field : WideField} {i : Nat} (inside : i < 24) (depends : field.DependsOn i) :
    i ∈ field.bytes := by
  obtain ⟨header, payload, byte, length, -, differ⟩ := depends
  by_contra outside
  apply differ
  rw [← List.set_append_left i byte (by omega)]
  apply value_congr
  · rw [List.length_set]
  · intro j member
    have other : i ≠ j := fun same => outside (same ▸ member)
    rw [List.getD_eq_getElem?_getD, List.getD_eq_getElem?_getD, List.getElem?_set_ne other]

theorem bytes_disjoint {first second : WideField} (different : first ≠ second) {i : Nat} (member : i ∈ first.bytes) :
    i ∉ second.bytes := by
  cases first <;> cases second <;>
    simp only [bytes, List.mem_cons, List.not_mem_nil, or_false, ne_eq, not_true_eq_false] at * <;> omega

end WideField

/-- No two of the fields are put together from one header byte. -/
def FieldsApart : Prop :=
  ∀ first second : WideField, first ≠ second → ∀ i < 24, ¬ (first.DependsOn i ∧ second.DependsOn i)

/-- The header is read alike before both payloads, and both payloads are read as they are. -/
def Separated (header first second : List UInt8) : Prop :=
  ∃ one other, DigitalServiceData.parse (header ++ first) = some one ∧
    DigitalServiceData.parse (header ++ second) = some other ∧
    { one with mPayload := [] } = { other with mPayload := [] } ∧ one.mPayload = first ∧ other.mPayload = second

/-- A packet with its header and its payload: `NUM_SEGS` takes its high byte from the payload. -/
theorem parse_packet {header : List UInt8} (length : header.length = 24) (byte : UInt8) (rest : List UInt8) :
    DigitalServiceData.parse (header ++ byte :: rest) = some
      { DSRVPCKTINT := decide (header.getD 0x04 0 &&& 0x01 ≠ 0)
        DSRVOVFLINT := decide (header.getD 0x04 0 &&& 0x02 ≠ 0)
        BUFF_COUNT := header.getD 0x05 0
        SRV_STATE := header.getD 0x06 0
        DATA_TYPE := header.getD 0x07 0
        SERVICE_ID := field32 header 0x08
        COMPONENT_ID := field32 header 0x0c
        BYTE_COUNT := field16 header 0x12
        SEG_NUM := field16 header 0x14
        NUM_SEGS := (byte.toUInt16 <<< 8) + (header.getD 0x17 0).toUInt16
        mPayload := byte :: rest } := by
  have payload : (header ++ byte :: rest).drop 0x18 = byte :: rest := by
    rw [← length, List.drop_left]
  have at4 := List.getD_append header (byte :: rest) 0 0x04 (by omega)
  have at5 := List.getD_append header (byte :: rest) 0 0x05 (by omega)
  have at6 := List.getD_append header (byte :: rest) 0 0x06 (by omega)
  have at7 := List.getD_append header (byte :: rest) 0 0x07 (by omega)
  rw [DigitalServiceData.parse_eq, at4, at5, at6, at7, field32_append _ (by omega), field32_append _ (by omega),
    field16_append _ (by omega), field16_append _ (by omega), field16_across _ (by omega), payload]

theorem fieldsApart : FieldsApart := by
  intro first second different i inside both
  exact WideField.bytes_disjoint different (both.1.mem_bytes inside) (both.2.mem_bytes inside)

/-- The fields are apart, and header and payload are exactly if both payloads begin with the same byte. -/
theorem separated_iff (header first second : List UInt8) (length : header.length = 24) (text : first ≠ [])
    (other : second ≠ []) :
    (Separated header first second ∧ FieldsApart) ↔ first.head? = second.head? := by
  obtain ⟨a, one, rfl⟩ := List.exists_cons_of_ne_nil text
  obtain ⟨b, two, rfl⟩ := List.exists_cons_of_ne_nil other
  rw [List.head?_cons, List.head?_cons, Option.some.injEq]
  constructor
  · intro given
    obtain ⟨⟨left, right, parsed, also, same, -, -⟩, -⟩ := given
    rw [parse_packet length] at parsed also
    cases parsed
    cases also
    exact high_byte_inj (congrArg DigitalServiceData.NUM_SEGS same)
  · intro same
    subst same
    exact ⟨⟨_, _, parse_packet length a one, parse_packet length a two, rfl, rfl, rfl⟩, fieldsApart⟩

/-- The number of segments follows the first byte of the text. -/
theorem segments_follow_the_text :
    ¬ ∀ header first second : List UInt8, header.length = 24 → first ≠ [] → second ≠ [] →
      Separated header first second ∧ FieldsApart := by
  intro always
  obtain ⟨⟨left, right, parsed, other, same, -, -⟩, -⟩ :=
    always (List.replicate 24 0) [0x00] [0x80] rfl (by decide) (by decide)
  have segments := congrArg DigitalServiceData.NUM_SEGS same
  cases parsed
  cases other
  exact absurd segments (by decide)

theorem two_station_names :
    Separated (List.replicate 24 0) [0x00, 0x00, 0x4D] [0x00, 0x00, 0x51] ∧
      ¬ Separated (List.replicate 24 0) [0x00, 0x00, 0x4D] [0x80, 0x00, 0x51] :=
  ⟨((separated_iff (List.replicate 24 0) [0x00, 0x00, 0x4D] [0x00, 0x00, 0x51] rfl (by decide) (by decide)).mpr rfl).1,
    fun separated => absurd ((separated_iff (List.replicate 24 0) [0x00, 0x00, 0x4D] [0x80, 0x00, 0x51] rfl
      (by decide) (by decide)).mp ⟨separated, fieldsApart⟩) (by decide)⟩

/-! ### The text inside the payload -/

/-- A reply is what was asked for, an error status, or nothing. -/
theorem length_reply (answers : Answers) (uninitialised : Bool) {c : Command} (mask : c.waitMask = WAIT_CTS)
    (long : c.resultLength > 5) :
    (exchange answers uninitialised c).reply.length ≤ 5 ∨
      (exchange answers uninitialised c).reply.length = c.resultLength := by
  have waiting : ¬ acknowledges c.waitMask (List.replicate 5 0) := by
    rw [mask]
    decide
  have ends : Ends answers c.waitMask MAX_RETRIES 0
      (poll answers uninitialised c.waitMask MAX_RETRIES 0 (List.replicate 5 0)) :=
    poll_ends c.waitMask MAX_RETRIES 0 waiting
  unfold exchange
  dsimp only
  cases ends with
  | failed p bounds shown before failed raw =>
    rw [failed, raw]
    exact .inl (Nat.le_of_eq (answers.length_status p))
  | ready p bounds answered clear failed retried raw polls =>
    have early : p + 1 < MAX_RETRIES := by omega
    rw [failed, retried, if_neg Bool.false_ne_true, if_pos early, if_pos long]
    exact .inr (length_readWriteData _ _)
  | timeout silent clear failed retried =>
    rw [failed, retried, if_neg Bool.false_ne_true, if_neg (by omega)]
    exact .inl (Nat.zero_le 5)

theorem driver_bind {α β : Type} (command : Driver α) (next : α → Driver β) (sent : List Exchange) :
    (command >>= next) sent = next (command sent).1 (command sent).2 := rfl

theorem sendCommand_eq (chip : Chip) (command : UInt8) (param : List UInt8) (resultLength : Nat) (waitMask : UInt8)
    (sent : List Exchange) :
    sendCommand chip command param resultLength waitMask sent =
      ((chip.exchange sent.length ⟨command, param, resultLength, waitMask⟩).reply,
        sent ++ [chip.exchange sent.length ⟨command, param, resultLength, waitMask⟩]) := rfl

/-- `BYTE_COUNT` of a reply. -/
def byteCount (reply : List UInt8) : Nat := (field16 reply 0x12).toNat

section
variable (chip : Chip) (sent : List Exchange)

/-- The replies to the two commands of `getServiceData`. -/
def sizeReply : List UInt8 :=
  (chip.exchange sent.length ⟨SI468X_GET_DIGITAL_SERVICE_DATA, [0x01], 20, WAIT_CTS⟩).reply

def packetReply : List UInt8 :=
  (chip.exchange (sent.length + 1) ⟨SI468X_RD_REPLY, [], byteCount (sizeReply chip sent) + 24, WAIT_CTS⟩).reply

/-- Every text that is built from the packet lies inside its payload. -/
def TextsInside : Prop :=
  ∀ serviceData, (getServiceData chip sent).1 = some serviceData →
    ∀ range ∈ textRanges serviceData, 2 ≤ range.last ∧ range.last ≤ serviceData.mPayload.length

theorem getServiceData_eq : (getServiceData chip sent).1 = DigitalServiceData.parse (packetReply chip sent) := by
  have size := DigitalServiceData.parse_eq (sizeReply chip sent)
  unfold getServiceData
  rw [driver_bind, sendCommand_eq]
  unfold sizeReply at size
  rw [size]
  dsimp only
  rw [driver_bind, sendCommand_eq, List.length_append]
  rfl

end

/-- The texts of a packet are inside it if it is too short for one, has none, or counts its bytes well. -/
theorem textRanges_inside_iff {packet : List UInt8} {serviceData : DigitalServiceData}
    (parsed : DigitalServiceData.parse packet = some serviceData) :
    (∀ range ∈ textRanges serviceData, 2 ≤ range.last ∧ range.last ≤ serviceData.mPayload.length) ↔
      (28 < packet.length → (packet.getD 24 0 = 0x00 ∨ packet.getD 24 0 = 0x80) →
        3 ≤ byteCount packet ∧ byteCount packet + 23 ≤ packet.length) := by
  rw [DigitalServiceData.parse_eq] at parsed
  cases parsed
  have kind : (packet.drop 0x18).getD 0 0 = packet.getD 24 0 := by
    rw [List.getD_eq_getElem?_getD, List.getElem?_drop, List.getD_eq_getElem?_getD]
  have count : (field16 packet 0x12).toNat = byteCount packet := rfl
  unfold textRanges
  dsimp only
  rw [kind, count, List.length_drop]
  by_cases long : 28 < packet.length
  · rw [if_pos (by omega)]
    by_cases station : packet.getD 24 0 = 0x00
    · rw [if_pos station, if_neg (by rw [station]; decide), List.append_nil]
      simp only [List.mem_singleton, forall_eq, station, true_or, long, forall_const]
      omega
    · rw [if_neg station, List.nil_append]
      by_cases info : packet.getD 24 0 = 0x80
      · rw [if_pos info]
        simp only [List.mem_singleton, forall_eq, info, or_true, long, forall_const]
        omega
      · rw [if_neg info]
        refine iff_of_true (fun range member => ?_) fun _ either => ?_
        · cases member
        · exact absurd either (not_or.mpr ⟨station, info⟩)
  · rw [if_neg (by omega)]
    refine iff_of_true (fun range member => ?_) fun enough => absurd enough long
    cases member

/-- Whatever the chip answers, the texts lie inside the packet exactly if a packet that came in full, and that
holds a text, counts at least three bytes and at most one more than the first reply announced. -/
theorem textsInside_iff (chip : Chip) (sent : List Exchange) :
    TextsInside chip sent ↔
      ((packetReply chip sent).length = byteCount (sizeReply chip sent) + 24 → 4 < byteCount (sizeReply chip sent) →
        ((packetReply chip sent).getD 24 0 = 0x00 ∨ (packetReply chip sent).getD 24 0 = 0x80) →
        3 ≤ byteCount (packetReply chip sent) ∧
          byteCount (packetReply chip sent) ≤ byteCount (sizeReply chip sent) + 1) := by
  obtain ⟨serviceData, packet⟩ : ∃ serviceData, DigitalServiceData.parse (packetReply chip sent) = some serviceData :=
    ⟨_, DigitalServiceData.parse_eq (packetReply chip sent)⟩
  unfold TextsInside
  rw [getServiceData_eq, packet]
  simp only [Option.some.injEq, forall_eq']
  rw [textRanges_inside_iff packet]
  have lengths : (packetReply chip sent).length ≤ 5 ∨
      (packetReply chip sent).length = byteCount (sizeReply chip sent) + 24 :=
    length_reply _ _ rfl (Nat.lt_of_lt_of_le (by decide) (Nat.le_add_left 24 _))
  obtain short | full := lengths
  · refine iff_of_true (fun long => ?_) fun full => ?_
    · omega
    · omega
  · constructor
    · intro held _ more kind
      have bounds := held (by omega) kind
      omega
    · intro held long kind
      have bounds := held full (by omega) kind
      omega

/-- A chip that announces a packet of five bytes and then counts a hundred in it. -/
def miscountingChip : Chip where
  answers command read byte :=
    if read = 0 then (if byte = 0 then 0x80 else 0)
    else if byte = 0x12 then (if command = 0 then 5 else 100)
    else 0
  uninitialised _ := false

theorem station_name_outside_the_packet : ¬ ∀ (chip : Chip) (sent : List Exchange), TextsInside chip sent := by
  intro always
  have packet : packetReply miscountingChip [] = List.replicate 0x12 0 ++ [100] ++ List.replicate 10 0 := by
    decide +kernel
  have parsed := (getServiceData_eq miscountingChip []).trans (DigitalServiceData.parse_eq _)
  rw [packet] at parsed
  have inside := always miscountingChip [] _ parsed ⟨.StationName, 2, 99⟩ (by decide +kernel)
  exact absurd inside.2 (by decide +kernel)

end RgbClock.Dab
