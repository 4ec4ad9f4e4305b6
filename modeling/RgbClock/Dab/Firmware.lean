import RgbClock.Dab.Si4684
import RgbClock.Lib.Memory

/-! Firmware is sent in blocks: `hostLoad` sends them to the chip itself, `writeFlashImage` to the flash
behind it, each block with the address it belongs to. -/

namespace RgbClock.Dab
open Memory

def FLASH_WRITE_BLOCK : UInt8 := 0xF0

instance : NeZero FIRMWARE_BLOCK_SIZE := ⟨by decide⟩

/-- The word as `push_back` appends it here, high byte first. -/
def highFirst (word : UInt32) : List UInt8 :=
  [(word >>> 24).toUInt8, (word >>> 16).toUInt8, (word >>> 8).toUInt8, word.toUInt8]

/-- The CRC of the block is left at zero. -/
def writeFlashParams (currentAddress : UInt32) (firmwareBlock : List UInt8) : List UInt8 :=
  [FLASH_WRITE_BLOCK, 0x0C, 0xED] ++ [0x00, 0x00, 0x00, 0x00] ++ highFirst currentAddress ++
    highFirst (UInt32.ofNat firmwareBlock.length) ++ firmwareBlock

section
variable (chip : Chip)

/-- The loop over the blocks of the image. -/
def writeBlocks (currentAddress : UInt32) (firmware : List UInt8) : Driver Bool :=
  if firmware = [] then return true
  else do
    let firmwareBlock := firmware.take FIRMWARE_BLOCK_SIZE
    if ← statusError chip SI468X_FLASH_LOAD (writeFlashParams currentAddress firmwareBlock) 0 WAIT_CTS then return false
    writeBlocks (currentAddress + UInt32.ofNat firmwareBlock.length) (firmware.drop FIRMWARE_BLOCK_SIZE)
  termination_by firmware.length
  decreasing_by
    rename_i more
    have := List.length_pos_iff.mpr more
    simp only [FIRMWARE_BLOCK_SIZE, List.length_drop]
    omega

/-- The firmware is what `readFile` read from the file, if it could be opened. -/
def writeFlashImage (firmware : Option (List UInt8)) (address : UInt32) : Driver Bool := do
  match firmware with
  | some firmware => writeBlocks chip address firmware
  | none => return false

end

/-! ### What the chip makes of a command -/

inductive ByteOrder where
  | big | little
  deriving DecidableEq

def ByteOrder.word (order : ByteOrder) (b0 b1 b2 b3 : UInt8) : UInt32 :=
  match order with
  | big => (b0.toUInt32 <<< 24) + (b1.toUInt32 <<< 16) + (b2.toUInt32 <<< 8) + b3.toUInt32
  | little => (b3.toUInt32 <<< 24) + (b2.toUInt32 <<< 16) + (b1.toUInt32 <<< 8) + b0.toUInt32

structure WriteBlock where
  address : UInt32
  size : UInt32
  data : List UInt8

/-- The write-block form of `FLASH_LOAD`. -/
def Command.asWriteBlock (order : ByteOrder) (c : Command) : Option WriteBlock :=
  match c.param with
  | form :: _ :: _ :: _ :: _ :: _ :: _ :: a0 :: a1 :: a2 :: a3 :: s0 :: s1 :: s2 :: s3 :: data =>
    if c.command = SI468X_FLASH_LOAD ∧ form = FLASH_WRITE_BLOCK then
      some ⟨order.word a0 a1 a2 a3, order.word s0 s1 s2 s3, data⟩
    else none
  | _ => none

/-- The data of a `HOST_LOAD`, which follows three bytes of padding. -/
def Command.asHostBlock (c : Command) : Option (List UInt8) :=
  if c.command = SI468X_HOST_LOAD then some (c.param.drop 3) else none

def hostBlocks (sent : List Exchange) : List (List UInt8) := sent.filterMap fun x => x.sent.asHostBlock

def imageBlocks (order : ByteOrder) (sent : List Exchange) : List WriteBlock :=
  sent.filterMap fun x => x.sent.asWriteBlock order

theorem word_big (word : UInt32) :
    ByteOrder.big.word (word >>> 24).toUInt8 (word >>> 16).toUInt8 (word >>> 8).toUInt8 word.toUInt8 = word := by
  have bound := word.toNat_lt
  apply UInt32.toNat_inj.mp
  simp [ByteOrder.word, Nat.shiftRight_eq_div_pow, Nat.shiftLeft_eq]
  omega

/-! ### Sequences that stop at an error -/

/-- A command that has been sent reports an error. -/
def Reports (chip : Chip) (sent : List Exchange) : Prop :=
  ∃ (i : Nat) (x : Exchange), sent[i]? = some x ∧ x.error (chip.uninitialised i) = true

section
variable (chip : Chip)

/-- All commands are sent and none fails, or the first that fails is the last that is sent. -/
theorem inOrder_cases (commands : List Command) (sent : List Exchange) :
    ((∀ i c, commands[i]? = some c → chip.error (sent.length + i) c = false) ∧
        inOrder chip commands sent = (true, sent ++ chip.exchanges sent.length commands)) ∨
      ∃ k c, commands[k]? = some c ∧ chip.error (sent.length + k) c = true ∧
        inOrder chip commands sent = (false, sent ++ chip.exchanges sent.length (commands.take (k + 1))) := by
  induction commands generalizing sent with
  | nil =>
    have none : ∀ (i : Nat) (c : Command), ([] : List Command)[i]? = some c → chip.error (sent.length + i) c = false := by
      intro i c found
      cases found
    exact Or.inl ⟨none, inOrder_true chip none⟩
  | cons first rest ih =>
    by_cases error : chip.error sent.length first = true
    · refine Or.inr ⟨0, first, rfl, error, ?_⟩
      rw [inOrder_cons, if_pos error]
      rfl
    · have next : (sent ++ [chip.exchange sent.length first]).length = sent.length + 1 := by simp
      have joined : ∀ commands, (sent ++ [chip.exchange sent.length first]) ++
          chip.exchanges (sent.length + 1) commands = sent ++ chip.exchanges sent.length (first :: commands) := by
        intro commands
        rw [List.append_assoc]
        simp only [Chip.exchanges, List.mapIdx_cons, List.singleton_append, Nat.add_zero, Nat.add_assoc, Nat.add_comm 1]
      rw [inOrder_cons, if_neg error]
      obtain ⟨clear, result⟩ | ⟨k, c, found, fails, result⟩ := ih (sent ++ [chip.exchange sent.length first])
      · rw [next] at clear result
        refine Or.inl ⟨fun i c found => ?_, result.trans (by rw [joined])⟩
        cases i with
        | zero =>
          cases found
          exact (Bool.not_eq_true _).mp error
        | succ i =>
          rw [← clear i c found, Nat.add_assoc, Nat.add_comm 1]
      · rw [next] at fails result
        refine Or.inr ⟨k + 1, c, found, ?_, result.trans (by rw [joined, List.take_succ_cons])⟩
        rw [← fails, Nat.add_assoc, Nat.add_comm 1]

theorem map_sent_exchanges (commands : List Command) :
    (chip.exchanges 0 commands).map Exchange.sent = commands := by
  apply List.ext_getElem?
  intro i
  rw [Chip.exchanges, List.getElem?_map, List.getElem?_mapIdx, Option.map_map]
  show Option.map (fun c => c) commands[i]? = commands[i]?
  rw [Option.map_id']

theorem getElem?_exchanges {commands : List Command} {i : Nat} {x : Exchange}
    (found : (chip.exchanges 0 commands)[i]? = some x) : ∃ c, commands[i]? = some c ∧ chip.exchange i c = x := by
  rw [Chip.exchanges, List.getElem?_mapIdx, Nat.zero_add] at found
  obtain ⟨c, there, same⟩ := Option.map_eq_some_iff.mp found
  exact ⟨c, there, same⟩

/-- A driver that has sent nothing before: what it sends is all commands or the first few, and it is true
exactly if none of those reports an error. -/
theorem inOrder_reports (commands : List Command) :
    (¬ Reports chip (inOrder chip commands []).2 → (inOrder chip commands []).1 = true ∧
        (inOrder chip commands []).2.map Exchange.sent = commands) ∧
      (Reports chip (inOrder chip commands []).2 → (inOrder chip commands []).1 = false) ∧
      ∃ k, (inOrder chip commands []).2.map Exchange.sent = commands.take k := by
  obtain ⟨clear, result⟩ | ⟨k, c, found, fails, result⟩ := inOrder_cases chip commands []
  · rw [result, List.nil_append]
    refine ⟨fun _ => ⟨rfl, map_sent_exchanges chip commands⟩, fun reports => ?_, commands.length, ?_⟩
    · obtain ⟨i, x, there, error⟩ := reports
      obtain ⟨c, found, rfl⟩ := getElem?_exchanges chip there
      have none := clear i c found
      rw [List.length_nil, Nat.zero_add] at none
      exact absurd (none.symm.trans error) Bool.false_ne_true
    · rw [List.take_length]
      exact map_sent_exchanges chip commands
  · rw [result, List.nil_append]
    refine ⟨fun clear => absurd ?_ clear, fun _ => rfl, k + 1, map_sent_exchanges chip _⟩
    rw [List.length_nil, Nat.zero_add] at fails
    refine ⟨k, chip.exchange k c, ?_, fails⟩
    show (chip.exchanges 0 (commands.take (k + 1)))[k]? = _
    rw [Chip.exchanges, List.getElem?_mapIdx, List.getElem?_take_of_succ, found, Nat.zero_add]
    rfl

end

/-! ### The blocks of a file -/

/-- Blocks that make up the start of the firmware; all but the last have the full size. -/
structure InBlocks (firmware : List UInt8) (blocks : List (List UInt8)) : Prop where
  sized : ∀ block ∈ blocks, 0 < block.length ∧ block.length ≤ FIRMWARE_BLOCK_SIZE
  full : ∀ block ∈ blocks.dropLast, block.length = FIRMWARE_BLOCK_SIZE
  starts : blocks.flatten <+: firmware

theorem inBlocks_take (firmware : List UInt8) (k : Nat) :
    InBlocks firmware ((pieces FIRMWARE_BLOCK_SIZE firmware).take k) where
  sized := fun block member => length_piece _ (List.mem_of_mem_take member)
  full := by
    intro block member
    apply @length_piece_dropLast _ FIRMWARE_BLOCK_SIZE _ firmware
    rw [List.dropLast_eq_take, List.take_take] at member
    rw [List.dropLast_eq_take]
    refine List.take_subset_take_left _ ?_ member
    rw [List.length_take]
    omega
  starts := by
    have whole := flatten_pieces FIRMWARE_BLOCK_SIZE firmware
    rw [← List.take_append_drop k (pieces FIRMWARE_BLOCK_SIZE firmware), List.flatten_append] at whole
    exact ⟨_, whole⟩

def hostCommand (block : List UInt8) : Command := ⟨SI468X_HOST_LOAD, [0x00, 0x00, 0x00] ++ block, 0, WAIT_CTS⟩

def imageCommand (address : UInt32) (block : List UInt8) : Command :=
  ⟨SI468X_FLASH_LOAD, writeFlashParams address block, 0, WAIT_CTS⟩

/-- The address of each block is the one before it, moved on by its size. -/
def imageCommands : UInt32 → List (List UInt8) → List Command
  | _, [] => []
  | address, block :: rest =>
    imageCommand address block :: imageCommands (address + UInt32.ofNat block.length) rest

theorem blocks_eq (firmware : List UInt8) :
    Request.blocks firmware = (pieces FIRMWARE_BLOCK_SIZE firmware).map hostCommand := by
  induction firmware using pieces.induct FIRMWARE_BLOCK_SIZE with
  | case1 =>
    rw [Request.blocks, if_pos rfl, pieces_nil]
    rfl
  | case2 firmware more ih =>
    rw [Request.blocks, if_neg more, ih, pieces_of_ne_nil _ more]
    rfl

section
variable (chip : Chip)

theorem hostLoad_eq (firmware : List UInt8) (sent : List Exchange) :
    hostLoad chip (some firmware) sent =
      inOrder chip (Request.loadInit :: (pieces FIRMWARE_BLOCK_SIZE firmware).map hostCommand) sent := by
  rw [← blocks_eq]
  exact Request.call_eq chip (r := .hostLoad (some firmware)) (by simp) sent

theorem writeFlashImage_eq (firmware : List UInt8) (address : UInt32) (sent : List Exchange) :
    writeFlashImage chip (some firmware) address sent =
      inOrder chip (imageCommands address (pieces FIRMWARE_BLOCK_SIZE firmware)) sent := by
  show writeBlocks chip address firmware sent = _
  induction firmware using pieces.induct FIRMWARE_BLOCK_SIZE generalizing address sent with
  | case1 =>
    rw [writeBlocks, if_pos rfl, pieces_nil]
    rfl
  | case2 firmware more ih =>
    rw [writeBlocks, if_neg more, pieces_of_ne_nil _ more]
    exact Request.guarded_eq chip (imageCommand address _) (ih _) sent

end

theorem filterMap_host (blocks : List (List UInt8)) : (blocks.map hostCommand).filterMap Command.asHostBlock = blocks := by
  induction blocks with
  | nil => rfl
  | cons block rest ih =>
    rw [List.map_cons, List.filterMap_cons, ih]
    rfl

theorem hostBlocks_eq (sent : List Exchange) :
    hostBlocks sent = (sent.map Exchange.sent).filterMap Command.asHostBlock := by
  unfold hostBlocks
  rw [List.filterMap_map]
  rfl

theorem imageBlocks_eq (order : ByteOrder) (sent : List Exchange) :
    imageBlocks order sent = (sent.map Exchange.sent).filterMap (Command.asWriteBlock order) := by
  unfold imageBlocks
  rw [List.filterMap_map]
  rfl

theorem asWriteBlock_imageCommand (order : ByteOrder) (address : UInt32) (block : List UInt8) :
    (imageCommand address block).asWriteBlock order =
      some ⟨order.word (address >>> 24).toUInt8 (address >>> 16).toUInt8 (address >>> 8).toUInt8 address.toUInt8,
        order.word (UInt32.ofNat block.length >>> 24).toUInt8 (UInt32.ofNat block.length >>> 16).toUInt8
          (UInt32.ofNat block.length >>> 8).toUInt8 (UInt32.ofNat block.length).toUInt8, block⟩ := rfl

/-- What the chip reads from the commands of an image. -/
def written : UInt32 → List (List UInt8) → List WriteBlock
  | _, [] => []
  | address, block :: rest =>
    ⟨address, UInt32.ofNat block.length, block⟩ :: written (address + UInt32.ofNat block.length) rest

theorem filterMap_image (address : UInt32) (blocks : List (List UInt8)) :
    (imageCommands address blocks).filterMap (Command.asWriteBlock .big) = written address blocks := by
  induction blocks generalizing address with
  | nil => rfl
  | cons block rest ih =>
    rw [imageCommands, List.filterMap_cons, asWriteBlock_imageCommand, ih, word_big, word_big]
    rfl

theorem take_imageCommands (address : UInt32) (blocks : List (List UInt8)) (k : Nat) :
    (imageCommands address blocks).take k = imageCommands address (blocks.take k) := by
  induction blocks generalizing address k with
  | nil => rw [List.take_nil, imageCommands, List.take_nil]
  | cons block rest ih =>
    cases k with
    | zero => rfl
    | succ k => rw [imageCommands, List.take_succ_cons, ih, List.take_succ_cons, imageCommands]

theorem map_data_written (address : UInt32) (blocks : List (List UInt8)) :
    (written address blocks).map WriteBlock.data = blocks := by
  induction blocks generalizing address with
  | nil => rfl
  | cons block rest ih => rw [written, List.map_cons, ih]

theorem written_at {address : UInt32} {blocks : List (List UInt8)} {k : Nat} {w : WriteBlock}
    (found : (written address blocks)[k]? = some w) :
    w.size = UInt32.ofNat w.data.length ∧
      w.address = address + UInt32.ofNat (((written address blocks).take k).map WriteBlock.data).flatten.length := by
  induction blocks generalizing address k with
  | nil => cases found
  | cons block rest ih =>
    cases k with
    | zero =>
      cases found
      exact ⟨rfl, (UInt32.add_zero address).symm⟩
    | succ k =>
      obtain ⟨size, place⟩ := ih found
      refine ⟨size, ?_⟩
      rw [place, written, List.take_succ_cons, List.map_cons, List.flatten_cons, List.length_append, UInt32.ofNat_add,
        UInt32.add_assoc]

theorem written_fields {address : UInt32} {blocks : List (List UInt8)}
    (sized : ∀ block ∈ blocks, block.length ≤ FIRMWARE_BLOCK_SIZE) {k : Nat} {w : WriteBlock}
    (found : (written address blocks)[k]? = some w) :
    w.size.toNat = w.data.length ∧
      w.address.toNat =
        (address.toNat + (((written address blocks).take k).map WriteBlock.data).flatten.length) % 4294967296 := by
  obtain ⟨size, place⟩ := written_at found
  have member : w.data ∈ blocks := by
    rw [← map_data_written address blocks]
    exact List.mem_map.mpr ⟨w, List.mem_of_getElem? found, rfl⟩
  have small : w.data.length < 4294967296 := Nat.lt_of_le_of_lt (sized _ member) (by decide)
  refine ⟨?_, ?_⟩
  · rw [size, UInt32.toNat_ofNat']
    exact Nat.mod_eq_of_lt small
  · rw [place, UInt32.toNat_add, UInt32.toNat_ofNat']
    exact Nat.add_mod_mod _ _ _

section
variable (chip : Chip) (firmware : List UInt8)

theorem hostLoad_blocks :
    InBlocks firmware (hostBlocks (hostLoad chip (some firmware) []).2) ∧
      (¬ Reports chip (hostLoad chip (some firmware) []).2 →
        (hostLoad chip (some firmware) []).1 = true ∧
          (hostBlocks (hostLoad chip (some firmware) []).2).flatten = firmware) ∧
      (Reports chip (hostLoad chip (some firmware) []).2 → (hostLoad chip (some firmware) []).1 = false) := by
  rw [hostBlocks_eq, hostLoad_eq]
  obtain ⟨clear, reports, k, sent⟩ :=
    inOrder_reports chip (Request.loadInit :: (pieces FIRMWARE_BLOCK_SIZE firmware).map hostCommand)
  refine ⟨?_, fun none => ?_, reports⟩
  · rw [sent]
    cases k with
    | zero => exact inBlocks_take firmware 0
    | succ k =>
      rw [List.take_succ_cons, ← List.map_take]
      show InBlocks firmware (List.filterMap _ (List.map hostCommand _))
      rw [filterMap_host]
      exact inBlocks_take firmware k
  · obtain ⟨result, all⟩ := clear none
    refine ⟨result, ?_⟩
    rw [all]
    show (List.filterMap _ (List.map hostCommand _)).flatten = firmware
    rw [filterMap_host, flatten_pieces]

theorem writeFlashImage_blocks (address : UInt32) :
    ∃ blocks, imageBlocks .big (writeFlashImage chip (some firmware) address []).2 = written address blocks ∧
      InBlocks firmware blocks ∧
      (¬ Reports chip (writeFlashImage chip (some firmware) address []).2 →
        (writeFlashImage chip (some firmware) address []).1 = true ∧ blocks.flatten = firmware) ∧
      (Reports chip (writeFlashImage chip (some firmware) address []).2 →
        (writeFlashImage chip (some firmware) address []).1 = false) := by
  rw [imageBlocks_eq, writeFlashImage_eq]
  obtain ⟨clear, reports, k, sent⟩ :=
    inOrder_reports chip (imageCommands address (pieces FIRMWARE_BLOCK_SIZE firmware))
  rw [take_imageCommands] at sent
  refine ⟨(pieces FIRMWARE_BLOCK_SIZE firmware).take k, ?_, inBlocks_take firmware k, fun none => ?_, reports⟩
  · rw [sent, filterMap_image]
  · obtain ⟨result, all⟩ := clear none
    refine ⟨result, ?_⟩
    have same := congrArg (List.filterMap (Command.asWriteBlock .big)) (sent.symm.trans all)
    rw [filterMap_image, filterMap_image] at same
    rw [← map_data_written address (List.take k _), same, map_data_written, flatten_pieces]

end

/-- Both functions send non-empty blocks, all but the last of full size, that make up the start of the file;
all of it and true if no command reports an error, and false if one does. The fields of a block that goes to
the flash are its length and its place behind the bytes that were sent before. -/
theorem firmware_sent (chip : Chip) (firmware : List UInt8) (address : UInt32) :
    (InBlocks firmware (hostBlocks (hostLoad chip (some firmware) []).2) ∧
      (¬ Reports chip (hostLoad chip (some firmware) []).2 →
        (hostLoad chip (some firmware) []).1 = true ∧
          (hostBlocks (hostLoad chip (some firmware) []).2).flatten = firmware) ∧
      (Reports chip (hostLoad chip (some firmware) []).2 → (hostLoad chip (some firmware) []).1 = false)) ∧
    ∃ sent : List WriteBlock, imageBlocks .big (writeFlashImage chip (some firmware) address []).2 = sent ∧
      InBlocks firmware (sent.map WriteBlock.data) ∧
      (∀ (k : Nat) (w : WriteBlock), sent[k]? = some w → w.size.toNat = w.data.length ∧
        w.address.toNat = (address.toNat + ((sent.take k).map WriteBlock.data).flatten.length) % 4294967296) ∧
      (¬ Reports chip (writeFlashImage chip (some firmware) address []).2 →
        (writeFlashImage chip (some firmware) address []).1 = true ∧ (sent.map WriteBlock.data).flatten = firmware) ∧
      (Reports chip (writeFlashImage chip (some firmware) address []).2 →
        (writeFlashImage chip (some firmware) address []).1 = false) := by
  refine ⟨hostLoad_blocks chip firmware, ?_⟩
  obtain ⟨blocks, same, inBlocks, clear, reports⟩ := writeFlashImage_blocks chip firmware address
  refine ⟨_, same, ?_, fun k w found => ?_, fun none => ?_, reports⟩
  · rw [map_data_written]
    exact inBlocks
  · exact written_fields (fun block member => (inBlocks.sized block member).2) found
  · rw [map_data_written]
    exact clear none

end RgbClock.Dab
