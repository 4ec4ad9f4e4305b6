import RgbClock.Dab.Firmware

/-! The flash behind the chip: what `writeFlashImage` stores in it, and whether the place that `flashLoad`
names afterwards holds the image. The writer sends its address high byte first, the loader low byte first. -/

namespace RgbClock.Dab
open Memory

def BOOT_IMAGE_ADDRESS : UInt32 := 0x00002000

abbrev Flash := UInt32 → UInt8

instance nontrivialByte : Nontrivial UInt8 := ⟨0, 1, by decide⟩

/-- Consecutive addresses from `start` on. -/
def onwards (start : UInt32) (i : Nat) : UInt32 := start + UInt32.ofNat i

/-- A write-block command stores its data from its address on. -/
def Flash.execute (order : ByteOrder) (flash : Flash) (c : Command) : Flash :=
  match c.asWriteBlock order with
  | some block => write (onwards block.address) block.data flash
  | none => flash

def flashAfter (order : ByteOrder) (sent : List Exchange) (prior : Flash) : Flash :=
  sent.foldl (fun flash x => flash.execute order x.sent) prior

/-- The load-image form of `FLASH_LOAD`, which names the address to start from. -/
def Command.asLoadImage (order : ByteOrder) (c : Command) : Option UInt32 :=
  match c.param with
  | [form, _, _, a0, a1, a2, a3, _, _, _, _] =>
    if c.command = SI468X_FLASH_LOAD ∧ form = 0x00 then some (order.word a0 a1 a2 a3) else none
  | _ => none

def namedPlaces (order : ByteOrder) (sent : List Exchange) : List UInt32 :=
  sent.filterMap fun x => x.sent.asLoadImage order

/-- Over every earlier flash, an image that was written is what stands at the place the loader names. -/
def LoadsBack (order : ByteOrder) (firmware : List UInt8) (address : UInt32) : Prop :=
  ∀ chip later prior, (writeFlashImage chip (some firmware) address []).1 = true →
    ∀ place ∈ namedPlaces order (flashLoad later address []).2,
      read (flashAfter order (writeFlashImage chip (some firmware) address []).2 prior) (onwards place)
        firmware.length = firmware

/-- The word with its bytes in the other order. -/
def swapped (word : UInt32) : UInt32 :=
  ByteOrder.little.word (word >>> 24).toUInt8 (word >>> 16).toUInt8 (word >>> 8).toUInt8 word.toUInt8

/-! ### Where the bytes go -/

/-- How the chip understands an address of the writer. -/
def ByteOrder.ofWriter (order : ByteOrder) (address : UInt32) : UInt32 :=
  match order with
  | big => address
  | little => swapped address

/-- How the chip understands an address of the loader. -/
def ByteOrder.ofLoader (order : ByteOrder) (address : UInt32) : UInt32 :=
  match order with
  | big => swapped address
  | little => address

/-- Where byte `i` of an image goes. -/
def bytePlace (order : ByteOrder) (address : UInt32) (i : Nat) : UInt32 :=
  onwards (order.ofWriter (onwards address (FIRMWARE_BLOCK_SIZE * (i / FIRMWARE_BLOCK_SIZE)))) (i % FIRMWARE_BLOCK_SIZE)

theorem toNat_onwards (start : UInt32) (i : Nat) : (onwards start i).toNat = (start.toNat + i) % 4294967296 := by
  rw [onwards, UInt32.toNat_add, UInt32.toNat_ofNat']
  exact Nat.add_mod_mod _ _ _

theorem onwards_zero (start : UInt32) : onwards start 0 = start := UInt32.add_zero start

theorem onwards_onwards (start : UInt32) (i j : Nat) : onwards (onwards start i) j = onwards start (i + j) := by
  unfold onwards
  rw [UInt32.ofNat_add, UInt32.add_assoc]

theorem word_writer (order : ByteOrder) (address : UInt32) :
    order.word (address >>> 24).toUInt8 (address >>> 16).toUInt8 (address >>> 8).toUInt8 address.toUInt8 =
      order.ofWriter address := by
  cases order with
  | big => exact word_big address
  | little => rfl

theorem word_loader (order : ByteOrder) (address : UInt32) :
    order.word address.toUInt8 (address >>> 8).toUInt8 (address >>> 16).toUInt8 (address >>> 24).toUInt8 =
      order.ofLoader address := by
  cases order with
  | big => rfl
  | little => exact word_big address

theorem execute_imageCommand (order : ByteOrder) (flash : Flash) (address : UInt32) (block : List UInt8) :
    flash.execute order (imageCommand address block) = write (onwards (order.ofWriter address)) block flash := by
  unfold Flash.execute
  rw [asWriteBlock_imageCommand, word_writer]

theorem bytePlace_in_block (order : ByteOrder) (address : UInt32) (k : Nat) {i : Nat} (inside : i < FIRMWARE_BLOCK_SIZE) :
    bytePlace order address (FIRMWARE_BLOCK_SIZE * k + i) =
      onwards (order.ofWriter (onwards address (FIRMWARE_BLOCK_SIZE * k))) i := by
  unfold bytePlace
  rw [Nat.mul_add_mod, Nat.mul_add_div (by decide), Nat.div_eq_of_lt inside, Nat.mod_eq_of_lt inside, Nat.add_zero]

theorem bytePlace_first (order : ByteOrder) (address : UInt32) {i : Nat} (inside : i < FIRMWARE_BLOCK_SIZE) :
    bytePlace order address i = onwards (order.ofWriter address) i := by
  have here := bytePlace_in_block order address 0 inside
  rwa [Nat.mul_zero, Nat.zero_add, onwards_zero] at here

theorem bytePlace_next (order : ByteOrder) (address : UInt32) (i : Nat) :
    bytePlace order address (FIRMWARE_BLOCK_SIZE + i) =
      bytePlace order (address + UInt32.ofNat FIRMWARE_BLOCK_SIZE) i := by
  show _ = bytePlace order (onwards address FIRMWARE_BLOCK_SIZE) i
  have positive : 0 < FIRMWARE_BLOCK_SIZE := by decide
  unfold bytePlace
  rw [Nat.add_mod_left, Nat.add_div_left i positive, onwards_onwards, Nat.mul_succ, Nat.add_comm FIRMWARE_BLOCK_SIZE]

/-- The commands of an image store each byte at its place. -/
theorem execute_image (order : ByteOrder) (firmware : List UInt8) (address : UInt32) (prior : Flash) :
    (imageCommands address (pieces FIRMWARE_BLOCK_SIZE firmware)).foldl (fun flash c => flash.execute order c) prior =
      write (bytePlace order address) firmware prior := by
  induction firmware using pieces.induct FIRMWARE_BLOCK_SIZE generalizing address prior with
  | case1 =>
    rw [pieces_nil]
    rfl
  | case2 firmware more ih =>
    rw [pieces_of_ne_nil _ more, imageCommands, List.foldl_cons, execute_imageCommand, ih]
    have short : (firmware.take FIRMWARE_BLOCK_SIZE).length ≤ FIRMWARE_BLOCK_SIZE := List.length_take_le _ _
    have first : write (bytePlace order address) (firmware.take FIRMWARE_BLOCK_SIZE) prior =
        write (onwards (order.ofWriter address)) (firmware.take FIRMWARE_BLOCK_SIZE) prior :=
      write_congr (fun i inside => bytePlace_first order address (Nat.lt_of_lt_of_le inside short)) prior
    have whole := write_append (bytePlace order address) (firmware.take FIRMWARE_BLOCK_SIZE)
      (firmware.drop FIRMWARE_BLOCK_SIZE) prior
    rw [List.take_append_drop, first] at whole
    rw [whole]
    apply write_congr
    intro i inside
    -- there is a next block only behind a full one
    have full : (firmware.take FIRMWARE_BLOCK_SIZE).length = FIRMWARE_BLOCK_SIZE := by
      rw [List.length_drop] at inside
      rw [List.length_take]
      omega
    rw [full]
    exact (bytePlace_next order address i).symm

/-! ### Chips that acknowledge everything -/

def readyChip : Chip := ⟨fun _ _ _ => WAIT_CTS, fun _ => false⟩

theorem readyChip_error {c : Command} (plain : c.Plain) (i : Nat) : readyChip.error i c = false := by
  have status : ∀ p, (readyChip.answers i).status p = [0x80, 0x80, 0x80, 0x80, 0x80] := fun _ => rfl
  have acknowledged : (readyChip.answers i).Acknowledged := by
    refine ⟨0, by decide, ?_, fun q below => ?_⟩
    · rw [status]
      decide
    · rw [status]
      decide
  have outcome := @exchange_outcome (readyChip.answers i) (readyChip.uninitialised i) c plain
  cases outcome with
  | failed fails => exact absurd fails acknowledged.clear
  | acked _ _ _ error => exact error
  | timedOut _ silent => exact absurd acknowledged silent

theorem readyChip_clear {commands : List Command} (plain : ∀ c ∈ commands, c.Plain) :
    ¬ Reports readyChip (inOrder readyChip commands []).2 := by
  rw [inOrder_true readyChip fun i c found => readyChip_error (plain c (List.mem_of_getElem? found)) _]
  intro given
  obtain ⟨i, x, there, error⟩ := given
  obtain ⟨c, found, rfl⟩ := getElem?_exchanges readyChip there
  exact absurd ((readyChip_error (plain c (List.mem_of_getElem? found)) i).symm.trans error) Bool.false_ne_true

theorem imageCommands_plain (address : UInt32) (blocks : List (List UInt8)) :
    ∀ c ∈ imageCommands address blocks, c.Plain := by
  induction blocks generalizing address with
  | nil =>
    intro c member
    cases member
  | cons block rest ih =>
    intro c member
    obtain rfl | later := List.mem_cons.mp member
    · exact ⟨Nat.zero_le 5, rfl⟩
    · exact ih _ c later

/-! ### The image behind the calls -/

theorem flashAfter_eq (order : ByteOrder) (sent : List Exchange) (prior : Flash) :
    flashAfter order sent prior = (sent.map Exchange.sent).foldl (fun flash c => flash.execute order c) prior := by
  unfold flashAfter
  rw [List.foldl_map]

theorem namedPlaces_eq (order : ByteOrder) (sent : List Exchange) :
    namedPlaces order sent = (sent.map Exchange.sent).filterMap (Command.asLoadImage order) := by
  unfold namedPlaces
  rw [List.filterMap_map]
  rfl

section
variable (order : ByteOrder) (address : UInt32)

theorem filterMap_loadImage :
    (Request.flashLoad address).commands.filterMap (Command.asLoadImage order) = [order.ofLoader address] := by
  rw [← word_loader]
  rfl

/-- The only place a call of the loader can name. -/
theorem mem_namedPlaces {later : Chip} {place : UInt32}
    (named : place ∈ namedPlaces order (flashLoad later address []).2) : place = order.ofLoader address := by
  have same : flashLoad later address [] = inOrder later (Request.flashLoad address).commands [] :=
    Request.call_eq later (r := .flashLoad address) (by simp) []
  obtain ⟨_, _, k, sent⟩ := inOrder_reports later (Request.flashLoad address).commands
  rw [namedPlaces_eq, same, sent] at named
  have among := (List.take_sublist k _).filterMap (Command.asLoadImage order) |>.subset named
  rw [filterMap_loadImage] at among
  exact List.mem_singleton.mp among

theorem namedPlaces_ready : namedPlaces order (flashLoad readyChip address []).2 = [order.ofLoader address] := by
  have same : flashLoad readyChip address [] = inOrder readyChip (Request.flashLoad address).commands [] :=
    Request.call_eq readyChip (r := .flashLoad address) (by simp) []
  obtain ⟨clear, _⟩ := inOrder_reports readyChip (Request.flashLoad address).commands
  obtain ⟨_, sent⟩ := clear (readyChip_clear (Request.commands_plain _))
  rw [namedPlaces_eq, same, sent, filterMap_loadImage]

variable {order address} in
theorem flashAfter_image {chip : Chip} {firmware : List UInt8}
    (done : (writeFlashImage chip (some firmware) address []).1 = true) (prior : Flash) :
    flashAfter order (writeFlashImage chip (some firmware) address []).2 prior =
      write (bytePlace order address) firmware prior := by
  rw [writeFlashImage_eq] at done ⊢
  obtain ⟨clear, reports, _⟩ :=
    inOrder_reports chip (imageCommands address (pieces FIRMWARE_BLOCK_SIZE firmware))
  have none : ¬ Reports chip (inOrder chip (imageCommands address (pieces FIRMWARE_BLOCK_SIZE firmware)) []).2 :=
    fun given => absurd ((reports given).symm.trans done) Bool.false_ne_true
  rw [flashAfter_eq, (clear none).2, execute_image]

theorem loadsBack_iff_read (firmware : List UInt8) :
    LoadsBack order firmware address ↔
      ∀ prior, read (write (bytePlace order address) firmware prior) (onwards (order.ofLoader address)) firmware.length =
        firmware := by
  constructor
  · intro loads prior
    have done : (writeFlashImage readyChip (some firmware) address []).1 = true := by
      rw [writeFlashImage_eq]
      exact ((inOrder_reports readyChip _).1 (readyChip_clear (imageCommands_plain _ _))).1
    have back := loads readyChip readyChip prior done (order.ofLoader address) (by
      rw [namedPlaces_ready]
      exact List.mem_singleton.mpr rfl)
    rwa [flashAfter_image done] at back
  · intro back chip later prior done place named
    rw [mem_namedPlaces order address named, flashAfter_image done]
    exact back prior

end

/-! ### When the places agree -/

theorem onwards_apart (start : UInt32) {count : Nat} (small : count ≤ 4294967296) :
    Set.InjOn (onwards start) (Finset.range count) := by
  intro i first j second same
  have bound := Finset.mem_range.mp (Finset.mem_coe.mp first)
  have limit := Finset.mem_range.mp (Finset.mem_coe.mp second)
  have values := congrArg UInt32.toNat same
  rw [toNat_onwards, toNat_onwards] at values
  have below := start.toNat_lt
  omega

theorem toNat_word_little (b0 b1 b2 b3 : UInt8) :
    (ByteOrder.little.word b0 b1 b2 b3).toNat =
      b3.toNat * 16777216 + b2.toNat * 65536 + b1.toNat * 256 + b0.toNat := by
  have := b0.toNat_lt
  have := b1.toNat_lt
  have := b2.toNat_lt
  have := b3.toNat_lt
  simp [ByteOrder.word, Nat.shiftLeft_eq]
  omega

/-- The bytes of a word, and the word they make in the other order. -/
structure InBytes (word b0 b1 b2 b3 : Nat) (other : Nat) : Prop where
  small : b0 < 256 ∧ b1 < 256 ∧ b2 < 256 ∧ b3 < 256
  is : word = b0 + 256 * b1 + 65536 * b2 + 16777216 * b3
  turned : other = 16777216 * b0 + 65536 * b1 + 256 * b2 + b3

theorem inBytes (word : UInt32) : ∃ b0 b1 b2 b3, InBytes word.toNat b0 b1 b2 b3 (swapped word).toNat := by
  have bound := word.toNat_lt
  refine ⟨word.toNat % 256, word.toNat / 256 % 256, word.toNat / 65536 % 256, word.toNat / 16777216 % 256,
    ⟨by omega, by omega, by omega, by omega⟩, by omega, ?_⟩
  have low : word.toUInt8.toNat = word.toNat % 256 := by simp
  have second : (word >>> 8).toUInt8.toNat = word.toNat / 256 % 256 := by simp [Nat.shiftRight_eq_div_pow]
  have third : (word >>> 16).toUInt8.toNat = word.toNat / 65536 % 256 := by simp [Nat.shiftRight_eq_div_pow]
  have high : (word >>> 24).toUInt8.toNat = word.toNat / 16777216 % 256 := by simp [Nat.shiftRight_eq_div_pow]
  rw [swapped, toNat_word_little, low, second, third, high]
  omega

/-- The next block is far from the one before it. -/
theorem swapped_next_far {word next : UInt32} (moved : next.toNat = word.toNat + 2048) :
    (swapped word).toNat + 524288 ≤ (swapped next).toNat ∨ (swapped next).toNat + 524288 ≤ (swapped word).toNat := by
  obtain ⟨b0, b1, b2, b3, small, is, turned⟩ := inBytes word
  obtain ⟨c0, c1, c2, c3, tiny, will, after⟩ := inBytes next
  have low : c0 = b0 := by omega
  by_cases carry : b1 + 8 < 256
  · have : c1 = b1 + 8 := by omega
    omega
  · have : c1 + 248 = b1 := by omega
    omega

/-- Of the blocks 0, 32 and 64, two neighbours start 256 bytes from each other. -/
theorem swapped_close {word next last : UInt32} (moved : next.toNat = word.toNat + 65536)
    (again : last.toNat = next.toNat + 65536) :
    (swapped next).toNat = (swapped word).toNat + 256 ∨ (swapped last).toNat = (swapped next).toNat + 256 := by
  obtain ⟨b0, b1, b2, b3, small, is, turned⟩ := inBytes word
  obtain ⟨c0, c1, c2, c3, tiny, will, after⟩ := inBytes next
  obtain ⟨d0, d1, d2, d3, least, then', final⟩ := inBytes last
  have low : c0 = b0 ∧ d0 = b0 := by omega
  have second : c1 = b1 ∧ d1 = b1 := by omega
  by_cases carry : b2 + 1 < 256
  · have : c2 = b2 + 1 := by omega
    omega
  · have : c2 = 0 ∧ d2 = 1 := by omega
    omega

theorem bytePlace_big (address : UInt32) (i : Nat) : bytePlace .big address i = onwards address i := by
  show onwards (onwards address _) _ = _
  rw [onwards_onwards, Nat.div_add_mod]

section
variable {order : ByteOrder} {address : UInt32} {firmware : List UInt8}

theorem loadsBack_of (fits : address.toNat + firmware.length ≤ 4294967296)
    (same : ∀ i < firmware.length, bytePlace order address i = onwards (order.ofLoader address) i) :
    LoadsBack order firmware address := by
  rw [loadsBack_iff_read]
  intro prior
  rw [write_congr same]
  exact read_write (onwards_apart _ (by omega)) prior

/-- The places of an image that is read back are apart from each other, and are all read. -/
theorem places_of_loadsBack (fits : address.toNat + firmware.length ≤ 4294967296)
    (loads : LoadsBack order firmware address) :
    Set.InjOn (bytePlace order address) (Finset.range firmware.length) ∧
      (∀ i < firmware.length, ∃ j < firmware.length, bytePlace order address j = onwards (order.ofLoader address) i) ∧
      ∀ j < firmware.length, ∃ i < firmware.length, onwards (order.ofLoader address) i = bytePlace order address j := by
  rw [loadsBack_iff_read] at loads
  have covered : ∀ i < firmware.length, ∃ j < firmware.length,
      bytePlace order address j = onwards (order.ofLoader address) i :=
    fun i inside => covered_of_read loads inside
  obtain ⟨apart, all⟩ := apart_of_covered (onwards_apart (order.ofLoader address) (by omega)) covered
  exact ⟨apart, covered, all⟩

/-- Two stretches of the same length with different starts: one does not cover the other. -/
theorem start_eq_of_covered {start source : UInt32} {count : Nat} (some : 0 < count)
    (fits : start.toNat + count ≤ 4294967296) (zero : start = 0 → source = 0)
    (covered : ∀ i < count, ∃ j < count, onwards start j = onwards source i) : source = start := by
  obtain ⟨j, inside, first⟩ := covered 0 some
  have begins := congrArg UInt32.toNat first
  rw [toNat_onwards, toNat_onwards] at begins
  have below := source.toNat_lt
  by_contra different
  have differs : source.toNat ≠ start.toNat := fun same => different (UInt32.toNat_inj.mp same)
  -- the source starts behind the start, so it also ends behind the end
  obtain ⟨k, within, last⟩ := covered (count - j) (by omega)
  have ends := congrArg UInt32.toNat last
  rw [toNat_onwards, toNat_onwards] at ends
  have origin : start.toNat = 0 := by omega
  have atZero := zero (UInt32.toNat_inj.mp origin)
  rw [atZero] at differs
  exact differs origin.symm

theorem swapped_zero {word : UInt32} (zero : word = 0) : swapped word = 0 := by
  subst zero
  decide

theorem toNat_blockAddress (fits : address.toNat + firmware.length ≤ 4294967296) {k : Nat}
    (inside : 2048 * k < firmware.length) : (onwards address (2048 * k)).toNat = address.toNat + 2048 * k := by
  rw [toNat_onwards]
  omega

/-- In the order of the loader, a second block lies far from the first, and the image reaches both. -/
theorem long_of_loadsBack_little (fits : address.toNat + firmware.length ≤ 4294967296)
    (more : 2048 < firmware.length) (loads : LoadsBack .little firmware address) : 524288 < firmware.length := by
  obtain ⟨_, _, all⟩ := places_of_loadsBack fits loads
  obtain ⟨i, first, here⟩ := all (2048 * 0 + 0) (by omega)
  obtain ⟨j, second, there⟩ := all (2048 * 1 + 0) (by omega)
  have low := congrArg UInt32.toNat (here.trans (bytePlace_in_block .little address 0 (by decide)))
  have high := congrArg UInt32.toNat (there.trans (bytePlace_in_block .little address 1 (by decide)))
  have begins := @toNat_blockAddress address firmware fits 0 (by omega)
  have next := @toNat_blockAddress address firmware fits 1 more
  have far := @swapped_next_far (onwards address (2048 * 0)) (onwards address (2048 * 1)) (by omega)
  rw [toNat_onwards, onwards_zero] at low high
  change (address.toNat + i) % 4294967296 = (swapped (onwards address (2048 * 0))).toNat at low
  change (address.toNat + j) % 4294967296 = (swapped (onwards address (2048 * 1))).toNat at high
  omega

/-- A block that is stored 256 bytes behind another one overlaps it. -/
theorem not_close_of_loadsBack_little (fits : address.toNat + firmware.length ≤ 4294967296) {k l : Nat}
    (loads : LoadsBack .little firmware address) (first : 2048 * k + 256 < firmware.length)
    (second : 2048 * l < firmware.length) :
    (swapped (onwards address (2048 * l))).toNat ≠ (swapped (onwards address (2048 * k))).toNat + 256 := by
  intro close
  obtain ⟨apart, _, _⟩ := places_of_loadsBack fits loads
  have same : bytePlace .little address (2048 * k + 256) = bytePlace .little address (2048 * l + 0) := by
    apply (bytePlace_in_block .little address k (by decide)).trans
    refine Eq.trans ?_ (bytePlace_in_block .little address l (by decide)).symm
    show onwards (swapped (onwards address (2048 * k))) 256 = onwards (swapped (onwards address (2048 * l))) 0
    apply UInt32.toNat_inj.mp
    rw [toNat_onwards, toNat_onwards, close]
  have equal := apart (Finset.mem_coe.mpr (Finset.mem_range.mpr first))
    (Finset.mem_coe.mpr (Finset.mem_range.mpr second)) same
  omega

/-- In the order of the loader, the blocks of the writer never stand together. -/
theorem not_loadsBack_little (fits : address.toNat + firmware.length ≤ 4294967296)
    (more : 2048 < firmware.length) : ¬ LoadsBack .little firmware address := by
  intro loads
  have long := long_of_loadsBack_little fits more loads
  have zeroth := @toNat_blockAddress address firmware fits 0 (by omega)
  have middle := @toNat_blockAddress address firmware fits 32 (by omega)
  have last := @toNat_blockAddress address firmware fits 64 (by omega)
  obtain close | close := @swapped_close (onwards address (2048 * 0)) (onwards address (2048 * 32))
    (onwards address (2048 * 64)) (by omega) (by omega)
  · exact not_close_of_loadsBack_little fits loads (by omega) (by omega) close
  · exact not_close_of_loadsBack_little fits loads (by omega) (by omega) close

/-- An image is read back exactly if it is empty, or if its address has the same bytes in both orders and
either the chip has the order of the writer or the image is a single block. -/
theorem loadsBack_iff (fits : address.toNat + firmware.length ≤ 4294967296) :
    LoadsBack order firmware address ↔
      firmware = [] ∨ swapped address = address ∧ (order = .big ∨ firmware.length ≤ FIRMWARE_BLOCK_SIZE) := by
  constructor
  · intro loads
    by_cases empty : firmware = []
    · exact Or.inl empty
    have positive : 0 < firmware.length := List.length_pos_iff.mpr empty
    obtain ⟨_, covered, all⟩ := places_of_loadsBack fits loads
    refine Or.inr ?_
    cases order with
    | big =>
      refine ⟨start_eq_of_covered positive fits swapped_zero fun i inside => ?_, Or.inl rfl⟩
      obtain ⟨j, bound, same⟩ := covered i inside
      rw [bytePlace_big] at same
      exact ⟨j, bound, same⟩
    | little =>
      have short : firmware.length ≤ FIRMWARE_BLOCK_SIZE := by
        by_contra long
        exact not_loadsBack_little fits (Nat.not_le.mp long) loads
      refine ⟨start_eq_of_covered positive fits swapped_zero fun j inside => ?_, Or.inr short⟩
      obtain ⟨i, bound, same⟩ := all j inside
      rw [bytePlace_first _ _ (Nat.lt_of_lt_of_le inside short)] at same
      exact ⟨i, bound, same⟩
  · intro given
    obtain rfl | ⟨turned, fitting⟩ := given
    · exact loadsBack_of fits fun i inside => absurd inside (Nat.not_lt_zero i)
    · apply loadsBack_of fits
      intro i inside
      cases order with
      | big =>
        show _ = onwards (swapped address) i
        rw [bytePlace_big, turned]
      | little =>
        obtain wrong | short := fitting
        · cases wrong
        · rw [bytePlace_first _ _ (Nat.lt_of_lt_of_le inside short)]
          show onwards (swapped address) i = onwards address i
          rw [turned]

end

/-- An address that is the same in both orders. -/
theorem address_zero_loads_back : LoadsBack .big [0x01, 0x02] 0 :=
  (loadsBack_iff (by decide)).mpr (Or.inr ⟨by decide, Or.inl rfl⟩)

/-- A boot image of one byte is not found again, in whichever order the chip takes its addresses. -/
theorem boot_image_not_found :
    ¬ LoadsBack .big [0x01] BOOT_IMAGE_ADDRESS ∧ ¬ LoadsBack .little [0x01] BOOT_IMAGE_ADDRESS := by
  refine ⟨fun loads => ?_, fun loads => ?_⟩
  · have back := (loadsBack_iff_read .big BOOT_IMAGE_ADDRESS [0x01]).mp loads fun _ => 0
    exact absurd back (by decide)
  · have back := (loadsBack_iff_read .little BOOT_IMAGE_ADDRESS [0x01]).mp loads fun _ => 0
    exact absurd back (by decide)

end RgbClock.Dab
