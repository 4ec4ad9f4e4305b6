import Mathlib.Data.List.Basic
import Mathlib.Data.List.GetD

/-! Checked reading of a byte vector: a read outside the vector is `none`. -/

namespace Bytes

variable {α β : Type}

/-- The 16-bit word at an index, low byte first. -/
def u16 (data : List UInt8) (i : Nat) : Option UInt16 := do
  let high ← data[i + 1]?
  let low ← data[i]?
  return (high.toUInt16 <<< 8) + low.toUInt16

/-- The 32-bit word at an index, low byte first. -/
def u32 (data : List UInt8) (i : Nat) : Option UInt32 := do
  let byte3 ← data[i + 3]?
  let byte2 ← data[i + 2]?
  let byte1 ← data[i + 1]?
  let byte0 ← data[i]?
  return (byte3.toUInt32 <<< 24) + (byte2.toUInt32 <<< 16) + (byte1.toUInt32 <<< 8) + byte0.toUInt32

def slice (data : List UInt8) (start count : Nat) : Option (List UInt8) :=
  if start + count ≤ data.length then some ((data.drop start).take count) else none

/-- A field that is read only if the vector is longer than `i`. -/
def whenLonger (data : List UInt8) (i : Nat) (read : Option α) (unset : α) : Option α :=
  if data.length > i then read else some unset

/-! ### When a read is inside

The rules below turn "all reads of a `do` block succeed" into bounds on the length. -/

@[simp] theorem any_const (x : Option α) (b : Bool) : x.any (fun _ => b) = (x.isSome && b) := by
  cases x <;> simp

@[simp] theorem isSome_u16 (data : List UInt8) (i : Nat) : (u16 data i).isSome = true ↔ i + 1 < data.length := by
  simp only [u16, bind, Option.isSome_bind, any_const, pure, Option.isSome_some, Bool.and_true, Bool.and_eq_true,
    isSome_getElem?]
  omega

@[simp] theorem isSome_u32 (data : List UInt8) (i : Nat) : (u32 data i).isSome = true ↔ i + 3 < data.length := by
  simp only [u32, bind, Option.isSome_bind, any_const, pure, Option.isSome_some, Bool.and_true, Bool.and_eq_true,
    isSome_getElem?]
  omega

@[simp] theorem isSome_slice (data : List UInt8) (start count : Nat) :
    (slice data start count).isSome = true ↔ start + count ≤ data.length := by
  unfold slice
  split <;> simp [*]

@[simp] theorem isSome_whenLonger (data : List UInt8) (i : Nat) (read : Option α) (unset : α) :
    (whenLonger data i read unset).isSome = true ↔ (i < data.length → read.isSome = true) := by
  unfold whenLonger
  split <;> simp [*]

/-- One field of a `do` block after the other: each read is inside once the vector is long enough for its guard. -/
theorem isSome_field {data : List UInt8} {i : Nat} {read : Option α} {unset : α} {rest : α → Option β}
    (inside : i < data.length → read.isSome = true) (next : ∀ a, (rest a).isSome = true) :
    (whenLonger data i read unset >>= rest).isSome = true := by
  obtain ⟨a, found⟩ := Option.isSome_iff_exists.mp ((isSome_whenLonger data i read unset).mpr inside)
  rw [found]
  exact next a

theorem u16_eq {data : List UInt8} {i : Nat} (inside : i + 1 < data.length) :
    u16 data i = some (((data.getD (i + 1) 0).toUInt16 <<< 8) + (data.getD i 0).toUInt16) := by
  have low : i < data.length := by omega
  simp [u16, List.getElem?_eq_getElem inside, List.getElem?_eq_getElem low]

theorem u32_eq {data : List UInt8} {i : Nat} (inside : i + 3 < data.length) :
    u32 data i = some (((data.getD (i + 3) 0).toUInt32 <<< 24) + ((data.getD (i + 2) 0).toUInt32 <<< 16) +
      ((data.getD (i + 1) 0).toUInt32 <<< 8) + (data.getD i 0).toUInt32) := by
  have byte2 : i + 2 < data.length := by omega
  have byte1 : i + 1 < data.length := by omega
  have byte0 : i < data.length := by omega
  simp [u32, List.getElem?_eq_getElem inside, List.getElem?_eq_getElem byte2, List.getElem?_eq_getElem byte1,
    List.getElem?_eq_getElem byte0]

/-! ### What a guarded read gives -/

section
variable (data : List UInt8)

/-- The word at an index, zero if the vector ends before it. -/
def field16 (i : Nat) : UInt16 :=
  if data.length > i + 1 then ((data.getD (i + 1) 0).toUInt16 <<< 8) + (data.getD i 0).toUInt16 else 0

def field32 (i : Nat) : UInt32 :=
  if data.length > i + 3 then
    ((data.getD (i + 3) 0).toUInt32 <<< 24) + ((data.getD (i + 2) 0).toUInt32 <<< 16) +
      ((data.getD (i + 1) 0).toUInt32 <<< 8) + (data.getD i 0).toUInt32
  else 0

theorem whenLonger_byte (i : Nat) : whenLonger data i data[i]? 0 = some (data.getD i 0) := by
  unfold whenLonger
  split
  · rename_i longer
    rw [List.getElem?_eq_getElem longer, List.getD_eq_getElem data 0 longer]
  · rename_i short
    rw [List.getD_eq_default data 0 (Nat.not_lt.mp short)]

theorem whenLonger_u16 {i last : Nat} (guard : last = i + 1) :
    whenLonger data last (u16 data i) 0 = some (field16 data i) := by
  subst guard
  unfold whenLonger field16
  split
  · rename_i longer
    exact u16_eq longer
  · rfl

theorem whenLonger_u32 {i last : Nat} (guard : last = i + 3) :
    whenLonger data last (u32 data i) 0 = some (field32 data i) := by
  subst guard
  unfold whenLonger field32
  split
  · rename_i longer
    exact u32_eq longer
  · rfl

theorem whenLonger_rest (i : Nat) : whenLonger data i (slice data i (data.length - i)) [] = some (data.drop i) := by
  unfold whenLonger slice
  split
  · rename_i longer
    rw [if_pos (by omega), List.take_of_length_le (Nat.le_of_eq List.length_drop)]
  · rename_i short
    rw [List.drop_eq_nil_of_le (Nat.not_lt.mp short)]

end

section
variable {front : List UInt8} (rest : List UInt8)

theorem field16_append {i : Nat} (inside : i + 1 < front.length) : field16 (front ++ rest) i = field16 front i := by
  have longer : (front ++ rest).length > i + 1 := by
    rw [List.length_append]
    omega
  unfold field16
  rw [if_pos longer, if_pos inside, List.getD_append _ _ _ _ inside, List.getD_append _ _ _ _ (by omega)]

theorem field32_append {i : Nat} (inside : i + 3 < front.length) : field32 (front ++ rest) i = field32 front i := by
  have longer : (front ++ rest).length > i + 3 := by
    rw [List.length_append]
    omega
  unfold field32
  rw [if_pos longer, if_pos inside, List.getD_append _ _ _ _ inside, List.getD_append _ _ _ (i + 2) (by omega),
    List.getD_append _ _ _ (i + 1) (by omega), List.getD_append _ _ _ i (by omega)]

/-- A word whose high byte stands right behind the prefix. -/
theorem field16_across {i : Nat} (last : i + 1 = front.length) (byte : UInt8) :
    field16 (front ++ byte :: rest) i = (byte.toUInt16 <<< 8) + (front.getD i 0).toUInt16 := by
  have longer : (front ++ byte :: rest).length > i + 1 := by
    rw [List.length_append, List.length_cons]
    omega
  unfold field16
  rw [if_pos longer, List.getD_append _ _ _ i (by omega), last, List.getD_append_right _ _ _ _ (Nat.le_refl _),
    Nat.sub_self]
  rfl

end

theorem high_byte_inj {first second low : UInt8}
    (same : (first.toUInt16 <<< 8) + low.toUInt16 = (second.toUInt16 <<< 8) + low.toUInt16) : first = second := by
  have values := congrArg UInt16.toNat same
  have below := first.toNat_lt
  have under := second.toNat_lt
  have small := low.toNat_lt
  simp [Nat.shiftLeft_eq] at values
  apply UInt8.toNat_inj.mp
  omega

/-! ### Reading behind a prefix -/

theorem getElem?_shift (front data : List UInt8) (i : Nat) : (front ++ data)[front.length + i]? = data[i]? := by
  rw [List.getElem?_append_right (Nat.le_add_right _ _), Nat.add_sub_cancel_left]

theorem u16_shift (front data : List UInt8) (i : Nat) : u16 (front ++ data) (front.length + i) = u16 data i := by
  unfold u16
  rw [Nat.add_assoc, getElem?_shift, getElem?_shift]

theorem u32_shift (front data : List UInt8) (i : Nat) : u32 (front ++ data) (front.length + i) = u32 data i := by
  unfold u32
  rw [Nat.add_assoc, Nat.add_assoc, Nat.add_assoc, getElem?_shift, getElem?_shift, getElem?_shift, getElem?_shift]

theorem slice_shift (front data : List UInt8) (start count : Nat) :
    slice (front ++ data) (front.length + start) count = slice data start count := by
  have bound : front.length + start + count ≤ (front ++ data).length ↔ start + count ≤ data.length := by
    rw [List.length_append]
    omega
  have inside : (front ++ data).drop (front.length + start) = data.drop start := by
    rw [← List.drop_drop, List.drop_left]
  unfold slice
  rw [inside]
  simp only [bound]

/-- A slice is the part that lies between what is in front of it and what follows. -/
theorem slice_between {front part : List UInt8} {start count : Nat} (begins : front.length = start)
    (ends : part.length = count) (rest : List UInt8) : slice (front ++ (part ++ rest)) start count = some part := by
  subst begins ends
  have here := slice_shift front (part ++ rest) 0 part.length
  rw [Nat.add_zero] at here
  rw [here]
  unfold slice
  rw [if_pos (by rw [List.length_append]; omega), List.drop_zero, List.take_left]

/-! ### Words written low byte first -/

def le16 (word : UInt16) : List UInt8 := [word.toUInt8, (word >>> 8).toUInt8]

def le32 (word : UInt32) : List UInt8 :=
  [word.toUInt8, (word >>> 8).toUInt8, (word >>> 16).toUInt8, (word >>> 24).toUInt8]

theorem u16_le16 (word : UInt16) (rest : List UInt8) : u16 (le16 word ++ rest) 0 = some word := by
  have bound := word.toNat_lt
  show some (((word >>> 8).toUInt8.toUInt16 <<< 8) + word.toUInt8.toUInt16) = some word
  apply congrArg some
  apply UInt16.toNat_inj.mp
  simp [Nat.shiftRight_eq_div_pow, Nat.shiftLeft_eq]
  omega

theorem u32_le32 (word : UInt32) (rest : List UInt8) : u32 (le32 word ++ rest) 0 = some word := by
  have bound := word.toNat_lt
  show some (((word >>> 24).toUInt8.toUInt32 <<< 24) + ((word >>> 16).toUInt8.toUInt32 <<< 16) +
    ((word >>> 8).toUInt8.toUInt32 <<< 8) + word.toUInt8.toUInt32) = some word
  apply congrArg some
  apply UInt32.toNat_inj.mp
  simp [Nat.shiftRight_eq_div_pow, Nat.shiftLeft_eq]
  omega

/-- The low half of a byte that was put together from two halves. -/
theorem low_nibble (high : UInt8) {low : Nat} (small : low ≤ 15) :
    (((high &&& 0xF0) ||| UInt8.ofNat low) &&& 0x0F).toNat = low := by
  have disjoint : (high.toNat &&& 240) &&& 15 = 0 := by
    rw [Nat.and_assoc]
    apply Nat.and_zero
  rw [UInt8.toNat_and, UInt8.toNat_or, UInt8.toNat_and, UInt8.toNat_ofNat']
  show ((high.toNat &&& 240) ||| low % 2 ^ 8) &&& 15 = low
  rw [Nat.and_or_distrib_right, disjoint, Nat.zero_or]
  have masked := Nat.and_two_pow_sub_one_eq_mod (low % 2 ^ 8) 4
  rw [show (15 : Nat) = 2 ^ 4 - 1 from rfl, masked]
  omega

end Bytes
