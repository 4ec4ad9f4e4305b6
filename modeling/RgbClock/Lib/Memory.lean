import Mathlib.Algebra.GroupWithZero.Nat
import Mathlib.Data.Finset.Card
import Mathlib.Data.Finset.Range
import Mathlib.Data.List.Basic
import Mathlib.Logic.Function.Basic

/-! Data cut into pieces, and a memory in which data is written: byte `i` goes to the address `place i`.
Places may coincide; then the byte that is written last stays. -/

namespace Memory

variable {α β : Type}

/-! ### Pieces of a fixed size -/

def pieces (size : Nat) [NeZero size] (data : List β) : List (List β) :=
  if data = [] then [] else data.take size :: pieces size (data.drop size)
  termination_by data.length
  decreasing_by
    rename_i positive more
    have := List.length_pos_iff.mpr more
    have := Nat.pos_of_ne_zero positive.out
    rw [List.length_drop]
    omega

section
variable (size : Nat) [NeZero size]

@[simp] theorem pieces_nil : pieces size ([] : List β) = [] := by rw [pieces, if_pos rfl]

theorem pieces_of_ne_nil {data : List β} (more : data ≠ []) :
    pieces size data = data.take size :: pieces size (data.drop size) := by
  rw [pieces, if_neg more]

theorem flatten_pieces (data : List β) : (pieces size data).flatten = data := by
  induction data using pieces.induct size with
  | case1 => rw [pieces_nil, List.flatten_nil]
  | case2 data more ih => rw [pieces_of_ne_nil size more, List.flatten_cons, ih, List.take_append_drop]

theorem length_piece {data piece : List β} (member : piece ∈ pieces size data) : 0 < piece.length ∧ piece.length ≤ size := by
  have positive := Nat.pos_of_ne_zero (NeZero.ne size)
  induction data using pieces.induct size with
  | case1 =>
    rw [pieces_nil] at member
    cases member
  | case2 data more ih =>
    have := List.length_pos_iff.mpr more
    rw [pieces_of_ne_nil size more] at member
    obtain rfl | later := List.mem_cons.mp member
    · rw [List.length_take]
      omega
    · exact ih later

/-- Only the last piece may be shorter. -/
theorem length_piece_dropLast {data piece : List β} (member : piece ∈ (pieces size data).dropLast) :
    piece.length = size := by
  induction data using pieces.induct size with
  | case1 =>
    rw [pieces_nil] at member
    cases member
  | case2 data more ih =>
    rw [pieces_of_ne_nil size more] at member
    by_cases last : data.drop size = []
    · rw [last, pieces_nil] at member
      cases member
    · have rest : pieces size (data.drop size) ≠ [] := by
        rw [pieces_of_ne_nil size last]
        exact List.cons_ne_nil _ _
      have long := List.length_pos_iff.mpr last
      rw [List.dropLast_cons_of_ne_nil rest] at member
      obtain rfl | later := List.mem_cons.mp member
      · rw [List.length_drop] at long
        rw [List.length_take]
        omega
      · exact ih later

end

/-! ### Writing -/

section
variable [DecidableEq α]

def write (place : Nat → α) : List β → (α → β) → α → β
  | [], memory => memory
  | byte :: rest, memory => write (fun i => place (i + 1)) rest (Function.update memory (place 0) byte)

def read (memory : α → β) (place : Nat → α) (count : Nat) : List β := (List.range count).map fun i => memory (place i)

variable {place : Nat → α} {data : List β}

theorem write_append (place : Nat → α) (first second : List β) (memory : α → β) :
    write place (first ++ second) memory =
      write (fun i => place (first.length + i)) second (write place first memory) := by
  induction first generalizing place memory with
  | nil =>
    simp only [List.nil_append, List.length_nil, Nat.zero_add]
    rfl
  | cons byte rest ih =>
    rw [List.cons_append, write, write, ih]
    simp only [List.length_cons, Nat.add_assoc, Nat.add_comm 1]

/-- Only the places of the data that is written matter. -/
theorem write_congr {other : Nat → α} (same : ∀ i < data.length, place i = other i) (memory : α → β) :
    write place data memory = write other data memory := by
  induction data generalizing place other memory with
  | nil => rfl
  | cons byte rest ih =>
    rw [write, write, same 0 (Nat.zero_lt_succ _)]
    exact ih (fun i inside => same (i + 1) (Nat.succ_lt_succ inside)) _

theorem write_outside {x : α} (outside : ∀ i < data.length, place i ≠ x) (memory : α → β) :
    write place data memory x = memory x := by
  induction data generalizing place memory with
  | nil => rfl
  | cons byte rest ih =>
    rw [write, ih fun i inside => outside (i + 1) (Nat.succ_lt_succ inside)]
    exact Function.update_of_ne (outside 0 (Nat.zero_lt_succ _)).symm _ _

/-- Where no two places coincide every byte stays. -/
theorem write_inside (apart : Set.InjOn place (Finset.range data.length)) (memory : α → β) {i : Nat}
    (inside : i < data.length) : write place data memory (place i) = data[i] := by
  induction data generalizing place memory i with
  | nil => cases inside
  | cons byte rest ih =>
    have distinct : ∀ {j k : Nat}, j < rest.length + 1 → k < rest.length + 1 → place j = place k → j = k :=
      fun first second same => apart (Finset.mem_coe.mpr (Finset.mem_range.mpr first))
        (Finset.mem_coe.mpr (Finset.mem_range.mpr second)) same
    rw [write]
    cases i with
    | zero =>
      rw [write_outside]
      · exact Function.update_self _ _ _
      · intro j bound same
        have := distinct (Nat.succ_lt_succ bound) (Nat.zero_lt_succ _) same
        omega
    | succ i =>
      refine ih ?_ _ (Nat.lt_of_succ_lt_succ inside)
      intro j first k second same
      have bound := Finset.mem_range.mp (Finset.mem_coe.mp first)
      have limit := Finset.mem_range.mp (Finset.mem_coe.mp second)
      have := distinct (Nat.succ_lt_succ bound) (Nat.succ_lt_succ limit) same
      omega

theorem read_write (apart : Set.InjOn place (Finset.range data.length)) (memory : α → β) :
    read (write place data memory) place data.length = data := by
  unfold read
  apply List.ext_getElem
  · rw [List.length_map, List.length_range]
  · intro i first second
    rw [List.getElem_map, List.getElem_range, write_inside apart memory second]

/-- Data that is read back over every earlier memory has been written wherever it is read. -/
theorem covered_of_read [Nontrivial β] {source : Nat → α}
    (back : ∀ memory, read (write place data memory) source data.length = data) {i : Nat} (inside : i < data.length) :
    ∃ j < data.length, place j = source i := by
  by_contra missed
  have outside : ∀ j < data.length, place j ≠ source i := fun j bound same => missed ⟨j, bound, same⟩
  obtain ⟨other, differs⟩ := exists_ne data[i]
  have same := congrArg (·[i]?) (back fun _ => other)
  simp only [read, List.getElem?_map, List.getElem?_range inside, Option.map_some, write_outside outside,
    List.getElem?_eq_getElem inside, Option.some.injEq] at same
  exact differs same

/-- As many places as sources: if they cover sources that are apart, they are apart too and are all read. -/
theorem apart_of_covered {source : Nat → α} {count : Nat} (apart : Set.InjOn source (Finset.range count))
    (covered : ∀ i < count, ∃ j < count, place j = source i) :
    Set.InjOn place (Finset.range count) ∧ ∀ j < count, ∃ i < count, source i = place j := by
  have within : (Finset.range count).image source ⊆ (Finset.range count).image place := by
    intro x member
    obtain ⟨i, inside, rfl⟩ := Finset.mem_image.mp member
    obtain ⟨j, bound, same⟩ := covered i (Finset.mem_range.mp inside)
    exact Finset.mem_image.mpr ⟨j, Finset.mem_range.mpr bound, same⟩
  have sources : ((Finset.range count).image source).card = count := by
    rw [Finset.card_image_of_injOn apart, Finset.card_range]
  have atMost : ((Finset.range count).image place).card ≤ count := by
    have := @Finset.card_image_le _ _ (Finset.range count) place _
    rwa [Finset.card_range] at this
  have same := Finset.eq_of_subset_of_card_le within (sources.symm ▸ atMost)
  refine ⟨?_, fun j bound => ?_⟩
  · apply Finset.card_image_iff.mp
    rw [← same, sources, Finset.card_range]
  · have member : place j ∈ (Finset.range count).image place :=
      Finset.mem_image.mpr ⟨j, Finset.mem_range.mpr bound, rfl⟩
    rw [← same] at member
    obtain ⟨i, inside, equal⟩ := Finset.mem_image.mp member
    exact ⟨i, Finset.mem_range.mp inside, equal⟩

end

end Memory
