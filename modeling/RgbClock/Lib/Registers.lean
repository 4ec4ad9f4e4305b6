import RgbClock.Lib.Run
import Mathlib.Logic.Function.Basic

/-! Registers of a device behind a link that may lose a write. -/

namespace Registers
open Runs

universe u v

variable {Reg : Type u} {Value : Type v} [DecidableEq Reg]

structure Write (Reg : Type u) (Value : Type v) where
  reg : Reg
  value : Value
  arrived : Bool
  deriving DecidableEq

def receive (regs : Reg → Value) (write : Write Reg Value) : Reg → Value :=
  if write.arrived then Function.update regs write.reg write.value else regs

/-- The registers after some writes. -/
def after (regs : Reg → Value) (writes : List (Write Reg Value)) : Reg → Value := run receive regs writes

def writesTo (reg : Reg) (writes : List (Write Reg Value)) : List (Write Reg Value) :=
  writes.filter fun write => write.reg = reg

@[simp] theorem writesTo_append (reg : Reg) (first second : List (Write Reg Value)) :
    writesTo reg (first ++ second) = writesTo reg first ++ writesTo reg second := List.filter_append ..

@[simp] theorem writesTo_nil (reg : Reg) : writesTo reg ([] : List (Write Reg Value)) = [] := rfl

theorem after_concat (regs : Reg → Value) (writes : List (Write Reg Value)) (last : Write Reg Value) :
    after regs (writes ++ [last]) = receive (after regs writes) last := run_concat ..

theorem receive_other {regs : Reg → Value} {write : Write Reg Value} {reg : Reg} (other : write.reg ≠ reg) :
    receive regs write reg = regs reg := by
  unfold receive
  split
  · rw [Function.update_of_ne (Ne.symm other)]
  · rfl

/-- A register holds what it held at first or something that has been written to it. -/
theorem after_written (regs : Reg → Value) (writes : List (Write Reg Value)) (reg : Reg) :
    after regs writes reg = regs reg ∨ ∃ write ∈ writesTo reg writes, write.value = after regs writes reg := by
  induction writes using List.reverseRecOn with
  | nil => exact Or.inl rfl
  | append_singleton writes last ih =>
    have earlier : receive (after regs writes) last reg = after regs writes reg →
        receive (after regs writes) last reg = regs reg ∨
          ∃ write ∈ writesTo reg (writes ++ [last]), write.value = receive (after regs writes) last reg := by
      intro same
      rw [same, writesTo_append]
      rcases ih with untouched | ⟨write, member, value⟩
      · exact Or.inl untouched
      · exact Or.inr ⟨write, List.mem_append_left _ member, value⟩
    rw [after_concat]
    by_cases here : last.reg = reg
    · cases arrived : last.arrived with
      | true =>
        refine Or.inr ⟨last, ?_, ?_⟩
        · simp [writesTo, here]
        · simp [receive, arrived, here]
      | false => exact earlier (by simp [receive, arrived])
    · exact earlier (receive_other here)

/-- Whatever was lost before, a write that arrives is what the register holds until the next one. -/
theorem after_last {regs : Reg → Value} {writes : List (Write Reg Value)} {reg : Reg} {last : Write Reg Value}
    (found : (writesTo reg writes).getLast? = some last) (arrived : last.arrived = true) :
    after regs writes reg = last.value := by
  induction writes using List.reverseRecOn with
  | nil => cases found
  | append_singleton writes newest ih =>
    rw [after_concat]
    rw [writesTo_append] at found
    by_cases here : newest.reg = reg
    · have only : writesTo reg [newest] = [newest] := by simp [writesTo, here]
      rw [only, List.getLast?_concat] at found
      cases found
      simp [receive, arrived, here]
    · have none : writesTo reg [newest] = [] := by simp [writesTo, here]
      rw [none, List.append_nil] at found
      rw [receive_other here]
      exact ih found

/-- A register that is only ever written one value holds it once a write has arrived. -/
theorem after_only {regs : Reg → Value} {writes : List (Write Reg Value)} {reg : Reg} {value : Value}
    (only : ∀ write ∈ writesTo reg writes, write.value = value)
    (arrived : (writesTo reg writes).any Write.arrived = true) : after regs writes reg = value := by
  induction writes using List.reverseRecOn with
  | nil => cases arrived
  | append_singleton writes newest ih =>
    rw [writesTo_append] at only arrived
    have earlier := ih fun write member => only write (List.mem_append_left _ member)
    rw [after_concat]
    by_cases here : newest.reg = reg
    · have last : writesTo reg [newest] = [newest] := by simp [writesTo, here]
      rw [last] at only arrived
      cases came : newest.arrived with
      | true =>
        rw [receive, if_pos came, here, Function.update_self]
        exact only newest (List.mem_append_right _ List.mem_cons_self)
      | false =>
        rw [List.any_append, List.any_cons, came] at arrived
        rw [receive, if_neg (by rw [came]; exact Bool.false_ne_true)]
        exact earlier (by simpa using arrived)
    · have none : writesTo reg [newest] = [] := by simp [writesTo, here]
      rw [none, List.append_nil] at arrived
      rw [receive_other here]
      exact earlier arrived

end Registers
