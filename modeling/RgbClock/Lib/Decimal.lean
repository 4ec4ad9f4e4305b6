import Mathlib.Data.List.TakeWhile

/-! Decimal integers as the C++ standard library writes and reads them: `std::to_string`
and `std::stoi` of a 32-bit `int`, and a number padded to two digits. -/

namespace Decimal

inductive Fault where
  | invalidArgument | outOfRange
  deriving DecidableEq

def Fits (n : Int) : Prop := -2147483648 ≤ n ∧ n ≤ 2147483647

instance (n : Int) : Decidable (Fits n) := inferInstanceAs (Decidable (_ ∧ _))

def isSpace (c : Char) : Bool :=
  c = ' ' || c = '\t' || c = '\n' || c.toNat = 11 || c.toNat = 12 || c = '\r'

def toText : Int → List Char
  | .ofNat m => Nat.toDigits 10 m
  | .negSucc m => '-' :: Nat.toDigits 10 (m + 1)

def unsigned (text : List Char) : Except Fault Int :=
  let digits := text.takeWhile Char.isDigit
  if digits = [] then .error .invalidArgument else .ok (Nat.ofDigitChars 10 digits 0)

/-- White space, a sign and digits; whatever follows the digits is not read. -/
def signed (text : List Char) : Except Fault Int :=
  match text.dropWhile isSpace with
  | '-' :: rest => (unsigned rest).map (fun n => -n)
  | '+' :: rest => unsigned rest
  | rest => unsigned rest

/-- `std::stoi`. -/
def stoi (text : List Char) : Except Fault Int := do
  let n ← signed text
  if Fits n then return n else throw .outOfRange

/-- `std::setw(2) << std::setfill('0')` in front of a number. -/
def padded (n : Int) : List Char :=
  List.replicate (2 - (toText n).length) '0' ++ toText n

theorem isSpace_of_isDigit {c : Char} (digit : c.isDigit = true) : isSpace c = false := by
  simp only [Char.isDigit, Bool.and_eq_true, decide_eq_true_eq, UInt32.le_iff_toNat_le] at digit
  have range : 48 ≤ c.toNat ∧ c.toNat ≤ 57 := digit
  simp only [isSpace, Bool.or_eq_false_iff, decide_eq_false_iff_not]
  refine ⟨⟨⟨⟨⟨?_, ?_⟩, ?_⟩, by omega⟩, by omega⟩, ?_⟩
  all_goals
    rintro rfl
    revert range
    decide

theorem digit_ne_sign {c : Char} (digit : c.isDigit = true) : c ≠ '-' ∧ c ≠ '+' := by
  constructor <;> (rintro rfl; revert digit; decide)

theorem unsigned_digits {digits : List Char} (nonempty : digits ≠ []) (all : ∀ c ∈ digits, c.isDigit = true) :
    unsigned digits = .ok (Nat.ofDigitChars 10 digits 0) := by
  have whole : digits.takeWhile Char.isDigit = digits := List.takeWhile_eq_self_iff.mpr all
  simp only [unsigned, whole, nonempty, if_false]

theorem signed_digits {digits : List Char} (nonempty : digits ≠ []) (all : ∀ c ∈ digits, c.isDigit = true) :
    signed digits = .ok (Nat.ofDigitChars 10 digits 0) := by
  obtain ⟨c, rest, rfl⟩ := List.exists_cons_of_ne_nil nonempty
  have digit := all c List.mem_cons_self
  have kept : (c :: rest).dropWhile isSpace = c :: rest := by
    simp [isSpace_of_isDigit digit]
  obtain ⟨minus, plus⟩ := digit_ne_sign digit
  unfold signed
  rw [kept]
  split
  · rename_i same
    exact absurd (List.cons.inj same).1 minus
  · rename_i same
    exact absurd (List.cons.inj same).1 plus
  · exact unsigned_digits nonempty all

theorem toDigits_isDigit (n : Nat) : ∀ c ∈ Nat.toDigits 10 n, c.isDigit = true :=
  fun _ member => Nat.isDigit_of_mem_toDigits (by decide) (by decide) member

theorem signed_toText (n : Int) : signed (toText n) = .ok n := by
  cases n with
  | ofNat m =>
    rw [toText, signed_digits Nat.toDigits_ne_nil (toDigits_isDigit m), Nat.ofDigitChars_ten_toDigits]
    rfl
  | negSucc m =>
    have kept : ('-' :: Nat.toDigits 10 (m + 1)).dropWhile isSpace = '-' :: Nat.toDigits 10 (m + 1) := by
      have notSpace : isSpace '-' = false := by decide
      simp [notSpace]
    rw [toText, signed, kept]
    simp only [unsigned_digits Nat.toDigits_ne_nil (toDigits_isDigit (m + 1)), Nat.ofDigitChars_ten_toDigits]
    rfl

theorem stoi_toText {n : Int} (fits : Fits n) : stoi (toText n) = .ok n := by
  simp only [stoi, signed_toText, bind, Except.bind, fits, if_true, pure, Except.pure]

theorem toText_ne_nil (n : Int) : toText n ≠ [] := by
  cases n with
  | ofNat m => exact Nat.toDigits_ne_nil
  | negSucc m => exact List.cons_ne_nil _ _

theorem padded_two_digits :
    ∀ n : Fin 100, (padded (n.val : Nat)).length = 2 ∧ Nat.ofDigitChars 10 (padded (n.val : Nat)) 0 = n.val := by
  decide +kernel

theorem padded_length {n : Nat} (small : n < 100) : (padded n).length = 2 :=
  (padded_two_digits ⟨n, small⟩).1

theorem padded_inj {a b : Nat} (first : a < 100) (second : b < 100) (same : padded a = padded b) : a = b := by
  have value := congrArg (Nat.ofDigitChars 10 · 0) same
  exact ((padded_two_digits ⟨a, first⟩).2.symm.trans value).trans (padded_two_digits ⟨b, second⟩).2

end Decimal
