import DocTable.Number.Digits
import Mathlib.Data.Nat.Digits.Defs

/-!
# Decimal texts

A number is read back from its digits, whatever zeros stand in front of them, and an integer from
its text with the sign. So neither text stands for two numbers.
-/

namespace DocTable.Digits

variable {width m n : Nat}

/-! ## Numbers -/

theorem value_toDigits (n : Nat) : value (Nat.toDigits 10 n) = n := by
  have digits : ∀ cs, value cs = Nat.ofDigitChars 10 cs 0 := by
    intro cs
    simp [value, valueOf, Nat.ofDigitChars_eq_foldl, Nat.mul_comm]
  rw [digits, Nat.ofDigitChars_ten_toDigits]

theorem isDigit_of_mem_toDigits {c : Char} (mem : c ∈ Nat.toDigits 10 n) : isDigit c = true := by
  have digit := Nat.isDigit_of_mem_toDigits (by decide) (by decide) mem
  simpa [Char.isDigit, isDigit, UInt32.le_iff_toNat_le] using digit

theorem nat?_of_digits {digits : List Char} (filled : digits ≠ [])
    (all : ∀ c ∈ digits, isDigit c = true) : nat? digits = some (value digits) := by
  have run : digits.all isDigit = true := List.all_eq_true.mpr all
  simp [nat?, filled, run]

theorem nat?_toDigits (n : Nat) : nat? (Nat.toDigits 10 n) = some n := by
  have read := nat?_of_digits (Nat.toDigits_ne_nil (n := n)) fun _ => isDigit_of_mem_toDigits
  rwa [value_toDigits] at read

/-! ## Integers -/

theorem int?_of_digits {digits : List Char} (filled : digits ≠ [])
    (all : ∀ c ∈ digits, isDigit c = true) : int? digits = some (value digits : Int) := by
  have unsigned {c : Char} {more : List Char} (same : digits = c :: more) : isDigit c = true := by
    apply all
    rw [same]
    exact List.mem_cons_self
  unfold int?
  split
  · cases unsigned rfl
  · cases unsigned rfl
  · rw [nat?_of_digits filled all]
    rfl

theorem int?_ofInt (n : Int) : int? (ofInt n) = some n := by
  rw [ofInt]
  split
  case isTrue negative =>
    have magnitude : -(n.natAbs : Int) = n := by omega
    rw [int?, nat?_toDigits]
    exact congrArg some magnitude
  case isFalse natural =>
    have magnitude : (n.natAbs : Int) = n := by omega
    rw [int?_of_digits Nat.toDigits_ne_nil fun _ => isDigit_of_mem_toDigits, value_toDigits,
      magnitude]

theorem ofInt_injective : Function.Injective ofInt := by
  intro a b same
  have read := congrArg int? same
  rw [int?_ofInt, int?_ofInt] at read
  exact Option.some.inj read

/-! ## Leading zeros -/

theorem value_cons_zero (digits : List Char) : value ('0' :: digits) = value digits := rfl

theorem value_padded (width n : Nat) : value (padded width n) = n := by
  have zeros (k : Nat) (digits : List Char) :
      value (List.replicate k '0' ++ digits) = value digits := by
    induction k with
    | zero => rfl
    | succ k ih => rw [List.replicate_succ, List.cons_append, value_cons_zero, ih]
  rw [padded, zeros, value_toDigits]

theorem padded_injective (width : Nat) : Function.Injective (padded width) := by
  intro m n same
  rw [← value_padded width m, same, value_padded]

theorem isDigit_of_mem_padded {c : Char} (mem : c ∈ padded width n) : isDigit c = true := by
  rcases List.mem_append.mp mem with zero | digit
  · rw [List.eq_of_mem_replicate zero]
    rfl
  · exact isDigit_of_mem_toDigits digit

theorem length_padded (positive : 0 < width) (fits : n < 10 ^ width) :
    (padded width n).length = width := by
  have short := Nat.toDigits_length 10 n width positive fits
  rw [padded, List.length_append, List.length_replicate]
  omega

theorem eq_of_append_padded {s t : List Char} {c : Char} (positive : 0 < width)
    (hm : m < 10 ^ width) (hn : n < 10 ^ width)
    (same : s ++ c :: padded width m = t ++ c :: padded width n) :
    s = t ∧ m = n := by
  have lengths : (c :: padded width m).length = (c :: padded width n).length := by
    rw [List.length_cons, List.length_cons, length_padded positive hm, length_padded positive hn]
  obtain ⟨front, field⟩ := List.append_inj' same lengths
  exact ⟨front, padded_injective width (List.cons.inj field).2⟩

end DocTable.Digits
