import Mathlib.Algebra.Group.Nat.Defs
import Mathlib.Data.List.Basic
import Mathlib.Data.List.TakeWhile
import MediaImport.Number.Numeral
import MediaImport.Proofs.Text.Integer
import MediaImport.Proofs.Text.Utf8

/-!
# Whole numbers as doubles

The decimal text of an integer is read as a double, and if it has no more than 53 bits, that
double is finite: the number is its mantissa.
-/

namespace MediaImport.Double

/-! ## Magnitudes -/

theorem isFinite_ofMagnitude (negative : Bool) {magnitude : Nat}
    (small : magnitude < 2047 * 2 ^ 52) : (ofMagnitude negative magnitude).isFinite = true := by
  have bits : (ofMagnitude negative magnitude).bits.toNat % 2 ^ 63 = magnitude := by
    cases negative <;> simp [ofMagnitude] <;> omega
  have scale : magnitude / 2 ^ 52 ≠ 2047 := by omega
  unfold isFinite shape
  simp only [show Nat.pow 2 63 = 2 ^ 63 from rfl, show Nat.pow 2 52 = 2 ^ 52 from rfl, bits,
    if_neg scale]
  by_cases zero : magnitude / 2 ^ 52 = 0
  · rw [if_pos zero]
  · rw [if_neg zero]

/-- A number of no more than 53 bits has a finite double. -/
theorem isFinite_ofScaled (negative : Bool) {mantissa : Nat} (small : mantissa < 2 ^ 53) :
    (ofScaled negative mantissa 0).isFinite = true := by
  unfold ofScaled
  split
  · exact isFinite_ofMagnitude negative (by decide)
  · next positive =>
    have bits : mantissa.log2 ≤ 52 := by
      have := (Nat.log2_lt positive).mpr small
      omega
    have target : max ((0 : Int) + mantissa.log2 - 52) (-1074) = mantissa.log2 - 52 := by omega
    have shift : ((0 : Int) - (mantissa.log2 - 52)).toNat = 52 - mantissa.log2 := by omega
    -- The mantissa is shifted until it has 53 bits.
    have rounded : mantissa * 2 ^ (52 - mantissa.log2) < 2 ^ 53 := by
      have below : mantissa < 2 ^ (mantissa.log2 + 1) := Nat.lt_log2_self
      calc mantissa * 2 ^ (52 - mantissa.log2)
          < 2 ^ (mantissa.log2 + 1) * 2 ^ (52 - mantissa.log2) :=
            Nat.mul_lt_mul_of_pos_right below (Nat.two_pow_pos _)
        _ = 2 ^ 53 := by rw [← Nat.pow_add]; congr 1; omega
    have exponent : ((mantissa.log2 : Int) - 52 + 1074).toNat = mantissa.log2 + 1022 := by omega
    simp only [target, shift, exponent, if_pos (show (mantissa.log2 : Int) - 52 ≤ 0 by omega),
      show ∀ power, Nat.pow 2 power = 2 ^ power from fun _ => rfl]
    have least : (mantissa.log2 + 1022) * 2 ^ 52 + mantissa * 2 ^ (52 - mantissa.log2) <
        2047 * 2 ^ 52 := by omega
    split
    · exact isFinite_ofMagnitude negative (by omega)
    · rw [if_neg (by omega)]
      exact isFinite_ofMagnitude negative least

theorem isFinite_ofDecimal (negative : Bool) {digits : Nat} (small : digits < 2 ^ 53) :
    (ofDecimal negative digits 0).isFinite = true := by
  unfold ofDecimal
  split
  · exact isFinite_ofMagnitude negative (by decide)
  · rw [if_neg (by decide), if_pos (by decide)]
    simpa using isFinite_ofScaled negative small

end MediaImport.Double

namespace MediaImport.Numeral

open Text.Integer (isDigit_of_mem_toDigits toList_toString value_toDigits)

variable {digits : List Char}

/-! ## Digits as bytes -/

theorem utf8EncodeChar_of_isDigit {digit : Char} (decimal : Text.Integer.isDigit digit = true) :
    String.utf8EncodeChar digit = [UInt8.ofNat digit.toNat] ∧
      48 ≤ digit.toNat ∧ digit.toNat ≤ 57 := by
  simp only [Text.Integer.isDigit, Bool.and_eq_true, decide_eq_true_eq, Char.le_def,
    UInt32.le_iff_toNat_le] at decimal
  have low : 48 ≤ digit.toNat := decimal.1
  have high : digit.toNat ≤ 57 := decimal.2
  refine ⟨?_, low, high⟩
  have encoded := Utf8.encode_one (by omega : digit.toNat < 128)
  rwa [Char.ofNat_toNat] at encoded

theorem ofChars_digits (decimal : ∀ digit ∈ digits, Text.Integer.isDigit digit = true) :
    Bytes.ofChars digits = digits.map fun digit => UInt8.ofNat digit.toNat := by
  induction digits with
  | nil => rfl
  | cons first rest ih =>
    obtain ⟨here, there⟩ := List.forall_mem_cons.mp decimal
    rw [Bytes.ofChars_cons, (utf8EncodeChar_of_isDigit here).1, ih there]
    rfl

theorem isDigit_ofChars (decimal : ∀ digit ∈ digits, Text.Integer.isDigit digit = true) :
    ∀ byte ∈ Bytes.ofChars digits, Bytes.isDigit byte = true := by
  rw [ofChars_digits decimal]
  intro byte member
  obtain ⟨digit, there, rfl⟩ := List.mem_map.mp member
  obtain ⟨-, low, high⟩ := utf8EncodeChar_of_isDigit (decimal digit there)
  simp only [Bytes.isDigit, Bool.and_eq_true, decide_eq_true_eq, UInt8.le_iff_toNat_le,
    UInt8.toNat_ofNat_of_lt' (by omega : digit.toNat < 256)]
  exact ⟨low, high⟩

theorem decimalValue_ofChars (decimal : ∀ digit ∈ digits, Text.Integer.isDigit digit = true) :
    Bytes.decimalValue (Bytes.ofChars digits) = Text.Integer.value digits := by
  rw [ofChars_digits decimal, Bytes.decimalValue, List.foldl_map, Text.Integer.value]
  refine List.foldl_ext _ _ _ fun total digit member => ?_
  obtain ⟨-, -, high⟩ := utf8EncodeChar_of_isDigit (decimal digit member)
  rw [UInt8.toNat_ofNat_of_lt' (by omega : digit.toNat < 256)]

/-- Digits are read as a whole number. -/
theorem decimal?_digits (negative : Bool) (present : digits ≠ [])
    (decimal : ∀ digit ∈ digits, Text.Integer.isDigit digit = true) :
    decimal? negative (Bytes.ofChars digits) =
      some (Double.ofDecimal negative (Text.Integer.value digits) 0) := by
  have whole : spanDigits (Bytes.ofChars digits) = (Bytes.ofChars digits, []) :=
    congrArg₂ Prod.mk (List.takeWhile_eq_self_iff.mpr (isDigit_ofChars decimal))
      (List.dropWhile_eq_nil_iff.mpr (isDigit_ofChars decimal))
  have some : (Bytes.ofChars digits).isEmpty = false := by
    simp [ofChars_digits decimal, present]
  simp only [decimal?, whole, fraction, some, Bool.false_and, exponent?, List.append_nil,
    decimalValue_ofChars decimal]
  rfl

/-- A digit is no letter, and no sign. -/
theorem apart_of_isDigit {byte : UInt8} (decimal : Bytes.isDigit byte = true) :
    lower byte = byte ∧ byte ≠ 0x69 ∧ byte ≠ 0x6e ∧ byte ≠ 0x2d ∧ byte ≠ 0x2b := by
  simp only [Bytes.isDigit, Bool.and_eq_true, decide_eq_true_eq] at decimal
  refine ⟨?_, ?_, ?_, ?_, ?_⟩
  · have capital : Bytes.isUpper byte = false := by
      have high := UInt8.le_iff_toNat_le.mp decimal.2
      have above : ¬(0x41 ≤ byte) := fun low => by
        have := UInt8.le_iff_toNat_le.mp low
        exact absurd (Nat.le_trans this high) (by decide)
      simp [Bytes.isUpper, above]
    rw [lower, capital, if_neg Bool.false_ne_true]
  all_goals
    rintro rfl
    revert decimal
    decide

/-- Digits are neither infinite nor no number. -/
theorem plain?_of_splitSign {text : Bytes} {negative : Bool} {first : UInt8}
    {rest : Bytes} (split : splitSign text = (negative, first :: rest))
    (decimal : Bytes.isDigit first = true) :
    plain? text = decimal? negative (first :: rest) := by
  obtain ⟨same, notI, notN, -⟩ := apart_of_isDigit decimal
  simp [plain?, split, same, notI, notN]

/-- The text of an integer of no more than 53 bits is read as a finite double. -/
theorem plain?_toString {number : Int} (small : number.natAbs < 2 ^ 53) :
    ∃ value, plain? (Bytes.ofString (toString number)) = some value ∧ value.isFinite = true := by
  have decimal : ∀ digit ∈ Nat.toDigits 10 number.natAbs, Text.Integer.isDigit digit = true :=
    fun _ => isDigit_of_mem_toDigits
  obtain ⟨first, rest, bytes⟩ : ∃ first rest,
      Bytes.ofChars (Nat.toDigits 10 number.natAbs) = first :: rest := by
    refine List.exists_cons_of_ne_nil ?_
    simp [ofChars_digits decimal, Nat.toDigits_ne_nil]
  have leading : Bytes.isDigit first = true :=
    isDigit_ofChars decimal first (bytes ▸ List.mem_cons_self)
  obtain ⟨-, -, -, notMinus, notPlus⟩ := apart_of_isDigit leading
  have split : splitSign (Bytes.ofString (toString number)) =
      (decide (number < 0), first :: rest) := by
    rw [← Bytes.ofChars_toList, toList_toString, ← bytes]
    split
    · next negative =>
      rw [Bytes.ofChars_cons, bytes, decide_eq_true negative]
      rfl
    · next natural =>
      rw [bytes, decide_eq_false natural]
      unfold splitSign
      split <;> simp_all
  rw [plain?_of_splitSign split leading, ← bytes, decimal?_digits _ Nat.toDigits_ne_nil decimal,
    value_toDigits]
  exact ⟨_, rfl, Double.isFinite_ofDecimal _ small⟩

end MediaImport.Numeral
