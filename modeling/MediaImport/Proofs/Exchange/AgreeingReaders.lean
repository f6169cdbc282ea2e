import MediaImport.Proofs.Exchange.PropertyWords
import MediaImport.Proofs.Number.RationalValues
import Mathlib.Data.Int.ModEq

/-!
# The agreement of the integer readers

A property is read as an integer of 32 bits or of 64 bits.  The narrow reader wraps doubles by
arithmetic of doubles and cuts off the upper half of integers; the wide one takes the nearest
word.  For all that they agree: both start from one number (`quantity?`), the narrow word is the
only one that is congruent to it modulo 2 ^ 32 when its fraction is cut off, and the wide word is
that number itself whenever its magnitude is less than 2 ^ 63.  What has no number is zero in both.
-/

namespace MediaImport.Script.Value

variable {value : Value}

/-- The rational number that a property stands for, if it stands for a finite one. -/
def quantity? : Value → Option ℚ
  | .bool flag => some (if flag then 1 else 0)
  | .int word => some word.toInt
  | .float number => number.value?
  | .str contents => (spelledNumber? contents).bind (·.value?)
  | _ => none

/-- The whole number of a property is its rational number without the fraction. -/
theorem propertyWhole_eq (value : Value) :
    value.propertyWhole = (value.quantity?.map towardZero).getD 0 := by
  cases value with
  | bool flag => cases flag <;> simp [quantity?, towardZero]
  | int word => simp [quantity?, towardZero_intCast]
  | float number => rw [propertyWhole_float, Double.truncate?_eq, quantity?]
  | str contents =>
    rw [propertyWhole_str, quantity?]
    cases spelledNumber? contents with
    | none => rfl
    | some number => exact congrArg (·.getD 0) number.truncate?_eq
  | _ => rfl

/-- A word of 32 bits is the one of an integer if and only if it is congruent to it. -/
theorem eq_ofInt_iff (word : Int32) (number : ℤ) :
    word = Int32.ofInt number ↔ word.toInt ≡ number [ZMOD 2 ^ 32] := by
  have own : word.toInt.bmod (2 ^ 32) = word.toInt :=
    Int.bmod_eq_of_le word.le_toInt word.toInt_lt
  rw [← Int32.toInt_inj, Int32.toInt_ofInt]
  constructor
  · intro same
    rw [same]
    exact Int.bmod_emod
  · intro congruent
    calc word.toInt = (word.toInt % (2 ^ 32 : ℕ)).bmod (2 ^ 32) := by rw [Int.emod_bmod, own]
      _ = (number % (2 ^ 32 : ℕ)).bmod (2 ^ 32) := congrArg (Int.bmod · _) congruent
      _ = number.bmod (2 ^ 32) := Int.emod_bmod ..

/-- Within the range of the wide reader the word is the whole number itself. -/
theorem toInt_propertyInt64 (present : value ≠ .nil) (fallback : Int64)
    (above : -9223372036854775808 ≤ value.propertyWhole)
    (below : value.propertyWhole ≤ 9223372036854775807) :
    (value.propertyInt64 fallback).toInt = value.propertyWhole := by
  rw [propertyInt64_of_present present, Double.clamp_of_mem above below,
    Int64.toInt_ofInt_of_le above (Int.lt_add_one_iff.mpr below)]

/-- The whole number of a property is in the range of the wide reader if its magnitude is less
than two to the 63. -/
theorem abs_propertyWhole_lt
    (small : ∀ quantity, value.quantity? = some quantity → |quantity| < 2 ^ 63) :
    |value.propertyWhole| < 2 ^ 63 := by
  rw [propertyWhole_eq]
  cases found : value.quantity? with
  | none => simp
  | some quantity =>
    have bound : (|towardZero quantity| : ℚ) < 2 ^ 63 :=
      (abs_towardZero_le quantity).trans_lt (small quantity found)
    exact_mod_cast bound

theorem toInt_propertyInt64_of_small (present : value ≠ .nil) (fallback : Int64)
    (small : ∀ quantity, value.quantity? = some quantity → |quantity| < 2 ^ 63) :
    (value.propertyInt64 fallback).toInt = value.propertyWhole := by
  obtain ⟨above, below⟩ := abs_lt.mp (abs_propertyWhole_lt small)
  exact toInt_propertyInt64 present fallback (by omega) (by omega)

/-- The two readers agree.  A property that stands for no finite number is zero in both, and a
flag is zero or one.  Otherwise the narrow word is the only one congruent to the number of the
property without its fraction.  The wide word is that number if its magnitude is less than
2 ^ 63, and whenever it is, or there is no number, the narrow word is the only one congruent to
the wide one.  None of this depends on what stands in for absent properties. -/
theorem integerReaders_agree (value : Value) (present : value ≠ .nil)
    (narrow : Int32) (wide : Int64) :
    (value.quantity? = none →
      value.propertyInt32 narrow = 0 ∧ value.propertyInt64 wide = 0) ∧
    (∀ flag, value = .bool flag → value.propertyInt32 narrow = if flag then 1 else 0) ∧
    (∀ quantity, value.quantity? = some quantity →
      (∀ word : Int32, word = value.propertyInt32 narrow ↔
        word.toInt ≡ towardZero quantity [ZMOD 2 ^ 32]) ∧
      (|quantity| < 2 ^ 63 → (value.propertyInt64 wide).toInt = towardZero quantity)) ∧
    ((∀ quantity, value.quantity? = some quantity → |quantity| < 2 ^ 63) →
      ∀ word : Int32, word = value.propertyInt32 narrow ↔
        word.toInt ≡ (value.propertyInt64 wide).toInt [ZMOD 2 ^ 32]) := by
  have whole := value.propertyWhole_eq
  refine ⟨?_, ?_, ?_, ?_⟩
  · intro nothing
    rw [nothing] at whole
    rw [propertyInt32_of_present present, propertyInt64_of_present present, whole]
    exact ⟨rfl, rfl⟩
  · rintro flag rfl
    rfl
  · intro quantity found
    have cut : value.propertyWhole = towardZero quantity := by
      rw [whole, found, Option.map_some, Option.getD_some]
    refine ⟨?_, ?_⟩
    · intro word
      rw [propertyInt32_of_present present, eq_ofInt_iff, cut]
    · intro small
      rw [← cut]
      refine toInt_propertyInt64_of_small present wide ?_
      intro other same
      obtain rfl := Option.some.inj (found.symm.trans same)
      exact small
  · intro small word
    rw [propertyInt32_of_present present, eq_ofInt_iff,
      toInt_propertyInt64_of_small present wide small]

/-- A text whose number is just below the least narrow word: one reader wraps it, and the other
keeps it. -/
theorem integerReaders_agree_belowNarrow :
    ofString " -2147483649.9 " ≠ .nil ∧
    (ofString " -2147483649.9 ").propertyInt32 7 = 2147483647 ∧
    ((ofString " -2147483649.9 ").propertyInt64 7).toInt = -2147483649 ∧
    ∀ word : Int32, word = 2147483647 ↔ word.toInt ≡ -2147483649 [ZMOD 2 ^ 32] := by
  have narrow : (ofString " -2147483649.9 ").propertyInt32 7 = 2147483647 := by decide +kernel
  have wide : ((ofString " -2147483649.9 ").propertyInt64 7).toInt = -2147483649 := by
    decide +kernel
  have spelled : spelledNumber? (Bytes.ofString " -2147483649.9 ") =
      some ⟨0xc1e00000003ccccd⟩ := by decide +kernel
  have value : Double.value? ⟨0xc1e00000003ccccd⟩ = some (-4503599631355085 * 2 ^ (-21 : ℤ)) := by
    have shown : Double.shape ⟨0xc1e00000003ccccd⟩ = .finite 4503599631355085 (-21) := rfl
    simp [Double.value?, shown, Double.signed, Double.isNegative]
  have small : ∀ quantity, (ofString " -2147483649.9 ").quantity? = some quantity →
      |quantity| < 2 ^ 63 := by
    intro quantity found
    rw [ofString, quantity?, spelled, Option.bind_some, value] at found
    obtain rfl := Option.some.inj found
    norm_num
  have present : ofString " -2147483649.9 " ≠ .nil := by simp [ofString]
  have agree := (integerReaders_agree (ofString " -2147483649.9 ") present 7 7).2.2.2 small
  rw [narrow, wide] at agree
  exact ⟨present, narrow, wide, agree⟩

end MediaImport.Script.Value
