import MediaImport.Exchange.ObjectTable
import MediaImport.Proofs.Exchange.PropertyWords
import MediaImport.Proofs.Text.Utf8

/-!
# Reading back the values that an export writes

An object is shown to scripts as identifiers, times, sizes, flags and texts, and
each of them has a writer and a reader of its own.  Words of 32 and 64 bits come
back as they are, and so do flags and texts.  A size is the exception: scripts
count in signed numbers, so what is too large for them comes back as the greatest
of these.
-/

namespace MediaImport.Script.Value

open MediaImport.Exchange

@[simp]
theorem propertyInt32_ofInt32 (number fallback : Int32) :
    (ofInt32 number).propertyInt32 fallback = number :=
  number.toInt32_toInt64

@[simp]
theorem propertyInt64_int (number fallback : Int64) :
    (Value.int number).propertyInt64 fallback = number := rfl

@[simp]
theorem propertyFlag?_ofFlag (flag : Bool) : (ofFlag flag).propertyFlag? = some flag := by
  cases flag <;> decide

@[simp]
theorem propertyBytes_str (contents : Bytes) : (Value.str contents).propertyBytes = contents := rfl

@[simp]
theorem propertyBytes_nil : Value.nil.propertyBytes = [] := rfl

@[simp]
theorem propertyBytes_ofString (text : String) :
    (ofString text).propertyBytes = Bytes.ofString text := rfl

/-! ## Sizes -/

/-- The greatest size that scripts can count. -/
def sizeLimit : UInt64 := 9223372036854775807

theorem toNat_min_sizeLimit (size : UInt64) :
    (min size sizeLimit).toNat = min size.toNat 9223372036854775807 := by
  change (if size ≤ sizeLimit then size else sizeLimit).toNat = _
  have limit : sizeLimit.toNat = 9223372036854775807 := rfl
  by_cases small : size ≤ sizeLimit
  · rw [if_pos small, Nat.min_eq_left (limit ▸ UInt64.le_iff_toNat_le.mp small)]
  · have large : 9223372036854775807 ≤ size.toNat := by
      have greater := mt UInt64.le_iff_toNat_le.mpr small
      omega
    rw [if_neg small, Nat.min_eq_right large, limit]

/-- The signed number that stands for a size. -/
theorem propertyInt64_sizeValue (size : UInt64) (fallback : Int64) :
    (ObjectTable.sizeValue size).propertyInt64 fallback =
      Int64.ofNat (min size sizeLimit).toNat := by
  rw [ObjectTable.sizeValue, propertyInt64_int, toNat_min_sizeLimit]

theorem toNat_min_sizeLimit_lt (size : UInt64) :
    (min size sizeLimit).toNat < 9223372036854775808 := by
  rw [toNat_min_sizeLimit]
  omega

theorem sizeValue_nonneg (size : UInt64) (fallback : Int64) :
    0 ≤ (ObjectTable.sizeValue size).propertyInt64 fallback := by
  rw [propertyInt64_sizeValue, Int64.le_iff_toInt_le,
    Int64.toInt_ofNat_of_lt (toNat_min_sizeLimit_lt size)]
  exact Int.natCast_nonneg _

theorem sizeValue_toUInt64 (size : UInt64) (fallback : Int64) :
    ((ObjectTable.sizeValue size).propertyInt64 fallback).toUInt64 = min size sizeLimit := by
  rw [propertyInt64_sizeValue, Int64.toUInt64_ofNat', UInt64.ofNat_toNat]

end MediaImport.Script.Value
