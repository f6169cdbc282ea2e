import MediaImport.Exchange.Property
import MediaImport.Proofs.Number.WrappedWords

/-!
# The words of a property

Two readers make an integer of a property, each by its own rules for its own width.
`propertyWhole` is the number that both go by, cut off towards zero.  The narrow word is the
one congruent to it, and the wide word is the nearest one.
-/

namespace MediaImport.Script.Value

/-- The number that a property stands for. -/
def propertyNumber? : Value → Option Numeral.Number
  | .bool value => some (.int (if value then 1 else 0))
  | .int value => some (.int value)
  | .float value => some (.float value)
  | .str contents => (spelledNumber? contents).map .float
  | _ => none

/-- The whole number that a property stands for, cut off towards zero.  What is
no number, or not a finite one, stands for zero. -/
def propertyWhole (value : Value) : Int :=
  match value.propertyNumber? with
  | some (.int whole) => whole.toInt
  | some (.float number) => number.truncate?.getD 0
  | none => 0

@[simp]
theorem propertyWhole_bool (flag : Bool) :
    (Value.bool flag).propertyWhole = if flag then 1 else 0 := by
  cases flag <;> rfl

@[simp]
theorem propertyWhole_int (number : Int64) :
    (Value.int number).propertyWhole = number.toInt := rfl

@[simp]
theorem propertyWhole_float (number : Double) :
    (Value.float number).propertyWhole = number.truncate?.getD 0 := rfl

theorem propertyWhole_str (contents : Bytes) :
    (Value.str contents).propertyWhole =
      (spelledNumber? contents).elim 0 (·.truncate?.getD 0) := by
  cases spelled : spelledNumber? contents <;> simp [propertyWhole, propertyNumber?, spelled]

/-- A text of nothing but white space spells no number. -/
theorem spelledNumber?_of_blank {contents : Bytes}
    (blank : (Text.trim (Utf8.lossy contents)).isEmpty = true) :
    spelledNumber? contents = none := by
  rw [spelledNumber?, String.isEmpty_iff.mp blank]
  decide

/-- The narrow word is congruent to the whole number. -/
theorem propertyInt32_of_present {value : Value} (present : value ≠ .nil) (fallback : Int32) :
    value.propertyInt32 fallback = Int32.ofInt value.propertyWhole := by
  cases value with
  | nil => exact absurd rfl present
  | bool flag => cases flag <;> rfl
  | int number => exact (Int32.ofInt_int64ToInt number).symm
  | float number => exact number.wrapped32_eq
  | str contents =>
    rw [propertyWhole_str, propertyInt32]
    split
    · next blank =>
      rw [spelledNumber?_of_blank blank]
      rfl
    · cases spelledNumber? contents with
      | none => rfl
      | some number => exact number.wrapped32_eq
  | _ => rfl

theorem clamp_toInt (number : Int64) :
    Double.clamp (-9223372036854775808) 9223372036854775807 number.toInt = number.toInt :=
  Double.clamp_of_mem number.le_toInt (Int.lt_add_one_iff.mp number.toInt_lt)

/-- The wide word is the nearest one to the whole number. -/
theorem propertyInt64_of_present {value : Value} (present : value ≠ .nil) (fallback : Int64) :
    value.propertyInt64 fallback = Int64.ofInt
      (Double.clamp (-9223372036854775808) 9223372036854775807 value.propertyWhole) := by
  cases value with
  | nil => exact absurd rfl present
  | bool flag => cases flag <;> rfl
  | int number => rw [propertyWhole_int, clamp_toInt, Int64.ofInt_toInt, propertyInt64]
  | float number => exact number.cut64_eq
  | str contents =>
    rw [propertyWhole_str, propertyInt64]
    cases spelledNumber? contents with
    | none => rfl
    | some number => exact number.cut64_eq
  | _ => rfl

end MediaImport.Script.Value
