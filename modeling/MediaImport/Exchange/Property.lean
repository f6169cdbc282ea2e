import MediaImport.Number.Word
import MediaImport.Script.Value

/-!
# Properties of script tables

How a value that a script stored under some name is read as a text, a flag or an
integer.  Every value can be read in every way, so scripts may write a number as
a text and the other way round.  Only nil counts as absent.

Integers come in two widths, each with a reader of its own.  The narrow one wraps
whatever number it finds, and the wide one keeps integers and takes the nearest word
for doubles.
-/

namespace MediaImport.Script.Value

/-- The bytes of a property: scalars as their decimal or English text, and
nothing for everything else. -/
def propertyBytes : Value → Bytes
  | .bool value => Bytes.ofString (if value then "true" else "false")
  | .int value => Bytes.ofString (toString value.toInt)
  | .float value => Bytes.ofString value.asProperty
  | .str value => value
  | _ => []

/-- The text of a property, with a replacement character for what is not text. -/
def propertyText (value : Value) : String :=
  Utf8.lossy value.propertyBytes

/-- Whether a property is set to something that counts as true; `none` if absent. -/
def propertyFlag? : Value → Option Bool
  | .nil => none
  | .bool value => some value
  | .int value => some (value != 0)
  | .float value => some (!value.isZeroOrNaN)
  | .str value => some (!value.isEmpty)
  | _ => some true

/-- The double that a text spells, white space around it aside. -/
def spelledNumber? (contents : Bytes) : Option Double :=
  Numeral.plain? (Bytes.ofString (Text.trim (Utf8.lossy contents)))

/-- A property as a signed 32-bit word, or the given one if it is absent: what lies
outside the range is wrapped. -/
def propertyInt32 (value : Value) (fallback : Int32) : Int32 :=
  match value with
  | .nil => fallback
  | .bool value => if value then 1 else 0
  | .int value => value.toInt32
  | .float value => value.wrapped32
  | .str contents =>
    if (Text.trim (Utf8.lossy contents)).isEmpty then 0
    else (spelledNumber? contents).elim 0 Double.wrapped32
  | _ => 0

/-- A property as a signed 64-bit word, or the given one if it is absent: a double
outside the range comes to the nearest word. -/
def propertyInt64 (value : Value) (fallback : Int64) : Int64 :=
  match value with
  | .nil => fallback
  | .bool value => if value then 1 else 0
  | .int value => value
  | .float value => value.cut64
  | .str contents => (spelledNumber? contents).elim 0 Double.cut64
  | _ => 0

/-- The table that a property is, if it is one. -/
def propertyTable? : Value → Option Nat
  | .table id => some id
  | _ => none

end MediaImport.Script.Value
