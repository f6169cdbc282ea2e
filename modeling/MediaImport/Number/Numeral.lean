import MediaImport.Number.Double
import MediaImport.Text.Bytes

/-!
# Numerals

Readers of numbers in text.  A decimal numeral is digits with at most one point,
at least one digit in all, and perhaps an exponent; `decimal?` reads one and
nothing after it.

`plain?` is the reader for properties: an optional sign before a decimal
numeral, or one of the names of infinity and of the value that is no number.
`script?` is the reader for scripts: white space around the numeral, hexadecimal
numerals, and integers kept apart from doubles.
-/

namespace MediaImport.Numeral

/-- Split digits off the front. -/
def spanDigits (bytes : Bytes) : Bytes × Bytes :=
  (bytes.takeWhile Bytes.isDigit, bytes.dropWhile Bytes.isDigit)

/-- Split an optional sign from what it applies to; `true` is minus. -/
def splitSign : Bytes → Bool × Bytes
  | 0x2d :: rest => (true, rest)
  | 0x2b :: rest => (false, rest)
  | rest => (false, rest)

/-- An exponent with its sign, up to the end of the text.  The two letters are
the upper-case and the lower-case mark. -/
def exponent? (upper lower : UInt8) : Bytes → Option Int
  | [] => some 0
  | mark :: rest =>
    if mark == upper || mark == lower then
      let (negative, digits) := splitSign rest
      if digits.isEmpty || !digits.all Bytes.isDigit then none
      else
        let magnitude : Int := Bytes.decimalValue digits
        some (if negative then -magnitude else magnitude)
    else none

/-- The digits after a point, if there is a point. -/
def fraction (isMember : UInt8 → Bool) : Bytes → Bytes × Bytes
  | 0x2e :: rest => (rest.takeWhile isMember, rest.dropWhile isMember)
  | rest => ([], rest)

/-- The double nearest to a decimal numeral that takes up the whole text. -/
def decimal? (negative : Bool) (bytes : Bytes) : Option Double :=
  let (whole, afterWhole) := spanDigits bytes
  let (part, afterPart) := fraction Bytes.isDigit afterWhole
  if whole.isEmpty && part.isEmpty then none
  else
    (exponent? 0x45 0x65 afterPart).map fun exponent =>
      Double.ofDecimal negative (Bytes.decimalValue (whole ++ part))
        (exponent - part.length)

/-- A byte with an ASCII letter turned into lower case. -/
def lower (byte : UInt8) : UInt8 :=
  if Bytes.isUpper byte then byte + 0x20 else byte

/-- The number that a property text spells, without white space. -/
def plain? (bytes : Bytes) : Option Double :=
  let (negative, magnitude) := splitSign bytes
  let letters := magnitude.map lower
  if letters = [0x69, 0x6e, 0x66] ||
      letters = [0x69, 0x6e, 0x66, 0x69, 0x6e, 0x69, 0x74, 0x79] then
    some (Double.infinity negative)
  else if letters = [0x6e, 0x61, 0x6e] then
    some (if negative then Double.nan.neg else Double.nan)
  else decimal? negative magnitude

/-- A number of a script: an integer word or a double. -/
inductive Number where
  | int (value : Int64)
  | float (value : Double)

/-- A byte that is a hexadecimal digit. -/
def isHexDigit (byte : UInt8) : Bool :=
  (Bytes.hexDigit? byte).isSome

/-- The number that hexadecimal digits spell. -/
def hexValue (digits : Bytes) : Nat :=
  digits.foldl (fun total digit => total * 16 + (Bytes.hexDigit? digit).getD 0) 0

/-- A hexadecimal numeral after its mark: an integer modulo `2 ^ 64`, or a double
when there is a point or a binary exponent. -/
def hexadecimal? (negative : Bool) (bytes : Bytes) : Option Number :=
  let whole := bytes.takeWhile isHexDigit
  let afterWhole := bytes.dropWhile isHexDigit
  if afterWhole.isEmpty then
    if whole.isEmpty then none
    else
      let magnitude := Int64.ofNat (hexValue whole)
      some (.int (if negative then -magnitude else magnitude))
  else
    let (part, afterPart) := fraction isHexDigit afterWhole
    if whole.isEmpty && part.isEmpty then none
    else
      (exponent? 0x50 0x70 afterPart).map fun exponent =>
        let mantissa := hexValue (whole ++ part)
        -- beyond this the result is an infinity or a zero whatever the digits
        let bound : Int := 5000 + 4 * (whole.length + part.length)
        let clamped := max (-bound) (min bound (exponent - 4 * part.length))
        .float (Double.ofScaled negative mantissa clamped)

/-- A decimal numeral of a script: an integer when there are only digits and the
value fits, else a double. -/
def decimalNumber? (negative : Bool) (bytes : Bytes) : Option Number :=
  let magnitude : Int := Bytes.decimalValue bytes
  let value := if negative then -magnitude else magnitude
  if !bytes.isEmpty && bytes.all Bytes.isDigit &&
      -9223372036854775808 ≤ value && value ≤ 9223372036854775807 then
    some (.int (Int64.ofInt value))
  else (decimal? negative bytes).map .float

/-- The number that a script text spells, white space around it aside. -/
def script? (bytes : Bytes) : Option Number :=
  let (negative, magnitude) := splitSign (Bytes.strip bytes)
  match magnitude with
  | 0x30 :: 0x78 :: digits => hexadecimal? negative digits
  | 0x30 :: 0x58 :: digits => hexadecimal? negative digits
  | _ => decimalNumber? negative magnitude

end MediaImport.Numeral
