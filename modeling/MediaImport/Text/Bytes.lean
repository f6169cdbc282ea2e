/-!
# Byte strings

Paths, script text and script strings are sequences of bytes that need not
spell any text.  A byte string is a plain list, so that equality is equality of
contents and induction is list induction.

The UTF-8 bytes of a text are given by `Bytes.ofString`; the decoder that goes
the other way is in `MediaImport.Text.Utf8`.
-/

namespace MediaImport

/-- A sequence of bytes, with no claim about what it encodes. -/
abbrev Bytes := List UInt8

namespace Bytes

/-- The UTF-8 bytes of a text. -/
def ofString (text : String) : Bytes :=
  text.toUTF8.data.toList

/-- The UTF-8 bytes of a sequence of characters. -/
def ofChars (characters : List Char) : Bytes :=
  characters.flatMap String.utf8EncodeChar

@[simp]
theorem ofString_ofList (characters : List Char) :
    ofString (String.ofList characters) = ofChars characters := by
  simp [ofString, ofChars, List.utf8Encode]

@[simp]
theorem ofString_empty : ofString "" = [] := by
  simp [ofString]

@[simp]
theorem ofChars_nil : ofChars [] = [] := rfl

@[simp]
theorem ofChars_cons (character : Char) (rest : List Char) :
    ofChars (character :: rest) =
      String.utf8EncodeChar character ++ ofChars rest := rfl

theorem ofChars_toList (text : String) : ofChars text.toList = ofString text := by
  rw [← ofString_ofList, String.ofList_toList]

/-- A byte that is an ASCII decimal digit. -/
def isDigit (byte : UInt8) : Bool :=
  0x30 ≤ byte && byte ≤ 0x39

/-- A byte that is an ASCII upper-case letter. -/
def isUpper (byte : UInt8) : Bool :=
  0x41 ≤ byte && byte ≤ 0x5a

/-- A byte that is an ASCII lower-case letter. -/
def isLower (byte : UInt8) : Bool :=
  0x61 ≤ byte && byte ≤ 0x7a

/-- A byte that is an ASCII letter. -/
def isLetter (byte : UInt8) : Bool :=
  isUpper byte || isLower byte

/-- The value of a hexadecimal digit. -/
def hexDigit? (byte : UInt8) : Option Nat :=
  if isDigit byte then some (byte.toNat - 0x30)
  else if 0x61 ≤ byte && byte ≤ 0x66 then some (byte.toNat - 0x57)
  else if 0x41 ≤ byte && byte ≤ 0x46 then some (byte.toNat - 0x37)
  else none

/-- The six ASCII bytes of white space: the blank, and tab to carriage return. -/
def isSpace (byte : UInt8) : Bool :=
  byte == 0x20 || (0x09 ≤ byte && byte ≤ 0x0d)

/-- Drop the spaces at both ends. -/
def strip (bytes : Bytes) : Bytes :=
  ((bytes.dropWhile isSpace).reverse.dropWhile isSpace).reverse

/-- The number that a run of decimal digits spells; other bytes must not occur. -/
def decimalValue (digits : Bytes) : Nat :=
  digits.foldl (fun total digit => total * 10 + (digit.toNat - 0x30)) 0

end Bytes

end MediaImport
