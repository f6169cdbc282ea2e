import MediaImport.Text.Blank
import MediaImport.Text.Bytes

/-!
# Integers in text

Two readers of decimal integers.  `Integer.parse?` wants the whole text to be
an optional sign and at least one digit, and the value to lie within bounds.
`Integer.leading?` reads as far as the digits go and ignores what follows, the
way a track number such as 5/12 is meant; its value is clamped to 32 bits.  It
finds sign and digits by their bytes and cuts the text there.
-/

namespace MediaImport.Text.Integer

/-- An ASCII decimal digit. -/
def isDigit (character : Char) : Bool :=
  '0' ≤ character && character ≤ '9'

/-- The number that decimal digits spell. -/
def value (digits : List Char) : Nat :=
  digits.foldl (fun total digit => total * 10 + (digit.toNat - 0x30)) 0

/-- Split an optional sign from what it applies to; `true` is minus. -/
def splitSign : List Char → Bool × List Char
  | '-' :: rest => (true, rest)
  | '+' :: rest => (false, rest)
  | rest => (false, rest)

/-- Apply a sign to a magnitude. -/
def signed (negative : Bool) (magnitude : Nat) : Int :=
  if negative then -(magnitude : Int) else magnitude

/-- The integer that characters spell, with nothing left over. -/
def ofChars? (characters : List Char) : Option Int :=
  let (negative, digits) := splitSign characters
  if digits.isEmpty || !digits.all isDigit then none
  else some (signed negative (value digits))

/-- The integer that a text spells, when it lies between two bounds. -/
def parse? (lowest highest : Int) (text : String) : Option Int :=
  (ofChars? text.toList).filter fun number => lowest ≤ number && number ≤ highest

/-- The bounds of signed 64-bit words. -/
def parseInt64? (text : String) : Option Int64 :=
  (parse? (-9223372036854775808) 9223372036854775807 text).map Int64.ofInt

/-- Clamp an integer to the range of signed 32-bit words. -/
def clamp32 (number : Int) : Int :=
  max (-2147483648) (min 2147483647 number)

/-! ## The integer at the front -/

/-- Cut characters after so many bytes of their encoding; inside of a character there is no
cut. -/
def cutAfter? : Nat → List Char → Option (List Char × List Char)
  | 0, characters => some ([], characters)
  | _ + 1, [] => none
  | bytes + 1, first :: rest =>
    if first.utf8Size ≤ bytes + 1 then
      (cutAfter? (bytes + 1 - first.utf8Size) rest).map fun (front, back) => (first :: front, back)
    else none

/-- A sign, found by the first byte, and what follows it; `true` is minus. -/
def cutSign? (characters : List Char) : Option (Bool × List Char) :=
  match (Bytes.ofChars characters).head? with
  | some 0x2d => (cutAfter? 1 characters).map fun (_, rest) => (true, rest)
  | some 0x2b => (cutAfter? 1 characters).map fun (_, rest) => (false, rest)
  | _ => some (false, characters)

/-- The digits at the front, found by counting bytes. -/
def cutDigits? (characters : List Char) : Option (List Char) :=
  (cutAfter? ((Bytes.ofChars characters).takeWhile Bytes.isDigit).length characters).map (·.1)

/-- The number that a sign and digits spell.  Digits beyond the signed 64-bit words count as the
greatest of these, and the signed number is clamped to 32 bits. -/
def clampedWord (negative : Bool) (digits : List Char) : Int32 :=
  let magnitude := (parseInt64? (String.ofList digits)).getD Int64.maxValue
  let word := if negative then -magnitude else magnitude
  Int32.ofInt (clamp32 word.toInt)

/-- The integer at the front of some characters, after blanks and one sign.  There is no answer
at all if a cut would go through a character. -/
def readLeading? (characters : List Char) : Option (Option Int32) := do
  let (negative, rest) ← cutSign? (trimStart characters)
  let digits ← cutDigits? rest
  return if digits.isEmpty then none else some (clampedWord negative digits)

/-- The integer at the front of a text, clamped to 32 bits. -/
def leading? (text : String) : Option Int32 :=
  (readLeading? text.toList).join

end MediaImport.Text.Integer
