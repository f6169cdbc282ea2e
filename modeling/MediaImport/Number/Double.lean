/-!
# Double-precision numbers

A double is kept as its 64 bits.  Equality of doubles as data is therefore
equality of bits: a number that is not a number equals itself and keeps its
sign, and the two zeros differ.  What a double denotes is read off by `shape`,
and everything about its value (truncation, exact comparison, decimal text) is
done in integers from there.

`ofScaled` and `ofRatio` go the other way and round to the nearest double, a
tie to the even one.  A sum is computed exactly and then rounded; products and
quotients use the arithmetic of `Float`.
-/

namespace MediaImport

/-- The bits of a double-precision number. -/
structure Double where
  bits : UInt64
  deriving DecidableEq

namespace Double

/-- What a double denotes: no number, an infinity, or plus or minus
`mantissa * 2 ^ exponent`. -/
inductive Shape where
  | nan
  | infinite
  | finite (mantissa : Nat) (exponent : Int)

/-- The sign bit. -/
def isNegative (number : Double) : Bool :=
  0x8000000000000000 ≤ number.bits

/-- The denotation of a double without its sign. -/
def shape (number : Double) : Shape :=
  let magnitude : Nat := number.bits.toNat % Nat.pow 2 63
  let scale : Nat := magnitude / Nat.pow 2 52
  let fraction : Nat := magnitude % Nat.pow 2 52
  if scale = 2047 then
    if fraction = 0 then .infinite else .nan
  else if scale = 0 then .finite fraction (-1074)
  else .finite (Nat.pow 2 52 + fraction) ((scale : Int) - 1075)

def isNaN (number : Double) : Bool :=
  match number.shape with
  | .nan => true
  | _ => false

def isFinite (number : Double) : Bool :=
  match number.shape with
  | .finite _ _ => true
  | _ => false

/-- Attach a sign to the bits of a magnitude below `2 ^ 63`. -/
def ofMagnitude (negative : Bool) (magnitude : Nat) : Double :=
  ⟨UInt64.ofNat (if negative then magnitude + Nat.pow 2 63 else magnitude)⟩

/-- The two infinities. -/
def infinity (negative : Bool) : Double :=
  ofMagnitude negative (2047 * Nat.pow 2 52)

/-- The result of an operation that has no value, which carries a minus sign. -/
def undefined : Double :=
  ⟨0xfff8000000000000⟩

/-- The positive value that is not a number, as read from text. -/
def nan : Double :=
  ⟨0x7ff8000000000000⟩

/-- Drop low bits of a mantissa, rounding to nearest and a tie to even. -/
def shiftRound (mantissa shift : Nat) : Nat :=
  let quotient := mantissa / Nat.pow 2 shift
  let remainder := mantissa % Nat.pow 2 shift
  if 2 * remainder > Nat.pow 2 shift || (2 * remainder == Nat.pow 2 shift && quotient % 2 == 1)
  then quotient + 1
  else quotient

/-- The double nearest to plus or minus `mantissa * 2 ^ exponent`. -/
def ofScaled (negative : Bool) (mantissa : Nat) (exponent : Int) : Double :=
  if mantissa = 0 then ofMagnitude negative 0
  else
    let target := max (exponent + Nat.log2 mantissa - 52) (-1074)
    let rounded :=
      if target ≤ exponent then mantissa * Nat.pow 2 (exponent - target).toNat
      else shiftRound mantissa (target - exponent).toNat
    if rounded < Nat.pow 2 52 then ofMagnitude negative rounded
    else
      let magnitude := (target + 1074).toNat * Nat.pow 2 52 + rounded
      if 2047 * Nat.pow 2 52 ≤ magnitude then infinity negative
      else ofMagnitude negative magnitude

/-- The double nearest to plus or minus a quotient of natural numbers. -/
def ofRatio (negative : Bool) (numerator denominator : Nat) : Double :=
  let shift := 64 + Nat.log2 denominator
  let scaled := numerator * Nat.pow 2 shift
  let sticky := if scaled % denominator = 0 then 0 else 1
  ofScaled negative (2 * (scaled / denominator) + sticky) (-(shift : Int) - 1)

/-- The double nearest to plus or minus `digits * 10 ^ exponent`.  Exponents far
outside the range of doubles are settled without computing the power. -/
def ofDecimal (negative : Bool) (digits : Nat) (exponent : Int) : Double :=
  if digits = 0 then ofMagnitude negative 0
  else if exponent > 400 then infinity negative
  else if 0 ≤ exponent then ofScaled negative (digits * Nat.pow 10 exponent.toNat) 0
  else if exponent + (Nat.log2 digits : Int) < -400 then ofMagnitude negative 0
  else ofRatio negative digits (Nat.pow 10 (-exponent).toNat)

/-- The double nearest to an integer. -/
def ofInt (number : Int) : Double :=
  ofScaled (number < 0) number.natAbs 0

/-- Apply the sign of a double to a magnitude. -/
def signed (number : Double) (magnitude : Nat) : Int :=
  if number.isNegative then -(magnitude : Int) else magnitude

/-- Flip the sign. -/
def neg (number : Double) : Double :=
  ⟨number.bits ^^^ 0x8000000000000000⟩

/-- The sum: that of the exact values, rounded.  A sum of zero carries a minus sign only if
both numbers do. -/
def add (left right : Double) : Double :=
  match left.shape, right.shape with
  | .nan, _ => left
  | _, .nan => right
  | .infinite, .infinite => if left.isNegative = right.isNegative then left else undefined
  | .infinite, _ => left
  | _, .infinite => right
  | .finite mantissa exponent, .finite other scale =>
    let base := min exponent scale
    let total :=
      left.signed (mantissa * Nat.pow 2 (exponent - base).toNat) +
        right.signed (other * Nat.pow 2 (scale - base).toNat)
    if total = 0 then ofMagnitude (left.isNegative && right.isNegative) 0
    else ofScaled (total < 0) total.natAbs base

def sub (left right : Double) : Double :=
  if left.isNaN then left
  else if right.isNaN then right
  else add left right.neg

/-- The value of a finite double with its fraction cut off. -/
def truncate? (number : Double) : Option Int :=
  match number.shape with
  | .finite mantissa exponent =>
    some <| number.signed <|
      if 0 ≤ exponent then mantissa * Nat.pow 2 exponent.toNat
      else mantissa / Nat.pow 2 (-exponent).toNat
  | _ => none

/-- A finite double without a fraction. -/
def isIntegral (number : Double) : Bool :=
  match number.shape with
  | .finite mantissa exponent =>
    0 ≤ exponent || mantissa % Nat.pow 2 (-exponent).toNat == 0
  | _ => false

/-- The value of a finite double rounded down. -/
def floor? (number : Double) : Option Int :=
  number.truncate?.map fun truncated =>
    if number.isNegative && !number.isIntegral then truncated - 1 else truncated

/-- The value of a finite double rounded up. -/
def ceiling? (number : Double) : Option Int :=
  number.truncate?.map fun truncated =>
    if !number.isNegative && !number.isIntegral then truncated + 1 else truncated

/-- A number that counts as false where truth is asked for: a zero or no number. -/
def isZeroOrNaN (number : Double) : Bool :=
  match number.shape with
  | .nan => true
  | .infinite => false
  | .finite mantissa _ => mantissa == 0

/-- The order of a finite double relative to an integer. -/
def compareInt (mantissa : Int) (exponent : Int) (number : Int) : Ordering :=
  if 0 ≤ exponent then compare (mantissa * Nat.pow 2 exponent.toNat) number
  else compare mantissa (number * (Nat.pow 2 (-exponent).toNat : Nat))

/-- The order of a double relative to an integer, unless it is no number. -/
def orderInt? (number : Double) (other : Int) : Option Ordering :=
  match number.shape with
  | .nan => none
  | .infinite => some (if number.isNegative then .lt else .gt)
  | .finite mantissa exponent =>
    some (compareInt (number.signed mantissa) exponent other)

/-- The arithmetic value. -/
def toFloat (number : Double) : Float :=
  Float.ofBits number.bits

/-- The double for an arithmetic value. -/
def ofFloat (number : Float) : Double :=
  if number.isNaN then undefined else ⟨number.toBits⟩

/-- Lift an operation on numbers; a value that is not a number passes through. -/
def lift (operation : Float → Float → Float) (left right : Double) : Double :=
  if left.isNaN then left
  else if right.isNaN then right
  else ofFloat (operation left.toFloat right.toFloat)

def mul : Double → Double → Double := lift (· * ·)

def div : Double → Double → Double := lift (· / ·)

/-- A power; a base of one and an exponent of zero give one whatever the other is. -/
def pow (base exponent : Double) : Double :=
  if base = ofInt 1 || exponent = ofInt 0 || exponent = ofMagnitude true 0 then ofInt 1
  else lift Float.pow base exponent

/-- Whether two doubles are equal as numbers. -/
def sameNumber (left right : Double) : Bool :=
  left.toFloat == right.toFloat

def lt (left right : Double) : Bool :=
  left.toFloat < right.toFloat

def le (left right : Double) : Bool :=
  left.toFloat ≤ right.toFloat

/-- Round down to a whole double. -/
def floor (number : Double) : Double :=
  match number.floor? with
  | none => number
  | some whole => if number.isIntegral then number else ofInt whole

/-- The exact remainder of a division rounded toward zero, with the sign of the
dividend. -/
def remainder (left right : Double) : Double :=
  match left.shape, right.shape with
  | .nan, _ => left
  | _, .nan => right
  | .infinite, _ => undefined
  | _, .infinite => left
  | .finite mantissa exponent, .finite divisor scale =>
    if divisor = 0 then undefined
    else
      let base := min exponent scale
      let dividend := mantissa * Nat.pow 2 (exponent - base).toNat
      let step := divisor * Nat.pow 2 (scale - base).toNat
      ofScaled left.isNegative (dividend % step) base

/-- The remainder that belongs to division rounded down: it has the sign of the
divisor. -/
def modulo (left right : Double) : Double :=
  let rest := remainder left right
  if rest.isZeroOrNaN then rest
  else if rest.isNegative != right.isNegative then add rest right
  else rest

end Double

end MediaImport
