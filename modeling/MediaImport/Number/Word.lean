import MediaImport.Number.Double

/-!
# Doubles as machine words

Two ways to make a signed word of a double.  Both cut off the fraction first.

`cut64` takes the nearest word of 64 bits.  `wrapped32` takes the word of 32 bits that
differs from the number by a multiple of `2 ^ 32`: the remainder that belongs to division
rounded down, less `2 ^ 32` where it is `2 ^ 31` or more.  All of that is arithmetic of
doubles.  What is not a finite number comes to zero.
-/

namespace MediaImport.Double

/-- A double with its fraction cut off. -/
def whole (number : Double) : Double :=
  match number.shape with
  | .finite mantissa exponent =>
    if 0 ≤ exponent then number
    else ofScaled number.isNegative (mantissa / Nat.pow 2 (-exponent).toNat) 0
  | _ => number

/-- The remainder of a division by a positive double that is not negative itself. -/
def residue (left right : Double) : Double :=
  let rest := remainder left right
  if (rest.orderInt? 0).any (·.isLT) then add rest right else rest

/-- An integer, or the nearest bound where it lies outside. -/
def clamp (least greatest number : Int) : Int :=
  max least (min greatest number)

/-- The integer nearest to a double between two bounds, its fraction cut off. -/
def clamped (least greatest : Int) (number : Double) : Int :=
  match number.shape with
  | .nan => 0
  | .infinite => if number.isNegative then least else greatest
  | .finite _ _ => clamp least greatest (number.truncate?.getD 0)

def clamped32 (number : Double) : Int32 :=
  .ofInt (number.clamped (-2147483648) 2147483647)

def clamped64 (number : Double) : Int64 :=
  .ofInt (number.clamped (-9223372036854775808) 9223372036854775807)

/-- The number of words of 32 bits. -/
def wordSpan : Double := ofInt 4294967296

def wrapped32 (number : Double) : Int32 :=
  if number.isFinite then
    let rest := number.whole.residue wordSpan
    if (rest.orderInt? 2147483648).any (·.isGE) then (sub rest wordSpan).clamped32
    else rest.clamped32
  else 0

def cut64 (number : Double) : Int64 :=
  if number.isFinite then number.whole.clamped64 else 0

end MediaImport.Double
