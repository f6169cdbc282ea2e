import MediaImport.Number.Double

/-!
# Decimal text of doubles

Two ways to choose the decimal digits of a finite double, each a `Digits` value
that stands for `digits * 10 ^ exponent`.

`shortest` takes the fewest digits that read back as the same double, and of
those the nearest to it.  The reals that read back as `mantissa * 2 ^ exponent`
form an interval, closed iff the mantissa is even; for each number of digits the
two decimals around the value are tried.

`rounded` takes a fixed number of significant digits, a tie going to the even
digit.

`positional` writes digits without an exponent, however long that is.
-/

namespace MediaImport.Decimal

/-- Decimal digits with a power of ten: `digits * 10 ^ exponent`. -/
structure Digits where
  digits : Nat
  exponent : Int
  deriving DecidableEq

/-- A positive rational number as a quotient. -/
structure Ratio where
  numerator : Nat
  denominator : Nat

namespace Ratio

/-- `mantissa * 2 ^ exponent`. -/
def ofBinary (mantissa : Nat) (exponent : Int) : Ratio :=
  if 0 ≤ exponent then ⟨mantissa * Nat.pow 2 exponent.toNat, 1⟩
  else ⟨mantissa, Nat.pow 2 (-exponent).toNat⟩

/-- Divide by a power of ten. -/
def shiftTen (ratio : Ratio) (exponent : Int) : Ratio :=
  if 0 ≤ exponent then ⟨ratio.numerator, ratio.denominator * Nat.pow 10 exponent.toNat⟩
  else ⟨ratio.numerator * Nat.pow 10 (-exponent).toNat, ratio.denominator⟩

/-- The order of a quotient relative to a natural number. -/
def compareNat (ratio : Ratio) (number : Nat) : Ordering :=
  compare ratio.numerator (number * ratio.denominator)

def floor (ratio : Ratio) : Nat :=
  ratio.numerator / ratio.denominator

end Ratio

/-- The greatest `power` with `10 ^ power ≤ ratio`, searched upward from a lower
bound for at most `fuel` steps. -/
def leadingPowerFrom (ratio : Ratio) : Nat → Int → Int
  | 0, power => power
  | fuel + 1, power =>
    if (ratio.shiftTen (power + 1)).compareNat 1 == .lt then power
    else leadingPowerFrom ratio fuel (power + 1)

/-- The power of ten of the first significant digit of a positive number. -/
def leadingPower (mantissa : Nat) (exponent : Int) : Int :=
  let bits : Int := (Nat.log2 mantissa : Int) + exponent
  -- 1233/4096 is just below the decimal logarithm of two
  leadingPowerFrom (Ratio.ofBinary mantissa exponent) 4
    (Int.fdiv (bits * 1233) 4096 - 1)

/-- The interval of reals that read back as `mantissa * 2 ^ exponent`.  Below a
power of two the doubles lie twice as dense. -/
structure Neighbourhood where
  low : Ratio
  high : Ratio
  closed : Bool

def neighbourhood (mantissa : Nat) (exponent : Int) : Neighbourhood where
  low :=
    if mantissa = Nat.pow 2 52 ∧ exponent ≠ -1074 then
      Ratio.ofBinary (4 * mantissa - 1) (exponent - 2)
    else Ratio.ofBinary (2 * mantissa - 1) (exponent - 1)
  high := Ratio.ofBinary (2 * mantissa + 1) (exponent - 1)
  closed := mantissa % 2 == 0

/-- Whether `digits * 10 ^ exponent` lies in a neighbourhood. -/
def Neighbourhood.holds (near : Neighbourhood) (digits : Nat) (exponent : Int) : Bool :=
  match (near.low.shiftTen exponent).compareNat digits,
      (near.high.shiftTen exponent).compareNat digits with
  | .lt, .gt => true
  | .eq, _ => near.closed
  | _, .eq => near.closed
  | _, _ => false

/-- The decimal on one grid that reads back, if there is one: of the two around
the value the nearer, and the upper one if they are equally near. -/
def onGrid? (value : Ratio) (near : Neighbourhood) (exponent : Int) : Option Digits :=
  let scaled := value.shiftTen exponent
  let below := scaled.floor
  let twice : Ratio := ⟨2 * scaled.numerator, scaled.denominator⟩
  let nearerBelow := twice.compareNat (2 * below + 1) == .lt
  let first := if nearerBelow then below else below + 1
  let second := if nearerBelow then below + 1 else below
  if near.holds first exponent then some ⟨first, exponent⟩
  else if near.holds second exponent then some ⟨second, exponent⟩
  else none

/-- Search the grids of one, two, ... digits. -/
def shortestFrom (value : Ratio) (near : Neighbourhood) : Nat → Int → Digits
  | 0, exponent => ⟨value.shiftTen exponent |>.floor, exponent⟩
  | fuel + 1, exponent =>
    match onGrid? value near exponent with
    | some found => found
    | none => shortestFrom value near fuel (exponent - 1)

/-- The decimal digits of a natural number. -/
def natDigits (number : Nat) : List Char :=
  (toString number).toList

/-- The number of zeros at the end of some digits. -/
def trailingZeros (digits : List Char) : Nat :=
  (digits.reverse.takeWhile (· == '0')).length

/-- Move the zeros at the end of the digits into the exponent. -/
def trim (decimal : Digits) : Digits :=
  let zeros := trailingZeros (natDigits decimal.digits)
  ⟨decimal.digits / Nat.pow 10 zeros, decimal.exponent + zeros⟩

/-- The fewest digits that read back as `mantissa * 2 ^ exponent`; seventeen
always suffice. -/
def shortest (mantissa : Nat) (exponent : Int) : Digits :=
  if mantissa = 0 then ⟨0, 0⟩
  else
    trim <| shortestFrom (Ratio.ofBinary mantissa exponent)
      (neighbourhood mantissa exponent) 17 (leadingPower mantissa exponent)

/-- A number of significant digits of `mantissa * 2 ^ exponent`, to nearest and
a tie to the even digit. -/
def rounded (count mantissa : Nat) (exponent : Int) : Digits :=
  if mantissa = 0 then ⟨0, 0⟩
  else
    let scale := leadingPower mantissa exponent + 1 - count
    let scaled := (Ratio.ofBinary mantissa exponent).shiftTen scale
    let below := scaled.floor
    let twice : Ratio := ⟨2 * scaled.numerator, scaled.denominator⟩
    let up :=
      match twice.compareNat (2 * below + 1) with
      | .lt => false
      | .eq => below % 2 == 1
      | .gt => true
    let digits := if up then below + 1 else below
    if digits = Nat.pow 10 count then ⟨Nat.pow 10 (count - 1), scale + 1⟩ else ⟨digits, scale⟩

/-- Digits without an exponent. -/
def positional (decimal : Digits) : List Char :=
  let digits := natDigits decimal.digits
  if 0 ≤ decimal.exponent then
    if decimal.digits = 0 then digits
    else digits ++ List.replicate decimal.exponent.toNat '0'
  else
    let places := (-decimal.exponent).toNat
    if places < digits.length then
      digits.take (digits.length - places) ++ '.' :: digits.drop (digits.length - places)
    else
      '0' :: '.' :: List.replicate (places - digits.length) '0' ++ digits

end MediaImport.Decimal

namespace MediaImport.Double

/-- A sign followed by characters. -/
def withSign (negative : Bool) (characters : List Char) : String :=
  String.ofList (if negative then '-' :: characters else characters)

/-- The shortest text that reads back, never with an exponent. -/
def plain (number : Double) : String :=
  match number.shape with
  | .nan => "NaN"
  | .infinite => withSign number.isNegative "inf".toList
  | .finite mantissa exponent =>
    withSign number.isNegative
      (Decimal.positional (Decimal.shortest mantissa exponent))

/-- The text of a number in a property: whole numbers below a thousand million
million lose the sign of zero, everything else is written plainly. -/
def asProperty (number : Double) : String :=
  match number.truncate? with
  | some whole =>
    if number.isIntegral && whole.natAbs < 1000000000000000 then toString whole
    else number.plain
  | none => number.plain

/-- Fourteen significant digits without trailing zeros, with an exponent of at
least two digits below a ten-thousandth and from a hundred million million on. -/
def general (number : Double) : List Char :=
  match number.shape with
  | .nan => "nan".toList
  | .infinite => "inf".toList
  | .finite mantissa exponent =>
    if mantissa = 0 then ['0']
    else
      let decimal := Decimal.trim (Decimal.rounded 14 mantissa exponent)
      let digits := Decimal.natDigits decimal.digits
      let power := decimal.exponent + digits.length - 1
      if -4 ≤ power && power < 14 then Decimal.positional decimal
      else
        let fraction := digits.drop 1
        let magnitude := Decimal.natDigits power.natAbs
        let padded := if magnitude.length < 2 then '0' :: magnitude else magnitude
        digits.take 1 ++ (if fraction.isEmpty then [] else '.' :: fraction) ++
          'e' :: (if power < 0 then '-' else '+') :: padded

/-- The text of a number in a script: a whole number keeps a mark that it is not
an integer. -/
def asScriptText (number : Double) : String :=
  let characters := number.general
  let marked :=
    if characters.all fun c => '0' ≤ c && c ≤ '9' then characters ++ ['.', '0']
    else characters
  withSign number.isNegative marked

end MediaImport.Double
