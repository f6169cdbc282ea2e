import MediaImport.Script.Library.Arguments

/-!
# Mathematical functions

Rounding, signs, extremes, roots and remainders.  Integers stay integers where
that is possible.
-/

namespace MediaImport.Script.Library

open Behaviour

/-- An integer if it fits into a word, otherwise the double. -/
def wholeValue (whole : Option Int) (number : Double) : Value :=
  match whole with
  | some whole =>
    if -9223372036854775808 ≤ whole && whole ≤ 9223372036854775807 then
      .int (Int64.ofInt whole)
    else .float number
  | none => .float number

def floorFunction (arguments : Arguments) : Behaviour (List Value) := do
  match ← arguments.number 1 with
  | .int word => return [.int word]
  | .float number => return [wholeValue number.floor? number.floor]

def ceilingFunction (arguments : Arguments) : Behaviour (List Value) := do
  match ← arguments.number 1 with
  | .int word => return [.int word]
  | .float number => return [wholeValue number.ceiling? number.neg.floor.neg]

def magnitudeFunction (arguments : Arguments) : Behaviour (List Value) := do
  match ← arguments.number 1 with
  | .int word => return [.int (if word < 0 then -word else word)]
  | .float number => return [.float (if number.isNegative then number.neg else number)]

/-- The extreme of the arguments from one on, where `better new old` decides. -/
def extremeFrom (arguments : Arguments) (better : Value → Value → Bool) :
    Nat → Nat → Value → Behaviour Value
  | 0, _, best => done best
  | remaining + 1, index, best => do
    let value := Value.ofNumber (← arguments.number index)
    extremeFrom arguments better remaining (index + 1) (if better value best then value else best)

/-- Whether a number is less than another. -/
def isLess (left right : Value) : Bool :=
  order? left right == some (some .lt)

def extreme (arguments : Arguments) (better : Value → Value → Bool) :
    Behaviour (List Value) := do
  let first := Value.ofNumber (← arguments.number 1)
  return [← extremeFrom arguments better (arguments.values.length - 1) 2 first]

def greatestFunction (arguments : Arguments) : Behaviour (List Value) :=
  extreme arguments fun value best => isLess best value

def leastFunction (arguments : Arguments) : Behaviour (List Value) :=
  extreme arguments isLess

def rootFunction (arguments : Arguments) : Behaviour (List Value) := do
  let number := Value.toDouble (← arguments.number 1)
  return [.float (Double.ofFloat number.toFloat.sqrt)]

/-- The remainder of a division cut off towards zero. -/
def remainderFunction (arguments : Arguments) : Behaviour (List Value) := do
  let left ← arguments.number 1
  let right ← arguments.number 2
  match left, right with
  | .int left, .int right =>
    if right = 0 then arguments.refuse 2 "zero"
    else return [.int (Int64.ofInt (Int.tmod left.toInt right.toInt))]
  | left, right =>
    return [.float ((Value.toDouble left).remainder (Value.toDouble right))]

def wordFunction (arguments : Arguments) : Behaviour (List Value) := do
  let value ← arguments.any 1
  return [((value.asNumber?.bind Value.toWord?).map Value.int).getD .nil]

/-- Whether a number is an integer or a double. -/
def numberTypeFunction (arguments : Arguments) : Behaviour (List Value) := do
  match ← arguments.any 1 with
  | .int _ => return [.ofString "integer"]
  | .float _ => return [.ofString "float"]
  | _ => return [.nil]

/-- Whether a word is less than another when both are read without a sign. -/
def unsignedLessFunction (arguments : Arguments) : Behaviour (List Value) := do
  let left ← arguments.word 1
  let right ← arguments.word 2
  return [.bool (left.toUInt64 < right.toUInt64)]

end MediaImport.Script.Library
