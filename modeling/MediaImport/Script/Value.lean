import MediaImport.Number.Decimal
import MediaImport.Number.Numeral
import MediaImport.Settings.Conversion

/-!
# Script values

The values that scripts compute with.  Numbers are integer words or doubles;
strings are bytes.  Tables, functions, coroutines and failures that crossed into
a script are referred to by a number that the heap resolves, so that equality of
values is identity of what they refer to.  What a handle refers to, such as an
open file, is outside scripts.

Table keys are ordered with integers first, ascending, then strings by bytes,
then everything else.  The order is total on all values; the keys of a table are
kept in it.
-/

namespace MediaImport.Script

/-- The functions of the script library that are written out here. -/
inductive Routine where
  | print
  | assert
  | error
  | pcall
  | xpcall
  | type
  | toText
  | toNumber
  | select
  | ipairs
  | ipairsStep
  | pairs
  | next
  | rawGet
  | rawSet
  | rawEqual
  | rawLength
  | getMetatable
  | setMetatable
  | load
  | stringByte
  | stringChar
  | stringFind
  | stringGmatch
  | stringGsub
  | stringLength
  | stringLower
  | stringMatch
  | stringRep
  | stringReverse
  | stringSub
  | stringUpper
  | tableConcat
  | tableInsert
  | tableRemove
  | tablePack
  | tableUnpack
  | tableSort
  | mathAbs
  | mathCeil
  | mathFloor
  | mathMax
  | mathMin
  | mathSqrt
  | mathFmod
  | mathToInteger
  | mathType
  | mathUlt
  | utf8Char
  | coroutineCreate
  | coroutineResume
  | coroutineYield
  | coroutineStatus
  | coroutineClose
  | coroutineWrap
  | coroutineIsYieldable
  | coroutineRunning
  | osExit
  deriving DecidableEq

/-- The functions that the importing application offers to scripts. -/
inductive HostFunction where
  | print
  | addObject
  | copyObject
  | convert (flavor : Flavor)
  deriving DecidableEq

/-- A function of the script library that is only named here. -/
structure Foreign where
  /-- The library that it belongs to, if any. -/
  library : Option String
  name : String
  deriving DecidableEq

/-- A name with the name of its library. -/
def qualified : Option String → String → String
  | some library, name => library ++ "." ++ name
  | none, name => name

/-- A function that is not written in a script. -/
inductive Native where
  | routine (routine : Routine)
  | host (function : HostFunction)
  /-- The iterator over the matches that a search has still to find. -/
  | iterator (search : Nat)
  /-- The function that resumes a coroutine. -/
  | wrapped (thread : Nat)
  | foreign (function : Foreign)
  /-- A function that does nothing, such as tables from outside may hold. -/
  | idle
  deriving DecidableEq

/-- A script value. -/
inductive Value where
  | nil
  | bool (value : Bool)
  | int (value : Int64)
  | float (value : Double)
  | str (value : Bytes)
  | table (id : Nat)
  | closure (id : Nat)
  | native (function : Native)
  | thread (id : Nat)
  /-- A failure of the application, as scripts hold it. -/
  | fault (id : Nat)
  /-- Something outside scripts, such as an open file. -/
  | handle (id : Nat)
  deriving DecidableEq

/-! ## The order of keys -/

/-- A number for each flavor. -/
def flavorCode : Flavor → Nat
  | .filesystem => 0
  | .metadata => 1
  | .playlist => 2
  | .script => 3
  | .internal => 4

namespace Native

/-- A number for each native function, the same one for all foreign functions. -/
def code : Native → Nat
  | .routine which => 5 * which.ctorIdx
  | .host .print => 1
  | .host .addObject => 6
  | .host .copyObject => 11
  | .host (.convert flavor) => 16 + 5 * flavorCode flavor
  | .iterator search => 5 * search + 2
  | .wrapped thread => 5 * thread + 3
  | .foreign _ => 4
  | .idle => 9

end Native

namespace Value

/-- The place of a kind of value among keys. -/
def rank : Value → Nat
  | .int _ => 0
  | .str _ => 1
  | .bool _ => 2
  | .float _ => 3
  | .table _ => 4
  | .closure _ => 5
  | .native _ => 6
  | .thread _ => 7
  | .fault _ => 8
  | .handle _ => 9
  | .nil => 10

/-- The number that tells values of one kind apart, for kinds other than strings. -/
def number : Value → Int
  | .int value => value.toInt
  | .bool value => if value then 1 else 0
  | .float value => value.bits.toNat
  | .table id => id
  | .closure id => id
  | .native function => function.code
  | .thread id => id
  | .fault id => id
  | .handle id => id
  | .str _ => 0
  | .nil => 0

/-- The bytes that tell strings apart, and foreign functions. -/
def bytes : Value → Bytes
  | .str value => value
  | .native (.foreign function) => Bytes.ofString (qualified function.library function.name)
  | _ => []

/-- The order in which a table keeps its keys. -/
def order : Value → Value → Ordering :=
  compareLex (compareOn rank) (compareLex (compareOn number) (compareOn bytes))

/-! ## Common forms -/

/-- The string value of a text. -/
def ofString (text : String) : Value :=
  .str (Bytes.ofString text)

def ofInt32 (number : Int32) : Value :=
  .int number.toInt64

/-- Zero for false and one for true. -/
def ofFlag (flag : Bool) : Value :=
  .int (if flag then 1 else 0)

/-- Everything counts as true but nil and false. -/
def isTrue : Value → Bool
  | .nil => false
  | .bool value => value
  | _ => true

def ofNumber : Numeral.Number → Value
  | .int value => .int value
  | .float value => .float value

/-- The first of some values. -/
def first : List Value → Value
  | [] => .nil
  | value :: _ => value

/-- The name of the type of a value, as scripts see it. -/
def typeName : Value → String
  | .nil => "nil"
  | .bool _ => "boolean"
  | .int _ => "number"
  | .float _ => "number"
  | .str _ => "string"
  | .table _ => "table"
  | .closure _ => "function"
  | .native _ => "function"
  | .thread _ => "thread"
  | .fault _ => "userdata"
  | .handle _ => "userdata"

/-- The text of a number. -/
def numberText? : Value → Option Bytes
  | .int value => some (Bytes.ofString (toString value.toInt))
  | .float value => some (Bytes.ofString value.asScriptText)
  | _ => none

/-- A string, or a number written as one. -/
def asText? : Value → Option Bytes
  | .str value => some value
  | value => value.numberText?

/-- A number, or a string that spells one. -/
def asNumber? : Value → Option Numeral.Number
  | .int value => some (.int value)
  | .float value => some (.float value)
  | .str value => Numeral.script? value
  | _ => none

/-- The integer that a double is, if it fits. -/
def wholeWord? (number : Double) : Option Int64 :=
  if number.isIntegral then
    number.truncate?.bind fun whole =>
      if -9223372036854775808 ≤ whole && whole ≤ 9223372036854775807 then
        some (Int64.ofInt whole)
      else none
  else none

/-- The double of a number. -/
def toDouble : Numeral.Number → Double
  | .int value => Double.ofInt value.toInt
  | .float value => value

/-- The integer of a number without a fraction. -/
def toWord? : Numeral.Number → Option Int64
  | .int value => some value
  | .float value => wholeWord? value

/-- A value as a table key: a double that is an integer is that integer. -/
def asKey : Value → Value
  | .float value =>
    match wholeWord? value with
    | some whole => .int whole
    | none => .float value
  | value => value

/-- Equality as scripts see it, without metamethods: numbers by their value. -/
def same : Value → Value → Bool
  | .int left, .int right => left == right
  | .float left, .float right => left.sameNumber right
  | .int left, .float right => right.orderInt? left.toInt == some .eq
  | .float left, .int right => left.orderInt? right.toInt == some .eq
  | left, right => left = right

end Value

end MediaImport.Script
