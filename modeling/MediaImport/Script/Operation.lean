import MediaImport.Script.Behaviour

/-!
# Operations on values

Reading and storing under keys, arithmetic, comparison, concatenation, length
and text, with the metamethods that tables can answer them with.

An operation is given the place it stands at and the words that describe its
operands there; both go into the error message when the operands do not fit.
Inside the script library there is no place and no description.
-/

namespace MediaImport.Script

open Behaviour

/-- Where an operation stands, and how its operands are described there. -/
structure Operands where
  site : Option Site := none
  left : Bytes := []
  right : Bytes := []

namespace Value

/-- A value that is called directly. -/
def isFunction : Value → Bool
  | .closure _ => true
  | .native _ => true
  | _ => false

/-- The name of a value's type in error messages; a metatable may give another. -/
def typeNameIn (heap : Heap) (value : Value) : Bytes :=
  let plain := Bytes.ofString value.typeName
  match value with
  | .table _ | .handle _ =>
    match heap.metamethod value "__name" with
    | .str name => name
    | _ => plain
  | _ => plain

end Value

/-- Words that describe a value, in parentheses. -/
def described (subject : Bytes) : Bytes :=
  if subject.isEmpty then [] else Bytes.ofString " (" ++ subject ++ Bytes.ofString ")"

/-- Stop because a value cannot take part in an operation. -/
def refuseType {α : Type} (site : Option Site) (operation : String) (value : Value)
    (subject : Bytes) : Behaviour α := do
  let type ← look fun heap => value.typeNameIn heap
  complain site <|
    Bytes.ofString ("attempt to " ++ operation ++ " a ") ++ type ++ Bytes.ofString " value" ++
      described subject

/-! ## Keys -/

/-- How many metatables a read or a store may pass through. -/
def chainLimit : Nat := 2000

/-- Read under a key, passing through at most so many metatables. -/
def indexFrom (site : Option Site) : Nat → Value → Value → Bytes → Behaviour Value
  | 0, _, _, _ =>
    complain site (Bytes.ofString "'__index' chain too long; possibly a loop")
  | steps + 1, value, key, subject => do
    let (found, handler) ← look fun heap =>
      match value with
      | .table id =>
        match heap.rawGet id key with
        | .nil => (Value.nil, heap.metamethod value "__index")
        | found => (found, Value.nil)
      | _ => (Value.nil, heap.metamethod value "__index")
    match value, handler with
    | .table _, .nil => return found
    | _, .nil => refuseType site "index" value subject
    | _, _ =>
      if handler.isFunction then
        Value.first <$> call site handler [value, key] done
      else indexFrom site steps handler key []

/-- The value under a key. -/
def index (site : Option Site) (value key : Value) (subject : Bytes) : Behaviour Value :=
  indexFrom site chainLimit value key subject

/-- Why a value cannot be a key, if it cannot. -/
def badKey? : Value → Option String
  | .nil => some "table index is nil"
  | .float value => if value.isNaN then some "table index is NaN" else none
  | _ => none

/-- Store under a key, passing through at most so many metatables. -/
def storeFrom (site : Option Site) :
    Nat → Value → Value → Value → Bytes → Behaviour Unit
  | 0, _, _, _, _ =>
    complain site (Bytes.ofString "'__newindex' chain too long; possibly a loop")
  | steps + 1, value, key, stored, subject => do
    let (present, handler) ← look fun heap =>
      match value with
      | .table id => (decide (heap.rawGet id key ≠ Value.nil), heap.metamethod value "__newindex")
      | _ => (false, heap.metamethod value "__newindex")
    match value, present || handler == Value.nil with
    | .table id, true =>
      match badKey? key with
      | some reason => complain site (Bytes.ofString reason)
      | none => rawSet id key stored
    | _, true => refuseType site "index" value subject
    | _, false =>
      if handler.isFunction then
        call site handler [value, key, stored] fun _ => done ()
      else storeFrom site steps handler key stored []

/-- Store a value under a key. -/
def store (site : Option Site) (value key stored : Value) (subject : Bytes) :
    Behaviour Unit :=
  storeFrom site chainLimit value key stored subject

/-! ## Arithmetic -/

namespace BinaryOperator

/-- The metamethod that answers an operator. -/
def event : BinaryOperator → String
  | add => "__add"
  | subtract => "__sub"
  | multiply => "__mul"
  | divide => "__div"
  | floorDivide => "__idiv"
  | modulo => "__mod"
  | power => "__pow"
  | concatenate => "__concat"
  | bitAnd => "__band"
  | bitOr => "__bor"
  | bitXor => "__bxor"
  | shiftLeft => "__shl"
  | shiftRight => "__shr"
  | equal => "__eq"
  | unequal => "__eq"
  | less => "__lt"
  | greater => "__lt"
  | lessEqual => "__le"
  | greaterEqual => "__le"
  | _ => ""

def isBitwise : BinaryOperator → Bool
  | bitAnd | bitOr | bitXor | shiftLeft | shiftRight => true
  | _ => false

end BinaryOperator

/-- Shift to the left, filling with zeros; a negative distance shifts to the right. -/
def shiftWord (value distance : Int64) : Int64 :=
  let bits := value.toUInt64
  let places := distance.toInt.natAbs
  if 64 ≤ places then 0
  else if 0 ≤ distance then (bits <<< UInt64.ofNat places).toInt64
  else (bits >>> UInt64.ofNat places).toInt64

/-- A bitwise operation on words. -/
def bitwise (operator : BinaryOperator) (left right : Int64) : Int64 :=
  match operator with
  | .bitAnd => left &&& right
  | .bitOr => left ||| right
  | .bitXor => left ^^^ right
  | .shiftLeft => shiftWord left right
  | _ => if right = Int64.minValue then 0 else shiftWord left (-right)

/-- An arithmetic operation on words, wrapping around; a divisor of zero has no
result. -/
def wordArithmetic? (operator : BinaryOperator) (left right : Int64) :
    Except String Value :=
  match operator with
  | .add => .ok (.int (left + right))
  | .subtract => .ok (.int (left - right))
  | .multiply => .ok (.int (left * right))
  | .floorDivide =>
    if right = 0 then .error "attempt to perform 'n//0'"
    else .ok (.int (Int64.ofInt (Int.fdiv left.toInt right.toInt)))
  | .modulo =>
    if right = 0 then .error "attempt to perform 'n%%0'"
    else .ok (.int (Int64.ofInt (Int.fmod left.toInt right.toInt)))
  | .divide => .ok (.float (Double.div (.ofInt left.toInt) (.ofInt right.toInt)))
  | _ => .ok (.float (Double.pow (.ofInt left.toInt) (.ofInt right.toInt)))

/-- An arithmetic operation on doubles. -/
def doubleArithmetic (operator : BinaryOperator) (left right : Double) : Double :=
  match operator with
  | .add => left.add right
  | .subtract => left.sub right
  | .multiply => left.mul right
  | .divide => left.div right
  | .floorDivide => (left.div right).floor
  | .modulo => left.modulo right
  | _ => left.pow right

/-- An arithmetic operation on numbers; words stay words. -/
def numberArithmetic (operator : BinaryOperator) (left right : Numeral.Number) :
    Except String Value :=
  match left, right with
  | .int left, .int right => wordArithmetic? operator left right
  | left, right =>
    .ok (.float (doubleArithmetic operator (Value.toDouble left) (Value.toDouble right)))

/-- The metamethod of the first operand that has one. -/
def binaryHandler (event : String) (left right : Value) : Behaviour Value :=
  look fun heap =>
    match heap.metamethod left event with
    | .nil => heap.metamethod right event
    | handler => handler

def isString : Value → Bool
  | .str _ => true
  | _ => false

def isNumber : Value → Bool
  | .int _ => true
  | .float _ => true
  | _ => false

/-- Stop because operands do not fit: the first one that is not a number is to blame. -/
def refuseOperands {α : Type} (operands : Operands) (operation : String)
    (left right : Value) : Behaviour α :=
  if isNumber left then refuseType operands.site operation right operands.right
  else refuseType operands.site operation left operands.left

/-- Stop because a number is not an integer. -/
def refuseFraction {α : Type} (operands : Operands) (left : Numeral.Number) :
    Behaviour α :=
  let subject := if (Value.toWord? left).isSome then operands.right else operands.left
  complain operands.site <|
    Bytes.ofString "number" ++ described subject ++
      Bytes.ofString " has no integer representation"

/-- A bitwise operation; strings do not take part. -/
def bitOperation (operands : Operands) (operator : BinaryOperator) (left right : Value) :
    Behaviour Value := do
  let words : Option (Int64 × Int64) :=
    match left, right with
    | .str _, _ => none
    | _, .str _ => none
    | _, _ => do
      let left ← left.asNumber?
      let right ← right.asNumber?
      return (← Value.toWord? left, ← Value.toWord? right)
  match words with
  | some (left, right) => return .int (bitwise operator left right)
  | none =>
    match ← binaryHandler operator.event left right with
    | .nil =>
      match left, right with
      | .int value, .float _ => refuseFraction operands (.int value)
      | .float value, .float _ => refuseFraction operands (.float value)
      | .float value, .int _ => refuseFraction operands (.float value)
      | _, _ => refuseOperands operands "perform bitwise operation on" left right
    | handler => Value.first <$> call operands.site handler [left, right] done

/-- Stop because strings take part in arithmetic that are not all numbers. -/
def refuseStrings {α : Type} (site : Option Site) (event : String) (left right : Value) :
    Behaviour α :=
  let operation := String.ofList (event.toList.drop 2)
  complain site <| Bytes.ofString <|
    "attempt to " ++ operation ++ " a '" ++ left.typeName ++ "' with a '" ++
      right.typeName ++ "'"

/-- Arithmetic on operands that are not both numbers.  The metamethod of the first
operand that has one decides.  Strings have one of their own, which leaves the
matter to the second operand unless that is a string too. -/
def arithmeticByHandler (operands : Operands) (event : String) (left right : Value) :
    Behaviour Value := do
  let (leftHandler, rightHandler) ← look fun heap =>
    (heap.metamethod left event, heap.metamethod right event)
  let callHandler (handler : Value) : Behaviour Value :=
    Value.first <$> call operands.site handler [left, right] done
  if leftHandler ≠ .nil then callHandler leftHandler
  else if isString left || isString right then
    if rightHandler ≠ .nil then callHandler rightHandler
    else refuseStrings operands.site event left right
  else if rightHandler ≠ .nil then callHandler rightHandler
  else refuseOperands operands "perform arithmetic on" left right

/-- An arithmetic operation; strings that spell numbers take part. -/
def arithmetic (operands : Operands) (operator : BinaryOperator) (left right : Value) :
    Behaviour Value := do
  match left.asNumber?, right.asNumber? with
  | some leftNumber, some rightNumber =>
    match numberArithmetic operator leftNumber rightNumber with
    | .ok result => return result
    | .error reason => complain operands.site (Bytes.ofString reason)
  | _, _ => arithmeticByHandler operands operator.event left right

/-- Join two strings; numbers count as their text. -/
def concatenate (operands : Operands) (left right : Value) : Behaviour Value := do
  match left.asText?, right.asText? with
  | some leftText, some rightText => return .str (leftText ++ rightText)
  | leftText, _ =>
    match ← binaryHandler "__concat" left right with
    | .nil =>
      if leftText.isSome then refuseType operands.site "concatenate" right operands.right
      else refuseType operands.site "concatenate" left operands.left
    | handler => Value.first <$> call operands.site handler [left, right] done

/-! ## Comparison -/

/-- The order of two numbers, unless one of them is no number. -/
def numberOrder? : Numeral.Number → Numeral.Number → Option Ordering
  | .int left, .int right => some (compare left right)
  | .int left, .float right => (right.orderInt? left.toInt).map Ordering.swap
  | .float left, .int right => left.orderInt? right.toInt
  | .float left, .float right =>
    if left.lt right then some .lt
    else if left.sameNumber right then some .eq
    else if right.lt left then some .gt
    else none

/-- The order of two numbers or two strings; `none` if they have no order, and
nothing at all if they are neither. -/
def order? (left right : Value) : Option (Option Ordering) :=
  match left, right with
  | .str left, .str right => some (some (compare left right))
  | .str _, _ => none
  | _, .str _ => none
  | left, right => do
    let left ← left.asNumber?
    let right ← right.asNumber?
    return numberOrder? left right

/-- Stop because two values cannot be compared. -/
def refuseComparison {α : Type} (site : Option Site) (left right : Value) :
    Behaviour α := do
  let (leftType, rightType) ← look fun heap =>
    (left.typeNameIn heap, right.typeNameIn heap)
  complain site <|
    if leftType = rightType then
      Bytes.ofString "attempt to compare two " ++ leftType ++ Bytes.ofString " values"
    else
      Bytes.ofString "attempt to compare " ++ leftType ++ Bytes.ofString " with " ++ rightType

/-- Compare by order; `orEqual` accepts equal values too. -/
def compareValues (site : Option Site) (orEqual : Bool) (left right : Value) :
    Behaviour Bool := do
  match order? left right with
  | some (some .lt) => return true
  | some (some .eq) => return orEqual
  | some _ => return false
  | none =>
    match ← binaryHandler (if orEqual then "__le" else "__lt") left right with
    | .nil => refuseComparison site left right
    | handler => call site handler [left, right] fun results => done (Value.first results).isTrue

/-- Equality; two tables may be made equal by a metamethod. -/
def equalValues (site : Option Site) (left right : Value) : Behaviour Bool := do
  match left, right with
  | .table _, .table _ =>
    if left = right then return true
    else
      match ← binaryHandler "__eq" left right with
      | .nil => return false
      | handler =>
        call site handler [left, right] fun results => done (Value.first results).isTrue
  | _, _ => return left.same right

/-! ## Single operands -/

/-- Change the sign of a number. -/
def negate (operands : Operands) (value : Value) : Behaviour Value := do
  match value.asNumber? with
  | some (.int word) => return .int (-word)
  | some (.float number) => return .float number.neg
  | none => arithmeticByHandler { operands with right := operands.left } "__unm" value value

/-- Flip the bits of an integer. -/
def bitNot (operands : Operands) (value : Value) : Behaviour Value := do
  match value with
  | .int word => return .int (~~~word)
  | _ =>
    let word? :=
      match value with
      | .float number => Value.wholeWord? number
      | _ => none
    match word? with
    | some word => return .int (~~~word)
    | none =>
      match ← look fun heap => heap.metamethod value "__bnot" with
      | .nil =>
        match value with
        | .float number => refuseFraction operands (.float number)
        | _ => refuseType operands.site "perform bitwise operation on" value operands.left
      | handler => Value.first <$> call operands.site handler [value, value] done

/-- The number of bytes of a string or of items of a table. -/
def lengthOf (operands : Operands) (value : Value) : Behaviour Value := do
  match value with
  | .str text => return .int (Int64.ofNat text.length)
  | _ =>
    match ← look fun heap => heap.metamethod value "__len" with
    | .nil =>
      match value with
      | .table id => look fun heap => .int (heap.table id).length
      | _ => refuseType operands.site "get length of" value operands.left
    | handler => Value.first <$> call operands.site handler [value] done

/-! ## Text -/

/-- A number that looks like an address. -/
def addressText (id : Nat) : Bytes :=
  Bytes.ofString "0x" ++ Bytes.ofChars (Nat.toDigits 16 (0x560000000000 + 16 * id))

/-- The number of what a value refers to. -/
def identity : Value → Nat
  | .table id => id
  | .closure id => id
  | .thread id => id
  | .fault id => id
  | .handle id => id
  | .native function => function.code
  | _ => 0

/-- The text of a value without metamethods. -/
def plainText (heap : Heap) (value : Value) : Bytes :=
  match value with
  | .nil => Bytes.ofString "nil"
  | .bool true => Bytes.ofString "true"
  | .bool false => Bytes.ofString "false"
  | .str text => text
  | .fault id =>
    match heap.faults.get? id with
    | some failure => Bytes.ofString failure.message
    | none => []
  | .handle id => heap.world.text heap.world.calls id
  | _ =>
    match value.numberText? with
    | some text => text
    | none =>
      value.typeNameIn heap ++ Bytes.ofString ": " ++ addressText (identity value)

/-- The text of a value. -/
def describe (value : Value) : Behaviour Bytes := do
  match ← look fun heap => heap.metamethod value "__tostring" with
  | .nil => look fun heap => plainText heap value
  | handler =>
    call none handler [value] fun results =>
      match (Value.first results).asText? with
      | some text => done text
      | none => refuse (Bytes.ofString "'__tostring' must return a string")

/-- A text as it is shown outside scripts: up to its first zero byte, and with a
replacement character for what is not text. -/
def shownText (text : Bytes) : String :=
  Utf8.lossy (text.takeWhile (· != 0))

/-- The wording of an error that left a script. -/
def runtimeError (text : String) : String :=
  "runtime error: " ++ text

/-- How many errors may arise one from describing another. -/
def describeLimit : Nat := 100

/-- The string or failure by which an error is known outside scripts. -/
def settleWithin : Nat → Value → Behaviour Value
  | 0, _ => done (.ofString "error in error handling")
  | limit + 1, error =>
    match error with
    | .fault _ => done error
    | _ =>
      attempt (.describe error) fun
        | .ok values => done (Value.first values)
        | .error later => settleWithin limit later

/-- The string or failure by which an error is known outside scripts. -/
def settle (error : Value) : Behaviour Value :=
  settleWithin describeLimit error

/-- The failure that an error is known by, once it has been settled. -/
def failureOf (heap : Heap) : Value → Failure
  | .fault id => (heap.faults.get? id).getD (.script "")
  | .str text => .script (runtimeError (shownText text))
  | _ => .script (runtimeError "")

/-- Stop with an error of a script in the form of a failure; a failure stays what
it is. -/
def surface {α : Type} (error : Value) : Behaviour α := do
  match ← settle error with
  | .fault id => raise (.fault id)
  | settled => fail (← look fun heap => failureOf heap settled)

namespace Trial

/-- What a trial does. -/
def behaviour : Trial → Behaviour (List Value)
  | .call function arguments => callValue function arguments
  | .index subject key => (fun value => [value]) <$> Script.index none subject key []
  | .store subject key value => (fun _ => []) <$> Script.store none subject key value []
  | .describe value => (fun text => [.str text]) <$> Script.describe value

end Trial

end MediaImport.Script
