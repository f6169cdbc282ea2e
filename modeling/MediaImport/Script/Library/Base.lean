import MediaImport.Script.Library.Arguments
import MediaImport.Script.Wellformed

/-!
# Basic functions

The functions that scripts find under global names: types, texts and numbers,
errors and protection from them, iteration over tables, metatables, and loading
of program text.
-/

namespace MediaImport.Script.Library

open Behaviour

/-! ## Errors -/

/-- The message of an error, with the place at a level in front if it is a string. -/
def located (message : Value) (level : Int64) : Behaviour Value :=
  match message with
  | .str text =>
    if 0 < level then
      caller (level.toInt.toNat - 1) fun site => done (.str (placeText site ++ text))
    else done message
  | _ => done message

def errorFunction (arguments : Arguments) : Behaviour (List Value) := do
  let level ← arguments.wordOr 2 1
  raise (← located (arguments.get 1) level)

def assertFunction (arguments : Arguments) : Behaviour (List Value) := do
  if (arguments.get 1).isTrue then return arguments.values
  else
    let _ ← arguments.any 1
    raise (← located ((arguments.get? 2).getD (.ofString "assertion failed!")) 1)

/-- Call a function; an error in it is an answer. -/
def protectedCall (arguments : Arguments) : Behaviour (List Value) :=
  match arguments.values with
  | [] => raise (.ofString "not enough arguments to pcall")
  | function :: rest =>
    attempt (.call function rest) fun
      | .ok values => done (.bool true :: values)
      | .error error => done [.bool false, error]

/-- Call a function; an error in it is handed to another function, whose results
are the answer. -/
def handledCall (arguments : Arguments) : Behaviour (List Value) :=
  match arguments.values with
  | function :: handler :: rest =>
    attempt (.call function rest) fun
      | .ok values => done (.bool true :: values)
      | .error error =>
        attempt (.call handler [error]) fun
          | .ok values => done [.bool false, Value.first values]
          | .error later => done [.bool false, later]
  | _ => raise (.ofString "not enough arguments to xpcall")

/-! ## Types, texts and numbers -/

def typeFunction (arguments : Arguments) : Behaviour (List Value) := do
  return [.ofString (← arguments.any 1).typeName]

def textFunction (arguments : Arguments) : Behaviour (List Value) := do
  return [.str (← describe (← arguments.any 1))]

/-- The value of a digit in a base of up to thirty-six. -/
def digitValue (byte : UInt8) : Nat :=
  if Bytes.isDigit byte then byte.toNat - 0x30
  else if Bytes.isUpper byte then byte.toNat - 0x41 + 10
  else byte.toNat - 0x61 + 10

/-- The integer that bytes spell in a base, wrapping around. -/
def wordInBase? (base : Nat) (bytes : Bytes) : Option Int64 :=
  let trimmed := Bytes.strip bytes
  let (negative, digits) :=
    match trimmed with
    | 0x2d :: rest => (true, rest)
    | 0x2b :: rest => (false, rest)
    | rest => (false, rest)
  let isMember (byte : UInt8) : Bool :=
    (Bytes.isDigit byte || Bytes.isLetter byte) && digitValue byte < base
  if digits.isEmpty || !digits.all isMember then none
  else
    let magnitude := digits.foldl (fun total byte => total * base + digitValue byte) 0
    let word := Int64.ofNat magnitude
    some (if negative then -word else word)

def numberFunction (arguments : Arguments) : Behaviour (List Value) := do
  if arguments.isAbsent 2 then
    let value ← arguments.any 1
    match value.asNumber? with
    | some number => return [.ofNumber number]
    | none => return [.nil]
  else
    let base ← arguments.word 2
    match arguments.get 1 with
    | .str text =>
      if 2 ≤ base && base ≤ 36 then
        match wordInBase? base.toInt.toNat text with
        | some word => return [.int word]
        | none => return [.nil]
      else arguments.refuse 2 "base out of range"
    | _ => arguments.refuseKind 1 "string"

/-- The arguments from a place on, or their number. -/
def selectFunction (arguments : Arguments) : Behaviour (List Value) := do
  let rest := arguments.values.drop 1
  match arguments.get 1 with
  | .str [0x23] => return [count rest.length]
  | _ =>
    let place := (← arguments.word 1).toInt
    let place := if place < 0 then place + arguments.values.length else place
    if place < 1 then arguments.refuse 1 "index out of range"
    else return rest.drop (place.toNat - 1)

/-! ## Tables -/

/-- The next item of a table that is gone through in order. -/
def itemStep (arguments : Arguments) : Behaviour (List Value) := do
  let place ← arguments.word 2
  let next := place + 1
  match ← index none (arguments.get 1) (.int next) [] with
  | .nil => return [.nil]
  | value => return [.int next, value]

def itemsFunction (arguments : Arguments) : Behaviour (List Value) := do
  return [.native (.routine .ipairsStep), ← arguments.any 1, .int 0]

def entriesFunction (arguments : Arguments) : Behaviour (List Value) := do
  let value ← arguments.any 1
  match ← look fun heap => heap.metamethod value "__pairs" with
  | .nil => return [.native (.routine .next), value, .nil]
  | handler =>
    let results ← callValue handler [value]
    return [Value.first results, Value.first (results.drop 1), Value.first (results.drop 2)]

/-- The entry after a key. -/
def nextFunction (arguments : Arguments) : Behaviour (List Value) := do
  let id ← arguments.table 1
  match ← look fun heap => (heap.table id).next? (arguments.get 2) with
  | some (key, value) => return [key, value]
  | none => return [.nil]

def rawGetFunction (arguments : Arguments) : Behaviour (List Value) := do
  let id ← arguments.table 1
  let key ← arguments.any 2
  return [← look fun heap => heap.rawGet id key]

def rawSetFunction (arguments : Arguments) : Behaviour (List Value) := do
  let id ← arguments.table 1
  let key ← arguments.any 2
  let value ← arguments.any 3
  match badKey? key with
  | some reason => complain none (Bytes.ofString reason)
  | none =>
    rawSet id key value
    return [.table id]

def rawEqualFunction (arguments : Arguments) : Behaviour (List Value) := do
  let left ← arguments.any 1
  let right ← arguments.any 2
  return [.bool (left.same right)]

def rawLengthFunction (arguments : Arguments) : Behaviour (List Value) := do
  match arguments.get 1 with
  | .table id => return [.int (← look fun heap => (heap.table id).length)]
  | .str text => return [count text.length]
  | _ => arguments.refuse 1 "table or string expected"

/-! ## Metatables -/

def metatableFunction (arguments : Arguments) : Behaviour (List Value) := do
  let value ← arguments.any 1
  look fun heap =>
    match heap.metatable? value with
    | none => [.nil]
    | some id =>
      match heap.metamethod value "__metatable" with
      | .nil => [.table id]
      | shown => [shown]

/-- Give a table a metatable, unless its present one is protected. -/
def setMetatableFunction (arguments : Arguments) : Behaviour (List Value) := do
  let id ← arguments.table 1
  let metatable ←
    match arguments.get? 2 with
    | some .nil => done none
    | some (.table metatable) => done (some metatable)
    | _ => arguments.refuseKind 2 "nil or table"
  match ← look fun heap => heap.metamethod (.table id) "__metatable" with
  | .nil =>
    write (fun heap => heap.setTable id { heap.table id with metatable }) fun _ =>
      done [.table id]
  | _ => refuse (Bytes.ofString "cannot change a protected metatable")

/-! ## Program text -/

/-- The name of a program by which errors refer to it: a file name, shortened at
the front if it is long, or the first line of the text itself. -/
def chunkName (name : Bytes) : Bytes :=
  match name with
  | 0x3d :: rest => rest.take 59
  | 0x40 :: rest =>
    if rest.length ≤ 59 then rest
    else Bytes.ofString "..." ++ rest.drop (rest.length - 56)
  | _ =>
    let line := name.takeWhile (· != 0x0a)
    let room := 59 - "[string \"\"]...".length
    if line.length = name.length && line.length ≤ room + 3 then
      Bytes.ofString "[string \"" ++ line ++ Bytes.ofString "\"]"
    else Bytes.ofString "[string \"" ++ line.take room ++ Bytes.ofString "...\"]"

/-- A program as a function without enclosing variables. -/
def programClosure (name : Bytes) (function : Function) : Closure where
  function := function
  scope := { bindings := [], varargs := [], chunk := chunkName name, level := 0 }

/-- The pieces of program text that a function delivers, joined. -/
def piecesFrom (function : Value) : Nat → Behaviour Bytes
  | 0 => done []
  | limit + 1 => do
    match Value.first (← callValue function []) with
    | .nil => return []
    | .str [] => return []
    | .str piece => return piece ++ (← piecesFrom function limit)
    | _ => refuse (Bytes.ofString "reader function must return a string")

/-- How many pieces of program text are asked for. -/
def pieceLimit : Nat := 1000000

/-- Turn program text into a function. -/
def loadFunction (arguments : Arguments) : Behaviour (List Value) := do
  let (text, fallback) ←
    match arguments.get 1 with
    | .str text => done (text, text)
    | .closure id =>
      (·, Bytes.ofString "=(load)") <$> piecesFrom (.closure id) pieceLimit
    | .native which =>
      (·, Bytes.ofString "=(load)") <$> piecesFrom (.native which) pieceLimit
    | _ => arguments.refuseKind 1 "function"
  let name ← arguments.textOr 2 fallback
  match compile? text with
  | none =>
    return [.nil, .str (chunkName name ++ Bytes.ofString ":1: syntax error")]
  | some function =>
    let closure := programClosure name function
    match arguments.get? 4 with
    | none => return [← newClosure closure]
    | some environment =>
      let cell ← newCell environment
      let scope := { closure.scope.bind "_ENV" cell with level := 0 }
      return [← newClosure { closure with scope }]

end MediaImport.Script.Library
