import MediaImport.Script.Operation

/-!
# Arguments of library functions

Reading the arguments of a library function as what it expects.  An argument
that does not fit stops the function with a message that gives its number, the
function by the name it was called by, and what was expected.
-/

namespace MediaImport.Script.Library

open Behaviour

/-- The name of an argument's type in error messages. -/
def givenType (argument : Option Value) : Behaviour Bytes :=
  match argument with
  | some value => look fun heap => value.typeNameIn heap
  | none => done (Bytes.ofString "no value")

/-- Stop because an argument is not of the expected type. -/
def refuseKind {α : Type} (function : String) (index : Nat) (expected : String)
    (argument : Option Value) : Behaviour α := do
  let given ← givenType argument
  refuseArgument index function (expected ++ " expected, got " ++ Utf8.lossy given)

/-- The arguments of a call of the function with some name. -/
structure Arguments where
  function : String
  values : List Value

namespace Arguments

/-- An argument, counted from one. -/
def get? (arguments : Arguments) (index : Nat) : Option Value :=
  arguments.values[index - 1]?

/-- An argument, nil if it is missing. -/
def get (arguments : Arguments) (index : Nat) : Value :=
  (arguments.get? index).getD .nil

/-- Stop because of an argument. -/
def refuse {α : Type} (arguments : Arguments) (index : Nat) (reason : String) : Behaviour α :=
  refuseArgument index arguments.function reason

/-- Stop because an argument is not of the expected type. -/
def refuseKind {α : Type} (arguments : Arguments) (index : Nat) (expected : String) :
    Behaviour α :=
  Library.refuseKind arguments.function index expected (arguments.get? index)

/-- An argument that may be anything but must be there. -/
def any (arguments : Arguments) (index : Nat) : Behaviour Value :=
  match arguments.get? index with
  | some value => done value
  | none => arguments.refuse index "value expected"

/-- A table. -/
def table (arguments : Arguments) (index : Nat) : Behaviour Nat :=
  match arguments.get index with
  | .table id => done id
  | _ => arguments.refuseKind index "table"

/-- A number, or a string that spells one. -/
def number (arguments : Arguments) (index : Nat) : Behaviour Numeral.Number :=
  match (arguments.get index).asNumber? with
  | some number => done number
  | none => arguments.refuseKind index "number"

/-- A number without a fraction. -/
def word (arguments : Arguments) (index : Nat) : Behaviour Int64 := do
  match Value.toWord? (← arguments.number index) with
  | some word => return word
  | none => arguments.refuse index "number has no integer representation"

/-- Whether an argument is missing or nil. -/
def isAbsent (arguments : Arguments) (index : Nat) : Bool :=
  arguments.get index = .nil

/-- A number without a fraction that may be left out. -/
def wordOr (arguments : Arguments) (index : Nat) (fallback : Int64) : Behaviour Int64 :=
  if arguments.isAbsent index then done fallback else arguments.word index

/-- A string, or a number as its text. -/
def text (arguments : Arguments) (index : Nat) : Behaviour Bytes :=
  match (arguments.get index).asText? with
  | some text => done text
  | none => arguments.refuseKind index "string"

/-- A string that may be left out. -/
def textOr (arguments : Arguments) (index : Nat) (fallback : Bytes) : Behaviour Bytes :=
  if arguments.isAbsent index then done fallback else arguments.text index

end Arguments

/-- The answer of a function with one result. -/
def one (value : Value) : Behaviour (List Value) :=
  done [value]

/-- The number of something, as a script value. -/
def count (number : Nat) : Value :=
  .int (Int64.ofNat number)

end MediaImport.Script.Library
