import MediaImport.Script.Library.Arguments

/-!
# Functions on coroutines

Making, resuming, suspending and closing coroutines, and asking what they are doing.
-/

namespace MediaImport.Script.Library

open Behaviour

/-- A coroutine as an argument. -/
def threadArgument (arguments : Arguments) (index : Nat) : Behaviour Nat :=
  match arguments.get index with
  | .thread id => done id
  | _ => arguments.refuseKind index "coroutine"

/-- A function as an argument. -/
def functionArgument (arguments : Arguments) (index : Nat) : Behaviour Value :=
  let value := arguments.get index
  if value.isFunction then done value else arguments.refuseKind index "function"

def createFunction (arguments : Arguments) : Behaviour (List Value) := do
  let function ← functionArgument arguments 1
  spawn function fun id => done [.thread id]

def resumeFunction (arguments : Arguments) : Behaviour (List Value) := do
  let thread ← threadArgument arguments 1
  resume thread (arguments.values.drop 1) fun
    | .ok values => done (.bool true :: values)
    | .error error => done [.bool false, error]

def yieldFunction (arguments : Arguments) : Behaviour (List Value) :=
  yield arguments.values done

def statusFunction (arguments : Arguments) : Behaviour (List Value) := do
  let thread ← threadArgument arguments 1
  status thread fun status => done [.ofString status.name]

def closeFunction (arguments : Arguments) : Behaviour (List Value) := do
  let thread ← threadArgument arguments 1
  status thread fun
    | .running => refuse (Bytes.ofString "cannot close a running coroutine")
    | .normal => refuse (Bytes.ofString "cannot close a normal coroutine")
    | _ => close thread fun
      | none => done [.bool true]
      | some error => done [.bool false, error]

def wrapFunction (arguments : Arguments) : Behaviour (List Value) := do
  let function ← functionArgument arguments 1
  spawn function fun id => done [.native (.wrapped id)]

/-- Resume a coroutine; an error in it is an error of the call. -/
def resumeWrapped (thread : Nat) (values : List Value) : Behaviour (List Value) :=
  resume thread values fun
    | .ok values => done values
    | .error (.str text) => caller 0 fun site => raise (.str (placeText site ++ text))
    | .error error => raise error

def isYieldableFunction : Behaviour (List Value) :=
  running fun thread => done [.bool thread.isSome]

/-- The thread of the main program. -/
def mainThread : Nat := 0

def runningFunction : Behaviour (List Value) :=
  running fun
    | some thread => done [.thread thread, .bool false]
    | none => done [.thread mainThread, .bool true]

end MediaImport.Script.Library
