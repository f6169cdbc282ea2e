import MediaImport.Script.Library.Base

/-!
# Functions that reach outside

Calls of foreign functions, which the world answers, and the end of the process.
-/

namespace MediaImport.Script.Library

open Behaviour

/-- Do what an answer to a call with some arguments says. -/
def followAnswer (arguments : List Value) : Answer → Behaviour (List Value)
  | .values values => done values
  | .error error => raise error
  | .script function => do
    callValue (← newClosure (programClosure (Bytes.ofString "=?") function)) arguments
  | .halt how => halt how

/-- Call a foreign function; the world takes note of the call. -/
def foreignFunction (function : Foreign) (arguments : List Value) : Behaviour (List Value) := do
  let answer ← look fun heap => heap.world.answer heap.world.calls function arguments
  write (fun heap => { heap with world.calls := heap.world.calls + 1 }) fun _ =>
    followAnswer arguments answer

/-- End the process.  Of an exit code, only the lowest byte is seen outside. -/
def exitFunction (arguments : Arguments) : Behaviour (List Value) := do
  match arguments.get 1 with
  | .bool succeeds => halt (.exited (if succeeds then 0 else 1))
  | _ =>
    let code ← arguments.wordOr 1 0
    halt (.exited code.toUInt64.toUInt8)

end MediaImport.Script.Library
