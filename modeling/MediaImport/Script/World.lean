import MediaImport.Script.Syntax
import MediaImport.Script.Value

/-!
# What is outside scripts

Some functions of the script library are named here and not written out: those that
reach files, other processes, the clock or modules, and some that only compute.  What
a call of such a function comes to is for the world to say.  It may answer with values
or with an error, it may have a function of a script run in the place of an answer, and
it may bring everything to a stop.

A process may stop before its scripts are at their end: because one of them ends it, or
because one of them goes on, or waits, for ever.  That is no error, and no script and no
caller is told of it.
-/

namespace MediaImport.Script

/-- How everything stops before a script is at its end. -/
inductive Halt where
  /-- The process ends with an exit code. -/
  | exited (code : UInt8)
  /-- The script does not come to an end. -/
  | unfinished
  deriving DecidableEq

/-- The exit code of the process, if it ends. -/
def Halt.exitCode? : Halt → Option UInt8
  | exited code => some code
  | unfinished => none

/-- What a call of a foreign function comes to. -/
inductive Answer where
  | values (values : List Value)
  | error (error : Value)
  /-- What a function of a script does with the arguments. -/
  | script (function : Function)
  | halt (how : Halt)

/-- What is outside scripts. -/
structure World where
  /-- What a call comes to, from the number of calls before it. -/
  answer : Nat → Foreign → List Value → Answer := fun _ _ _ => .values []
  /-- The text of a handle, after so many calls. -/
  text : Nat → Nat → Bytes := fun _ _ => []
  /-- Where modules are looked for that are scripts. -/
  modulePath : Bytes := []
  /-- Where modules are looked for that are not. -/
  nativePath : Bytes := []
  /-- The number of calls so far. -/
  calls : Nat := 0
  /-- For how many steps, besides those that every run has, a run is waited for. -/
  patience : Nat := 0

end MediaImport.Script
