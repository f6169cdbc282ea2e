import MediaImport.Exchange.Reading
import MediaImport.Script.Library
import MediaImport.Script.Machine

/-!
# Interpreters

An interpreter is what lasts from one run of a script to the next: the heap, the
coroutines, and the program that was loaded last.  Behaviours are run on it one
at a time, under a host that may have a state of its own.

A run ends with values or with an error.  An error that leaves a script is
known by a failure: the one that the application itself raised, or the
interpreter's, with a text.

A run can also halt.  Then whoever asked for it gets no answer, whatever stands
here in the place of one; the interpreter keeps how its first such run halted.
-/

namespace MediaImport.Script

/-- What lasts from one run of a script to the next. -/
structure Interpreter where
  heap : Heap
  threads : Std.TreeMap Nat Thread := ∅
  /-- The program that was loaded last.  Scripts cannot reach it. -/
  program : Option Closure := none
  /-- How everything stopped in here, if it did. -/
  halt : Option Halt := none

/-- The host that offers the script library and an application's functions. -/
def Host.ofFunctions {σ : Type}
    (functions : HostFunction → List Value → Behaviour (List Value))
    (answer : (request : HostRequest) → σ → request.Reply × σ) : Host σ where
  apply
    | .routine routine, arguments => routine.apply arguments
    | .host function, arguments => functions function arguments
    | .iterator search, _ => Library.nextMatch search
    | .wrapped thread, arguments => Library.resumeWrapped thread arguments
    | .foreign function, arguments => Library.foreignFunction function arguments
    | .idle, _ => .done []
  answer := answer

/-- How many steps every run has. -/
def stepLimit : Nat := 1000000000000000

/-- What is known of earlier runs and of one more: how the first of them halted that did. -/
def Ending.haltAfter (earlier : Option Halt) : Ending → Option Halt
  | .ended _ => earlier
  | .halted how => earlier.or (some how)

namespace Interpreter

variable {σ : Type}

/-- The interpreter that scripts with some trust start with. -/
def initial (trust : TrustLevel) (world : World := {}) : Interpreter where
  heap := .initial trust world

/-- How many steps a run is followed.  A run that is not at its end by then counts as one
without an end. -/
def limit (interpreter : Interpreter) : Nat :=
  stepLimit + interpreter.heap.world.patience

/-- The configuration in which a behaviour is begun. -/
def start (interpreter : Interpreter) (state : σ) (behaviour : Behaviour Signal) : Config σ where
  focus := behaviour
  heap := interpreter.heap
  threads := interpreter.threads
  state := state

/-- Run a behaviour to its end. -/
def run (host : Host σ) (interpreter : Interpreter) (state : σ) (behaviour : Behaviour Signal) :
    Ending × Interpreter × σ :=
  let final := (interpreter.start state behaviour).run host interpreter.limit
  let ending := final.ending?.getD (.halted .unfinished)
  (ending,
    { interpreter with
      heap := final.heap
      threads := final.threads
      halt := ending.haltAfter interpreter.halt },
    final.state)

/-- What stands in the place of a failure where nothing is known, or where there is no
answer. -/
def unknownFailure : Failure :=
  .script (runtimeError "")

/-- The failure that an error is known by. -/
def explain (host : Host σ) (interpreter : Interpreter) (state : σ) (error : Value) :
    Failure × Interpreter × σ :=
  let (ending, interpreter, state) :=
    interpreter.run host state ((fun value => .result [value]) <$> settle error)
  match ending with
  | .ended (.ok values) => (failureOf interpreter.heap (Value.first values), interpreter, state)
  | .ended (.error _) => (unknownFailure, interpreter, state)
  | .halted _ => (unknownFailure, interpreter, state)

/-- Run a behaviour; an error is explained by a failure. -/
def attempt (host : Host σ) (interpreter : Interpreter) (state : σ)
    (behaviour : Behaviour Signal) : Except Failure (List Value) × Interpreter × σ :=
  let (ending, interpreter, state) := interpreter.run host state behaviour
  match ending with
  | .ended (.ok values) => (.ok values, interpreter, state)
  | .ended (.error error) =>
    let (failure, interpreter, state) := interpreter.explain host state error
    (.error failure, interpreter, state)
  | .halted _ => (.error unknownFailure, interpreter, state)

/-- A failure that came up outside a running script, as an error of the
interpreter. -/
def outside (failure : Failure) : Failure :=
  .script failure.message

/-- Read properties of tables; metatables may compute them. -/
def read {α : Type} (host : Host σ) (interpreter : Interpreter) (state : σ) :
    Exchange.Reading α → Except Failure α × Interpreter × σ
  | .done value => (.ok value, interpreter, state)
  | .fail failure => (.error failure, interpreter, state)
  | .get table key next =>
    let (result, interpreter, state) :=
      interpreter.attempt host state
        ((fun value => .result [value]) <$> index none (.table table) (.ofString key) [])
    match result with
    | .ok values => read host interpreter state (next (Value.first values))
    | .error failure => (.error (outside failure), interpreter, state)

/-- A global variable; a metatable of the table of globals may compute it. -/
def global (host : Host σ) (interpreter : Interpreter) (state : σ) (name : String) :
    Except Failure Value × Interpreter × σ :=
  let (result, interpreter, state) :=
    interpreter.attempt host state
      ((fun value => .result [value]) <$>
        index none (.table interpreter.heap.globals) (.ofString name) [])
  (result.map Value.first |>.mapError outside, interpreter, state)

/-- Set a global variable; a metatable of the table of globals may take it. -/
def setGlobal (host : Host σ) (interpreter : Interpreter) (state : σ) (name : String)
    (value : Value) : Except Failure Unit × Interpreter × σ :=
  let (result, interpreter, state) :=
    interpreter.attempt host state
      ((fun _ => .result []) <$>
        store none (.table interpreter.heap.globals) (.ofString name) value [])
  ((result.map fun _ => ()).mapError outside, interpreter, state)

/-- Compile program text, to be run later under the name that errors refer to it
by. -/
def load? (interpreter : Interpreter) (name text : Bytes) : Option Interpreter :=
  (compile? text).map fun function =>
    { interpreter with program := some (Library.programClosure name function) }

/-- Run the program that was loaded last. -/
def runProgram (host : Host σ) (interpreter : Interpreter) (state : σ) :
    Except Failure Unit × Interpreter × σ :=
  match interpreter.program with
  | none => (.error .nothingLoaded, interpreter, state)
  | some program =>
    let (result, interpreter, state) := interpreter.attempt host state (program.behaviour [])
    match result with
    | .ok _ => (.ok (), interpreter, state)
    | .error failure => (.error (.execution failure.message), interpreter, state)

end Interpreter

end MediaImport.Script
