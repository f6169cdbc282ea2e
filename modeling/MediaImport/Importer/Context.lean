import MediaImport.Importer.Basic

/-!
# Script contexts

A context is the use of one interpreter for one purpose: it is set up with the
names of the application, loads a program, runs it for one object after another,
and takes its interpreter away when it is dropped.

The interpreter is found by its name each time.  A common script that a
configuration names is loaded and run when the context is made; if that fails,
the context is made all the same.
-/

namespace MediaImport

open Importer MediaImport.Media MediaImport.Script

/-- Where script files are read: their bytes, or why there are none. -/
abbrev ScriptSource := String → Except String Bytes

/-- A context: the name of its interpreter, and the number of its environment. -/
structure Context where
  name : String
  environment : Nat
  deriving DecidableEq

namespace Importer

/-- The environment of a context. -/
def environmentOf (importer : Importer) (context : Context) : Environment :=
  importer.environments[context.environment]?.getD .absent

/-! ## Programs -/

/-- The text of a script file. -/
def scriptText (source : ScriptSource) (conversions : Conversions) (path : String) :
    Except LoadFailure String := do
  let contents ← (source path).mapError LoadFailure.unreadable
  let text ← (conversions.convertFile contents).mapError LoadFailure.undecodable
  if text.isEmpty then .error .empty else return text

/-- Load a program in the place of the one before; if that fails, the one before
stays. -/
def load (importer : Importer) (source : ScriptSource) (context : Context) (path : String) :
    Except Failure Unit × Importer :=
  match scriptText source (importer.environmentOf context).conversions path with
  | .error cause => (.error (.load path cause), importer)
  | .ok text => importer.locked fun importer => importer.workOn context.name (Work.load path text)

/-- Run the program once. -/
def execute (importer : Importer) (context : Context) : Except Failure Unit × Importer :=
  importer.locked fun importer => importer.workOn context.name Work.runProgram

/-! ## Making and dropping contexts -/

/-- Load and run the script that a configuration names for all contexts, if any. -/
def runCommonScript (importer : Importer) (source : ScriptSource) (context : Context)
    (path : String) : Importer :=
  if path.isEmpty then importer
  else
    match importer.load source context path with
    | (.ok _, importer) => (importer.execute context).2
    | (.error _, importer) => importer

/-- The interpreter that a context starts with. -/
def prepared (settings : Settings) (world : World := {}) : Interpreter :=
  let interpreter := Interpreter.initial settings.trust world
  { interpreter with heap := Exchange.install settings.services interpreter.heap }

/-- Set up a context with an interpreter under a name that is not in use. -/
def setUp (importer : Importer) (settings : Settings) (conversions : Conversions)
    (name : String) (purpose : Purpose) : Except SetupFailure (Context × Importer) := do
  let context : Context := ⟨name, importer.fresh⟩
  let slot : Slot :=
    ⟨prepared settings (importer.world importer.fresh), some context.environment⟩
  let importer ← importer.createInterpreter name slot
  let environments := importer.environments.insert context.environment { purpose, conversions }
  return (context, { importer with environments, fresh := importer.fresh + 1 })

/-- Make a context, with an interpreter under a name that is not in use. -/
def construct (importer : Importer) (source : ScriptSource) (settings : Settings)
    (name : String) (purpose : Purpose) : Except Failure Context × Importer :=
  match Conversions.ofSettings settings with
  | .error cause => (.error (.setup cause), importer)
  | .ok conversions =>
    let (made, importer) := importer.locked fun importer =>
      match importer.setUp settings conversions name purpose with
      | .ok (context, importer) => (Except.ok context, importer)
      | .error cause => (Except.error (Failure.setup cause), importer)
    match made with
    | .error failure => (.error failure, importer)
    | .ok context =>
      (.ok context, importer.runCommonScript source context (settings.text .commonScript))

/-! ## When something is wanting -/

/-- What is wanting when a context is made: a reason why no interpreter can be made for it,
or why the names of the application cannot be defined there. -/
structure Shortage where
  interpreter : Option String := none
  names : Option String := none
  deriving DecidableEq

/-- Set up a context, as far as nothing is wanting.  An interpreter that is left without the
names of the application is taken away again. -/
def setUpUnder (shortage : Shortage) (importer : Importer) (settings : Settings)
    (conversions : Conversions) (name : String) (purpose : Purpose) :
    Except SetupFailure Context × Importer :=
  if name ∈ importer.interpreters then (.error (.contextExists name), importer)
  else
    match shortage.interpreter with
    | some reason => (.error (.noInterpreter reason), importer)
    | none =>
      let context : Context := ⟨name, importer.fresh⟩
      let world := importer.world importer.fresh
      let placed (interpreter : Interpreter) : Importer := { importer with
        interpreters := importer.interpreters.insert name
          ⟨interpreter, some context.environment⟩ }
      match shortage.names with
      | some reason =>
        (.error (.noNames reason),
          ((placed (.initial settings.trust world)).destroyInterpreter name).2)
      | none =>
        let environments := importer.environments.insert context.environment
          { purpose, conversions }
        (.ok context, { placed (prepared settings world) with
          environments, fresh := importer.fresh + 1 })

/-- Make a context, as far as nothing is wanting. -/
def constructUnder (shortage : Shortage) (importer : Importer) (source : ScriptSource)
    (settings : Settings) (name : String) (purpose : Purpose) :
    Except Failure Context × Importer :=
  match Conversions.ofSettings settings with
  | .error cause => (.error (.setup cause), importer)
  | .ok conversions =>
    let (made, importer) := importer.locked fun importer =>
      setUpUnder shortage importer settings conversions name purpose
    match made with
    | .error cause => (.error (.setup cause), importer)
    | .ok context =>
      (.ok context, importer.runCommonScript source context (settings.text .commonScript))

/-- Drop a context: its interpreter is removed. -/
def drop (importer : Importer) (context : Context) : Importer :=
  (importer.locked fun importer => importer.destroyInterpreter context.name).2

/-! ## Objects -/

/-- Note the object that a context is about to process. -/
def noteProcessed (importer : Importer) (context : Context) (object : Object) : Importer :=
  let environment := { importer.environmentOf context with processed := some object }
  { importer with
    environments := importer.environments.insert context.environment environment }

/-- Show an object to the program, run it, and read back what it made of the
object. -/
def processing (reader : Exchange.Reader) (object : Object) : Work (Option Object) := do
  let shown ← Work.display object
  Work.setGlobal "orig" shown
  Work.setGlobal "object_script_path" (.str object.location)
  Work.runProgram
  let result ← Work.global "orig"
  Work.read (reader.object (some object) result.propertyTable?)

/-- Process an object: what the program made of it, if that is an object still. -/
def process (importer : Importer) (context : Context) (object : Object) :
    Except Failure (Option Object) × Importer :=
  importer.locked fun importer =>
    match importer.slot context.name with
    | .error cause => (.error (.setup cause), importer)
    | .ok _ =>
      let importer := importer.noteProcessed context object
      importer.workOn context.name (processing (importer.environmentOf context).reader object)

/-- The object that was processed last. -/
def processed (importer : Importer) (context : Context) : Option Object :=
  (importer.environmentOf context).processed

/-- The newest so many lines that scripts of a context printed. -/
def printed (importer : Importer) (context : Context) (limit : Nat) : List String :=
  (importer.environmentOf context).log.latest limit

/-- Work on the interpreter of a context while holding the lock. -/
def use {α : Type} (importer : Importer) (context : Context) (work : Work α) :
    Except Failure α × Importer :=
  importer.locked fun importer => importer.workOn context.name work

/-! ## Interpreters without a context -/

/-- Make an interpreter that has none of the application's functions. -/
def createBare (importer : Importer) (name : String) (trust : TrustLevel) (world : World := {}) :
    Except Failure Unit × Importer :=
  importer.locked fun importer =>
    match importer.createInterpreter name ⟨.initial trust world, none⟩ with
    | .ok importer => (.ok (), importer)
    | .error cause => (.error (.setup cause), importer)

/-- Whether there is an interpreter under a name. -/
def require (importer : Importer) (name : String) : Except Failure Unit × Importer :=
  importer.locked fun importer =>
    ((importer.slot name).map (fun _ => ()) |>.mapError Failure.setup, importer)

/-- Remove the interpreter under a name; whether there was one. -/
def destroy (importer : Importer) (name : String) : Bool × Importer :=
  importer.locked fun importer => importer.destroyInterpreter name

end Importer

end MediaImport
