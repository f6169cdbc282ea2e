import Std.Data.ExtTreeMap
import MediaImport.Exchange.HostFunctions
import MediaImport.Importer.Catalogue
import MediaImport.Importer.PrintLog
import MediaImport.Script.Interpreter

/-!
# Interpreters under one lock

All interpreters of an application are kept under names, behind one lock: every
operation takes it, and gives it back however it ends.  The application also
holds the catalogue, which all scripts add to, and the environments that the
functions of the application act on.

An environment belongs to the context that made it and outlives the interpreter.
An interpreter without an environment has none of the application's functions.
-/

namespace MediaImport.Importer

open MediaImport.Media MediaImport.Script

/-- What the functions of the application act on, apart from the catalogue. -/
structure Environment where
  purpose : Purpose
  conversions : Conversions
  /-- The object that was handed to a script last. -/
  processed : Option Object := none
  log : PrintLog := {}
  deriving DecidableEq

/-- How texts that a script hands back are read. -/
def Environment.reader (environment : Environment) : Exchange.Reader :=
  .ofConversions environment.purpose environment.conversions

/-- An interpreter, and the environment that its functions act on. -/
structure Slot where
  interpreter : Interpreter
  environment : Option Nat := none

/-- The lock: how many hold it, and how many ever held it at once. -/
structure Lock where
  holders : Nat := 0
  peak : Nat := 0
  deriving DecidableEq

namespace Lock

def acquire (lock : Lock) : Lock where
  holders := lock.holders + 1
  peak := max lock.peak (lock.holders + 1)

def release (lock : Lock) : Lock :=
  { lock with holders := lock.holders - 1 }

end Lock

end Importer

open Importer MediaImport.Media MediaImport.Script

/-- An application that imports media with the help of scripts. -/
structure Importer where
  lock : Lock := {}
  interpreters : Std.ExtTreeMap String Slot := ∅
  environments : Std.ExtTreeMap Nat Environment := ∅
  /-- The first number that no environment has had. -/
  fresh : Nat := 0
  catalogue : Catalogue := {}
  /-- What is outside the scripts that run in an environment, by its number.  What one of them
  does there and another one finds is for both worlds to say. -/
  world : Nat → World := fun _ => {}

namespace Importer

/-- Do something while holding the lock. -/
def locked {α : Type} (importer : Importer) (body : Importer → α × Importer) : α × Importer :=
  let (answer, importer) := body { importer with lock := importer.lock.acquire }
  (answer, { importer with lock := importer.lock.release })

/-! ## Interpreters by name -/

/-- Make an interpreter under a name that is not in use. -/
def createInterpreter (importer : Importer) (name : String) (slot : Slot) :
    Except SetupFailure Importer :=
  if name ∈ importer.interpreters then .error (.contextExists name)
  else .ok { importer with interpreters := importer.interpreters.insert name slot }

/-- The interpreter under a name. -/
def slot (importer : Importer) (name : String) : Except SetupFailure Slot :=
  match importer.interpreters[name]? with
  | some slot => .ok slot
  | none => .error (.contextMissing name)

/-- Remove the interpreter under a name; whether there was one. -/
def destroyInterpreter (importer : Importer) (name : String) : Bool × Importer :=
  (name ∈ importer.interpreters,
    { importer with interpreters := importer.interpreters.erase name })

/-- How everything stopped in the interpreter under a name, if it did. -/
def haltOf (importer : Importer) (name : String) : Option Halt :=
  importer.interpreters[name]?.bind fun slot => slot.interpreter.halt

/-- The number of interpreters. -/
def interpreterCount (importer : Importer) : Nat × Importer :=
  importer.locked fun importer => (importer.interpreters.size, importer)

/-! ## Working in an interpreter -/

/-- What a running script can change outside its interpreter. -/
structure Desk where
  environment : Environment
  catalogue : Catalogue

/-- What the application answers to a running script. -/
def Desk.answer : (request : HostRequest) → Desk → request.Reply × Desk
  | .surroundings, desk =>
    (⟨desk.environment.purpose, desk.environment.conversions, desk.environment.processed⟩, desk)
  | .log values, desk =>
    let log := desk.environment.log.push (Exchange.printedLine values)
    ((), { desk with environment := { desk.environment with log } })
  | .submit object chain upnpClass, desk =>
    match desk.catalogue.add object chain upnpClass with
    | .ok (id, catalogue) => (.ok id, { desk with catalogue })
    | .error failure => (.error failure, desk)

/-- What scripts can call. -/
def host : Host Desk :=
  .ofFunctions Exchange.apply Desk.answer

/-- Work on an interpreter and the desk of its scripts.  Whatever was done before a
failure stays done. -/
abbrev Work (α : Type) : Type :=
  ExceptT Failure (StateM (Interpreter × Desk)) α

/-- The environment of an interpreter that has none. -/
def Environment.absent : Environment where
  purpose := .layout
  conversions := ⟨.utf8, .utf8, .utf8, .utf8⟩

/-- Work on the interpreter under a name. -/
def workOn {α : Type} (importer : Importer) (name : String) (work : Work α) :
    Except Failure α × Importer :=
  match importer.slot name with
  | .error cause => (.error (.setup cause), importer)
  | .ok slot =>
    let environment :=
      (slot.environment.bind fun id => importer.environments[id]?).getD .absent
    let (result, interpreter, desk) :=
      work.run (slot.interpreter, ⟨environment, importer.catalogue⟩)
    let environments :=
      match slot.environment with
      | some id => importer.environments.insert id desk.environment
      | none => importer.environments
    (result, { importer with
      interpreters := importer.interpreters.insert name { slot with interpreter }
      environments
      catalogue := desk.catalogue })

namespace Work

/-- Run a program that was loaded. -/
def runProgram : Work Unit :=
  fun (interpreter, desk) => interpreter.runProgram host desk

/-- Replace the program by one that is compiled from a text. -/
def load (path text : String) : Work Unit :=
  fun (interpreter, desk) =>
    match interpreter.load? (0x40 :: Bytes.ofString path) (Bytes.ofString text) with
    | some interpreter => (.ok (), interpreter, desk)
    | none => (.error (.load path .malformed), interpreter, desk)

/-- Put an object on the heap. -/
def display (object : Object) : Work Value :=
  fun (interpreter, desk) =>
    let (heap, id) := (Exchange.ObjectTable.ofObject object).allocate interpreter.heap
    (.ok (.table id), { interpreter with heap }, desk)

def global (name : String) : Work Value :=
  fun (interpreter, desk) => interpreter.global host desk name

def setGlobal (name : String) (value : Value) : Work Unit :=
  fun (interpreter, desk) => interpreter.setGlobal host desk name value

/-- Read properties of tables. -/
def read {α : Type} (reading : Exchange.Reading α) : Work α :=
  fun (interpreter, desk) => interpreter.read host desk reading

/-- Call a value. -/
def call (function : Value) (arguments : List Value) : Work (List Value) :=
  fun (interpreter, desk) =>
    interpreter.attempt host desk (.call none function arguments fun values =>
      .done (.result values))

/-- Change the heap. -/
def onHeap {α : Type} (change : Heap → α × Heap) : Work α :=
  fun (interpreter, desk) =>
    let (answer, heap) := change interpreter.heap
    (.ok answer, { interpreter with heap }, desk)

end Work

end Importer

end MediaImport
