import MediaImport.Importer.Context
import MediaImport.Proofs.Script.HostState

/-!
# The course of work on an interpreter

Work on an interpreter looks at it, changes it from outside, and lets the machine run
behaviours on it, one after the other.  A `Course` says which, as a tree of requests:
performing a course is doing the work, and the configurations it visits are all those
that the machine passes through meanwhile.

Everything that the application does with an interpreter is the performance of a
course; each piece of work is shown equal to one here.  No course changes what surrounds
the scripts: their purpose, their character sets, and the object being processed.
-/

namespace MediaImport.Importer

open MediaImport.Exchange MediaImport.Media MediaImport.Script

/-- A plan for work on an interpreter. -/
inductive Course (α : Type) : Type where
  | done (value : α)
  /-- Look at the interpreter. -/
  | look (next : Interpreter → Course α)
  /-- Change the interpreter from outside. -/
  | change (update : Interpreter → Interpreter) (next : Course α)
  /-- Let the machine run a behaviour to its end. -/
  | run (behaviour : Behaviour Signal) (next : Ending → Course α)

namespace Course

variable {α β : Type}

/-- Do the work. -/
def perform (interpreter : Interpreter) (desk : Desk) :
    Course α → α × Interpreter × Desk
  | done value => (value, interpreter, desk)
  | look next => (next interpreter).perform interpreter desk
  | change update next => next.perform (update interpreter) desk
  | run behaviour next =>
    let (ending, interpreter, desk) := interpreter.run host desk behaviour
    (next ending).perform interpreter desk

/-- A configuration that the machine passes through while the work is done. -/
def Visits (config : Config Desk) (interpreter : Interpreter) (desk : Desk) : Course α → Prop
  | done _ => False
  | look next => (next interpreter).Visits config interpreter desk
  | change update next => next.Visits config (update interpreter) desk
  | run behaviour next =>
    (∃ steps, config = (interpreter.start desk behaviour).after host steps) ∨
      (next (interpreter.run host desk behaviour).1).Visits config
        (interpreter.run host desk behaviour).2.1 (interpreter.run host desk behaviour).2.2

/-- The requests that the application answers while the work is done, first to last. -/
def requests (interpreter : Interpreter) (desk : Desk) : Course α → List HostRequest
  | done _ => []
  | look next => (next interpreter).requests interpreter desk
  | change update next => next.requests (update interpreter) desk
  | run behaviour next =>
    let (ending, later, deskThen) := interpreter.run host desk behaviour
    (interpreter.start desk behaviour).requests host interpreter.limit ++
      (next ending).requests later deskThen

/-- Nothing changes a desk but the answers to the requests. -/
theorem desk_perform (course : Course α) (interpreter : Interpreter) (desk : Desk) :
    (course.perform interpreter desk).2.2 =
      host.stateAfter desk (course.requests interpreter desk) := by
  induction course generalizing interpreter desk with
  | done value => rfl
  | look next ih => exact ih interpreter interpreter desk
  | change update next ih => exact ih (update interpreter) desk
  | run behaviour next ih =>
    have ran : (interpreter.run host desk behaviour).2.2 =
        host.stateAfter desk ((interpreter.start desk behaviour).requests host interpreter.limit) :=
      Config.state_run interpreter.limit (interpreter.start desk behaviour)
    rw [perform, requests, Host.stateAfter_append, ← ran]
    exact ih _ _ _

/-- Go on with another course. -/
def bind (first : Course α) (rest : α → Course β) : Course β :=
  match first with
  | done value => rest value
  | look next => look fun interpreter => (next interpreter).bind rest
  | change update next => change update (next.bind rest)
  | run behaviour next => run behaviour fun ending => (next ending).bind rest

theorem perform_bind (first : Course α) (rest : α → Course β) (interpreter : Interpreter)
    (desk : Desk) :
    (first.bind rest).perform interpreter desk =
      let (value, interpreter, desk) := first.perform interpreter desk
      (rest value).perform interpreter desk := by
  induction first generalizing interpreter desk with
  | done value => rfl
  | look next ih => exact ih interpreter interpreter desk
  | change update next ih => exact ih (update interpreter) desk
  | run behaviour next ih => exact ih _ _ _

/-- Go on if there was no failure. -/
def andThen (first : Course (Except Failure α)) (rest : α → Course (Except Failure β)) :
    Course (Except Failure β) :=
  first.bind fun
    | .ok value => rest value
    | .error failure => .done (.error failure)

/-- The work that a course lays out. -/
def work (course : Course (Except Failure α)) : Work α :=
  fun (interpreter, desk) => course.perform interpreter desk

theorem work_andThen (first : Course (Except Failure α)) (rest : α → Course (Except Failure β)) :
    (first.andThen rest).work = first.work >>= fun value => (rest value).work := by
  funext ⟨interpreter, desk⟩
  change (first.andThen rest).perform interpreter desk = _
  rw [andThen, perform_bind]
  change _ = ExceptT.bindCont (fun value => (rest value).work)
    (first.perform interpreter desk).1 (first.perform interpreter desk).2
  rcases first.perform interpreter desk with ⟨result, later⟩
  cases result with
  | ok value => rfl
  | error failure => rfl

/-! ## The interpreter's own work -/

/-- Find the failure that an error is known by. -/
def explain (error : Value) : Course Failure :=
  run ((fun value => .result [value]) <$> settle error) fun
    | .ended (.ok values) =>
      look fun interpreter => done (failureOf interpreter.heap (Value.first values))
    | .ended (.error _) => done Interpreter.unknownFailure
    | .halted _ => done Interpreter.unknownFailure

theorem perform_explain (error : Value) (interpreter : Interpreter) (desk : Desk) :
    (explain error).perform interpreter desk = interpreter.explain host desk error := by
  rw [explain, perform, Interpreter.explain]
  rcases interpreter.run host desk _ with ⟨(error | values) | how, later, desk⟩ <;> rfl

/-- Run a behaviour; an error is explained by a failure. -/
def attempt (behaviour : Behaviour Signal) : Course (Except Failure (List Value)) :=
  run behaviour fun
    | .ended (.ok values) => done (.ok values)
    | .ended (.error error) => (explain error).bind fun failure => done (.error failure)
    | .halted _ => done (.error Interpreter.unknownFailure)

theorem perform_attempt (behaviour : Behaviour Signal) (interpreter : Interpreter)
    (desk : Desk) :
    (attempt behaviour).perform interpreter desk = interpreter.attempt host desk behaviour := by
  rw [attempt, perform, Interpreter.attempt]
  rcases interpreter.run host desk behaviour with ⟨(error | values) | how, later, desk⟩
  · refine (perform_bind (explain error) _ later desk).trans ?_
    rw [perform_explain]
    rfl
  · rfl
  · rfl

/-- Read properties of tables. -/
def read : Reading α → Course (Except Failure α)
  | .done value => done (.ok value)
  | .fail failure => done (.error failure)
  | .get table key next =>
    (attempt ((fun value => .result [value]) <$>
      index none (.table table) (.ofString key) [])).bind fun
      | .ok values => read (next (Value.first values))
      | .error failure => done (.error (Interpreter.outside failure))

theorem perform_read (reading : Reading α) (interpreter : Interpreter) (desk : Desk) :
    (read reading).perform interpreter desk = interpreter.read host desk reading := by
  induction reading generalizing interpreter desk with
  | done value => rfl
  | fail failure => rfl
  | get table key next ih =>
    rw [read, perform_bind, perform_attempt, Interpreter.read]
    rcases interpreter.attempt host desk _ with ⟨result, later, desk⟩
    cases result with
    | ok values => exact ih (Value.first values) later desk
    | error failure => rfl

/-- Look up a global variable. -/
def global (name : String) : Course (Except Failure Value) :=
  look fun interpreter =>
    (attempt ((fun value => .result [value]) <$>
      index none (.table interpreter.heap.globals) (.ofString name) [])).bind fun result =>
      done (result.map Value.first |>.mapError Interpreter.outside)

theorem perform_global (name : String) (interpreter : Interpreter) (desk : Desk) :
    (global name).perform interpreter desk = interpreter.global host desk name := by
  rw [global, perform, perform_bind, perform_attempt]
  rfl

/-- Set a global variable. -/
def setGlobal (name : String) (value : Value) : Course (Except Failure Unit) :=
  look fun interpreter =>
    (attempt ((fun _ => .result []) <$>
      store none (.table interpreter.heap.globals) (.ofString name) value [])).bind fun result =>
      done ((result.map fun _ => ()).mapError Interpreter.outside)

theorem perform_setGlobal (name : String) (value : Value) (interpreter : Interpreter)
    (desk : Desk) :
    (setGlobal name value).perform interpreter desk =
      interpreter.setGlobal host desk name value := by
  rw [setGlobal, perform, perform_bind, perform_attempt]
  rfl

/-- Run the program that was loaded last. -/
def runProgram : Course (Except Failure Unit) :=
  look fun interpreter =>
    match interpreter.program with
    | none => done (.error .nothingLoaded)
    | some program =>
      (attempt (program.behaviour [])).bind fun
        | .ok _ => done (.ok ())
        | .error failure => done (.error (.execution failure.message))

theorem perform_runProgram (interpreter : Interpreter) (desk : Desk) :
    runProgram.perform interpreter desk = interpreter.runProgram host desk := by
  rw [runProgram, perform, Interpreter.runProgram]
  cases interpreter.program with
  | none => rfl
  | some program =>
    dsimp only
    rw [perform_bind, perform_attempt]
    rcases interpreter.attempt host desk (program.behaviour []) with ⟨result, later, desk⟩
    cases result with
    | ok values => rfl
    | error failure => rfl

/-! ## The work of contexts -/

/-- Replace the program by one that is compiled from a text. -/
def load (path text : String) : Course (Except Failure Unit) :=
  look fun interpreter =>
    match interpreter.load? (0x40 :: Bytes.ofString path) (Bytes.ofString text) with
    | some loaded => change (fun _ => loaded) (done (.ok ()))
    | none => done (.error (.load path .malformed))

/-- Change the heap. -/
def onHeap (update : Heap → α × Heap) : Course (Except Failure α) :=
  look fun interpreter =>
    let (answer, heap) := update interpreter.heap
    change (fun interpreter => { interpreter with heap }) (done (.ok answer))

/-- Put an object on the heap. -/
def display (object : Object) : Course (Except Failure Value) :=
  look fun interpreter =>
    let (heap, id) := (ObjectTable.ofObject object).allocate interpreter.heap
    change (fun interpreter => { interpreter with heap }) (done (.ok (.table id)))

/-- Call a value. -/
def call (function : Value) (arguments : List Value) : Course (Except Failure (List Value)) :=
  attempt (.call none function arguments fun values => .done (.result values))

/-- Show an object to the program, run it, and read back what it made of the object. -/
def processing (reader : Reader) (object : Object) : Course (Except Failure (Option Object)) :=
  (display object).andThen fun shown =>
    (setGlobal "orig" shown).andThen fun _ =>
      (setGlobal "object_script_path" (.str object.location)).andThen fun _ =>
        runProgram.andThen fun _ =>
          (global "orig").andThen fun result =>
            read (reader.object (some object) result.propertyTable?)

theorem work_load (path text : String) : (load path text).work = Work.load path text := by
  funext ⟨interpreter, desk⟩
  change (load path text).perform interpreter desk = Work.load path text (interpreter, desk)
  rw [load, perform, Work.load]
  cases interpreter.load? (0x40 :: Bytes.ofString path) (Bytes.ofString text) with
  | some loaded => rfl
  | none => rfl

theorem work_onHeap (update : Heap → α × Heap) : (onHeap update).work = Work.onHeap update :=
  rfl

theorem work_display (object : Object) : (display object).work = Work.display object :=
  rfl

theorem work_call (function : Value) (arguments : List Value) :
    (call function arguments).work = Work.call function arguments :=
  funext fun (interpreter, desk) => perform_attempt _ interpreter desk

theorem work_runProgram : runProgram.work = Work.runProgram :=
  funext fun (interpreter, desk) => perform_runProgram interpreter desk

theorem work_global (name : String) : (global name).work = Work.global name :=
  funext fun (interpreter, desk) => perform_global name interpreter desk

theorem work_setGlobal (name : String) (value : Value) :
    (setGlobal name value).work = Work.setGlobal name value :=
  funext fun (interpreter, desk) => perform_setGlobal name value interpreter desk

theorem work_read (reading : Reading α) : (read reading).work = Work.read reading :=
  funext fun (interpreter, desk) => perform_read reading interpreter desk

theorem work_processing (reader : Reader) (object : Object) :
    (processing reader object).work = Importer.processing reader object := by
  simp only [processing, work_andThen, work_display, work_setGlobal, work_runProgram, work_global,
    work_read]
  rfl

/-! ## Changes of the heap -/

/-- From outside, nothing of the interpreter is changed but the heap. -/
def HeapOnly : Course α → Prop
  | done _ => True
  | look next => ∀ interpreter, (next interpreter).HeapOnly
  | change update next =>
    (∀ interpreter, ∃ heap, update interpreter = { interpreter with heap }) ∧ next.HeapOnly
  | run _ next => ∀ ending, (next ending).HeapOnly

theorem HeapOnly.bind {first : Course α} (begins : first.HeapOnly) {rest : α → Course β}
    (goesOn : ∀ value, (rest value).HeapOnly) : (first.bind rest).HeapOnly := by
  induction first with
  | done value => exact goesOn value
  | look next ih => exact fun interpreter => ih interpreter (begins interpreter)
  | change update next ih => exact ⟨begins.1, ih begins.2⟩
  | run behaviour next ih => exact fun ending => ih ending (begins ending)

theorem HeapOnly.andThen {first : Course (Except Failure α)} (begins : first.HeapOnly)
    {rest : α → Course (Except Failure β)} (goesOn : ∀ value, (rest value).HeapOnly) :
    (first.andThen rest).HeapOnly :=
  begins.bind fun
    | .ok value => goesOn value
    | .error _ => trivial

theorem heapOnly_attempt (behaviour : Behaviour Signal) : (attempt behaviour).HeapOnly := by
  have explains (error : Value) : (explain error).HeapOnly := by
    rintro ((_ | values) | how)
    · trivial
    · exact fun _ => trivial
    · trivial
  rintro ((error | values) | how)
  · exact (explains error).bind fun _ => trivial
  · trivial
  · trivial

theorem heapOnly_onHeap (update : Heap → α × Heap) : (onHeap update).HeapOnly :=
  fun _ => ⟨fun _ => ⟨_, rfl⟩, trivial⟩

theorem heapOnly_display (object : Object) : (display object).HeapOnly :=
  fun _ => ⟨fun _ => ⟨_, rfl⟩, trivial⟩

theorem heapOnly_setGlobal (name : String) (value : Value) : (setGlobal name value).HeapOnly :=
  fun _ => (heapOnly_attempt _).bind fun _ => trivial

theorem heapOnly_global (name : String) : (global name).HeapOnly :=
  fun _ => (heapOnly_attempt _).bind fun _ => trivial

theorem heapOnly_read (reading : Reading α) : (read reading).HeapOnly := by
  induction reading with
  | done value => trivial
  | fail failure => trivial
  | get table key next ih =>
    unfold read
    refine (heapOnly_attempt _).bind fun result => ?_
    cases result with
    | ok values => exact ih _
    | error failure => trivial

theorem heapOnly_runProgram : runProgram.HeapOnly := by
  intro interpreter
  dsimp only
  cases interpreter.program with
  | none => trivial
  | some program =>
    refine (heapOnly_attempt _).bind fun result => ?_
    cases result <;> trivial

theorem heapOnly_processing (reader : Reader) (object : Object) :
    (processing reader object).HeapOnly :=
  (heapOnly_display object).andThen fun _ =>
    (heapOnly_setGlobal _ _).andThen fun _ =>
      (heapOnly_setGlobal _ _).andThen fun _ =>
        heapOnly_runProgram.andThen fun _ =>
          (heapOnly_global _).andThen fun _ => heapOnly_read _

/-! ## What a course leaves true -/

section Preserved

variable {Holds : Desk → Prop}

theorem holds_perform (kept : ∀ request desk, Holds desk → Holds (Desk.answer request desk).2)
    (course : Course α) (interpreter : Interpreter) {desk : Desk} (holds : Holds desk) :
    Holds (course.perform interpreter desk).2.2 := by
  induction course generalizing interpreter desk with
  | done value => exact holds
  | look next ih => exact ih interpreter interpreter holds
  | change update next ih => exact ih (update interpreter) holds
  | run behaviour next ih => exact ih _ _ (interpreter.holds_run kept behaviour holds)

theorem holds_visits (kept : ∀ request desk, Holds desk → Holds (Desk.answer request desk).2)
    (course : Course α) (interpreter : Interpreter) {desk : Desk} (holds : Holds desk)
    {config : Config Desk} (visits : course.Visits config interpreter desk) :
    Holds config.state := by
  induction course generalizing interpreter desk with
  | done value => exact visits.elim
  | look next ih => exact ih interpreter interpreter holds visits
  | change update next ih => exact ih (update interpreter) holds visits
  | run behaviour next ih =>
    rcases visits with ⟨steps, rfl⟩ | later
    · exact Config.holds_after kept steps holds
    · exact ih _ _ (interpreter.holds_run kept behaviour holds) later

end Preserved

end Course

/-! ## What surrounds the scripts -/

/-- What surrounds the scripts that run in an environment. -/
def Environment.surroundings (environment : Environment) : Surroundings :=
  ⟨environment.purpose, environment.conversions, environment.processed⟩

/-- What surrounds the scripts at a desk. -/
def Desk.Surrounds (surroundings : Surroundings) (desk : Desk) : Prop :=
  desk.environment.surroundings = surroundings

theorem Desk.surrounds_answer {surroundings : Surroundings} (request : HostRequest)
    (desk : Desk) (surrounds : desk.Surrounds surroundings) :
    (Desk.answer request desk).2.Surrounds surroundings := by
  rw [← surrounds]
  cases request with
  | surroundings => rfl
  | log line => simp only [Surrounds, Desk.answer, Environment.surroundings]
  | submit object chain upnpClass =>
    rw [Desk.answer]
    split <;> rfl

/-- Work on an interpreter leaves what surrounds its scripts as it is. -/
theorem Course.surrounds_perform {α : Type} (course : Course α) (interpreter : Interpreter)
    {desk : Desk} {surroundings : Surroundings} (surrounds : desk.Surrounds surroundings) :
    (course.perform interpreter desk).2.2.Surrounds surroundings :=
  course.holds_perform Desk.surrounds_answer interpreter surrounds

theorem Course.surrounds_visits {α : Type} (course : Course α) (interpreter : Interpreter)
    {desk : Desk} {surroundings : Surroundings} (surrounds : desk.Surrounds surroundings)
    {config : Config Desk} (visits : course.Visits config interpreter desk) :
    config.state.Surrounds surroundings :=
  course.holds_visits Desk.surrounds_answer interpreter surrounds visits

end MediaImport.Importer
