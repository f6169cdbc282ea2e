import MediaImport.Proofs.Importer.InterpreterTable
import MediaImport.Proofs.Script.InertRuns

/-!
# Running and processing with a program

To run and to process an object is to do so with the program that the interpreter holds, and
nothing that comes before the run can change which program that is.  Without a program both come
to the same failure, provided that no script has run before: then nothing that a script left
behind can stand in the way when the object is shown.
-/

namespace MediaImport

open MediaImport.Exchange MediaImport.Importer MediaImport.Media MediaImport.Script

namespace Importer

namespace Course

variable {α β : Type}

/-! ## Running a given program -/

/-- Run a program, whatever was loaded. -/
def runThis (program : Closure) : Course (Except Failure Unit) :=
  (attempt (program.behaviour [])).bind fun
    | .ok _ => done (.ok ())
    | .error failure => done (.error (.execution failure.message))

/-- Show an object to whatever is run, and read back what it made of the object. -/
def processingBy (run : Course (Except Failure Unit)) (reader : Reader) (object : Object) :
    Course (Except Failure (Option Object)) :=
  (display object).andThen fun shown =>
    (setGlobal "orig" shown).andThen fun _ =>
      (setGlobal "object_script_path" (.str object.location)).andThen fun _ =>
        run.andThen fun _ =>
          (global "orig").andThen fun result =>
            read (reader.object (some object) result.propertyTable?)

theorem processingBy_runProgram (reader : Reader) (object : Object) :
    processingBy runProgram reader object = processing reader object :=
  rfl

theorem perform_runProgram_of_loaded {interpreter : Interpreter} {program : Closure}
    (loaded : interpreter.program = some program) (desk : Desk) :
    runProgram.perform interpreter desk = (runThis program).perform interpreter desk := by
  rw [runProgram, perform, loaded]
  rfl

theorem perform_runProgram_of_none (interpreter : Interpreter)
    (empty : interpreter.program = none) (desk : Desk) :
    runProgram.perform interpreter desk = (.error .nothingLoaded, interpreter, desk) := by
  rw [runProgram, perform, empty]
  rfl

theorem work_apply (course : Course (Except Failure α)) (interpreter : Interpreter)
    (desk : Desk) : course.work (interpreter, desk) = course.perform interpreter desk :=
  rfl

/-- Scripts cannot reach the program. -/
theorem HeapOnly.program_perform {course : Course α} (leaves : course.HeapOnly)
    (interpreter : Interpreter) (desk : Desk) :
    (course.perform interpreter desk).2.1.program = interpreter.program := by
  induction course generalizing interpreter desk with
  | done value => rfl
  | look next ih => exact ih interpreter (leaves interpreter) interpreter desk
  | change update next ih =>
    obtain ⟨heap, same⟩ := leaves.1 interpreter
    exact (ih leaves.2 (update interpreter) desk).trans (by rw [same])
  | run behaviour next ih => exact ih _ (leaves _) _ _

/-! ## What is run while an object is processed -/

/-- What comes after a part that leaves the program in place may count on the program. -/
theorem perform_andThen_congr {first : Course (Except Failure α)} (leaves : first.HeapOnly)
    {rest other : α → Course (Except Failure β)} {interpreter : Interpreter} {desk : Desk}
    (same : ∀ value later after, later.program = interpreter.program →
      (rest value).perform later after = (other value).perform later after) :
    (first.andThen rest).perform interpreter desk =
      (first.andThen other).perform interpreter desk := by
  rw [andThen, andThen, perform_bind, perform_bind]
  have kept := leaves.program_perform interpreter desk
  rcases went : first.perform interpreter desk with ⟨result, later, after⟩
  rw [went] at kept
  cases result with
  | ok value => exact same value later after kept
  | error failure => rfl

theorem perform_andThen_of_eq {first other : Course (Except Failure α)}
    (rest : α → Course (Except Failure β)) {interpreter : Interpreter} {desk : Desk}
    (same : first.perform interpreter desk = other.perform interpreter desk) :
    (first.andThen rest).perform interpreter desk =
      (other.andThen rest).perform interpreter desk := by
  rw [andThen, perform_bind, same, andThen, perform_bind]

theorem perform_processing_of_loaded {interpreter : Interpreter} {program : Closure}
    (loaded : interpreter.program = some program) (desk : Desk) (reader : Reader)
    (object : Object) :
    (processing reader object).perform interpreter desk =
      (processingBy (runThis program) reader object).perform interpreter desk := by
  rw [← processingBy_runProgram]
  refine perform_andThen_congr (heapOnly_display object) fun shown first _ kept => ?_
  refine perform_andThen_congr (heapOnly_setGlobal _ _) fun _ second _ keptToo => ?_
  refine perform_andThen_congr (heapOnly_setGlobal _ _) fun _ third after keptStill => ?_
  exact perform_andThen_of_eq _ (perform_runProgram_of_loaded
    (keptStill.trans (keptToo.trans (kept.trans loaded))) after)

/-! ## Interpreters without a program -/

theorem perform_andThen_of_ok {first : Course (Except Failure α)}
    (rest : α → Course (Except Failure β)) {interpreter later : Interpreter} {desk after : Desk}
    {value : α} (comes : first.perform interpreter desk = (.ok value, later, after)) :
    (first.andThen rest).perform interpreter desk = (rest value).perform later after := by
  rw [andThen, perform_bind, comes]

theorem perform_andThen_of_error {first : Course (Except Failure α)}
    (rest : α → Course (Except Failure β)) {interpreter later : Interpreter} {desk after : Desk}
    {failure : Failure} (fails : first.perform interpreter desk = (.error failure, later, after)) :
    (first.andThen rest).perform interpreter desk = (.error failure, later, after) := by
  rw [andThen, perform_bind, fails]
  rfl

/-- As long as no script has run, global variables can be set. -/
theorem perform_setGlobal_of_inert (interpreter : Interpreter) {heap : Heap}
    (inert : heap.IsInert) (desk : Desk) (name : String) (value : Value)
    (harmless : value.IsInert) :
    ∃ later, later.IsInert ∧ (setGlobal name value).perform { interpreter with heap } desk =
      (.ok (), { interpreter with heap := later }, desk) := by
  have stored : (heap.rawSet heap.globals (.ofString name) value).IsInert :=
    inert.rawSet heap.globals fun _ => harmless
  have usable : badKey? (.ofString name) = none := rfl
  have stores := (direct_store inert.plain none usable value []).map fun _ => Signal.result []
  refine ⟨_, stored, ?_⟩
  rw [perform_setGlobal, Interpreter.setGlobal,
    Interpreter.attempt_of_direct host { interpreter with heap } desk stores (by decide)]
  rfl

/-- Without a program nothing is processed, and still no script has run. -/
theorem perform_processing_of_none {interpreter : Interpreter}
    (empty : interpreter.program = none) (inert : interpreter.heap.IsInert) (desk : Desk)
    (reader : Reader) (object : Object) :
    ∃ heap, heap.IsInert ∧ (processing reader object).perform interpreter desk =
      (.error .nothingLoaded, { interpreter with heap }, desk) := by
  have displays : (display object).perform interpreter desk =
      (.ok (.table ((ObjectTable.ofObject object).allocate interpreter.heap).2),
        { interpreter with heap := ((ObjectTable.ofObject object).allocate interpreter.heap).1 },
        desk) := rfl
  obtain ⟨withObject, shown, sets⟩ := perform_setGlobal_of_inert interpreter
    (inert.allocate object) desk "orig"
    (.table ((ObjectTable.ofObject object).allocate interpreter.heap).2) trivial
  obtain ⟨withPath, named, setsPath⟩ := perform_setGlobal_of_inert interpreter shown desk
    "object_script_path" (.str object.location) trivial
  have stops : runProgram.perform { interpreter with heap := withPath } desk =
      (.error .nothingLoaded, { interpreter with heap := withPath }, desk) :=
    perform_runProgram_of_none { interpreter with heap := withPath } empty desk
  refine ⟨withPath, named, ?_⟩
  rw [processing, perform_andThen_of_ok _ displays, perform_andThen_of_ok _ sets,
    perform_andThen_of_ok _ setsPath, perform_andThen_of_error _ stops]

end Course

/-! ## Processing by whatever is run -/

/-- Process an object by whatever is run. -/
def processBy (run : Course (Except Failure Unit)) (importer : Importer) (context : Context)
    (object : Object) : Except Failure (Option Object) × Importer :=
  importer.locked fun importer =>
    match importer.slot context.name with
    | .error cause => (.error (.setup cause), importer)
    | .ok _ =>
      let importer := importer.noteProcessed context object
      importer.workOn context.name
        (Course.processingBy run (importer.environmentOf context).reader object).work

theorem processBy_runProgram (importer : Importer) (context : Context) (object : Object) :
    processBy Course.runProgram importer context object = importer.process context object := by
  have same (reader : Reader) : (Course.processingBy Course.runProgram reader object).work =
      processing reader object := by
    rw [Course.processingBy_runProgram, Course.work_processing]
  refine congrArg importer.locked (funext fun importer => ?_)
  cases importer.slot context.name with
  | error cause => rfl
  | ok _ => exact congrArg ((importer.noteProcessed context object).workOn context.name) (same _)

theorem processBy_of_found {importer : Importer} {context : Context} {slot : Slot}
    (found : importer.interpreters[context.name]? = some slot)
    (run : Course (Except Failure Unit)) (object : Object) :
    processBy run importer context object =
      (importer.noteProcessed context object).use context (Course.processingBy run
        ((importer.noteProcessed context object).environmentOf context).reader object).work := by
  have held : { importer with lock := importer.lock.acquire }.interpreters[context.name]? =
      some slot := found
  have noted : { importer with lock := importer.lock.acquire }.noteProcessed context object =
      { importer.noteProcessed context object with
        lock := (importer.noteProcessed context object).lock.acquire } := rfl
  simp only [processBy, use, locked, Importer.slot, held, noted]
  rfl

section Found

variable {importer : Importer} {context : Context} {slot : Slot}

/-- Works that do the same with an interpreter can stand for each other. -/
theorem use_congr {α : Type} (found : importer.interpreters[context.name]? = some slot)
    {work other : Work α} (same : work (slot.interpreter, importer.deskOf slot) =
      other (slot.interpreter, importer.deskOf slot)) :
    importer.use context work = importer.use context other := by
  rw [use_of_found found, use_of_found found, same]

theorem execute_of_loaded (found : importer.interpreters[context.name]? = some slot)
    {program : Closure} (loaded : slot.interpreter.program = some program) :
    importer.execute context = importer.use context (Course.runThis program).work := by
  have same := Course.perform_runProgram_of_loaded loaded (importer.deskOf slot)
  exact use_congr found ((Course.perform_runProgram _ _).symm.trans same)

theorem process_of_loaded (found : importer.interpreters[context.name]? = some slot)
    {program : Closure} (loaded : slot.interpreter.program = some program) (object : Object) :
    importer.process context object =
      processBy (Course.runThis program) importer context object := by
  have noted : (importer.noteProcessed context object).interpreters[context.name]? =
      some slot := found
  have same := Course.perform_processing_of_loaded loaded
    ((importer.noteProcessed context object).deskOf slot)
    ((importer.noteProcessed context object).environmentOf context).reader object
  rw [← Course.processingBy_runProgram] at same
  rw [← processBy_runProgram, processBy_of_found found, processBy_of_found found]
  exact use_congr noted same

theorem execute_of_empty (found : importer.interpreters[context.name]? = some slot)
    (empty : slot.interpreter.program = none) :
    (importer.execute context).1 = .error .nothingLoaded := by
  have stops := Course.perform_runProgram_of_none slot.interpreter empty (importer.deskOf slot)
  change (importer.use context Work.runProgram).1 = _
  rw [result_use found, ← Course.work_runProgram, Course.work_apply, stops]

theorem process_of_empty (found : importer.interpreters[context.name]? = some slot)
    (empty : slot.interpreter.program = none) (inert : slot.interpreter.heap.IsInert)
    (object : Object) : (importer.process context object).1 = .error .nothingLoaded := by
  have noted : (importer.noteProcessed context object).interpreters[context.name]? =
      some slot := found
  obtain ⟨heap, -, stops⟩ := Course.perform_processing_of_none empty inert
    ((importer.noteProcessed context object).deskOf slot)
    ((importer.noteProcessed context object).environmentOf context).reader object
  rw [← processBy_runProgram, processBy_of_found found, result_use noted, Course.work_apply,
    Course.processingBy_runProgram, stops]

end Found

end Importer

end MediaImport
