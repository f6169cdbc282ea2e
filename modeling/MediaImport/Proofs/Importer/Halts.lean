import MediaImport.Proofs.Importer.RunningPrograms
import MediaImport.Proofs.Script.Endings

/-!
# How work on an interpreter halts

Work on an interpreter lets the machine run one behaviour after the other.  The first run that
does not come to its end stops everything (`Course.halt?`), and the interpreter keeps how.  So what
an interpreter says of it, after it was worked on, is what it said before or else what the runs
have come to since.
-/

namespace MediaImport.Importer

open MediaImport.Exchange MediaImport.Media MediaImport.Script

namespace Course

variable {α : Type}

/-- How the first run halts that does, while the work is done. -/
def halt? (interpreter : Interpreter) (desk : Desk) : Course α → Option Halt
  | done _ => none
  | look next => (next interpreter).halt? interpreter desk
  | change update next => next.halt? (update interpreter) desk
  | run behaviour next =>
    match interpreter.run host desk behaviour with
    | (.halted how, _, _) => some how
    | (.ended result, later, after) => (next (.ended result)).halt? later after

/-- Work halts where the machine is asked to, or in a run that has no end. -/
theorem exists_visits_of_halt? {course : Course α} {interpreter : Interpreter} {desk : Desk}
    {how : Halt} (halts : course.halt? interpreter desk = some how) :
    (∃ config, course.Visits config interpreter desk ∧ config.focus = .halt how) ∨
      how = .unfinished ∧ ∃ (start : Config Desk) (limit : Nat), stepLimit ≤ limit ∧
        ∀ steps ≤ limit, course.Visits (start.after host steps) interpreter desk ∧
          (start.after host steps).ending? = none := by
  induction course generalizing interpreter desk with
  | done value => cases halts
  | look next ih => exact ih interpreter halts
  | change update next ih => exact ih halts
  | run behaviour next ih =>
    rw [halt?] at halts
    rcases ran : interpreter.run host desk behaviour with ⟨result | first, later, after⟩
    · rw [ran] at halts
      simp only [Visits, ran]
      rcases ih _ halts with ⟨config, visits, focus⟩ | ⟨rfl, start, limit, enough, endless⟩
      · exact .inl ⟨config, .inr visits, focus⟩
      · exact .inr ⟨rfl, start, limit, enough, fun steps within =>
          ⟨.inr (endless steps within).1, (endless steps within).2⟩⟩
    · rw [ran] at halts
      obtain rfl : first = how := Option.some.inj halts
      have stopped : (interpreter.run host desk behaviour).1 = .halted first := by rw [ran]
      rcases (interpreter.run_halts_iff desk behaviour first).mp stopped with
        ⟨steps, -, focus⟩ | ⟨rfl, endless⟩
      · exact .inl ⟨_, .inl ⟨steps, rfl⟩, focus⟩
      · exact .inr ⟨rfl, _, interpreter.limit, Nat.le_add_right _ _, fun steps within =>
          ⟨.inl ⟨steps, rfl⟩, endless steps within⟩⟩

/-- An interpreter keeps how it halted first. -/
theorem HeapOnly.halt_perform {course : Course α} (leaves : course.HeapOnly)
    (interpreter : Interpreter) (desk : Desk) :
    (course.perform interpreter desk).2.1.halt =
      interpreter.halt.or (course.halt? interpreter desk) := by
  induction course generalizing interpreter desk with
  | done value => exact (Option.or_none ..).symm
  | look next ih => exact ih interpreter (leaves interpreter) interpreter desk
  | change update next ih =>
    obtain ⟨heap, same⟩ := leaves.1 interpreter
    rw [perform, halt?, ih leaves.2, same]
  | run behaviour next ih =>
    have kept : (interpreter.run host desk behaviour).2.1.halt =
        (interpreter.run host desk behaviour).1.haltAfter interpreter.halt := rfl
    rw [perform, halt?]
    rcases ran : interpreter.run host desk behaviour with ⟨result | how, later, after⟩
    all_goals
      rw [ran] at kept
      refine (ih _ (leaves _) later after).trans ?_
      rw [kept, Ending.haltAfter]
    -- After the first run that halts, what becomes of the others does not matter.
    rw [Option.or_assoc, Option.some_or]

end Course

/-- How the first run halts that does, while a course is performed on the interpreter under a
name. -/
def halting {α : Type} (importer : Importer) (name : String) (course : Course α) : Option Halt :=
  importer.interpreters[name]?.bind fun slot =>
    course.halt? slot.interpreter (importer.deskOf slot)

/-- How the first run halts that does, while the common script of a context is run. -/
def commonHalting (importer : Importer) (source : ScriptSource) (context : Context)
    (path : String) : Option Halt :=
  if path.isEmpty then none
  else
    match importer.load source context path with
    | (.ok _, loaded) => loaded.halting context.name Course.runProgram
    | (.error _, _) => none

/-- How the first run halts that does, while an object is processed. -/
def processHalting (importer : Importer) (context : Context) (object : Object) : Option Halt :=
  let noted := importer.noteProcessed context object
  noted.halting context.name (Course.processing (noted.environmentOf context).reader object)

section Found

variable {importer : Importer} {context : Context} {slot : Slot}

theorem haltOf_of_found (found : importer.interpreters[context.name]? = some slot) :
    importer.haltOf context.name = slot.interpreter.halt := by
  rw [haltOf, found, Option.bind_some]

theorem haltOf_use {α : Type} (found : importer.interpreters[context.name]? = some slot)
    {course : Course (Except Failure α)} (leaves : course.HeapOnly) :
    (importer.use context course.work).2.haltOf context.name =
      (importer.haltOf context.name).or (importer.halting context.name course) := by
  rw [haltOf_of_found (slot_use found course.work), haltOf_of_found found, halting, found,
    Option.bind_some]
  exact leaves.halt_perform slot.interpreter _

/-- To load a program runs nothing. -/
theorem haltOf_load (found : importer.interpreters[context.name]? = some slot)
    (source : ScriptSource) (path : String) :
    (importer.load source context path).2.haltOf context.name =
      importer.haltOf context.name := by
  rw [haltOf_of_found found]
  cases makes : programOf? source (importer.environmentOf context).conversions path with
  | some program => rw [haltOf_of_found (load_of_program found makes).2]
  | none => rw [haltOf_of_found (load_of_no_program found makes).2]

theorem haltOf_process (found : importer.interpreters[context.name]? = some slot)
    (object : Object) :
    (importer.process context object).2.haltOf context.name =
      (importer.haltOf context.name).or (importer.processHalting context object) := by
  have noted : (importer.noteProcessed context object).interpreters[context.name]? =
      some slot := found
  rw [← processBy_runProgram, processBy_of_found found, Course.processingBy_runProgram,
    haltOf_use noted (Course.heapOnly_processing _ object)]
  rfl

/-- Work under a name leaves an interpreter there. -/
theorem WorksOn.exists_slot {later : Importer} {name : String}
    (works : WorksOn name importer later) {other : String}
    (found : importer.interpreters[other]? = some slot) :
    ∃ slot, later.interpreters[other]? = some slot := by
  have owned := works.owner other
  rw [Importer.owner, Importer.owner, found] at owned
  obtain ⟨slot, there, -⟩ := Option.map_eq_some_iff.mp owned
  exact ⟨slot, there⟩

theorem haltOf_runCommonScript (found : importer.interpreters[context.name]? = some slot)
    (source : ScriptSource) (path : String) :
    (importer.runCommonScript source context path).haltOf context.name =
      (importer.haltOf context.name).or (importer.commonHalting source context path) := by
  have kept := haltOf_load found source path
  have works := worksOn_load importer source context path
  unfold runCommonScript commonHalting
  split
  · exact (Option.or_none ..).symm
  · rcases loads : importer.load source context path with ⟨failure | _, loaded⟩
    all_goals rw [loads] at kept works
    · exact kept.trans (Option.or_none ..).symm
    · obtain ⟨slot, there⟩ := works.exists_slot found
      have used := haltOf_use there Course.heapOnly_runProgram
      rw [Course.work_runProgram] at used
      exact used.trans (congrArg (Option.or · _) kept)

end Found

end MediaImport.Importer
