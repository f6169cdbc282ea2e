import MediaImport.Proofs.Importer.LiveContexts
import MediaImport.Proofs.Importer.RunningPrograms

/-!
# The program that runs

A context runs the program that it loaded last, whatever happened since: loads that failed, runs
that failed, objects, calls from outside, and what other contexts did.  What it loaded last is
found from the bytes of script files alone.  Before the first load no script has run, so showing
an object to the interpreter cannot fail, and both to run and to process an object fail for want
of a program.
-/

namespace MediaImport

open MediaImport.Exchange MediaImport.Importer MediaImport.Media MediaImport.Script

namespace Importer

namespace Course

/-! ## Calls from outside -/

theorem heapOnly_calling (tables : List Table) (function : HostFunction)
    (arguments : List Value) : (Deed.calling tables function arguments).HeapOnly :=
  (heapOnly_onHeap _).andThen fun _ => heapOnly_attempt _

theorem isInert_calling {interpreter : Interpreter} (inert : interpreter.heap.IsInert)
    (desk : Desk) {tables : List Table} (harmless : ∀ table ∈ tables, table.IsInert)
    (function : HostFunction) (arguments : List Value) :
    ((Deed.calling tables function arguments).perform interpreter desk).2.1.heap.IsInert := by
  have given : (onHeap fun heap => ((), heap.addTables tables)).perform interpreter desk =
      (.ok (), { interpreter with heap := interpreter.heap.addTables tables }, desk) := rfl
  rw [Deed.calling, perform_andThen_of_ok _ given, call, perform_attempt]
  exact Interpreter.isInert_attempt (inert.addTables harmless) desk
    ⟨trivial, fun _ => trivial⟩

end Course

/-! ## What a context changes -/

/-- What a context does with its own interpreter concerns nobody else, and leaves its character
sets as they are. -/
structure Turn (context : Context) (before after : Importer) : Prop where
  elsewhere : ∀ name, name ≠ context.name →
    after.interpreters[name]? = before.interpreters[name]?
  environments : ∀ number, number ≠ context.environment →
    after.environments[number]? = before.environments[number]?
  conversions : (after.environmentOf context).conversions =
    (before.environmentOf context).conversions

namespace Turn

variable {context : Context} {before between after : Importer}

theorem refl (context : Context) (importer : Importer) : Turn context importer importer :=
  ⟨fun _ _ => rfl, fun _ _ => rfl, rfl⟩

theorem trans (first : Turn context before between) (second : Turn context between after) :
    Turn context before after where
  elsewhere name apart := (second.elsewhere name apart).trans (first.elsewhere name apart)
  environments number apart :=
    (second.environments number apart).trans (first.environments number apart)
  conversions := second.conversions.trans first.conversions

end Turn

variable {importer : Importer} {context : Context} {interpreter : Interpreter}

theorem turn_use {α : Type}
    (found : importer.interpreters[context.name]? = some ⟨interpreter, some context.environment⟩)
    (course : Course (Except Failure α)) :
    Turn context importer (importer.use context course.work).2 := by
  let desk := importer.deskOf ⟨interpreter, some context.environment⟩
  have surrounds : (course.perform interpreter desk).2.2.Surrounds desk.environment.surroundings :=
    course.surrounds_perform interpreter rfl
  rw [use_of_found found]
  constructor
  · intro name apart
    simp [putBack, Std.ExtTreeMap.getElem?_insert, Ne.symm apart]
  · intro number apart
    simp [putBack, Std.ExtTreeMap.getElem?_insert, Ne.symm apart]
  · simp only [environmentOf, putBack, Std.ExtTreeMap.getElem?_insert_self, Option.getD_some]
    exact congrArg Surroundings.conversions surrounds

theorem turn_noteProcessed (importer : Importer) (context : Context) (object : Object) :
    Turn context importer (importer.noteProcessed context object) where
  elsewhere _ _ := rfl
  environments number apart := by
    simp [noteProcessed, Std.ExtTreeMap.getElem?_insert, Ne.symm apart]
  conversions := by
    simp [noteProcessed, environmentOf]

theorem turn_load
    (found : importer.interpreters[context.name]? = some ⟨interpreter, some context.environment⟩)
    (source : ScriptSource) (path : String) :
    Turn context importer (importer.load source context path).2 := by
  unfold load
  split
  · exact .refl context importer
  · next text read =>
    rw [← Course.work_load]
    exact turn_use found (Course.load path text)

end Importer

/-! ## Records that are true -/

/-- A record says how the scripts of a context are decoded and which program it loaded last, and
if it loaded none, no script has run in its interpreter. -/
structure Record.Describes (record : Record) (importer : Importer) (context : Context) :
    Prop where
  conversions : (importer.environmentOf context).conversions = record.conversions
  interpreter : ∃ interpreter,
    importer.interpreters[context.name]? = some ⟨interpreter, some context.environment⟩ ∧
    interpreter.program = record.program ∧ (record.program = none → interpreter.heap.IsInert)

namespace Record.Describes

variable {record : Record} {importer later : Importer} {context : Context}

/-- What does not concern a context leaves its record true. -/
theorem of_same (describes : record.Describes importer context)
    (interpreters : later.interpreters[context.name]? = importer.interpreters[context.name]?)
    (environments : later.environments[context.environment]? =
      importer.environments[context.environment]?) : record.Describes later context where
  conversions := by
    rw [environmentOf, environments]
    exact describes.conversions
  interpreter := interpreters ▸ describes.interpreter

theorem turn (describes : record.Describes importer context) {other : Context}
    (turn : Importer.Turn other importer later) (name : context.name ≠ other.name)
    (number : context.environment ≠ other.environment) : record.Describes later context :=
  describes.of_same (turn.elsewhere _ name) (turn.environments _ number)

/-- Work that keeps the program, and runs no script if there is none, leaves the record true. -/
theorem use {α : Type} (describes : record.Describes importer context)
    {course : Course (Except Failure α)} (leaves : course.HeapOnly)
    (inert : ∀ interpreter desk, interpreter.program = none → interpreter.heap.IsInert →
      (course.perform interpreter desk).2.1.heap.IsInert) :
    Importer.Turn context importer (importer.use context course.work).2 ∧
      record.Describes (importer.use context course.work).2 context := by
  obtain ⟨interpreter, found, loaded, harmless⟩ := describes.interpreter
  have turn := turn_use found course
  refine ⟨turn, turn.conversions.trans describes.conversions, _, slot_use found course.work, ?_, ?_⟩
  · exact (leaves.program_perform interpreter _).trans loaded
  · exact fun empty => inert interpreter _ (loaded.trans empty) (harmless empty)

theorem execute (describes : record.Describes importer context) :
    Importer.Turn context importer (importer.execute context).2 ∧
      record.Describes (importer.execute context).2 context := by
  have used := describes.use Course.heapOnly_runProgram fun interpreter desk empty inert => by
    rw [Course.perform_runProgram_of_none interpreter empty desk]
    exact inert
  rw [Course.work_runProgram] at used
  exact used

theorem process (describes : record.Describes importer context) (object : Object) :
    Importer.Turn context importer (importer.process context object).2 ∧
      record.Describes (importer.process context object).2 context := by
  obtain ⟨interpreter, found, loaded, harmless⟩ := describes.interpreter
  have notes := turn_noteProcessed importer context object
  have noted : record.Describes (importer.noteProcessed context object) context :=
    ⟨notes.conversions.trans describes.conversions, describes.interpreter⟩
  have used := noted.use
    (Course.heapOnly_processing
      ((importer.noteProcessed context object).environmentOf context).reader object)
    fun interpreter desk empty inert => by
      obtain ⟨heap, quiet, stops⟩ := Course.perform_processing_of_none empty inert desk
        ((importer.noteProcessed context object).environmentOf context).reader object
      rw [stops]
      exact quiet
  rw [← processBy_runProgram, processBy_of_found found]
  exact ⟨notes.trans used.1, used.2⟩

theorem call (describes : record.Describes importer context) {tables : List Table}
    (harmless : ∀ table ∈ tables, table.IsInert) (function : HostFunction)
    (arguments : List Value) :
    Importer.Turn context importer
        (importer.use context (Deed.calling tables function arguments).work).2 ∧
      record.Describes (importer.use context (Deed.calling tables function arguments).work).2
        context :=
  describes.use (Course.heapOnly_calling tables function arguments)
    fun _ desk _ inert => Course.isInert_calling inert desk harmless function arguments

/-- The record of a context is changed by a load just as its program is. -/
theorem load (describes : record.Describes importer context) (source : ScriptSource)
    (path : String) :
    Importer.Turn context importer (importer.load source context path).2 ∧
      (record.load source path).Describes (importer.load source context path).2 context := by
  obtain ⟨interpreter, found, loaded, harmless⟩ := describes.interpreter
  have turn := turn_load found source path
  have conversions := turn.conversions.trans describes.conversions
  refine ⟨turn, ?_⟩
  cases makes : programOf? source record.conversions path with
  | some program =>
    have kept := load_of_program found (describes.conversions.symm ▸ makes)
    rw [Record.load, makes]
    exact ⟨conversions, _, kept.2, rfl, fun empty => by cases empty⟩
  | none =>
    have kept := load_of_no_program found (describes.conversions.symm ▸ makes)
    rw [Record.load, makes]
    exact ⟨conversions, interpreter, kept.2, loaded, harmless⟩

theorem isInert_prepared (settings : Settings) (world : World) :
    (prepared settings world).heap.IsInert := by
  simp only [prepared, Interpreter.initial]
  exact (Heap.isInert_initial settings.trust world).install settings.services

/-- A context starts without a program, in an interpreter where no script has run. -/
theorem enroll (importer : Importer) (settings : Settings) (conversions : Conversions)
    (name : String) (purpose : Purpose) :
    Record.Describes { conversions } (importer.enroll settings conversions name purpose)
      ⟨name, importer.fresh⟩ := by
  have found : (importer.enroll settings conversions name purpose).interpreters[name]? =
      some ⟨prepared settings (importer.world importer.fresh), some importer.fresh⟩ :=
    Std.ExtTreeMap.getElem?_insert_self
  have kept : (importer.enroll settings conversions name purpose).environments[importer.fresh]? =
      some { purpose, conversions } := Std.ExtTreeMap.getElem?_insert_self
  constructor
  · rw [environmentOf, kept]
    rfl
  · exact ⟨_, found, rfl, fun _ => isInert_prepared settings _⟩

/-- The common script counts as the first load, however its run ends. -/
theorem runCommonScript (describes : record.Describes importer context) (source : ScriptSource)
    (path : String) :
    Importer.Turn context importer (importer.runCommonScript source context path) ∧
      (if path.isEmpty then record else record.load source path).Describes
        (importer.runCommonScript source context path) context := by
  unfold Importer.runCommonScript
  split
  · exact ⟨.refl context importer, describes⟩
  · have loads := describes.load source path
    split
    · next result later loaded =>
      rw [loaded] at loads
      have runs := loads.2.execute
      exact ⟨loads.1.trans runs.1, runs.2⟩
    · next failure later refused =>
      rw [refused] at loads
      exact loads

end Record.Describes

/-! ## Sessions -/

namespace Session

variable {session : Session}

/-- There is a true record of every live context. -/
def Recorded (session : Session) : Prop :=
  ∀ context ∈ session.live, ∃ record, session.records context.environment = some record ∧
    record.Describes session.importer context

/-- A context that does something, and keeps a true record of itself, leaves the records of the
others true. -/
theorem Recorded.turn (recorded : session.Recorded) (accounted : session.Accounted)
    (undisturbed : session.Undisturbed) {context : Context} (live : context ∈ session.live)
    {later : Importer} (turn : Importer.Turn context session.importer later) {record : Record}
    (describes : record.Describes later context) :
    Recorded { session with
      importer := later
      records := Function.update session.records context.environment (some record) } := by
  intro other otherLive
  by_cases same : other = context
  · subst same
    exact ⟨record, Function.update_self _ _ _, describes⟩
  · have name := undisturbed.name_ne accounted otherLive live same
    have number : other.environment ≠ context.environment := fun equal =>
      same (accounted.apart other otherLive context live equal)
    obtain ⟨kept, known, true⟩ := recorded other otherLive
    exact ⟨kept, (Function.update_of_ne number _ _).trans known, true.turn turn name number⟩

/-- So does one that leaves its own record true. -/
theorem Recorded.turn_same (recorded : session.Recorded) (accounted : session.Accounted)
    (undisturbed : session.Undisturbed) {context : Context} (live : context ∈ session.live)
    {later : Importer} {record : Record}
    (known : session.records context.environment = some record)
    (turns : Importer.Turn context session.importer later ∧ record.Describes later context) :
    Recorded { session with importer := later } := by
  have kept := recorded.turn accounted undisturbed live turns.1 turns.2
  rwa [← known, Function.update_eq_self] at kept

theorem Recorded.construct (recorded : session.Recorded) (accounted : session.Accounted)
    {shortage : Shortage} {source : ScriptSource} {settings : Settings} {name : String}
    {purpose : Purpose} {outcome : Except Failure Context × Importer}
    (construction : Importer.Construction shortage session.importer source settings name purpose
      outcome) : (session.join (Record.ofSettings? source settings) outcome).Recorded := by
  cases construction with
  | failed cause later same why =>
    rcases same with rfl | rfl
    · exact recorded
    · intro context live
      obtain ⟨record, known, describes⟩ := recorded context live
      exact ⟨record, known, describes.of_same rfl rfl⟩
  | made conversions accepted new enough =>
    obtain ⟨turn, describes⟩ := (Record.Describes.enroll session.importer settings conversions name
      purpose).runCommonScript source (settings.text .commonScript)
    have first : Record.ofSettings? source settings =
        some (if (settings.text .commonScript).isEmpty then { conversions }
          else Record.load { conversions } source (settings.text .commonScript)) := by
      rw [Record.ofSettings?, accepted]
      rfl
    intro context live
    rcases List.mem_cons.mp live with rfl | older
    · exact ⟨_, (Function.update_self _ _ _).trans first, describes⟩
    · obtain ⟨record, known, true⟩ := recorded context older
      have number : context.environment ≠ session.importer.fresh :=
        Nat.ne_of_lt (accounted.known context older)
      have other : context.name ≠ name := by
        rintro rfl
        obtain ⟨interpreter, found, -⟩ := true.interpreter
        rw [Std.ExtTreeMap.getElem?_eq_none new] at found
        cases found
      have admitted : record.Describes
          (session.importer.enroll settings conversions name purpose) context :=
        true.of_same (by simp [Importer.enroll, Std.ExtTreeMap.getElem?_insert, Ne.symm other])
          (by simp [Importer.enroll, Std.ExtTreeMap.getElem?_insert, Ne.symm number])
      exact ⟨record, (Function.update_of_ne number _ _).trans known,
        admitted.turn turn other number⟩

theorem Recorded.next (recorded : session.Recorded) (accounted : session.Accounted)
    (undisturbed : session.Undisturbed) {deed : Deed} (indirect : ¬deed.IsDirect)
    (allowed : session.Allows deed) : (session.next deed).Recorded := by
  cases deed with
  | construct shortage source settings name purpose =>
    have kept := recorded.construct accounted
      (Importer.construction shortage source purpose session.importer settings name)
    exact kept
  | load source context path =>
    obtain ⟨record, known, describes⟩ := recorded context allowed
    obtain ⟨turn, loaded⟩ := describes.load source path
    have kept := recorded.turn accounted undisturbed allowed turn loaded
    rw [Session.next, known]
    exact kept
  | execute context =>
    obtain ⟨record, known, describes⟩ := recorded context allowed
    have kept := recorded.turn_same accounted undisturbed allowed known describes.execute
    exact kept
  | process context object =>
    obtain ⟨record, known, describes⟩ := recorded context allowed
    have kept := recorded.turn_same accounted undisturbed allowed known (describes.process object)
    exact kept
  | call context tables function arguments =>
    obtain ⟨live, harmless⟩ := allowed
    obtain ⟨record, known, describes⟩ := recorded context live
    have kept := recorded.turn_same accounted undisturbed live known
      (describes.call harmless function arguments)
    exact kept
  | drop context =>
    intro other kept
    obtain ⟨otherLive, apart⟩ := List.mem_filter.mp kept
    have name := undisturbed.name_ne accounted otherLive allowed (of_decide_eq_true apart)
    obtain ⟨record, known, describes⟩ := recorded other otherLive
    refine ⟨record, known, describes.of_same ?_ rfl⟩
    exact (interpreters_drop session.importer context other.name).trans (if_neg name)
  | createBare name trust world => exact absurd trivial indirect
  | destroy name => exact absurd trivial indirect

theorem Reachable.recorded (reachable : session.Reachable (¬ ·.IsDirect)) : session.Recorded := by
  induction reachable with
  | start catalogue world => exact List.forall_mem_nil _
  | next reachable indirect allowed ih =>
    exact ih.next reachable.accounted reachable.undisturbed indirect allowed

/-- A context runs the program that it loaded last, and processes objects with it.  Without one
both fail.  A load succeeds exactly if the file makes a program, which takes the place of the
one before; every other load leaves that one. -/
theorem Reachable.runs_last_program (reachable : session.Reachable (¬ ·.IsDirect))
    {context : Context} (live : context ∈ session.live) :
    ∃ record, session.records context.environment = some record ∧
      (∀ program, record.program = some program →
        session.importer.execute context =
          session.importer.use context (Course.runThis program).work ∧
        ∀ object, session.importer.process context object =
          processBy (Course.runThis program) session.importer context object) ∧
      (record.program = none →
        (session.importer.execute context).1 = .error .nothingLoaded ∧
        ∀ object, (session.importer.process context object).1 = .error .nothingLoaded) ∧
      ∀ source path, (session.importer.load source context path).1 = .ok () ↔
        (programOf? source record.conversions path).isSome := by
  obtain ⟨record, known, describes⟩ := reachable.recorded context live
  obtain ⟨interpreter, found, loaded, inert⟩ := describes.interpreter
  refine ⟨record, known, fun program last => ?_, fun none => ?_, fun source path => ?_⟩
  · have has := loaded.trans last
    exact ⟨execute_of_loaded found has, process_of_loaded found has⟩
  · have empty := loaded.trans none
    exact ⟨execute_of_empty found empty, process_of_empty found empty (inert none)⟩
  · cases makes : programOf? source record.conversions path with
    | some program =>
      have loads := load_of_program found (describes.conversions.symm ▸ makes)
      exact iff_of_true loads.1 rfl
    | none =>
      obtain ⟨⟨cause, refused⟩, -⟩ := load_of_no_program found (describes.conversions.symm ▸ makes)
      refine iff_of_false (fun loads => ?_) Bool.false_ne_true
      cases refused.symm.trans loads

/-! ### A context that loads one program, and then fails to load another -/

def loadedSession : Session :=
  (madeSession.next (.load oneProgram ⟨"import", 0⟩ "/one.lua")).next
    (.load noScripts ⟨"import", 0⟩ "/two.lua")

theorem live_loadedSession : ⟨"import", 0⟩ ∈ loadedSession.live :=
  mem_live_madeSession

theorem reachable_loadedSession : loadedSession.Reachable (¬ ·.IsDirect) := by
  have loaded : (madeSession.next (.load oneProgram ⟨"import", 0⟩ "/one.lua")).Reachable
      (¬ ·.IsDirect) := reachable_madeSession.next id live_loadedSession
  exact loaded.next id live_loadedSession

theorem record_madeSession :
    madeSession.records 0 = some { conversions := ⟨.utf8, .utf8, .utf8, .utf8⟩ } := by
  have first : Record.ofSettings? noScripts commonSettings =
      some { conversions := ⟨.utf8, .utf8, .utf8, .utf8⟩ } := by
    rw [Record.ofSettings?, accepted_commonSettings]
    rfl
  simp only [madeSession_eq, Function.update_self, first]

theorem record_loadedSession {program : Closure}
    (makes : programOf? oneProgram ⟨.utf8, .utf8, .utf8, .utf8⟩ "/one.lua" = some program) :
    loadedSession.records 0 =
      some { conversions := ⟨.utf8, .utf8, .utf8, .utf8⟩, program := some program } := by
  have nothing (conversions : Conversions) : programOf? noScripts conversions "/two.lua" = none :=
    rfl
  simp only [loadedSession, next, Function.update_self, record_madeSession, Option.map_some,
    Record.load, makes, nothing]

/-- Before the first load the context cannot run.  Afterwards it runs what it loaded, although it
then failed to load something else. -/
theorem runs_last_program_loadedSession :
    (madeSession.importer.execute ⟨"import", 0⟩).1 = .error .nothingLoaded ∧
    ∃ program, programOf? oneProgram ⟨.utf8, .utf8, .utf8, .utf8⟩ "/one.lua" = some program ∧
      loadedSession.importer.execute ⟨"import", 0⟩ =
        loadedSession.importer.use ⟨"import", 0⟩ (Course.runThis program).work := by
  obtain ⟨program, makes⟩ := program_oneProgram ⟨.utf8, .utf8, .utf8, .utf8⟩
  obtain ⟨before, first, -, stops, -⟩ := reachable_madeSession.runs_last_program
    mem_live_madeSession
  obtain ⟨after, last, runs, -⟩ := reachable_loadedSession.runs_last_program live_loadedSession
  obtain rfl := Option.some.inj (first.symm.trans record_madeSession)
  obtain rfl := Option.some.inj (last.symm.trans (record_loadedSession makes))
  exact ⟨(stops rfl).1, program, makes, (runs program rfl).1⟩

end Session

end MediaImport
