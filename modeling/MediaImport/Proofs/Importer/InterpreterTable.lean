import MediaImport.Proofs.Importer.History

/-!
# What operations do to the interpreters

Interpreters are kept under names, and a context holds no more than a name.  Whose an interpreter
is can be told from its environment all the same.  Here is what each operation of an application
does to the table of interpreters: work that a context does stays under its name, a construction
either adds one interpreter or changes nothing, and a load changes the program of one
interpreter, or nothing.
-/

namespace MediaImport

open MediaImport.Importer MediaImport.Exchange MediaImport.Media MediaImport.Script

namespace Importer

variable {importer : Importer} {name : String}

/-! ## Whose interpreters are -/

/-- Whose the interpreter under a name is: the number of the context that it belongs to, if it
belongs to one, or nothing if there is no interpreter. -/
def owner (importer : Importer) (name : String) : Option (Option Nat) :=
  importer.interpreters[name]?.map Slot.environment

theorem owner_eq_none_iff : importer.owner name = none ↔ name ∉ importer.interpreters := by
  rw [owner, Option.map_eq_none_iff, Std.ExtTreeMap.mem_iff_isSome_getElem?,
    Option.not_isSome_iff_eq_none]

theorem mem_interpreters_iff :
    name ∈ importer.interpreters ↔ ∃ whose, importer.owner name = some whose := by
  rw [← not_iff_not, ← owner_eq_none_iff, Option.eq_none_iff_forall_ne_some, not_exists]

theorem owner_insert (importer : Importer) (name other : String) (slot : Slot) :
    owner { importer with interpreters := importer.interpreters.insert name slot } other =
      if other = name then some slot.environment else importer.owner other := by
  by_cases same : other = name
  · simp [owner, same]
  · simp [owner, Std.ExtTreeMap.getElem?_insert, same, Ne.symm same]

theorem owner_destroyInterpreter (importer : Importer) (name other : String) :
    (importer.destroyInterpreter name).2.owner other =
      if other = name then none else importer.owner other := by
  by_cases same : other = name
  · simp [owner, destroyInterpreter, same]
  · simp [owner, destroyInterpreter, Std.ExtTreeMap.getElem?_erase, same, Ne.symm same]

/-! ## Locks -/

/-- Nobody holds a lock, and never did two hold it at once. -/
def Lock.IsIdle (lock : Lock) : Prop :=
  lock.holders = 0 ∧ lock.peak ≤ 1

theorem Lock.IsIdle.release_acquire {lock : Lock} (idle : lock.IsIdle) :
    lock.acquire.release.IsIdle := by
  obtain ⟨free, once⟩ := idle
  constructor
  · simp [acquire, release, free]
  · simp [acquire, release, free, once]

/-- Taking a lock and giving it back a second time leaves no trace. -/
theorem Lock.release_acquire_twice (lock : Lock) :
    lock.acquire.release.acquire.release = lock.acquire.release := by
  simp [acquire, release]

/-! ## Work under a name -/

/-- What work under a name leaves as it is: whose all interpreters are, and what is in those
under other names.  The lock is free again. -/
structure WorksOn (name : String) (before after : Importer) : Prop where
  owner : ∀ other, after.owner other = before.owner other
  elsewhere : ∀ other, other ≠ name → after.interpreters[other]? = before.interpreters[other]?
  fresh : after.fresh = before.fresh
  lock : after.lock = before.lock ∨ after.lock = before.lock.acquire.release

namespace WorksOn

theorem refl (name : String) (importer : Importer) : WorksOn name importer importer :=
  ⟨fun _ => rfl, fun _ _ => rfl, rfl, .inl rfl⟩

theorem trans {before between after : Importer} (first : WorksOn name before between)
    (second : WorksOn name between after) : WorksOn name before after where
  owner other := (second.owner other).trans (first.owner other)
  elsewhere other apart := (second.elsewhere other apart).trans (first.elsewhere other apart)
  fresh := second.fresh.trans first.fresh
  lock := by
    rcases first.lock with same | taken <;> rcases second.lock with same' | taken'
    · exact .inl (same'.trans same)
    · exact .inr (taken'.trans (by rw [same]))
    · exact .inr (same'.trans taken)
    · exact .inr (taken'.trans (by rw [taken, Lock.release_acquire_twice]))

theorem idle {before after : Importer} (works : WorksOn name before after)
    (idle : before.lock.IsIdle) : after.lock.IsIdle := by
  rcases works.lock with same | taken
  · rwa [same]
  · rw [taken]
    exact idle.release_acquire

end WorksOn

/-- Work that takes the lock, and leaves it alone meanwhile. -/
theorem worksOn_locked {α : Type} {body : Importer → α × Importer}
    (works : ∀ importer, WorksOn name importer (body importer).2 ∧
      (body importer).2.lock = importer.lock) :
    WorksOn name importer (importer.locked body).2 := by
  obtain ⟨inside, held⟩ := works { importer with lock := importer.lock.acquire }
  refine ⟨inside.owner, inside.elsewhere, inside.fresh, .inr ?_⟩
  exact congrArg Lock.release held

theorem worksOn_putBack {slot : Slot} (found : importer.interpreters[name]? = some slot)
    (interpreter : Interpreter) (desk : Desk) :
    WorksOn name importer (importer.putBack name slot interpreter desk) where
  owner other := by
    by_cases same : name = other
    · subst same
      simp [owner, putBack, found]
    · simp [owner, putBack, Std.ExtTreeMap.getElem?_insert, same]
  elsewhere other apart := by
    simp [putBack, Std.ExtTreeMap.getElem?_insert, Ne.symm apart]
  fresh := rfl
  lock := .inl rfl

theorem worksOn_workOn {α : Type} (importer : Importer) (name : String) (work : Work α) :
    WorksOn name importer (importer.workOn name work).2 ∧
      (importer.workOn name work).2.lock = importer.lock := by
  cases found : importer.interpreters[name]? with
  | none =>
    rw [workOn_of_missing found]
    exact ⟨.refl name importer, rfl⟩
  | some slot =>
    rw [workOn, Importer.slot, found]
    exact ⟨worksOn_putBack found _ _, rfl⟩

theorem worksOn_use {α : Type} (importer : Importer) (context : Context) (work : Work α) :
    WorksOn context.name importer (importer.use context work).2 :=
  worksOn_locked fun importer => worksOn_workOn importer context.name work

theorem worksOn_execute (importer : Importer) (context : Context) :
    WorksOn context.name importer (importer.execute context).2 :=
  worksOn_use importer context Work.runProgram

theorem worksOn_load (importer : Importer) (source : ScriptSource) (context : Context)
    (path : String) : WorksOn context.name importer (importer.load source context path).2 := by
  unfold load
  split
  · exact .refl _ _
  · exact worksOn_use importer context _

theorem worksOn_process (importer : Importer) (context : Context) (object : Object) :
    WorksOn context.name importer (importer.process context object).2 := by
  refine worksOn_locked fun importer => ?_
  cases importer.slot context.name with
  | error cause => exact ⟨.refl _ _, rfl⟩
  | ok slot =>
    obtain ⟨works, held⟩ := worksOn_workOn (importer.noteProcessed context object) context.name
      (processing ((importer.noteProcessed context object).environmentOf context).reader object)
    exact ⟨⟨works.owner, works.elsewhere, works.fresh, works.lock⟩, held⟩

theorem worksOn_runCommonScript (importer : Importer) (source : ScriptSource) (context : Context)
    (path : String) :
    WorksOn context.name importer (importer.runCommonScript source context path) := by
  have loads := worksOn_load importer source context path
  unfold runCommonScript
  split
  · exact .refl _ _
  · split
    · next loaded =>
      rw [loaded] at loads
      exact loads.trans (worksOn_execute _ context)
    · next refused =>
      rw [refused] at loads
      exact loads

/-! ## Making and dropping contexts -/

theorem interpreters_drop (importer : Importer) (context : Context) (name : String) :
    (importer.drop context).interpreters[name]? =
      if name = context.name then none else importer.interpreters[name]? := by
  by_cases same : name = context.name
  · simp [drop, locked, destroyInterpreter, same]
  · simp [drop, locked, destroyInterpreter, Std.ExtTreeMap.getElem?_erase, same, Ne.symm same]

/-- The application with an interpreter for a new context, and the lock free again. -/
def enroll (importer : Importer) (settings : Settings) (conversions : Conversions)
    (name : String) (purpose : Purpose) : Importer :=
  { importer with
    lock := importer.lock.acquire.release
    interpreters := importer.interpreters.insert name
      ⟨prepared settings (importer.world importer.fresh), some importer.fresh⟩
    environments := importer.environments.insert importer.fresh { purpose, conversions }
    fresh := importer.fresh + 1 }

/-- The application after an attempt that came to nothing: the lock was taken, and given back. -/
def relocked (importer : Importer) : Importer :=
  { importer with lock := importer.lock.acquire.release }

theorem worksOn_relocked (name : String) (importer : Importer) :
    WorksOn name importer importer.relocked :=
  ⟨fun _ => rfl, fun _ _ => rfl, rfl, .inr rfl⟩

theorem erase_insert_of_new {slots : Std.ExtTreeMap String Slot} (new : name ∉ slots)
    (slot : Slot) : (slots.insert name slot).erase name = slots := by
  refine Std.ExtTreeMap.ext_getElem? fun other => ?_
  rw [Std.ExtTreeMap.getElem?_erase, Std.ExtTreeMap.getElem?_insert]
  split
  · next same =>
    obtain rfl := Std.LawfulEqCmp.eq_of_compare same
    exact (Std.ExtTreeMap.getElem?_eq_none new).symm
  · rfl

section Construct

variable {settings : Settings} {conversions : Conversions} (shortage : Shortage)
  (source : ScriptSource) (purpose : Purpose)

theorem constructUnder_of_refused {cause : SetupFailure}
    (refused : Conversions.ofSettings settings = .error cause) :
    importer.constructUnder shortage source settings name purpose =
      (.error (.setup cause), importer) := by
  unfold constructUnder
  rw [refused]

theorem constructUnder_of_taken (accepted : Conversions.ofSettings settings = .ok conversions)
    (taken : name ∈ importer.interpreters) :
    importer.constructUnder shortage source settings name purpose =
      (.error (.setup (.contextExists name)), importer.relocked) := by
  have held : name ∈ { importer with lock := importer.lock.acquire }.interpreters := taken
  unfold constructUnder
  rw [accepted]
  simp only [locked, setUpUnder, if_pos held]
  rfl

/-- Whatever is wanting, a new name is left as it was. -/
theorem constructUnder_of_wanting (accepted : Conversions.ofSettings settings = .ok conversions)
    (new : name ∉ importer.interpreters) {shortage : Shortage} (wanting : shortage ≠ {}) :
    ∃ cause, importer.constructUnder shortage source settings name purpose =
      (.error (.setup cause), importer.relocked) := by
  have held : name ∉ { importer with lock := importer.lock.acquire }.interpreters := new
  unfold constructUnder
  rw [accepted]
  simp only [locked, setUpUnder, if_neg held]
  obtain ⟨interpreter, names⟩ := shortage
  cases interpreter with
  | some reason => exact ⟨_, rfl⟩
  | none =>
    cases names with
    | some reason =>
      refine ⟨.noNames reason, ?_⟩
      simp only [destroyInterpreter, erase_insert_of_new new]
      rfl
    | none => exact absurd rfl wanting

theorem constructUnder_of_new (accepted : Conversions.ofSettings settings = .ok conversions)
    (new : name ∉ importer.interpreters) :
    importer.constructUnder {} source settings name purpose =
      (.ok ⟨name, importer.fresh⟩,
        (importer.enroll settings conversions name purpose).runCommonScript source
          ⟨name, importer.fresh⟩ (settings.text .commonScript)) := by
  have held : name ∉ { importer with lock := importer.lock.acquire }.interpreters := new
  unfold constructUnder
  rw [accepted]
  simp only [locked, setUpUnder, if_neg held]
  rfl

/-- If nothing is wanting, a context is made as always. -/
theorem constructUnder_eq_construct (importer : Importer) (source : ScriptSource)
    (settings : Settings) (name : String) (purpose : Purpose) :
    importer.constructUnder {} source settings name purpose =
      importer.construct source settings name purpose := by
  cases accepted : Conversions.ofSettings settings with
  | error cause =>
    rw [constructUnder_of_refused {} source purpose accepted]
    unfold construct
    rw [accepted]
  | ok conversions =>
    by_cases taken : name ∈ importer.interpreters
    · rw [constructUnder_of_taken {} source purpose accepted taken,
        construct_of_taken taken accepted, Operation.apply, locked_settingUp_of_taken taken]
      rfl
    · rw [constructUnder_of_new source purpose accepted taken, construct_of_new taken accepted,
        Operation.apply, locked_settingUp_of_new taken]
      rfl

/-- Everything that making a context can come to.  It fails, and all is as before, or it
succeeds: then the charsets were accepted, the name was free, nothing was wanting, and what
follows is the common script. -/
inductive Construction (shortage : Shortage) (importer : Importer) (source : ScriptSource)
    (settings : Settings) (name : String) (purpose : Purpose) :
    Except Failure Context × Importer → Prop where
  | failed (cause : SetupFailure) (later : Importer)
    (same : later = importer ∨ later = importer.relocked)
    (why : (∃ cause, Conversions.ofSettings settings = .error cause) ∨
      name ∈ importer.interpreters ∨ shortage ≠ {}) :
    Construction shortage importer source settings name purpose (.error (.setup cause), later)
  | made (conversions : Conversions) (accepted : Conversions.ofSettings settings = .ok conversions)
    (new : name ∉ importer.interpreters) (enough : shortage = {}) :
    Construction shortage importer source settings name purpose
      (.ok ⟨name, importer.fresh⟩,
        (importer.enroll settings conversions name purpose).runCommonScript source
          ⟨name, importer.fresh⟩ (settings.text .commonScript))

theorem construction (importer : Importer) (settings : Settings) (name : String) :
    Construction shortage importer source settings name purpose
      (importer.constructUnder shortage source settings name purpose) := by
  cases accepted : Conversions.ofSettings settings with
  | error cause =>
    rw [constructUnder_of_refused shortage source purpose accepted]
    exact .failed cause importer (.inl rfl) (.inl ⟨cause, accepted⟩)
  | ok conversions =>
    by_cases taken : name ∈ importer.interpreters
    · rw [constructUnder_of_taken shortage source purpose accepted taken]
      exact .failed _ _ (.inr rfl) (.inr (.inl taken))
    · by_cases enough : shortage = {}
      · subst enough
        rw [constructUnder_of_new source purpose accepted taken]
        exact .made conversions accepted taken rfl
      · obtain ⟨cause, failed⟩ := constructUnder_of_wanting source purpose accepted taken enough
        rw [failed]
        exact .failed cause _ (.inr rfl) (.inr (.inr enough))

end Construct

/-! ## Interpreters without a context -/

theorem createBare_of_taken (taken : name ∈ importer.interpreters) (trust : TrustLevel)
    (world : World) : (importer.createBare name trust world).2 = importer.relocked := by
  have held : name ∈ { importer with lock := importer.lock.acquire }.interpreters := taken
  simp only [createBare, locked, createInterpreter, if_pos held]
  rfl

theorem createBare_of_new (new : name ∉ importer.interpreters) (trust : TrustLevel)
    (world : World) :
    (importer.createBare name trust world).2 = { importer.relocked with
      interpreters := importer.interpreters.insert name ⟨.initial trust world, none⟩ } := by
  have held : name ∉ { importer with lock := importer.lock.acquire }.interpreters := new
  simp only [createBare, locked, createInterpreter, if_neg held]
  rfl

end Importer

/-! ## Loading programs -/

/-- The program that is made from what stands in a script file: none if the file is not there or
cannot be decoded, if the text is empty, or if it is no program. -/
def programOf? (source : ScriptSource) (conversions : Conversions) (path : String) :
    Option Closure :=
  match source path with
  | .error _ => none
  | .ok contents =>
    match conversions.convertFile contents with
    | .error _ => none
    | .ok text =>
      if text.isEmpty then none
      else (compile? (Bytes.ofString text)).map
        (Library.programClosure (0x40 :: Bytes.ofString path))

namespace Importer

variable {importer : Importer} {context : Context} {slot : Slot}

theorem programOf?_eq (source : ScriptSource) (conversions : Conversions) (path : String) :
    programOf? source conversions path =
      (scriptText source conversions path).toOption.bind fun text =>
        (compile? (Bytes.ofString text)).map
          (Library.programClosure (0x40 :: Bytes.ofString path)) := by
  unfold programOf? scriptText
  cases source path with
  | error reason => rfl
  | ok contents =>
    cases decoded : conversions.convertFile contents with
    | error failure => simp [Except.mapError, decoded, Bind.bind, Except.bind, Except.toOption]
    | ok text =>
      by_cases blank : text.isEmpty = true <;>
        simp [Except.mapError, decoded, blank, Bind.bind, Except.bind, Except.toOption, pure,
          Except.pure]

theorem use_of_found {α : Type} (found : importer.interpreters[context.name]? = some slot)
    (work : Work α) :
    importer.use context work =
      ((work (slot.interpreter, importer.deskOf slot)).1,
        { importer.putBack context.name slot (work (slot.interpreter, importer.deskOf slot)).2.1
            (work (slot.interpreter, importer.deskOf slot)).2.2 with
          lock := importer.lock.acquire.release }) := by
  have held : { importer with lock := importer.lock.acquire }.interpreters[context.name]? =
      some slot := found
  simp only [use, locked, workOn, Importer.slot, held]
  rfl

theorem result_use {α : Type} (found : importer.interpreters[context.name]? = some slot)
    (work : Work α) :
    (importer.use context work).1 = (work (slot.interpreter, importer.deskOf slot)).1 := by
  rw [use_of_found found]

theorem slot_use {α : Type} (found : importer.interpreters[context.name]? = some slot)
    (work : Work α) :
    (importer.use context work).2.interpreters[context.name]? =
      some { slot with interpreter := (work (slot.interpreter, importer.deskOf slot)).2.1 } := by
  rw [use_of_found found]
  exact Std.ExtTreeMap.getElem?_insert_self

/-- A file that makes a program is loaded, and changes nothing in the interpreter but the
program. -/
theorem load_of_program (found : importer.interpreters[context.name]? = some slot)
    {source : ScriptSource} {path : String} {program : Closure}
    (makes : programOf? source (importer.environmentOf context).conversions path =
      some program) :
    (importer.load source context path).1 = .ok () ∧
    (importer.load source context path).2.interpreters[context.name]? =
      some { slot with interpreter := { slot.interpreter with program := some program } } := by
  rw [programOf?_eq] at makes
  unfold load
  cases read : scriptText source (importer.environmentOf context).conversions path with
  | error cause =>
    rw [read] at makes
    cases makes
  | ok text =>
    rw [read] at makes
    obtain ⟨function, compiled, rfl⟩ := Option.map_eq_some_iff.mp makes
    have loaded : Work.load path text (slot.interpreter, importer.deskOf slot) =
        (.ok (), { slot.interpreter with
          program := some (Library.programClosure (0x40 :: Bytes.ofString path) function) },
          importer.deskOf slot) := by
      simp only [Work.load, Interpreter.load?, compiled, Option.map_some]
    refine ⟨(result_use found (Work.load path text)).trans ?_,
      (slot_use found (Work.load path text)).trans ?_⟩ <;> rw [loaded]

/-- A file that makes no program is not loaded, and changes nothing in the interpreter. -/
theorem load_of_no_program (found : importer.interpreters[context.name]? = some slot)
    {source : ScriptSource} {path : String}
    (makes : programOf? source (importer.environmentOf context).conversions path = none) :
    (∃ cause, (importer.load source context path).1 = .error (.load path cause)) ∧
    (importer.load source context path).2.interpreters[context.name]? = some slot := by
  rw [programOf?_eq] at makes
  unfold load
  cases read : scriptText source (importer.environmentOf context).conversions path with
  | error cause => exact ⟨⟨cause, rfl⟩, found⟩
  | ok text =>
    rw [read] at makes
    have broken : compile? (Bytes.ofString text) = none := Option.map_eq_none_iff.mp makes
    have failed : Work.load path text (slot.interpreter, importer.deskOf slot) =
        (.error (.load path .malformed), slot.interpreter, importer.deskOf slot) := by
      simp only [Work.load, Interpreter.load?, broken, Option.map_none]
    refine ⟨⟨.malformed, (result_use found (Work.load path text)).trans ?_⟩,
      (slot_use found (Work.load path text)).trans ?_⟩ <;> rw [failed]

end Importer

end MediaImport
