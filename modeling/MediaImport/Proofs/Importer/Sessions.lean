import MediaImport.Proofs.Importer.InterpreterTable
import MediaImport.Proofs.Script.InertHeaps

/-!
# Sessions

A session is the use of an application through its contexts: they are made, load programs and
run them, process objects, answer calls, and are dropped, each step whether it succeeds or
fails.  Interpreters may also be made and destroyed directly, past all contexts.

A session knows which contexts are live, and which of them are intact: nobody has taken away an
interpreter of their name since they were made.  It also keeps a record of the program that
each context loaded last, found from the bytes of script files and not from an interpreter.
The law of all sessions, `Accounted`, is that an interpreter belongs to a context exactly if the
context is intact.
-/

namespace MediaImport

open MediaImport.Importer MediaImport.Exchange MediaImport.Media MediaImport.Script

/-! ## Records of programs -/

/-- What is known of a context: how its scripts are decoded, and the program that it loaded
last, if any. -/
structure Record where
  conversions : Conversions
  program : Option Closure := none

namespace Record

/-- A file that makes no program leaves the one before. -/
def load (record : Record) (source : ScriptSource) (path : String) : Record :=
  match programOf? source record.conversions path with
  | some program => { record with program := some program }
  | none => record

/-- A context starts with the program of the common script, if there is one. -/
def ofSettings? (source : ScriptSource) (settings : Settings) : Option Record :=
  (Conversions.ofSettings settings).toOption.map fun conversions =>
    let path := settings.text .commonScript
    if path.isEmpty then { conversions } else Record.load { conversions } source path

end Record

/-! ## Deeds -/

/-- What is done with an application.  Each may fail. -/
inductive Deed where
  | construct (shortage : Shortage) (source : ScriptSource) (settings : Settings) (name : String)
    (purpose : Purpose)
  | load (source : ScriptSource) (context : Context) (path : String)
  | execute (context : Context)
  | process (context : Context) (object : Object)
  /-- Call a function of the application in the interpreter of a context, from outside.  New
  tables can be handed over with the arguments. -/
  | call (context : Context) (tables : List Table) (function : HostFunction)
    (arguments : List Value)
  | drop (context : Context)
  /-- Make an interpreter directly. -/
  | createBare (name : String) (trust : TrustLevel) (world : World := {})
  /-- Destroy an interpreter directly. -/
  | destroy (name : String)

namespace Deed

/-- It is done past all contexts. -/
def IsDirect : Deed → Prop
  | createBare _ _ _ => True
  | destroy _ => True
  | _ => False

/-- The context that a deed works for, unless it makes or destroys an interpreter. -/
def worker? : Deed → Option Context
  | load _ context _ => some context
  | execute context => some context
  | process context _ => some context
  | call context _ _ _ => some context
  | _ => none

/-- A call from outside, with new tables among the arguments. -/
def calling (tables : List Table) (function : HostFunction) (arguments : List Value) :
    Course (Except Failure (List Value)) :=
  (Course.onHeap fun heap => ((), heap.addTables tables)).andThen fun _ =>
    Course.call (.native (.host function)) arguments

end Deed

/-! ## Sessions -/

/-- The use of an application: its contexts, those of them whose interpreters nobody took away,
and what is known of each, by its number. -/
structure Session where
  importer : Importer := {}
  live : List Context := []
  intact : List Context := []
  records : Nat → Option Record := fun _ => none

namespace Session

/-- Go on from what making a context came to. -/
def join (session : Session) (record : Option Record) :
    Except Failure Context × Importer → Session
  | (.ok context, importer) =>
    { importer
      live := context :: session.live
      intact := context :: session.intact
      records := Function.update session.records context.environment record }
  | (.error _, importer) => { session with importer }

/-- Do something. -/
def next (session : Session) : Deed → Session
  | .construct shortage source settings name purpose =>
    session.join (Record.ofSettings? source settings)
      (session.importer.constructUnder shortage source settings name purpose)
  | .load source context path =>
    { session with
      importer := (session.importer.load source context path).2
      records := Function.update session.records context.environment
        ((session.records context.environment).map fun record => record.load source path) }
  | .execute context => { session with importer := (session.importer.execute context).2 }
  | .process context object =>
    { session with importer := (session.importer.process context object).2 }
  | .call context tables function arguments =>
    { session with
      importer := (session.importer.use context (Deed.calling tables function arguments).work).2 }
  | .drop context =>
    { session with
      importer := session.importer.drop context
      live := session.live.filter (· ≠ context)
      intact := session.intact.filter (·.name ≠ context.name) }
  | .createBare name trust world =>
    { session with importer := (session.importer.createBare name trust world).2 }
  | .destroy name =>
    { session with
      importer := (session.importer.destroy name).2
      intact := session.intact.filter (·.name ≠ name) }

/-- A deed is done with a live context, if with any, and tables that are handed over bring
nothing to call but functions of the application. -/
def Allows (session : Session) : Deed → Prop
  | .load _ context _ => context ∈ session.live
  | .execute context => context ∈ session.live
  | .process context _ => context ∈ session.live
  | .call context tables _ _ => context ∈ session.live ∧ ∀ table ∈ tables, table.IsInert
  | .drop context => context ∈ session.live
  | _ => True

/-- The sessions that consist of deeds of some kind, whatever was in the catalogue before and
whatever is outside. -/
inductive Reachable (kind : Deed → Prop) : Session → Prop where
  | start (catalogue : Catalogue) (world : Nat → World := fun _ => {}) :
    Reachable kind { importer := { catalogue, world } }
  | next {session : Session} (reachable : Reachable kind session) {deed : Deed} (fits : kind deed)
    (allowed : session.Allows deed) : Reachable kind (session.next deed)

/-- Every interpreter that belongs to a context is the own one of an intact context, and every
intact context has one. -/
structure Accounted (session : Session) : Prop where
  idle : session.importer.lock.IsIdle
  known : ∀ context ∈ session.live, context.environment < session.importer.fresh
  distinct : session.live.Nodup
  apart : ∀ context ∈ session.live, ∀ other ∈ session.live,
    context.environment = other.environment → context = other
  held : ∀ context ∈ session.intact, context ∈ session.live
  owned : ∀ name number,
    session.importer.owner name = some (some number) ↔ ⟨name, number⟩ ∈ session.intact

variable {session : Session}

theorem accounted_start (catalogue : Catalogue) (world : Nat → World) :
    Accounted { importer := { catalogue, world } } where
  idle := ⟨rfl, Nat.zero_le 1⟩
  known := List.forall_mem_nil _
  distinct := .nil
  apart := List.forall_mem_nil _
  held := List.forall_mem_nil _
  owned name number := by
    simp [Importer.owner]

/-- A session in which there was work under one name, and nothing else. -/
structure Works (name : String) (session later : Session) : Prop where
  importer : Importer.WorksOn name session.importer later.importer
  live : later.live = session.live
  intact : later.intact = session.intact

/-- An attempt that comes to nothing counts as work under any name. -/
theorem works_of_failed (session : Session) (name : String) {later : Importer}
    (same : later = session.importer ∨ later = session.importer.relocked) :
    Works name session { session with importer := later } := by
  rcases same with rfl | rfl
  · exact ⟨.refl name session.importer, rfl, rfl⟩
  · exact ⟨Importer.worksOn_relocked name session.importer, rfl, rfl⟩

/-- A new context is live and intact. -/
theorem next_construct_of_new (session : Session) {name : String} {settings : Settings}
    {conversions : Conversions} (accepted : Conversions.ofSettings settings = .ok conversions)
    (new : name ∉ session.importer.interpreters) (source : ScriptSource) (purpose : Purpose) :
    session.next (.construct {} source settings name purpose) = {
      importer := (session.importer.enroll settings conversions name purpose).runCommonScript source
        ⟨name, session.importer.fresh⟩ (settings.text .commonScript)
      live := ⟨name, session.importer.fresh⟩ :: session.live
      intact := ⟨name, session.importer.fresh⟩ :: session.intact
      records := Function.update session.records session.importer.fresh
        (Record.ofSettings? source settings) } := by
  have joined := congrArg (session.join (Record.ofSettings? source settings))
    (Importer.constructUnder_of_new source purpose accepted new)
  exact joined

theorem next_construct_of_taken (session : Session) {name : String} {settings : Settings}
    {conversions : Conversions} (accepted : Conversions.ofSettings settings = .ok conversions)
    (taken : name ∈ session.importer.interpreters) (shortage : Shortage) (source : ScriptSource)
    (purpose : Purpose) :
    session.next (.construct shortage source settings name purpose) =
      { session with importer := session.importer.relocked } := by
  have joined := congrArg (session.join (Record.ofSettings? source settings))
    (Importer.constructUnder_of_taken shortage source purpose accepted taken)
  exact joined

/-- What a context does stays under its name. -/
theorem works_next (session : Session) {deed : Deed} {context : Context}
    (works : deed.worker? = some context) : Works context.name session (session.next deed) := by
  cases deed with
  | load source worker path =>
    obtain rfl := Option.some.inj works
    exact ⟨Importer.worksOn_load session.importer source worker path, rfl, rfl⟩
  | execute worker =>
    obtain rfl := Option.some.inj works
    exact ⟨Importer.worksOn_execute session.importer worker, rfl, rfl⟩
  | process worker object =>
    obtain rfl := Option.some.inj works
    exact ⟨Importer.worksOn_process session.importer worker object, rfl, rfl⟩
  | call worker tables function arguments =>
    obtain rfl := Option.some.inj works
    have used := Importer.worksOn_use session.importer worker
      (Deed.calling tables function arguments).work
    exact ⟨used, rfl, rfl⟩
  | _ => cases works

/-- Work under one name leaves the law in force. -/
theorem Accounted.work (accounted : session.Accounted) {name : String} {later : Session}
    (works : Works name session later) : later.Accounted where
  idle := works.importer.idle accounted.idle
  known context live := by
    rw [works.importer.fresh]
    exact accounted.known context (works.live ▸ live)
  distinct := works.live ▸ accounted.distinct
  apart := works.live ▸ accounted.apart
  held := works.live ▸ works.intact ▸ accounted.held
  owned name number := by
    rw [works.importer.owner, works.intact]
    exact accounted.owned name number

/-- So does the end of an interpreter, if its context was not intact or is dropped. -/
theorem Accounted.remove (accounted : session.Accounted) {name : String} {later : Importer}
    (removed : ∀ other, later.owner other = if other = name then none
      else session.importer.owner other)
    (fresh : later.fresh = session.importer.fresh)
    (lock : later.lock = session.importer.lock.acquire.release)
    (keeps : Context → Bool) (others : ∀ context, context.name ≠ name → keeps context) :
    Accounted { session with
      importer := later
      live := session.live.filter keeps
      intact := session.intact.filter (·.name ≠ name) } where
  idle := by
    rw [lock]
    exact accounted.idle.release_acquire
  known context live := by
    rw [fresh]
    exact accounted.known context (List.mem_filter.mp live).1
  distinct := accounted.distinct.filter _
  apart context live other otherLive :=
    accounted.apart context (List.mem_filter.mp live).1 other (List.mem_filter.mp otherLive).1
  held context intact := by
    obtain ⟨held, named⟩ := List.mem_filter.mp intact
    exact List.mem_filter.mpr
      ⟨accounted.held context held, others context (of_decide_eq_true named)⟩
  owned other number := by
    rw [removed, List.mem_filter]
    by_cases same : other = name
    · simp [same]
    · simpa [same] using accounted.owned other number

/-- A new context is intact. -/
theorem Accounted.enroll (accounted : session.Accounted) {name : String}
    (new : name ∉ session.importer.interpreters) (settings : Settings)
    (conversions : Conversions) (purpose : Purpose) :
    Accounted { session with
      importer := session.importer.enroll settings conversions name purpose
      live := ⟨name, session.importer.fresh⟩ :: session.live
      intact := ⟨name, session.importer.fresh⟩ :: session.intact } where
  idle := accounted.idle.release_acquire
  known context live := by
    rcases List.mem_cons.mp live with rfl | older
    · exact Nat.lt_succ_self _
    · exact Nat.lt_succ_of_lt (accounted.known context older)
  distinct := by
    refine List.nodup_cons.mpr ⟨fun older => ?_, accounted.distinct⟩
    exact Nat.lt_irrefl _ (accounted.known _ older)
  apart context live other otherLive same := by
    have older {context : Context} (live : context ∈ session.live) :
        context.environment ≠ session.importer.fresh :=
      Nat.ne_of_lt (accounted.known context live)
    rcases List.mem_cons.mp live with rfl | live <;>
      rcases List.mem_cons.mp otherLive with rfl | otherLive
    · rfl
    · exact absurd same.symm (older otherLive)
    · exact absurd same (older live)
    · exact accounted.apart context live other otherLive same
  held context intact := by
    rcases List.mem_cons.mp intact with rfl | older
    · exact List.mem_cons_self
    · exact List.mem_cons_of_mem _ (accounted.held context older)
  owned other number := by
    have owner : (session.importer.enroll settings conversions name purpose).owner other =
        if other = name then some (some session.importer.fresh)
        else session.importer.owner other :=
      owner_insert session.importer name other
        ⟨prepared settings (session.importer.world session.importer.fresh),
          some session.importer.fresh⟩
    rw [owner, List.mem_cons, ← accounted.owned, Context.mk.injEq]
    by_cases same : other = name
    · have free : session.importer.owner name = none := Importer.owner_eq_none_iff.mpr new
      simp [same, free, eq_comm]
    · simp [same]

/-- An interpreter that is made directly belongs to no context. -/
theorem Accounted.createBare (accounted : session.Accounted) (name : String)
    (trust : TrustLevel) (world : World) :
    Accounted { session with importer := (session.importer.createBare name trust world).2 } := by
  by_cases taken : name ∈ session.importer.interpreters
  · rw [Importer.createBare_of_taken taken]
    exact accounted.work (session.works_of_failed name (.inr rfl))
  · have free : session.importer.owner name = none := Importer.owner_eq_none_iff.mpr taken
    rw [Importer.createBare_of_new taken]
    constructor
    · exact accounted.idle.release_acquire
    · exact accounted.known
    · exact accounted.distinct
    · exact accounted.apart
    · exact accounted.held
    · intro other number
      have owner := owner_insert session.importer name other ⟨.initial trust world, none⟩
      refine (congrArg (· = some (some number)) owner).to_iff.trans ?_
      rw [← accounted.owned]
      by_cases here : other = name
      · simp [here, free]
      · simp [here]

theorem Accounted.construct (accounted : session.Accounted) (record : Option Record)
    {shortage : Shortage} {source : ScriptSource} {settings : Settings} {name : String}
    {purpose : Purpose} {outcome : Except Failure Context × Importer}
    (construction : Importer.Construction shortage session.importer source settings name purpose
      outcome) : (session.join record outcome).Accounted := by
  cases construction with
  | failed cause later same why => exact accounted.work (session.works_of_failed name same)
  | made conversions accepted new enough =>
    have ran := Importer.worksOn_runCommonScript
      (session.importer.enroll settings conversions name purpose) source
      ⟨name, session.importer.fresh⟩ (settings.text .commonScript)
    exact (accounted.enroll new settings conversions purpose).work ⟨ran, rfl, rfl⟩

/-- Every deed leaves the law in force. -/
theorem Accounted.next (accounted : session.Accounted) (deed : Deed) :
    (session.next deed).Accounted := by
  cases deed with
  | construct shortage source settings name purpose =>
    have kept := accounted.construct (Record.ofSettings? source settings)
      (Importer.construction shortage source purpose session.importer settings name)
    exact kept
  | drop context =>
    have removed (other : String) : (session.importer.drop context).owner other =
        if other = context.name then none else session.importer.owner other :=
      owner_destroyInterpreter _ context.name other
    have kept := accounted.remove removed rfl rfl (· ≠ context) fun other apart =>
      decide_eq_true fun same => apart (congrArg Context.name same)
    exact kept
  | createBare name trust world =>
    exact accounted.createBare name trust world
  | destroy name =>
    have removed (other : String) : (session.importer.destroy name).2.owner other =
        if other = name then none else session.importer.owner other :=
      owner_destroyInterpreter _ name other
    have kept := accounted.remove removed rfl rfl (fun _ => true) fun _ _ => rfl
    rwa [List.filter_eq_self.mpr fun _ _ => rfl] at kept
  | _ => exact accounted.work (session.works_next rfl)

theorem Reachable.accounted {kind : Deed → Prop} (reachable : session.Reachable kind) :
    session.Accounted := by
  induction reachable with
  | start catalogue world => exact accounted_start catalogue world
  | next reachable fits allowed ih => exact ih.next _

end Session

end MediaImport
