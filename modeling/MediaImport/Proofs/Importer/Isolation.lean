import MediaImport.Proofs.Importer.Ownership
import MediaImport.Proofs.Importer.RunningPrograms

/-!
# Contexts apart from each other

All interpreters stand in one table behind one lock, and the functions that scripts call act on
environments that stand in another.  A context has one entry in each to itself.  Here is why that
is enough: whatever is done with a context, and however it ends, goes by what stands under its own
name and number and by the catalogue, and changes nothing else but these.

Two live contexts of different names therefore never see each other.  After anything that one of
them did, the other finds its own part as it was, and what it does next comes to what it would
have come to if the catalogue had been handed to it directly.
-/

namespace MediaImport

open MediaImport.Importer MediaImport.Exchange MediaImport.Media MediaImport.Script

/-! ## What is done with a context -/

/-- What can be done with a context: something that a session consists of, or a look at what the
context keeps. -/
inductive Act where
  | load (source : ScriptSource) (path : String)
  | execute
  | process (object : Object)
  | call (tables : List Table) (function : HostFunction) (arguments : List Value)
  | drop
  /-- Look up the object that was processed last. -/
  | readProcessed
  /-- Read the newest printed lines. -/
  | readLog (limit : Nat)

namespace Act

/-- What an act answers. -/
abbrev Answer : Act → Type
  | load _ _ => Except Failure Unit
  | execute => Except Failure Unit
  | process _ => Except Failure (Option Object)
  | call _ _ _ => Except Failure (List Value)
  | drop => Unit
  | readProcessed => Option Object
  | readLog _ => List String

/-- The answer to an act, and the application after it. -/
def perform (importer : Importer) (context : Context) : (act : Act) → act.Answer × Importer
  | load source path => importer.load source context path
  | execute => importer.execute context
  | process object => importer.process context object
  | call tables function arguments =>
    importer.use context (Deed.calling tables function arguments).work
  | drop => ((), importer.drop context)
  | readProcessed => (importer.processed context, importer)
  | readLog limit => (importer.printed context limit, importer)

end Act

/-- Every step of a session that is done with a context is an act. -/
theorem Session.exists_act (session : Session) {deed : Deed} {context : Context}
    (done : deed.worker? = some context ∨ deed = .drop context) :
    ∃ act : Act, (session.next deed).importer = (act.perform session.importer context).2 := by
  rcases done with works | rfl
  · cases deed with
    | load source worker path =>
      obtain rfl := Option.some.inj works
      exact ⟨.load source path, rfl⟩
    | execute worker =>
      obtain rfl := Option.some.inj works
      exact ⟨.execute, rfl⟩
    | process worker object =>
      obtain rfl := Option.some.inj works
      exact ⟨.process object, rfl⟩
    | call worker tables function arguments =>
      obtain rfl := Option.some.inj works
      exact ⟨.call tables function arguments, rfl⟩
    | _ => cases works
  · exact ⟨.drop, rfl⟩

namespace Importer

variable {importer left right : Importer} {context : Context}

/-! ## Parts -/

/-- The part of an application that belongs to a context: what stands under its name, which is an
interpreter with its globals, tables and program, and what stands under its number, which is its
purpose, its character sets, the object that it processed last, and its printed lines. -/
structure Part where
  slot : Option Slot
  environment : Option Environment

def partOf (importer : Importer) (context : Context) : Part :=
  ⟨importer.interpreters[context.name]?, importer.environments[context.environment]?⟩

/-- The functions in the interpreter under the name of a context act on the environment with a
number. -/
def ActsOn (importer : Importer) (context : Context) (number : Nat) : Prop :=
  ∃ slot, importer.interpreters[context.name]? = some slot ∧ slot.environment = some number

/-! ## Processing as use -/

/-- An object is noted first, and then a context with an interpreter is used. -/
theorem process_of_found {slot : Slot} (found : importer.interpreters[context.name]? = some slot)
    (object : Object) :
    importer.process context object = (importer.noteProcessed context object).use context
      (processing ((importer.noteProcessed context object).environmentOf context).reader
        object) := by
  rw [← processBy_runProgram, processBy_of_found found, Course.processingBy_runProgram,
    Course.work_processing]

/-! ## What an act leaves alone -/

/-- Nothing has changed but what stands under the name of a context, what stands under its number
or under the number that its interpreter goes by, the catalogue and the lock. -/
structure Confined (context : Context) (before after : Importer) : Prop where
  elsewhere : ∀ name, name ≠ context.name →
    after.interpreters[name]? = before.interpreters[name]?
  environments : ∀ number, number ≠ context.environment → ¬before.ActsOn context number →
    after.environments[number]? = before.environments[number]?

theorem confined_refl (importer : Importer) (context : Context) :
    Confined context importer importer :=
  ⟨fun _ _ => rfl, fun _ _ _ => rfl⟩

theorem confined_use {α : Type} (importer : Importer) (context : Context) (work : Work α) :
    Confined context importer (importer.use context work).2 := by
  refine ⟨(worksOn_use importer context work).elsewhere, fun number _ other => ?_⟩
  cases found : importer.interpreters[context.name]? with
  | none => rw [use_of_missing found, relocked]
  | some slot =>
    rw [use_of_found found]
    cases belongs : slot.environment with
    | none => simp only [putBack, belongs]
    | some own =>
      have apart : own ≠ number := by
        rintro rfl
        exact other ⟨slot, found, belongs⟩
      simp [putBack, belongs, Std.ExtTreeMap.getElem?_insert, apart]

theorem confined_process (importer : Importer) (context : Context) (object : Object) :
    Confined context importer (importer.process context object).2 := by
  cases found : importer.interpreters[context.name]? with
  | none =>
    rw [process_of_missing found]
    exact ⟨fun _ _ => rfl, fun _ _ _ => rfl⟩
  | some slot =>
    rw [process_of_found found]
    have used := confined_use (importer.noteProcessed context object) context
      (processing ((importer.noteProcessed context object).environmentOf context).reader object)
    refine ⟨used.elsewhere, fun number apart other => ?_⟩
    rw [used.environments number apart other]
    simp [noteProcessed, Std.ExtTreeMap.getElem?_insert, Ne.symm apart]

theorem confined_drop (importer : Importer) (context : Context) :
    Confined context importer (importer.drop context) :=
  ⟨fun name apart => (interpreters_drop importer context name).trans (if_neg apart),
    fun _ _ _ => rfl⟩

theorem confined_perform (importer : Importer) (context : Context) (act : Act) :
    Confined context importer (act.perform importer context).2 := by
  cases act with
  | load source path =>
    simp only [Act.perform, Importer.load]
    split
    · exact confined_refl importer context
    · exact confined_use importer context _
  | execute => exact confined_use importer context Work.runProgram
  | process object => exact confined_process importer context object
  | call tables function arguments => exact confined_use importer context _
  | drop => exact confined_drop importer context
  | readProcessed => exact confined_refl importer context
  | readLog limit => exact confined_refl importer context

/-! ## What an act goes by -/

/-- Two applications are the same to whoever works with a context: in its own part, in what the
functions in its interpreter act on, and in the catalogue. -/
structure Alike (context : Context) (left right : Importer) : Prop where
  part : right.partOf context = left.partOf context
  actedOn : ∀ number, left.ActsOn context number →
    right.environments[number]? = left.environments[number]?
  catalogue : right.catalogue = left.catalogue

namespace Alike

theorem slot (alike : Alike context left right) :
    right.interpreters[context.name]? = left.interpreters[context.name]? :=
  congrArg Part.slot alike.part

theorem environment (alike : Alike context left right) :
    right.environments[context.environment]? = left.environments[context.environment]? :=
  congrArg Part.environment alike.part

theorem environmentOf (alike : Alike context left right) :
    right.environmentOf context = left.environmentOf context :=
  congrArg (·.getD .absent) alike.environment

theorem deskOf (alike : Alike context left right) {slot : Slot}
    (found : left.interpreters[context.name]? = some slot) :
    right.deskOf slot = left.deskOf slot := by
  rw [Importer.deskOf, Importer.deskOf, alike.catalogue]
  cases belongs : slot.environment with
  | none => rfl
  | some number =>
    rw [Option.bind_some, Option.bind_some, alike.actedOn number ⟨slot, found, belongs⟩]

/-- The lock does not matter. -/
theorem relocked (alike : Alike context left right) : Alike context left.relocked right.relocked :=
  ⟨alike.part, alike.actedOn, alike.catalogue⟩

theorem use {α : Type} (alike : Alike context left right) (work : Work α) :
    (right.use context work).1 = (left.use context work).1 ∧
      Alike context (left.use context work).2 (right.use context work).2 := by
  cases found : left.interpreters[context.name]? with
  | none =>
    rw [use_of_missing found, use_of_missing (alike.slot.trans found)]
    exact ⟨rfl, alike.relocked⟩
  | some slot =>
    rw [use_of_found found, use_of_found (alike.slot.trans found), alike.deskOf found]
    refine ⟨rfl, ?_, ?_, rfl⟩
    · refine congrArg₂ Part.mk ?_ ?_
      · simp [putBack]
      · cases belongs : slot.environment with
        | none => simpa [putBack, belongs] using alike.environment
        | some number =>
          simp only [putBack, belongs, Std.ExtTreeMap.getElem?_insert]
          split
          · rfl
          · exact alike.environment
    · rintro number ⟨later, held, belongs⟩
      obtain rfl : { slot with interpreter := _ } = later :=
        Option.some.inj (Std.ExtTreeMap.getElem?_insert_self.symm.trans held)
      have belongs : slot.environment = some number := belongs
      simp [putBack, belongs]

theorem noteProcessed (alike : Alike context left right) (object : Object) :
    Alike context (left.noteProcessed context object) (right.noteProcessed context object) where
  part := by
    refine congrArg₂ Part.mk alike.slot ?_
    simp [Importer.noteProcessed, alike.environmentOf]
  actedOn number acts := by
    simp only [Importer.noteProcessed, Std.ExtTreeMap.getElem?_insert, alike.environmentOf]
    split
    · rfl
    · exact alike.actedOn number acts
  catalogue := alike.catalogue

theorem process (alike : Alike context left right) (object : Object) :
    (right.process context object).1 = (left.process context object).1 ∧
      Alike context (left.process context object).2 (right.process context object).2 := by
  cases found : left.interpreters[context.name]? with
  | none =>
    rw [process_of_missing found, process_of_missing (alike.slot.trans found)]
    exact ⟨rfl, alike.relocked⟩
  | some slot =>
    have noted := alike.noteProcessed object
    rw [process_of_found found, process_of_found (alike.slot.trans found), noted.environmentOf]
    exact noted.use _

theorem load (alike : Alike context left right) (source : ScriptSource) (path : String) :
    (right.load source context path).1 = (left.load source context path).1 ∧
      Alike context (left.load source context path).2 (right.load source context path).2 := by
  simp only [Importer.load, alike.environmentOf]
  split
  · exact ⟨rfl, alike⟩
  · exact alike.use _

theorem drop (alike : Alike context left right) :
    Alike context (left.drop context) (right.drop context) where
  part := by
    refine congrArg₂ Part.mk ?_ alike.environment
    rw [interpreters_drop, interpreters_drop, if_pos rfl, if_pos rfl]
  actedOn number := by
    rintro ⟨slot, held, -⟩
    rw [interpreters_drop, if_pos rfl] at held
    cases held
  catalogue := alike.catalogue

/-- An act comes to the same in applications that are alike, and they stay alike. -/
theorem perform (alike : Alike context left right) (act : Act) :
    (act.perform right context).1 = (act.perform left context).1 ∧
      Alike context (act.perform left context).2 (act.perform right context).2 := by
  cases act with
  | load source path => exact alike.load source path
  | execute => exact alike.use Work.runProgram
  | process object => exact alike.process object
  | call tables function arguments => exact alike.use _
  | drop => exact ⟨rfl, alike.drop⟩
  | readProcessed => exact ⟨congrArg Environment.processed alike.environmentOf, alike⟩
  | readLog limit =>
    exact ⟨congrArg (fun environment => environment.log.latest limit) alike.environmentOf, alike⟩

end Alike

/-- An act makes and removes no interpreter, unless it drops the context. -/
theorem mem_interpreters_perform (importer : Importer) (context : Context) (act : Act)
    (name : String) :
    name ∈ (act.perform importer context).2.interpreters ↔
      name ∈ importer.interpreters ∧ ¬(act = .drop ∧ name = context.name) := by
  have kept {later : Importer} (works : WorksOn context.name importer later) :
      name ∈ later.interpreters ↔ name ∈ importer.interpreters := by
    rw [mem_interpreters_iff, mem_interpreters_iff, works.owner]
  cases act with
  | load source path => exact (kept (worksOn_load importer source context path)).trans (by simp)
  | execute => exact (kept (worksOn_execute importer context)).trans (by simp)
  | process object => exact (kept (worksOn_process importer context object)).trans (by simp)
  | call tables function arguments =>
    exact (kept (worksOn_use importer context _)).trans (by simp)
  | drop =>
    have removed := interpreters_drop importer context name
    rw [Std.ExtTreeMap.mem_iff_isSome_getElem?, Std.ExtTreeMap.mem_iff_isSome_getElem?]
    by_cases same : name = context.name <;> simp_all [Act.perform]
  | readProcessed => simp [Act.perform]
  | readLog limit => simp [Act.perform]

end Importer

/-! ## Sessions -/

namespace Session

variable {session : Session} {context other : Context}

theorem Reachable.mono {kind wider : Deed → Prop} (reachable : session.Reachable kind)
    (weaker : ∀ deed, kind deed → wider deed) : session.Reachable wider := by
  induction reachable with
  | start catalogue world => exact .start catalogue world
  | next _ fits allowed ih => exact ih.next (weaker _ fits) allowed

/-- The interpreter under a name belongs to a live context of that name, if to any. -/
theorem Accounted.live_of_actsOn (accounted : session.Accounted) {number : Nat}
    (acts : session.importer.ActsOn context number) : ⟨context.name, number⟩ ∈ session.live := by
  obtain ⟨slot, found, belongs⟩ := acts
  refine accounted.held _ ((accounted.owned context.name number).mp ?_)
  rw [owner, found, Option.map_some, belongs]

theorem Accounted.environment_ne (accounted : session.Accounted) (live : context ∈ session.live)
    (otherLive : other ∈ session.live) (apart : other.name ≠ context.name) :
    other.environment ≠ context.environment :=
  fun same => apart (congrArg Context.name (accounted.apart other otherLive context live same))

/-- What one live context does leaves alone the environments of all contexts of other names. -/
theorem Accounted.environments_perform (accounted : session.Accounted)
    (live : context ∈ session.live) (act : Act) {owner : Context}
    (ownerLive : owner ∈ session.live) (apart : owner.name ≠ context.name) :
    (act.perform session.importer context).2.environments[owner.environment]? =
      session.importer.environments[owner.environment]? := by
  refine (confined_perform session.importer context act).environments _
    (accounted.environment_ne live ownerLive apart) fun acts => ?_
  exact accounted.environment_ne (accounted.live_of_actsOn acts) ownerLive apart rfl

/-- To another context it is as if it had changed the catalogue only. -/
theorem Accounted.alike_perform (accounted : session.Accounted) (live : context ∈ session.live)
    (otherLive : other ∈ session.live) (apart : other.name ≠ context.name) (act : Act) :
    Importer.Alike other
      { session.importer with catalogue := (act.perform session.importer context).2.catalogue }
      (act.perform session.importer context).2 where
  part := by
    refine congrArg₂ Importer.Part.mk ?_ ?_
    · exact (confined_perform session.importer context act).elsewhere other.name apart
    · exact accounted.environments_perform live act otherLive apart
  actedOn number acts :=
    accounted.environments_perform live act (accounted.live_of_actsOn acts) apart
  catalogue := rfl

/-- Two live contexts have different names, unless interpreters were made or destroyed directly.
If they have, then whatever is done with one of them, be it that it is dropped, and however it
ends, leaves the part of the other as it was, and takes no name off the table of interpreters but
its own.  What is done with the other afterwards comes to the same answer, the same part and the
same catalogue as if the catalogue alone had changed. -/
theorem Reachable.isolated {kind : Deed → Prop} (reachable : session.Reachable kind)
    (live : context ∈ session.live) (otherLive : other ∈ session.live)
    (distinct : other ≠ context) :
    ((∀ deed, kind deed → ¬deed.IsDirect) → other.name ≠ context.name) ∧
    (other.name ≠ context.name → ∀ act : Act,
      let later := (act.perform session.importer context).2
      later.partOf other = session.importer.partOf other ∧
      (∀ name, name ∈ later.interpreters ↔
        name ∈ session.importer.interpreters ∧ ¬(act = .drop ∧ name = context.name)) ∧
      ∀ next : Act,
        let after := next.perform later other
        let alone := next.perform { session.importer with catalogue := later.catalogue } other
        after.1 = alone.1 ∧ after.2.partOf other = alone.2.partOf other ∧
          after.2.catalogue = alone.2.catalogue) := by
  have accounted := reachable.accounted
  refine ⟨fun indirect => ?_, fun apart act => ?_⟩
  · have undisturbed := (reachable.mono indirect).undisturbed
    exact undisturbed.name_ne accounted otherLive live distinct
  · have alike := accounted.alike_perform live otherLive apart act
    refine ⟨alike.part, mem_interpreters_perform session.importer context act, fun next => ?_⟩
    obtain ⟨answer, after⟩ := alike.perform next
    exact ⟨answer, after.part, after.catalogue⟩

/-- So a session goes on past another context, whichever deed of this one comes next. -/
theorem Reachable.partOf_next {kind : Deed → Prop} (reachable : session.Reachable kind)
    (live : context ∈ session.live) (otherLive : other ∈ session.live)
    (apart : other.name ≠ context.name) {deed : Deed}
    (done : deed.worker? = some context ∨ deed = .drop context) :
    (session.next deed).importer.partOf other = session.importer.partOf other := by
  obtain ⟨act, performed⟩ := session.exists_act done
  rw [performed]
  exact (reachable.accounted.alike_perform live otherLive apart act).part

/-! ### Two contexts -/

/-- A context for playlists beside one for layouts. -/
def pairSession : Session :=
  madeSession.next (.construct {} noScripts commonSettings "playlist" .playlist)

theorem reachable_pairSession : pairSession.Reachable (¬ ·.IsDirect) :=
  reachable_madeSession.next id trivial

theorem fresh_madeSession : madeSession.importer.fresh = 1 := by
  rw [madeSession_eq]
  exact (worksOn_runCommonScript _ _ _ _).fresh

theorem live_pairSession : pairSession.live = [⟨"playlist", 1⟩, ⟨"import", 0⟩] := by
  have new : "playlist" ∉ madeSession.importer.interpreters := by
    rw [reachable_madeSession.undisturbed.mem_interpreters_iff reachable_madeSession.accounted,
      live_madeSession]
    decide
  rw [pairSession,
    next_construct_of_new madeSession accepted_commonSettings new noScripts .playlist,
    fresh_madeSession, live_madeSession]

/-- The context for playlists is there, and nothing that is done with the other one changes it. -/
theorem isolated_pairSession :
    (pairSession.importer.partOf ⟨"playlist", 1⟩).slot.isSome ∧
    ∀ act : Act, (act.perform pairSession.importer ⟨"import", 0⟩).2.partOf ⟨"playlist", 1⟩ =
      pairSession.importer.partOf ⟨"playlist", 1⟩ := by
  have live : ⟨"import", 0⟩ ∈ pairSession.live := by simp [live_pairSession]
  have otherLive : ⟨"playlist", 1⟩ ∈ pairSession.live := by simp [live_pairSession]
  obtain ⟨names, apart⟩ := reachable_pairSession.isolated live otherLive (by decide)
  constructor
  · rw [Importer.partOf, ← Std.ExtTreeMap.mem_iff_isSome_getElem?,
      reachable_pairSession.undisturbed.mem_interpreters_iff reachable_pairSession.accounted]
    exact List.mem_map_of_mem otherLive
  · exact fun act => (apart (names fun _ indirect => indirect) act).1

end Session

end MediaImport
