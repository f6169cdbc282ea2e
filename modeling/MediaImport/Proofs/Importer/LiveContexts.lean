import Mathlib.Data.List.Nodup
import MediaImport.Proofs.Importer.Sessions

/-!
# Contexts and interpreters in step

As long as all interpreters are made and destroyed by contexts, there is an interpreter under a
name exactly if a context of that name is live, and no two live contexts share a name.  What a
construction comes to can then be told from the live contexts, the settings and what is
wanting.  It does not depend on the common script.
-/

namespace MediaImport

open MediaImport.Importer MediaImport.Media MediaImport.Script

/-! ## Settings that are refused -/

/-- Some setting names a character set that is not known. -/
def Settings.HasUnknownCharset (settings : Settings) : Prop :=
  ∃ key ∈ [SettingKey.filesystemCharset, .metadataCharset, .playlistCharset, .scriptCharset],
    settings.text key ≠ "" ∧ Charset.ofLabel? (settings.text key) = none

namespace Conversions

variable {settings : Settings}

theorem charsetOf_eq_error_iff (key : SettingKey) :
    (∃ cause, charsetOf settings key = .error cause) ↔
      settings.text key ≠ "" ∧ Charset.ofLabel? (settings.text key) = none := by
  have standard : Charset.ofLabel? "UTF-8" = some .utf8 := by decide
  by_cases blank : settings.text key = ""
  · simp [charsetOf, blank, standard]
  · have present : (settings.text key).isEmpty = false := by
      simpa [String.isEmpty_iff] using blank
    cases known : Charset.ofLabel? (settings.text key) with
    | none => simp [charsetOf, blank, present, known]
    | some charset => simp [charsetOf, present, known]

/-- Settings are refused exactly if one of them names an unknown character set. -/
theorem ofSettings_eq_error_iff :
    (∃ cause, ofSettings settings = .error cause) ↔ settings.HasUnknownCharset := by
  simp only [Settings.HasUnknownCharset, ← charsetOf_eq_error_iff, List.mem_cons,
    List.not_mem_nil, or_false, exists_eq_or_imp, exists_eq_left, ofSettings]
  cases charsetOf settings .filesystemCharset with
  | error cause => simp [Bind.bind, Except.bind]
  | ok filesystem =>
    cases charsetOf settings .metadataCharset with
    | error cause => simp [Bind.bind, Except.bind]
    | ok metadata =>
      cases charsetOf settings .playlistCharset with
      | error cause => simp [Bind.bind, Except.bind]
      | ok playlist =>
        cases charsetOf settings .scriptCharset with
        | error cause => simp [Bind.bind, Except.bind]
        | ok script => simp [Bind.bind, Except.bind, pure, Except.pure]

end Conversions

namespace Session

variable {session : Session}

/-! ## Sessions in which contexts alone make and destroy interpreters -/

/-- Nobody took away an interpreter of a live context, and every interpreter belongs to a
context. -/
structure Undisturbed (session : Session) : Prop where
  intact : ∀ context ∈ session.live, context ∈ session.intact
  owned : ∀ name, session.importer.owner name ≠ some none

theorem undisturbed_start (catalogue : Catalogue) (world : Nat → World) :
    Undisturbed { importer := { catalogue, world } } where
  intact := List.forall_mem_nil _
  owned name := by simp [Importer.owner]

theorem Undisturbed.work (undisturbed : session.Undisturbed) {name : String} {later : Session}
    (works : Works name session later) : later.Undisturbed where
  intact := works.live ▸ works.intact ▸ undisturbed.intact
  owned name := by
    rw [works.importer.owner]
    exact undisturbed.owned name

/-- Live contexts have different names. -/
theorem Undisturbed.eq_of_name (undisturbed : session.Undisturbed) (accounted : session.Accounted)
    {context other : Context} (live : context ∈ session.live) (otherLive : other ∈ session.live)
    (same : context.name = other.name) : context = other := by
  have own := (accounted.owned context.name context.environment).mpr (undisturbed.intact _ live)
  have otherOwn := (accounted.owned other.name other.environment).mpr
    (undisturbed.intact _ otherLive)
  rw [same, otherOwn] at own
  exact (accounted.apart other otherLive context live (Option.some.inj (Option.some.inj own))).symm

theorem Undisturbed.name_ne (undisturbed : session.Undisturbed) (accounted : session.Accounted)
    {context other : Context} (live : context ∈ session.live) (otherLive : other ∈ session.live)
    (apart : context ≠ other) : context.name ≠ other.name :=
  fun same => apart (undisturbed.eq_of_name accounted live otherLive same)

theorem Undisturbed.construct (undisturbed : session.Undisturbed) (record : Option Record)
    {shortage : Shortage} {source : ScriptSource} {settings : Settings} {name : String}
    {purpose : Purpose} {outcome : Except Failure Context × Importer}
    (construction : Importer.Construction shortage session.importer source settings name purpose
      outcome) : (session.join record outcome).Undisturbed := by
  cases construction with
  | failed cause later same why => exact undisturbed.work (session.works_of_failed name same)
  | made conversions accepted new enough =>
    have works := Importer.worksOn_runCommonScript
      (session.importer.enroll settings conversions name purpose) source
      ⟨name, session.importer.fresh⟩ (settings.text .commonScript)
    constructor
    · intro context live
      rcases List.mem_cons.mp live with rfl | older
      · exact List.mem_cons_self
      · exact List.mem_cons_of_mem _ (undisturbed.intact context older)
    · intro other
      have owner := owner_insert session.importer name other
        ⟨prepared settings (session.importer.world session.importer.fresh),
          some session.importer.fresh⟩
      refine (congrArg (· ≠ some none) ((works.owner other).trans owner)).mpr ?_
      split
      · simp
      · exact undisturbed.owned other

theorem Undisturbed.drop (undisturbed : session.Undisturbed) (accounted : session.Accounted)
    {context : Context} (live : context ∈ session.live) :
    (session.next (.drop context)).Undisturbed where
  intact other kept := by
    obtain ⟨otherLive, apart⟩ := List.mem_filter.mp kept
    have name := undisturbed.name_ne accounted otherLive live (of_decide_eq_true apart)
    exact List.mem_filter.mpr ⟨undisturbed.intact other otherLive, decide_eq_true name⟩
  owned other := by
    have owner : (session.importer.drop context).owner other = _ :=
      owner_destroyInterpreter _ context.name other
    refine (congrArg (· ≠ some none) owner).mpr ?_
    split
    · simp
    · exact undisturbed.owned other

theorem Undisturbed.next (undisturbed : session.Undisturbed) (accounted : session.Accounted)
    {deed : Deed} (indirect : ¬deed.IsDirect) (allowed : session.Allows deed) :
    (session.next deed).Undisturbed := by
  cases deed with
  | construct shortage source settings name purpose =>
    have kept := undisturbed.construct (Record.ofSettings? source settings)
      (Importer.construction shortage source purpose session.importer settings name)
    exact kept
  | drop context => exact undisturbed.drop accounted allowed
  | createBare name trust world => exact absurd trivial indirect
  | destroy name => exact absurd trivial indirect
  | _ => exact undisturbed.work (session.works_next rfl)

theorem Reachable.undisturbed (reachable : session.Reachable (¬ ·.IsDirect)) :
    session.Undisturbed := by
  induction reachable with
  | start catalogue world => exact undisturbed_start catalogue world
  | next reachable indirect allowed ih => exact ih.next reachable.accounted indirect allowed

/-- There are interpreters exactly under the names of live contexts. -/
theorem Undisturbed.mem_interpreters_iff (undisturbed : session.Undisturbed)
    (accounted : session.Accounted) (name : String) :
    name ∈ session.importer.interpreters ↔ name ∈ session.live.map Context.name := by
  rw [Importer.mem_interpreters_iff, List.mem_map]
  constructor
  · rintro ⟨whose, owned⟩
    cases whose with
    | none => exact absurd owned (undisturbed.owned name)
    | some number =>
      have intact := (accounted.owned name number).mp owned
      exact ⟨⟨name, number⟩, accounted.held _ intact, rfl⟩
  · rintro ⟨context, live, rfl⟩
    exact ⟨_, (accounted.owned context.name context.environment).mpr
      (undisturbed.intact context live)⟩

theorem Undisturbed.nodup_names (undisturbed : session.Undisturbed)
    (accounted : session.Accounted) : (session.live.map Context.name).Nodup := by
  refine List.Nodup.map_on ?_ accounted.distinct
  exact fun context live other otherLive => undisturbed.eq_of_name accounted live otherLive

/-! ## What a construction comes to -/

section Construct

variable {shortage : Shortage} {importer : Importer} {source : ScriptSource} {settings : Settings}
  {name : String} {purpose : Purpose} {outcome : Except Failure Context × Importer}

/-- A construction that fails has a reason, and leaves all interpreters and all that their
scripts act on. -/
theorem construction_error
    (construction : Importer.Construction shortage importer source settings name purpose outcome)
    {failure : Failure} (failed : outcome.1 = .error failure) :
    (∃ cause, failure = .setup cause) ∧ outcome.2.interpreters = importer.interpreters ∧
      outcome.2.environments = importer.environments ∧
      outcome.2.catalogue = importer.catalogue := by
  cases construction with
  | failed cause later same why =>
    refine ⟨⟨cause, (Except.error.inj failed).symm⟩, ?_⟩
    rcases same with rfl | rfl <;> exact ⟨rfl, rfl, rfl⟩
  | made conversions accepted new enough => cases failed

/-- A construction succeeds exactly if the name is free, all character sets are known and
nothing is wanting. -/
theorem construction_ok_iff
    (construction : Importer.Construction shortage importer source settings name purpose outcome) :
    (∃ context, outcome.1 = .ok context) ↔
      name ∉ importer.interpreters ∧ ¬settings.HasUnknownCharset ∧ shortage = {} := by
  rw [← Conversions.ofSettings_eq_error_iff]
  cases construction with
  | failed cause later same why =>
    constructor
    · rintro ⟨context, made⟩
      cases made
    · rintro ⟨new, known, enough⟩
      rcases why with refused | taken | wanting
      · exact absurd refused known
      · exact absurd taken new
      · exact absurd enough wanting
  | made conversions accepted new enough =>
    refine iff_of_true ⟨_, rfl⟩ ⟨new, ?_, enough⟩
    rintro ⟨cause, refused⟩
    rw [accepted] at refused
    cases refused

end Construct

/-- Contexts and interpreters stay in step: there are interpreters exactly under the names of
live contexts, which are all different, and nobody holds the lock.  A construction fails if its
name is live or a character set is unknown, and it fails for no other reason than that something
is wanting, whatever the common script is; if it fails, all interpreters are as they were. -/
theorem Reachable.in_step (reachable : session.Reachable (¬ ·.IsDirect)) :
    (∀ name, name ∈ session.importer.interpreters ↔ name ∈ session.live.map Context.name) ∧
    (session.live.map Context.name).Nodup ∧
    session.importer.lock.holders = 0 ∧ session.importer.lock.peak ≤ 1 ∧
    ∀ (shortage : Shortage) (source : ScriptSource) (settings : Settings) (name : String)
      (purpose : Purpose),
      let outcome := session.importer.constructUnder shortage source settings name purpose
      (name ∈ session.live.map Context.name ∨ settings.HasUnknownCharset →
        ∃ cause, outcome.1 = .error (.setup cause)) ∧
      (∀ failure, outcome.1 = .error failure →
        (∃ cause, failure = .setup cause) ∧
        outcome.2.interpreters = session.importer.interpreters ∧
        outcome.2.environments = session.importer.environments ∧
        outcome.2.catalogue = session.importer.catalogue) ∧
      ((∃ context, outcome.1 = .ok context) ↔
        name ∉ session.live.map Context.name ∧ ¬settings.HasUnknownCharset ∧ shortage = {}) := by
  have accounted := reachable.accounted
  have undisturbed := reachable.undisturbed
  refine ⟨undisturbed.mem_interpreters_iff accounted, undisturbed.nodup_names accounted,
    accounted.idle.1, accounted.idle.2, ?_⟩
  intro shortage source settings name purpose outcome
  have construction : Importer.Construction shortage session.importer source settings name purpose
      outcome := Importer.construction shortage source purpose session.importer settings name
  have succeeds := construction_ok_iff construction
  rw [undisturbed.mem_interpreters_iff accounted] at succeeds
  refine ⟨fun reason => ?_, fun failure => construction_error construction, succeeds⟩
  cases result : outcome.1 with
  | ok context =>
    obtain ⟨new, known, -⟩ := succeeds.mp ⟨context, result⟩
    exact (reason.elim new known).elim
  | error failure =>
    obtain ⟨⟨cause, rfl⟩, -⟩ := construction_error construction result
    exact ⟨cause, rfl⟩

/-! ### A context whose common script is missing -/

/-- Settings that name a common script. -/
def commonSettings : Settings :=
  .ofTexts fun
    | .commonScript => "/scripts/common.lua"
    | _ => ""

/-- A source that has no scripts. -/
def noScripts : ScriptSource :=
  fun path => .error (path ++ " not found")

/-- A source with one short program. -/
def oneProgram : ScriptSource :=
  fun _ => .ok (Bytes.ofString "count = 1")

/-- It makes a program whatever the character set. -/
theorem program_oneProgram (conversions : Conversions) :
    ∃ program, programOf? oneProgram conversions "/one.lua" = some program := by
  rw [← Option.isSome_iff_exists]
  change (programOf? oneProgram ⟨.utf8, .utf8, .utf8, conversions.script⟩ "/one.lua").isSome = true
  cases conversions.script <;> decide +kernel

/-- A context is made, although its common script is missing. -/
def madeSession : Session :=
  ({} : Session).next (.construct {} noScripts commonSettings "import" .layout)

/-- Another one of its name is refused, and it fails to run, for it has no program. -/
def refusedSession : Session :=
  (madeSession.next (.construct {} noScripts commonSettings "import" .layout)).next
    (.execute ⟨"import", 0⟩)

theorem accepted_commonSettings :
    Conversions.ofSettings commonSettings = .ok ⟨.utf8, .utf8, .utf8, .utf8⟩ := by
  decide

theorem madeSession_eq :
    madeSession = {
      importer := (({} : Importer).enroll commonSettings ⟨.utf8, .utf8, .utf8, .utf8⟩ "import"
        .layout).runCommonScript noScripts ⟨"import", 0⟩ (commonSettings.text .commonScript)
      live := [⟨"import", 0⟩]
      intact := [⟨"import", 0⟩]
      records := Function.update (fun _ => none) 0
        (Record.ofSettings? noScripts commonSettings) } :=
  next_construct_of_new {} accepted_commonSettings Std.ExtTreeMap.not_mem_empty noScripts .layout

theorem live_madeSession : madeSession.live = [⟨"import", 0⟩] :=
  congrArg Session.live madeSession_eq

theorem intact_madeSession : madeSession.intact = [⟨"import", 0⟩] :=
  congrArg Session.intact madeSession_eq

theorem mem_live_madeSession : ⟨"import", 0⟩ ∈ madeSession.live :=
  live_madeSession ▸ List.mem_cons_self

theorem reachable_madeSession : madeSession.Reachable (¬ ·.IsDirect) :=
  (Reachable.start {}).next id trivial

theorem taken_madeSession : "import" ∈ madeSession.importer.interpreters := by
  rw [reachable_madeSession.undisturbed.mem_interpreters_iff reachable_madeSession.accounted,
    live_madeSession]
  exact List.mem_cons_self

theorem live_refusedSession : refusedSession.live = [⟨"import", 0⟩] :=
  (congrArg Session.live (next_construct_of_taken madeSession accepted_commonSettings
    taken_madeSession {} noScripts .layout)).trans live_madeSession

theorem reachable_refusedSession : refusedSession.Reachable (¬ ·.IsDirect) := by
  have refused : (madeSession.next (.construct {} noScripts commonSettings "import"
      .layout)).Reachable (¬ ·.IsDirect) := reachable_madeSession.next id trivial
  refine refused.next id ?_
  change (⟨"import", 0⟩ : Context) ∈ refusedSession.live
  rw [live_refusedSession]
  exact List.mem_cons_self

/-- A name that is not live can be taken, and the one that is cannot. -/
theorem in_step_refusedSession :
    "import" ∈ refusedSession.importer.interpreters ∧
    "playlist" ∉ refusedSession.importer.interpreters ∧
    refusedSession.importer.lock.holders = 0 ∧
    (∃ cause, (refusedSession.importer.constructUnder {} noScripts commonSettings "import"
      .layout).1 = .error (.setup cause)) ∧
    ∃ context, (refusedSession.importer.constructUnder {} noScripts commonSettings "playlist"
      .playlist).1 = .ok context := by
  obtain ⟨names, -, free, -, constructions⟩ := reachable_refusedSession.in_step
  obtain ⟨refused, -, -⟩ := constructions {} noScripts commonSettings "import" .layout
  obtain ⟨-, -, succeeds⟩ := constructions {} noScripts commonSettings "playlist" .playlist
  have known : ¬commonSettings.HasUnknownCharset := by
    rw [← Conversions.ofSettings_eq_error_iff, accepted_commonSettings]
    rintro ⟨cause, refused⟩
    cases refused
  simp only [names, live_refusedSession, List.map_cons, List.map_nil, List.mem_singleton] at *
  exact ⟨trivial, by decide, free, refused (.inl trivial), succeeds.mpr ⟨by decide, known, trivial⟩⟩

end Session

end MediaImport
