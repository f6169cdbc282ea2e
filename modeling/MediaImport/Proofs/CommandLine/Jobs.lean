import MediaImport.CommandLine.Report
import MediaImport.Proofs.Importer.Halts

/-!
# Processing the object of a job

The object of a job is processed in a context of its own: the context is made, and the common
script is run in it, the script of the job is loaded, and the object is handed to it.

A script that halts stops the job where it is.  That may be the common script, as soon as the
context is there, or a run that processing the object takes; to load a script runs nothing.  In
between the job may fail, and then nothing more is run.
-/

namespace MediaImport.CommandLine

open Importer MediaImport.Media Script

namespace Job

/-- The context of a job. -/
def context (job : Job) : Context :=
  ⟨job.purpose.name, 0⟩

/-- The application as soon as the context of a job is there, before the common script. -/
def enrolled (job : Job) (settings : Settings) (conversions : Conversions) (world : World) :
    Importer :=
  ({ world := fun _ => world } : Importer).enroll settings conversions job.purpose.name job.purpose

variable (job : Job) (source : ScriptSource) (settings : Settings) (conversions : Conversions)
  (world : World)

/-- The application once the common script has had its turn. -/
def made : Importer :=
  (job.enrolled settings conversions world).runCommonScript source job.context
    (settings.text .commonScript)

/-- How the first run of the common script halts that does. -/
def commonHalting : Option Halt :=
  (job.enrolled settings conversions world).commonHalting source job.context
    (settings.text .commonScript)

/-- Processing the object of a job halts: the common script does, or else, once the script is
loaded, a run that processing the object takes. -/
def ProcessingHalts (source : ScriptSource) (settings : Settings) (world : World) (object : Object)
    (how : Halt) : Prop :=
  ∃ conversions, Conversions.ofSettings settings = .ok conversions ∧
    let common := job.commonHalting source settings conversions world
    let made := job.made source settings conversions world
    (common = some how ∨
      common = none ∧ ∃ loaded, made.load source job.context job.script = (.ok (), loaded) ∧
        loaded.processHalting job.context object = some how)

theorem found_enrolled :
    (job.enrolled settings conversions world).interpreters[job.context.name]? =
      some ⟨prepared settings world, some 0⟩ :=
  Std.ExtTreeMap.getElem?_insert_self

theorem exists_slot_made :
    ∃ slot, (job.made source settings conversions world).interpreters[job.context.name]? =
      some slot :=
  (worksOn_runCommonScript (job.enrolled settings conversions world) source job.context
    (settings.text .commonScript)).exists_slot
      (found_enrolled job settings conversions world)

theorem haltOf_made :
    (job.made source settings conversions world).haltOf job.context.name =
      job.commonHalting source settings conversions world := by
  have found := found_enrolled job settings conversions world
  rw [made, haltOf_runCommonScript found, haltOf_of_found found]
  exact Option.none_or

variable {job source settings conversions world} in
/-- After the object was processed, the interpreter says how the common script has halted, or else
how processing the object has. -/
theorem haltOf_process {loaded : Importer}
    (loads : (job.made source settings conversions world).load source job.context job.script =
      (.ok (), loaded)) (object : Object) :
    (loaded.process job.context object).2.haltOf job.context.name =
      (job.commonHalting source settings conversions world).or
        (loaded.processHalting job.context object) := by
  have works := worksOn_load (job.made source settings conversions world) source job.context
    job.script
  obtain ⟨slot, found⟩ := exists_slot_made job source settings conversions world
  have kept := haltOf_load found source job.script
  rw [loads] at works kept
  obtain ⟨later, there⟩ := works.exists_slot found
  rw [Importer.haltOf_process there, kept, haltOf_made]

end Job

section Processing

variable {source : ScriptSource} {settings : Settings} {conversions : Conversions} {job : Job}
  {object : Object} {world : World} {how : Halt}

theorem goOn_of_haltOf {importer : Importer} {name : String}
    (halted : importer.haltOf name = some how) : goOn importer name = .error (.halted how) := by
  rw [goOn, halted]

theorem goOn_of_no_haltOf {importer : Importer} {name : String}
    (going : importer.haltOf name = none) : goOn importer name = .ok () := by
  rw [goOn, going]

theorem processOne_of_refused {cause : SetupFailure}
    (refused : Conversions.ofSettings settings = .error cause) :
    processOne source settings job object world = .error (.failed (.setup cause)) := by
  rw [processOne, ← constructUnder_eq_construct,
    constructUnder_of_refused {} source job.purpose refused]
  rfl

theorem processOne_of_accepted (accepted : Conversions.ofSettings settings = .ok conversions) :
    processOne source settings job object world = (do
      let made := job.made source settings conversions world
      goOn made job.context.name
      let (loading, loaded) := made.load source job.context job.script
      loading.mapError .failed
      let (processing, processed) := loaded.process job.context object
      goOn processed job.context.name
      return (← processing.mapError .failed, processed.catalogue)) := by
  -- The application starts without interpreters, so the name is free.
  have new : job.purpose.name ∉ ({ world := fun _ => world } : Importer).interpreters :=
    Std.ExtTreeMap.not_mem_empty
  rw [processOne, ← constructUnder_eq_construct,
    constructUnder_of_new source job.purpose accepted new]
  rfl

theorem processOne_of_common_halted (accepted : Conversions.ofSettings settings = .ok conversions)
    (halts : job.commonHalting source settings conversions world = some how) :
    processOne source settings job object world = .error (.halted how) := by
  rw [processOne_of_accepted accepted]
  dsimp only
  rw [goOn_of_haltOf ((Job.haltOf_made ..).trans halts)]
  rfl

theorem processOne_of_not_loaded (accepted : Conversions.ofSettings settings = .ok conversions)
    (ends : job.commonHalting source settings conversions world = none) {failure : Failure}
    {later : Importer}
    (fails : (job.made source settings conversions world).load source job.context job.script =
      (.error failure, later)) :
    processOne source settings job object world = .error (.failed failure) := by
  rw [processOne_of_accepted accepted]
  dsimp only
  rw [goOn_of_no_haltOf ((Job.haltOf_made ..).trans ends), fails]
  rfl

theorem processOne_of_loaded (accepted : Conversions.ofSettings settings = .ok conversions)
    (ends : job.commonHalting source settings conversions world = none) {loaded : Importer}
    (loads : (job.made source settings conversions world).load source job.context job.script =
      (.ok (), loaded)) :
    processOne source settings job object world =
      match loaded.processHalting job.context object, loaded.process job.context object with
      | some how, _ => .error (.halted how)
      | none, (.error failure, _) => .error (.failed failure)
      | none, (.ok result, processed) => .ok (result, processed.catalogue) := by
  have begins := job.haltOf_made source settings conversions world
  have goes := Job.haltOf_process loads object
  rw [ends] at begins
  rw [ends, Option.none_or] at goes
  rw [processOne_of_accepted accepted]
  dsimp only
  rw [goOn_of_no_haltOf begins, loads]
  cases halts : loaded.processHalting job.context object with
  | some how =>
    rw [halts] at goes
    change (goOn _ _ >>= fun _ => _) = _
    rw [goOn_of_haltOf goes]
    rfl
  | none =>
    rw [halts] at goes
    change (goOn _ _ >>= fun _ => _) = _
    rw [goOn_of_no_haltOf goes]
    rcases loaded.process job.context object with ⟨failure | result, processed⟩ <;> rfl

/-- The job is stopped by a script exactly if processing its object halts. -/
theorem processOne_eq_halted_iff :
    processOne source settings job object world = .error (.halted how) ↔
      job.ProcessingHalts source settings world object how := by
  constructor
  · intro halted
    cases accepted : Conversions.ofSettings settings with
    | error cause =>
      rw [processOne_of_refused accepted] at halted
      cases halted
    | ok conversions =>
      refine ⟨conversions, accepted, ?_⟩
      cases common : job.commonHalting source settings conversions world with
      | some first =>
        rw [processOne_of_common_halted accepted common] at halted
        cases halted
        exact .inl rfl
      | none =>
        rcases loads : (job.made source settings conversions world).load source job.context
          job.script with ⟨failure | _, loaded⟩
        · rw [processOne_of_not_loaded accepted common loads] at halted
          cases halted
        · rw [processOne_of_loaded accepted common loads] at halted
          refine .inr ⟨rfl, loaded, loads, ?_⟩
          split at halted
          · next first _ halts => cases halted; exact halts
          · cases halted
          · cases halted
  · rintro ⟨conversions, accepted, common | ⟨common, loaded, loads, halts⟩⟩
    · exact processOne_of_common_halted accepted common
    · rw [processOne_of_loaded accepted common loads, halts]

/-- A script of full trust can end the process itself. -/
example :
    processOne (fun _ => .ok (Bytes.ofString "os.exit(7)"))
      ({ trustLevel := .elevated } : Configuration).settings ⟨"s.lua", "o.json", none, .layout⟩
      { kind := .item {} } = .error (.halted (.exited 7)) := by
  decide +kernel

/-- A script can wait for ever for what is outside. -/
example :
    processOne (fun _ => .ok (Bytes.ofString "io.read()"))
      ({ trustLevel := .fileRead } : Configuration).settings ⟨"s.lua", "o.json", none, .layout⟩
      { kind := .item {} } { answer := fun _ _ _ => .halt .unfinished } =
        .error (.halted .unfinished) := by
  decide +kernel

end Processing

end MediaImport.CommandLine
