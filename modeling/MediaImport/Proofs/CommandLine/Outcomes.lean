import Mathlib.Control.Monad.Basic
import MediaImport.Proofs.CommandLine.Jobs
import MediaImport.Proofs.Text.Utf8

/-!
# How a run ends

A run whose arguments fit reads its files, makes a context, loads the script, processes
the object and reports what became of it.  If something goes wrong before the report, the
run has failed and its exit code is one.  If nothing does, there are objects to report:
the one that was processed, if the script has left it an object, and all that were added.

A script may also end the process, with an exit code of its own, or not come to an end at
all.  Then the run neither fails nor gets as far as the report.

JSON has a form for every part of an object but a location that is not text.  Objects
that are read from files never have such a location, but a script can give one to the
object it works on or to one that it adds, and then there is no report and no failure
either.
-/

namespace MediaImport.Media

/-- An object can be stored exactly if its location is text. -/
theorem Object.isSome_toJson? (object : Object) :
    object.toJson?.isSome = true ↔ Utf8.IsText object.location := by
  rw [Utf8.isText_iff_decodeText, toJson?]
  cases Utf8.decodeText object.location with
  | ok text => simp
  | error fault => simp

/-- What holds of all that a reading may go on to holds of what it comes to. -/
theorem of_bind {α β : Type} {Holds : β → Prop} {first : Option α} {rest : α → Option β}
    (goesOn : ∀ read, first = some read → ∀ value, rest read = some value → Holds value)
    (value : β) (came : (first >>= rest) = some value) : Holds value := by
  obtain ⟨read, found, later⟩ := Option.bind_eq_some_iff.mp came
  exact goesOn read found value later

theorem isText_of_optional? {field : Option Json} {location : Bytes}
    (found : Json.optional? (fun json => json.asText?.map Bytes.ofString) [] field =
      some location) : Utf8.IsText location := by
  unfold Json.optional? at found
  split at found
  · obtain ⟨text, -, rfl⟩ := Option.map_eq_some_iff.mp found
    exact ⟨text, rfl⟩
  · cases found
    exact Utf8.isText_nil

/-- The location of an object that was stored is text. -/
theorem Object.isText_of_ofJson? (json : Json) :
    ∀ object, ofJson? json = some object → Utf8.IsText object.location := by
  unfold ofJson?
  refine of_bind fun fields _ => ?_
  split
  · refine of_bind fun id _ => of_bind fun parentId _ => of_bind fun refId _ =>
      of_bind fun title _ => of_bind fun upnpClass _ => of_bind fun restricted _ =>
      of_bind fun isVirtual _ => of_bind fun location found => of_bind fun mtime _ =>
      of_bind fun size _ => of_bind fun metadata _ => of_bind fun auxiliary _ =>
      of_bind fun resources _ => of_bind fun flags _ => of_bind fun kind _ => ?_
    intro object built
    cases built
    exact isText_of_optional? found
  · intro object missing
    cases missing

end MediaImport.Media

namespace MediaImport.CommandLine

open Importer MediaImport.Media Script

/-! ## The report -/

/-- The objects that a report shows. -/
def reported (result : Option Object) (catalogue : Catalogue) : List Object :=
  result.toList ++ catalogue.entries.map CatalogueEntry.object

theorem isSome_entryJson? (entry : CatalogueEntry) :
    (entryJson? entry).isSome = true ↔ Utf8.IsText entry.object.location := by
  rw [← Object.isSome_toJson?, entryJson?]
  cases entry.object.toJson? <;> rfl

theorem isSome_resultJson? (result : Option Object) :
    (resultJson? result).isSome = true ↔ ∀ object ∈ result, Utf8.IsText object.location := by
  cases result with
  | none => simp [resultJson?]
  | some object => simp [resultJson?, Object.isSome_toJson?]

theorem isSome_mapM {α β : Type} (change : α → Option β) (values : List α) :
    (values.mapM change).isSome = true ↔ ∀ value ∈ values, (change value).isSome = true := by
  induction values with
  | nil => simp
  | cons first rest ih =>
    rw [List.mapM_cons, List.forall_mem_cons, ← ih]
    cases change first with
    | none => simp
    | some image => cases rest.mapM change <;> simp

/-- There is a report exactly if the locations of all objects that it shows are text. -/
theorem isSome_reportJson? (result : Option Object) (catalogue : Catalogue) :
    (reportJson? result catalogue).isSome = true ↔
      ∀ object ∈ reported result catalogue, Utf8.IsText object.location := by
  have split : (∀ object ∈ reported result catalogue, Utf8.IsText object.location) ↔
      (resultJson? result).isSome = true ∧ (catalogue.entries.mapM entryJson?).isSome = true := by
    rw [isSome_resultJson?, isSome_mapM]
    simp only [isSome_entryJson?, reported, List.forall_mem_append, List.forall_mem_map,
      Option.mem_toList, Option.mem_def]
  rw [split, reportJson?]
  cases resultJson? result with
  | none => simp
  | some shown => cases catalogue.entries.mapM entryJson? <;> simp

/-! ## Runs -/

/-- A job gets as far as the report: its files can be read, and processing the object has
come to a result and left a catalogue. -/
def Finishes (files : Files) (job : Job) (world : World) (result : Option Object)
    (catalogue : Catalogue) : Prop :=
  ∃ configuration object,
    configurationOf? files job.config = some configuration ∧
      objectOf? files job.object = some object ∧
      processOne (scriptSource files) configuration.settings job object world =
        .ok (result, catalogue)

/-- A job stops because a script does: its files can be read, and the common script or one of the
runs that processing the object takes has halted. -/
def Halts (files : Files) (job : Job) (world : World) (how : Halt) : Prop :=
  ∃ configuration object,
    configurationOf? files job.config = some configuration ∧
      objectOf? files job.object = some object ∧
      job.ProcessingHalts (scriptSource files) configuration.settings world object how

/-- The object that a job starts from has a location that is text. -/
theorem isText_of_objectOf? (files : Files) (path : String) :
    ∀ object, objectOf? files path = some object → Utf8.IsText object.location := by
  unfold objectOf?
  exact of_bind fun text _ => of_bind fun json _ => Object.isText_of_ofJson? json

section Ends

variable {files : Files} {job : Job} {world : World}

theorem runJob_of_finishes {result : Option Object} {catalogue : Catalogue}
    (finishes : Finishes files job world result catalogue) :
    runJob files job world =
      (reportJson? result catalogue).elim .unprintable
        fun report => .printed (report.pretty ++ "\n") := by
  obtain ⟨configuration, object, configured, described, processed⟩ := finishes
  simp only [runJob, configured, described, processed]
  cases reportJson? result catalogue <;> rfl

theorem runJob_of_halts {how : Halt} (halts : Halts files job world how) :
    runJob files job world = .halted how := by
  obtain ⟨configuration, object, configured, described, halts⟩ := halts
  have stopped := processOne_eq_halted_iff.mpr halts
  simp only [runJob, configured, described, stopped]

/-- A job that neither is stopped by a script nor gets as far as the report has failed. -/
theorem runJob_of_not_finishes (goes : ∀ how, ¬Halts files job world how)
    (fails : ¬∃ result catalogue, Finishes files job world result catalogue) :
    ∃ failure, runJob files job world = .failed failure := by
  unfold runJob
  split
  · next configuration object configured described =>
    split
    · next failure stopped => exact ⟨failure, rfl⟩
    · next how stopped =>
      exact absurd ⟨configuration, object, configured, described,
        processOne_eq_halted_iff.mp stopped⟩ (goes how)
    · next result catalogue processed =>
      exact absurd
        ⟨result, catalogue, configuration, object, configured, described, processed⟩ fails
  · exact ⟨.configuration, rfl⟩

end Ends

/-- How a run ends that got past its arguments, whatever is outside scripts.

If a script halts, the run stops there: the exit code is the script's, or there is none because
the run does not end.  If none does and the run does not get as far as the report, it has failed.
If it gets there, it prints the report and succeeds, provided that the locations of all objects in
the report are text; if one is not, the run ends without either.  The object that the run started
from is never to blame. -/
theorem run_ends (files : Files) (world : World) {arguments : List String} {job : Job}
    (asked : parse? arguments = some (.process job)) :
    (∀ how, Halts files job world how →
      run files arguments world = .halted how ∧
        (run files arguments world).exitCode? = how.exitCode?) ∧
    ((∀ how, ¬Halts files job world how) →
      (¬∃ result catalogue, Finishes files job world result catalogue) →
      ∃ failure, run files arguments world = .failed failure ∧
        (run files arguments world).exitCode? = some 1) ∧
    ∀ result catalogue, Finishes files job world result catalogue →
      ((∀ object ∈ reported result catalogue, Utf8.IsText object.location) →
        ∃ report, reportJson? result catalogue = some report ∧
          run files arguments world = .printed (report.pretty ++ "\n") ∧
          (run files arguments world).exitCode? = some 0) ∧
      ((∃ object ∈ reported result catalogue, ¬Utf8.IsText object.location) →
        run files arguments world = .unprintable ∧
          (run files arguments world).exitCode? = some 101 ∧
          ∀ object, objectOf? files job.object = some object → Utf8.IsText object.location) := by
  have works : run files arguments world = runJob files job world := by
    unfold run
    rw [asked]
  rw [works]
  refine ⟨?_, ?_, ?_⟩
  · intro how halts
    have halted := runJob_of_halts halts
    exact ⟨halted, by rw [halted]; rfl⟩
  · intro goes fails
    obtain ⟨failure, failed⟩ := runJob_of_not_finishes goes fails
    exact ⟨failure, failed, by rw [failed]; rfl⟩
  · intro result catalogue finishes
    have ends := runJob_of_finishes finishes
    constructor
    · intro texts
      obtain ⟨report, shown⟩ :=
        Option.isSome_iff_exists.mp ((isSome_reportJson? result catalogue).mpr texts)
      rw [shown] at ends
      exact ⟨report, shown, ends, by rw [ends]; rfl⟩
    -- A report would show the object, and would show that its location is text.
    · rintro ⟨object, member, noText⟩
      cases shown : reportJson? result catalogue with
      | some report =>
        have texts := (isSome_reportJson? result catalogue).mp (Option.isSome_of_eq_some shown)
        exact absurd (texts object member) noText
      | none =>
        rw [shown] at ends
        exact ⟨ends, by rw [ends]; rfl, isText_of_objectOf? files job.object⟩

/-- A script beside the file of an item that has nothing but its kind. -/
def besideItem (script : String) : Files
  | "s.lua" => .ok (Bytes.ofString script)
  | "o.json" => .ok (Bytes.ofString "\x7b\"kind\":\x7b\"type\":\"item\"\x7d\x7d")
  | _ => .error .missing

/-- The job of such files. -/
def itemJob : Job := ⟨"s.lua", "o.json", none, .layout⟩

theorem parse?_itemJob : parse? ["s.lua", "o.json"] = some (.process itemJob) := by decide

theorem objectOf?_besideItem (script : String) :
    objectOf? (besideItem script) "o.json" = some { kind := .item {} } := by
  -- Once the script is a fixed one, the file of the object can be read by evaluation.
  have same : objectOf? (besideItem script) "o.json" = objectOf? (besideItem "") "o.json" := by
    unfold objectOf? textOf?
    rfl
  rw [same]
  decide +kernel

theorem finishes_besideItem {script : String} {world : World} {result : Option Object}
    {catalogue : Catalogue}
    (processed : processOne (scriptSource (besideItem script)) ({} : Configuration).settings itemJob
      { kind := .item {} } world = .ok (result, catalogue)) :
    Finishes (besideItem script) itemJob world result catalogue :=
  ⟨{}, _, rfl, objectOf?_besideItem script, processed⟩

/-- The item after a script has set a title or a location. -/
def changedItem (title : String) (location : Bytes) : Object where
  title := title
  location := location
  isVirtual := true
  kind := .item {}

set_option maxRecDepth 100000 in
/-- A script that sets a title: the report is printed. -/
theorem run_ends_titled :
    ∃ report, run (besideItem "orig.title = 'a'") ["s.lua", "o.json"] =
      .printed (Json.pretty report ++ "\n") := by
  have processed : processOne (scriptSource (besideItem "orig.title = 'a'"))
      ({} : Configuration).settings itemJob { kind := .item {} } =
        .ok (some (changedItem "a" []), {}) := by
    decide +kernel
  obtain ⟨-, -, ends⟩ := run_ends (besideItem "orig.title = 'a'") {} parse?_itemJob
  obtain ⟨printed, -⟩ := ends _ _ (finishes_besideItem processed)
  obtain ⟨report, -, ended, -⟩ := printed (by
    intro object member
    obtain rfl : object = changedItem "a" [] := by simpa [reported] using member
    exact Utf8.isText_nil)
  exact ⟨report, ended⟩

set_option maxRecDepth 100000 in
/-- A script that sets the location to a byte that is no text: the object is processed, and
yet the run neither prints a report nor fails. -/
theorem run_ends_unprintable :
    Finishes (besideItem "orig.location = '\\255'") itemJob {} (some (changedItem "" [255])) {} ∧
      run (besideItem "orig.location = '\\255'") ["s.lua", "o.json"] = .unprintable ∧
      Outcome.unprintable.exitCode? ≠ some 0 ∧ Outcome.unprintable.exitCode? ≠ some 1 := by
  have processed : processOne (scriptSource (besideItem "orig.location = '\\255'"))
      ({} : Configuration).settings itemJob { kind := .item {} } =
        .ok (some (changedItem "" [255]), {}) := by
    decide +kernel
  have finishes := finishes_besideItem processed
  have works : run (besideItem "orig.location = '\\255'") ["s.lua", "o.json"] =
      runJob (besideItem "orig.location = '\\255'") itemJob := by
    unfold run
    rw [parse?_itemJob]
  have unshown : reportJson? (some (changedItem "" [255])) {} = none := by decide +kernel
  refine ⟨finishes, ?_, by decide, by decide⟩
  rw [works, runJob_of_finishes finishes, unshown, Option.elim_none]

end MediaImport.CommandLine
