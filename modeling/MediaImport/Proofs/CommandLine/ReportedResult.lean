import MediaImport.Proofs.CommandLine.Outcomes
import MediaImport.Proofs.Media.StoredForms

/-!
# The result of a run as the object of another

A run prints the object that the script has left in the same form in which it reads objects.  So
what stands under `result` can be the object file of another run, which starts from the very
object that the first one came to.

The report is JSON that is read back, and what it shows of the result is a stretch of its text:
the stretch is read to the same tree.
-/

namespace MediaImport.CommandLine

open Importer MediaImport.Media Script
open Json (prettyChars)

/-! ## What a report is made of -/

theorem isWritable_of_toJson? {object : Object} {written : Json}
    (stored : object.toJson? = some written) : written.isWritable = true :=
  Object.isWritable_of_hasForm (Object.hasForm_of_toJson? stored) (by simp)

theorem isWritable_of_resultJson? {result : Option Object} {shown : Json}
    (found : resultJson? result = some shown) : shown.isWritable = true := by
  cases result with
  | none =>
    cases found
    simp [Json.isWritable]
  | some object => exact isWritable_of_toJson? found

theorem isWritable_of_entryJson? {entry : CatalogueEntry} {shown : Json}
    (found : entryJson? entry = some shown) : shown.isWritable = true := by
  obtain ⟨object, stored, built⟩ := Option.bind_eq_some_iff.mp found
  cases built
  have upnpClass : ((entry.upnpClass.map Json.ofString).getD .null).isWritable = true := by
    cases entry.upnpClass <;> simp [Json.isWritable]
  exact isWritable_ofMembers (by simp [upnpClass, isWritable_of_toJson? stored])

/-- A report with its parts. -/
def reportOf (entries : List Json) (shown : Json) : Json :=
  .ofMembers [("added", .array entries), ("result", shown)]

theorem reportJson?_eq_some {result : Option Object} {catalogue : Catalogue} {report : Json}
    (reported : reportJson? result catalogue = some report) :
    ∃ entries shown, catalogue.entries.mapM entryJson? = some entries ∧
      resultJson? result = some shown ∧ report = reportOf entries shown := by
  obtain ⟨shown, found, rest⟩ := Option.bind_eq_some_iff.mp reported
  obtain ⟨entries, listed, built⟩ := Option.bind_eq_some_iff.mp rest
  cases built
  exact ⟨entries, shown, listed, found, rfl⟩

theorem isWritable_reportOf {catalogue : Catalogue} {entries : List Json} {shown : Json}
    (listed : catalogue.entries.mapM entryJson? = some entries) (whole : shown.isWritable = true) :
    (reportOf entries shown).isWritable = true := by
  have added : (Json.array entries).isWritable = true :=
    Json.isWritable_array (Json.forall_mem_of_mapM listed fun _ _ => isWritable_of_entryJson?)
  exact isWritable_ofMembers (by simp [added, whole])

theorem member?_reportOf (entries : List Json) (shown : Json) :
    (reportOf entries shown).member? "result" = some shown :=
  rfl

/-- The result is the last thing in a report. -/
theorem pretty_reportOf (entries : List Json) (shown : Json) :
    ∃ before, (reportOf entries shown).pretty ++ "\n" =
      before ++ String.ofList (prettyChars 1 shown) ++ "\n\x7d\n" := by
  have written : (reportOf entries shown).pretty = String.ofList ('\x7b' :: (Json.newline 1 ++
      Json.quote "added" ++ ':' :: ' ' :: prettyChars 1 (.array entries) ++ ',' ::
        (Json.newline 1 ++ Json.quote "result" ++ ':' :: ' ' :: prettyChars 1 shown)) ++
          Json.newline 0 ++ ['\x7d']) :=
    rfl
  generalize prettyChars 1 (.array entries) = added at written
  rw [written]
  refine ⟨String.ofList ('\x7b' :: (Json.newline 1 ++ Json.quote "added" ++ ':' :: ' ' :: added ++
    ',' :: (Json.newline 1 ++ Json.quote "result" ++ [':', ' ']))), ?_⟩
  rw [← String.toList_inj]
  simp [Json.newline]

/-! ## Runs -/

/-- A job comes to one result. -/
theorem Finishes.unique {files : Files} {job : Job} {world : World} {result other : Option Object}
    {catalogue further : Catalogue} (finishes : Finishes files job world result catalogue)
    (again : Finishes files job world other further) : result = other ∧ catalogue = further := by
  obtain ⟨configuration, object, configured, described, processed⟩ := finishes
  obtain ⟨_, _, same, alike, repeated⟩ := again
  rw [configured] at same
  rw [described] at alike
  cases same
  cases alike
  rw [processed] at repeated
  cases repeated
  exact ⟨rfl, rfl⟩

/-- A file that is a text describes what the text describes. -/
theorem objectOf?_of_text {files : Files} {path text : String}
    (holds : files path = .ok (Bytes.ofString text)) :
    objectOf? files path = Object.parse? text := by
  simp only [objectOf?, textOf?, holds, Utf8.decodeText_ofString]
  rfl

/-- What prints a report has come to a result. -/
theorem exists_report {files : Files} {job : Job} {world : World} {printed : String}
    (works : runJob files job world = .printed printed) :
    ∃ result catalogue report, Finishes files job world result catalogue ∧
      reportJson? result catalogue = some report ∧ printed = report.pretty ++ "\n" := by
  by_cases finishes : ∃ result catalogue, Finishes files job world result catalogue
  · obtain ⟨result, catalogue, finishes⟩ := finishes
    rw [runJob_of_finishes finishes] at works
    cases reported : reportJson? result catalogue with
    | none => simp [reported] at works
    | some report =>
      rw [reported] at works
      cases works
      exact ⟨result, catalogue, report, finishes, reported, rfl⟩
  · by_cases halts : ∃ how, Halts files job world how
    · obtain ⟨how, halts⟩ := halts
      rw [runJob_of_halts halts] at works
      cases works
    · obtain ⟨failure, failed⟩ := runJob_of_not_finishes (not_exists.mp halts) finishes
      rw [failed] at works
      cases works

/-- An object can be stored exactly if its location is text, and what is stored is read back as
the object, on one line or indented, whatever the order of the fields.

So if a run prints a report, it has come to a result, and the report is JSON that shows the
result.  If the result is an object, a file that spells what is shown, as the stretch of the report
does, is the file of that very object. -/
theorem stored_forms_are_faithful :
    (∀ object : Object,
      (object.toJson?.isSome = true ↔ Utf8.IsText object.location) ∧
      (∀ written, object.toJson? = some written → object.HasForm {} [] written) ∧
      ∀ json, object.HasForm {} [] json →
        Object.parse? json.render = some object ∧ Object.parse? json.pretty = some object) ∧
    ∀ (files : Files) (arguments : List String) (job : Job) (world : World) (printed : String),
      parse? arguments = some (.process job) → run files arguments world = .printed printed →
      ∃ result catalogue report shown, Finishes files job world result catalogue ∧
        Json.parse? printed = some report ∧ report.member? "result" = some shown ∧
        (result = none → shown = .null) ∧
        (∃ before stretch, printed = before ++ stretch ++ "\n\x7d\n" ∧
          Json.parse? stretch = some shown) ∧
        ∀ object, result = some object → ∀ text, Json.parse? text = some shown →
          ∀ (others : Files) (path : String), others path = .ok (Bytes.ofString text) →
            objectOf? others path = some object := by
  constructor
  · intro object
    refine ⟨object.isSome_toJson?, fun written => Object.hasForm_of_toJson?, fun json form => ?_⟩
    have writable := Object.isWritable_of_hasForm form (by simp)
    simp [Object.parse?, Json.parse?_render writable, Json.parse?_pretty writable,
      Object.ofJson?_of_whole form]
  · intro files arguments job world printed asked ran
    have works : runJob files job world = .printed printed := by
      unfold run at ran
      rwa [asked] at ran
    -- The report is taken apart, and its parts have texts because forms of objects have.
    obtain ⟨result, catalogue, report, finishes, reported, rfl⟩ := exists_report works
    obtain ⟨entries, shown, listed, found, rfl⟩ := reportJson?_eq_some reported
    have whole := isWritable_of_resultJson? found
    obtain ⟨before, text⟩ := pretty_reportOf entries shown
    refine ⟨result, catalogue, reportOf entries shown, shown, finishes,
      Json.parse?_pretty_line (isWritable_reportOf listed whole), member?_reportOf entries shown,
      ?_, ⟨before, _, text, ?_⟩, ?_⟩
    · rintro rfl
      exact (Option.some.inj found).symm
    · simpa using Json.parse?_prettyChars whole 1 [] (by simp)
    · rintro object rfl text spelled others path holds
      rw [objectOf?_of_text holds, Object.parse?, spelled, Option.bind_some]
      exact Object.ofJson?_of_whole (Object.hasForm_of_toJson? found)

set_option maxRecDepth 100000 in
/-- A script that sets a title: what the report shows is the file of the item with the title. -/
theorem stored_forms_titled :
    ∃ printed report shown, run (besideItem "orig.title = 'a'") ["s.lua", "o.json"] =
        .printed printed ∧ Json.parse? printed = some report ∧
      report.member? "result" = some shown ∧ ∀ text, Json.parse? text = some shown →
        objectOf? (fun _ => .ok (Bytes.ofString text)) "o.json" = some (changedItem "a" []) := by
  have processed : processOne (scriptSource (besideItem "orig.title = 'a'"))
      ({} : Configuration).settings itemJob { kind := .item {} } =
        .ok (some (changedItem "a" []), {}) := by
    decide +kernel
  have finishes := finishes_besideItem processed
  have works : run (besideItem "orig.title = 'a'") ["s.lua", "o.json"] =
      runJob (besideItem "orig.title = 'a'") itemJob := by
    unfold run
    rw [parse?_itemJob]
  have texts : ∀ object ∈ reported (some (changedItem "a" [])) {},
      Utf8.IsText object.location := by
    intro object member
    obtain rfl : object = changedItem "a" [] := by simpa [reported] using member
    exact Utf8.isText_nil
  obtain ⟨report, built⟩ := Option.isSome_iff_exists.mp ((isSome_reportJson? _ _).mpr texts)
  have ran : run (besideItem "orig.title = 'a'") ["s.lua", "o.json"] =
      .printed (report.pretty ++ "\n") := by
    rw [works, runJob_of_finishes finishes, built]
    rfl
  obtain ⟨result, catalogue, report, shown, other, parsed, found, -, -, reads⟩ :=
    stored_forms_are_faithful.2 _ _ _ {} _ parse?_itemJob ran
  have same := (other.unique finishes).1
  exact ⟨_, report, shown, ran, parsed, found, fun text spells =>
    reads _ same text spells _ _ rfl⟩

end MediaImport.CommandLine
