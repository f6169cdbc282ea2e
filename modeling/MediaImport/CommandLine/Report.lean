import MediaImport.CommandLine.Arguments
import MediaImport.Importer.Context
import MediaImport.Json.Printer
import MediaImport.Json.Reader
import MediaImport.Media.ObjectJson
import MediaImport.Settings.Configuration

/-!
# The report of a run

One run of the command: read the configuration and the object, make a context,
load the script, process the object, and report what became of it and what the
script added to the catalogue.

The report is JSON, so it can show an object only if its location is text.

If a script ends the process, or does not come to an end itself, there is neither a
report nor a failure.
-/

namespace MediaImport.CommandLine

open Importer Script

/-- Why a file cannot be read. -/
inductive FileFault where
  | missing
  | notDirectory
  | isDirectory
  | denied
  | other (reason : String)
  deriving DecidableEq

/-- The wording of the operating system. -/
def FileFault.message : FileFault → String
  | missing => "No such file or directory (os error 2)"
  | notDirectory => "Not a directory (os error 20)"
  | isDirectory => "Is a directory (os error 21)"
  | denied => "Permission denied (os error 13)"
  | other reason => reason

/-- The files that a run can read. -/
abbrev Files := String → Except FileFault Bytes

/-- How a run ends.  What its scripts write to open files is not part of it. -/
inductive Outcome where
  | printed (text : String)
  | failed (failure : Failure)
  | misused
  /-- An object to report has a location that is not text. -/
  | unprintable
  /-- A script has stopped everything. -/
  | halted (how : Halt)
  deriving DecidableEq

namespace Outcome

/-- The exit code of the command, if it ends. -/
def exitCode? : Outcome → Option UInt8
  | printed _ => some 0
  | failed _ => some 1
  | misused => some 2
  | unprintable => some 101
  | halted how => how.exitCode?

/-- The exit code of the command; that of a failure for a run that is given up. -/
def exitCode (outcome : Outcome) : UInt8 :=
  outcome.exitCode?.getD 1

end Outcome

/-- The text of a file. -/
def textOf? (files : Files) (path : String) : Option String :=
  match files path with
  | .ok contents => (Utf8.decodeText contents).toOption
  | .error _ => none

/-- The configuration of a run. -/
def configurationOf? (files : Files) : Option String → Option Configuration
  | some path => (textOf? files path).bind Configuration.parse?
  | none => some {}

/-- The object that a file describes. -/
def objectOf? (files : Files) (path : String) : Option Media.Object := do
  let text ← textOf? files path
  Media.Object.ofJson? (← Json.parse? text)

/-- The script files of a run. -/
def scriptSource (files : Files) : ScriptSource := fun path =>
  (files path).mapError FileFault.message

/-- An added object in the report. -/
def entryJson? (entry : CatalogueEntry) : Option Json := do
  let object ← entry.object.toJson?
  return .ofMembers [
    ("container_chain", .ofString entry.chain),
    ("container_class", (entry.upnpClass.map Json.ofString).getD .null),
    ("object", object)]

/-- What became of the object. -/
def resultJson? : Option Media.Object → Option Json
  | some object => object.toJson?
  | none => some .null

/-- The report of a run. -/
def reportJson? (result : Option Media.Object) (catalogue : Catalogue) : Option Json := do
  let result ← resultJson? result
  let entries ← catalogue.entries.mapM entryJson?
  return .ofMembers [("added", .array entries), ("result", result)]

/-- Why there is nothing to report. -/
inductive Stop where
  | failed (failure : Failure)
  | halted (how : Halt)
  deriving DecidableEq

/-- Go on only if nothing has stopped in the interpreter under a name. -/
def goOn (importer : Importer) (name : String) : Except Stop Unit :=
  match importer.haltOf name with
  | some how => .error (.halted how)
  | none => .ok ()

/-- Make a context for a script, load it, and process an object. -/
def processOne (source : ScriptSource) (settings : Settings) (job : Job)
    (object : Media.Object) (world : World := {}) :
    Except Stop (Option Media.Object × Catalogue) := do
  let (made, importer) :=
    construct { world := fun _ => world } source settings job.purpose.name job.purpose
  let context ← made.mapError .failed
  goOn importer context.name
  let (loaded, importer) := importer.load source context job.script
  loaded.mapError .failed
  let (processed, importer) := importer.process context object
  goOn importer context.name
  return (← processed.mapError .failed, importer.catalogue)

/-- Run a job. -/
def runJob (files : Files) (job : Job) (world : World := {}) : Outcome :=
  match configurationOf? files job.config, objectOf? files job.object with
  | some configuration, some object =>
    match processOne (scriptSource files) configuration.settings job object world with
    | .error (.failed failure) => .failed failure
    | .error (.halted how) => .halted how
    | .ok (result, catalogue) =>
      match reportJson? result catalogue with
      | some report => .printed (report.pretty ++ "\n")
      | none => .unprintable
  | _, _ => .failed .configuration

/-- Do what arguments ask for. -/
def run (files : Files) (arguments : List String) (world : World := {}) : Outcome :=
  match parse? arguments with
  | none => .misused
  | some .help => .printed helpText
  | some .version => .printed versionText
  | some (.process job) => runJob files job world

/-- The files that a run may read. -/
def filesWanted (arguments : List String) (files : Files) : List String :=
  match parse? arguments with
  | some (.process job) =>
    let common :=
      match configurationOf? files job.config with
      | some configuration => [configuration.settings.text .commonScript]
      | none => []
    job.config.toList ++ [job.object, job.script] ++ common.filter (· != "")
  | _ => []

end MediaImport.CommandLine
