import MediaImport.CommandLine.Report

/-!
# The command

Reads the files that a run may need and prints its outcome.
-/

namespace MediaImport.CommandLine

/-- Why the operating system does not let a file be read. -/
def faultOf : IO.Error → FileFault
  | .noFileOrDirectory _ _ _ => .missing
  | .inappropriateType _ _ _ => .isDirectory
  | .permissionDenied _ _ _ => .denied
  | error => .other (toString error)

/-- Read a file. -/
def readFile (path : String) : IO (Except FileFault Bytes) := do
  try
    return .ok (← IO.FS.readBinFile path).toList
  catch error =>
    return .error (faultOf error)

/-- Read some files; all others are missing. -/
def readFiles (paths : List String) : IO Files := do
  let contents ← paths.mapM fun path => do return (path, ← readFile path)
  return fun path => (contents.lookup path).getD (.error .missing)

/-- Print an outcome: a report on standard output, a failure on standard error. -/
def Outcome.print : Outcome → IO Unit
  | .printed text => IO.print text
  | .failed failure => IO.eprintln failure.message
  | .misused => IO.eprintln "unexpected arguments"
  | .unprintable => IO.eprintln "a location is not text"
  | .halted (.exited _) => return
  | .halted .unfinished => IO.eprintln "the script does not come to an end"

end MediaImport.CommandLine

open MediaImport.CommandLine in
/-- The command: run a media import script against one object. -/
def main (arguments : List String) : IO UInt32 := do
  let configuration ←
    match parse? arguments with
    | some (.process job) => readFiles job.config.toList
    | _ => readFiles []
  let files ← readFiles (filesWanted arguments configuration)
  let outcome := run files arguments
  outcome.print
  return outcome.exitCode.toUInt32
