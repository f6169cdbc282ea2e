import MediaImport.Settings.Purpose

/-!
# Command-line arguments

The command takes a script file and an object file, and options for a
configuration file and for the purpose of the script.  An option may be given in
a long or a short form; its value follows as the next argument or is attached.
Two dashes end the options.

Arguments are read from left to right, and the first one that does not fit
decides, so a request for help counts only if nothing before it was wrong.
-/

namespace MediaImport.CommandLine

/-- What the command is asked to work on. -/
structure Job where
  script : String
  object : String
  config : Option String
  purpose : Purpose
  deriving DecidableEq

/-- What the command is asked to do. -/
inductive Request where
  | process (job : Job)
  | help
  | version
  deriving DecidableEq

/-- An option that takes a value. -/
inductive OptionKey where
  | config
  | purpose
  deriving DecidableEq

/-- What has been read so far. -/
structure Partial where
  config : Option String := none
  purpose : Option Purpose := none
  /-- The files, last one first. -/
  files : List String := []

namespace Partial

/-- Take a file; at most two are allowed, and neither may be empty. -/
def addFile? (read : Partial) (file : String) : Option Partial :=
  if file.isEmpty || 2 ≤ read.files.length then none
  else some { read with files := file :: read.files }

/-- Take the value of an option, which may be given once. -/
def setOption? (read : Partial) (key : OptionKey) (value : String) : Option Partial :=
  match key with
  | .config =>
    if value.isEmpty || read.config.isSome then none
    else some { read with config := some value }
  | .purpose =>
    match Purpose.ofText value with
    | .ok purpose =>
      if read.purpose.isSome then none else some { read with purpose := some purpose }
    | .error _ => none

/-- The request, when both files are there. -/
def finish? (read : Partial) : Option Request :=
  match read.files with
  | [object, script] =>
    some (.process ⟨script, object, read.config, read.purpose.getD .layout⟩)
  | _ => none

end Partial

/-- What one argument is by itself. -/
inductive Argument where
  | file
  | endOfOptions
  | option (key : OptionKey) (attached : Option String)
  | help
  | version
  | unknown

/-- Split characters at the first equals sign. -/
def splitAtEquals (characters : List Char) : List Char × Option String :=
  match characters.span (· != '=') with
  | (name, _ :: value) => (name, some (String.ofList value))
  | (name, []) => (name, none)

/-- A value that is attached to a short option, with or without an equals sign. -/
def attachedValue : List Char → Option String
  | [] => none
  | '=' :: value => some (String.ofList value)
  | value => some (String.ofList value)

/-- Read one argument. -/
def Argument.ofChars : List Char → Argument
  | ['-', '-'] => .endOfOptions
  | '-' :: '-' :: rest =>
    match splitAtEquals rest with
    | (name, value) =>
      match String.ofList name, value with
      | "config", value => .option .config value
      | "purpose", value => .option .purpose value
      | "help", none => .help
      | "version", none => .version
      | _, _ => .unknown
  | '-' :: 'c' :: rest => .option .config (attachedValue rest)
  | '-' :: 'p' :: rest => .option .purpose (attachedValue rest)
  | '-' :: 'h' :: _ => .help
  | '-' :: 'V' :: _ => .version
  | '-' :: _ :: _ => .unknown
  | _ => .file

/-- Read arguments from left to right, the first one possibly as the value of an
option. -/
def parseFrom? (read : Partial) (pending : Option OptionKey) : List String → Option Request
  | [] => if pending.isSome then none else read.finish?
  | argument :: rest =>
    match pending, Argument.ofChars argument.toList with
    | some key, .file => do parseFrom? (← read.setOption? key argument) none rest
    | some _, _ => none
    | none, .file => do parseFrom? (← read.addFile? argument) none rest
    | none, .endOfOptions => do (← rest.foldlM Partial.addFile? read).finish?
    | none, .option key none => parseFrom? read (some key) rest
    | none, .option key (some value) => do
      parseFrom? (← read.setOption? key value) none rest
    | none, .help => some .help
    | none, .version => some .version
    | none, .unknown => none

/-- The request that arguments make, if they fit. -/
def parse? (arguments : List String) : Option Request :=
  parseFrom? {} none arguments

/-- The name and version of the command. -/
def versionText : String :=
  "cds-script 0.1.0\n"

/-- How the command is used. -/
def helpText : String :=
  "Run a media import script against one object\n\n" ++
    "Usage: cds-script [OPTIONS] <SCRIPT> <OBJECT>\n\n" ++
    "Arguments:\n" ++
    "  <SCRIPT>  Lua script to load\n" ++
    "  <OBJECT>  Media object to process, as JSON\n\n" ++
    "Options:\n" ++
    "  -c, --config <CONFIG>    Scripting configuration file (JSON)\n" ++
    "  -p, --purpose <PURPOSE>  `import` or `playlist` [default: import]\n" ++
    "  -h, --help               Print help\n" ++
    "  -V, --version            Print version\n"

end MediaImport.CommandLine
