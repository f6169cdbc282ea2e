import MediaImport.Script.Library.Base
import MediaImport.Script.Library.Coroutines
import MediaImport.Script.Library.Mathematics
import MediaImport.Script.Library.Strings
import MediaImport.Script.Library.System
import MediaImport.Script.Library.Tables

/-!
# The script library

Which functions scripts find under which names, and what each of them does.  How
many libraries there are depends on how far a script is trusted: those for files,
for the operating system and for modules are not for all.  What is foreign in a
library, and that is nearly all of these three, does what the world says.
-/

namespace MediaImport.Script

open Behaviour Library

namespace Routine

/-- The library that a function belongs to, if any, and its name there. -/
def path : Routine → Option String × String
  | print => (none, "print")
  | assert => (none, "assert")
  | error => (none, "error")
  | pcall => (none, "pcall")
  | xpcall => (none, "xpcall")
  | type => (none, "type")
  | toText => (none, "tostring")
  | toNumber => (none, "tonumber")
  | select => (none, "select")
  | ipairs => (none, "ipairs")
  | ipairsStep => (none, "?")
  | pairs => (none, "pairs")
  | next => (none, "next")
  | rawGet => (none, "rawget")
  | rawSet => (none, "rawset")
  | rawEqual => (none, "rawequal")
  | rawLength => (none, "rawlen")
  | getMetatable => (none, "getmetatable")
  | setMetatable => (none, "setmetatable")
  | load => (none, "load")
  | stringByte => (some "string", "byte")
  | stringChar => (some "string", "char")
  | stringFind => (some "string", "find")
  | stringGmatch => (some "string", "gmatch")
  | stringGsub => (some "string", "gsub")
  | stringLength => (some "string", "len")
  | stringLower => (some "string", "lower")
  | stringMatch => (some "string", "match")
  | stringRep => (some "string", "rep")
  | stringReverse => (some "string", "reverse")
  | stringSub => (some "string", "sub")
  | stringUpper => (some "string", "upper")
  | tableConcat => (some "table", "concat")
  | tableInsert => (some "table", "insert")
  | tableRemove => (some "table", "remove")
  | tablePack => (some "table", "pack")
  | tableUnpack => (some "table", "unpack")
  | tableSort => (some "table", "sort")
  | mathAbs => (some "math", "abs")
  | mathCeil => (some "math", "ceil")
  | mathFloor => (some "math", "floor")
  | mathMax => (some "math", "max")
  | mathMin => (some "math", "min")
  | mathSqrt => (some "math", "sqrt")
  | mathFmod => (some "math", "fmod")
  | mathToInteger => (some "math", "tointeger")
  | mathType => (some "math", "type")
  | mathUlt => (some "math", "ult")
  | utf8Char => (some "utf8", "char")
  | coroutineCreate => (some "coroutine", "create")
  | coroutineResume => (some "coroutine", "resume")
  | coroutineYield => (some "coroutine", "yield")
  | coroutineStatus => (some "coroutine", "status")
  | coroutineClose => (some "coroutine", "close")
  | coroutineWrap => (some "coroutine", "wrap")
  | coroutineIsYieldable => (some "coroutine", "isyieldable")
  | coroutineRunning => (some "coroutine", "running")
  | osExit => (some "os", "exit")

/-- The name of a function with its library. -/
def name (routine : Routine) : String :=
  qualified routine.path.1 routine.path.2

/-- All functions that are found under a name. -/
def all : List Routine := [
  print, assert, error, pcall, xpcall, type, toText, toNumber, select, ipairs, pairs, next,
  rawGet, rawSet, rawEqual, rawLength, getMetatable, setMetatable, load, stringByte,
  stringChar, stringFind, stringGmatch, stringGsub, stringLength, stringLower, stringMatch,
  stringRep, stringReverse, stringSub, stringUpper, tableConcat, tableInsert, tableRemove,
  tablePack, tableUnpack, tableSort, mathAbs, mathCeil, mathFloor, mathMax, mathMin, mathSqrt,
  mathFmod, mathToInteger, mathType, mathUlt, utf8Char, coroutineCreate, coroutineResume,
  coroutineYield, coroutineStatus, coroutineClose, coroutineWrap, coroutineIsYieldable,
  coroutineRunning, osExit]

end Routine

namespace Foreign

/-- The foreign functions of a library, or the global ones. -/
def named (library : Option String) (names : List String) : List Foreign :=
  names.map fun name => ⟨library, name⟩

/-- All functions that are found under a name, those of open files included. -/
def all : List Foreign :=
  named none ["collectgarbage", "dofile", "loadfile", "warn"] ++
    named (some "string") ["dump", "format", "pack", "packsize", "unpack"] ++
    named (some "table") ["move"] ++
    named (some "math") ["acos", "asin", "atan", "cos", "deg", "exp", "log", "modf", "rad",
      "random", "randomseed", "sin", "tan"] ++
    named (some "utf8") ["codepoint", "codes", "len", "offset"] ++
    named (some "io") ["close", "flush", "input", "lines", "open", "output", "popen", "read",
      "tmpfile", "type", "write"] ++
    named (some "os") ["clock", "date", "difftime", "execute", "getenv", "remove", "rename",
      "setlocale", "time", "tmpname"] ++
    named (some "package") ["loadlib", "searchpath"] ++
    named (some "FILE*") ["close", "flush", "lines", "read", "seek", "setvbuf", "write"]

end Foreign

namespace Library

/-- The text of the code points that the arguments from one on give. -/
def codePointsFrom (arguments : Arguments) : Nat → Nat → Behaviour (List Char)
  | 0, _ => done []
  | remaining + 1, index => do
    let code ← arguments.word index
    if 0 ≤ code && code ≤ 0x10ffff then
      return Char.ofNat code.toInt.toNat :: (← codePointsFrom arguments remaining (index + 1))
    else arguments.refuse index "value out of range"

def codePointFunction (arguments : Arguments) : Behaviour (List Value) := do
  return [.str (Bytes.ofChars (← codePointsFrom arguments arguments.values.length 1))]

end Library

/-- What a library function does. -/
def Routine.apply (routine : Routine) (values : List Value) : Behaviour (List Value) :=
  let arguments : Arguments := ⟨routine.name, values⟩
  match routine with
  | print => done []
  | assert => assertFunction arguments
  | error => errorFunction arguments
  | pcall => protectedCall arguments
  | xpcall => handledCall arguments
  | type => typeFunction arguments
  | toText => textFunction arguments
  | toNumber => numberFunction arguments
  | select => selectFunction arguments
  | ipairs => itemsFunction arguments
  | ipairsStep => itemStep arguments
  | pairs => entriesFunction arguments
  | next => nextFunction arguments
  | rawGet => rawGetFunction arguments
  | rawSet => rawSetFunction arguments
  | rawEqual => rawEqualFunction arguments
  | rawLength => rawLengthFunction arguments
  | getMetatable => metatableFunction arguments
  | setMetatable => setMetatableFunction arguments
  | load => loadFunction arguments
  | stringByte => byteFunction arguments
  | stringChar => charFunction arguments
  | stringFind => searchFunction true arguments
  | stringGmatch => matchesFunction arguments
  | stringGsub => replaceFunction arguments
  | stringLength => lengthFunction arguments
  | stringLower => mapFunction (·.map lowerByte) arguments
  | stringMatch => searchFunction false arguments
  | stringRep => repeatFunction arguments
  | stringReverse => mapFunction List.reverse arguments
  | stringSub => partFunction arguments
  | stringUpper => mapFunction (·.map upperByte) arguments
  | tableConcat => joinFunction arguments
  | tableInsert => insertFunction arguments
  | tableRemove => removeFunction arguments
  | tablePack => packFunction arguments
  | tableUnpack => unpackFunction arguments
  | tableSort => sortFunction arguments
  | mathAbs => magnitudeFunction arguments
  | mathCeil => ceilingFunction arguments
  | mathFloor => floorFunction arguments
  | mathMax => greatestFunction arguments
  | mathMin => leastFunction arguments
  | mathSqrt => rootFunction arguments
  | mathFmod => remainderFunction arguments
  | mathToInteger => wordFunction arguments
  | mathType => numberTypeFunction arguments
  | mathUlt => unsignedLessFunction arguments
  | utf8Char => codePointFunction arguments
  | coroutineCreate => createFunction arguments
  | coroutineResume => resumeFunction arguments
  | coroutineYield => yieldFunction arguments
  | coroutineStatus => statusFunction arguments
  | coroutineClose => closeFunction arguments
  | coroutineWrap => wrapFunction arguments
  | coroutineIsYieldable => isYieldableFunction
  | coroutineRunning => runningFunction
  | osExit => exitFunction arguments

/-! ## The initial heap -/

namespace Library

/-- The functions of a library, or the global ones, as table entries. -/
def functionsOf (library : Option String) : List (Value × Value) :=
  ((Routine.all.filter fun routine => routine.path.1 = library).map fun routine =>
      (.ofString routine.path.2, .native (.routine routine))) ++
    (Foreign.all.filter fun function => function.library = library).map fun function =>
      (.ofString function.name, .native (.foreign function))

/-- The constants of the mathematical library. -/
def mathConstants : List (Value × Value) := [
  (.ofString "huge", .float (.infinity false)),
  (.ofString "pi", .float (.ofDecimal false 3141592653589793 (-15))),
  (.ofString "maxinteger", .int Int64.maxValue),
  (.ofString "mininteger", .int Int64.minValue)]

/-- The pattern of one encoded character. -/
def characterPattern : Bytes :=
  [0x5b, 0x00, 0x2d, 0x7f, 0xc2, 0x2d, 0xfd, 0x5d, 0x5b, 0x80, 0x2d, 0xbf, 0x5d, 0x2a]

/-- The files that are open from the beginning. -/
def standardFiles : List (Value × Value) := [
  (.ofString "stdin", .handle 0),
  (.ofString "stdout", .handle 1),
  (.ofString "stderr", .handle 2)]

/-- Where modules are looked for, and how that is written. -/
def modulePlaces (world : World) : List (Value × Value) := [
  (.ofString "config", .ofString "/\n;\n?\n!\n-\n"),
  (.ofString "path", .str world.modulePath),
  (.ofString "cpath", .str world.nativePath)]

/-- The libraries that a script has, with what is in them. -/
def libraries (trust : TrustLevel) (world : World) : List (String × List (Value × Value)) :=
  let basic := [
    ("string", functionsOf (some "string")),
    ("table", functionsOf (some "table")),
    ("math", functionsOf (some "math") ++ mathConstants),
    ("utf8", functionsOf (some "utf8") ++
      [(.ofString "charpattern", .str characterPattern)]),
    ("coroutine", functionsOf (some "coroutine"))]
  let files := ("io", functionsOf (some "io") ++ standardFiles)
  match trust with
  | .basic => basic
  | .fileRead => basic ++ [files]
  | .elevated => basic ++ [files, ("os", functionsOf (some "os")),
      ("package", functionsOf (some "package") ++ modulePlaces world)]

/-- The global names that are not libraries. -/
def globalEntries (trust : TrustLevel) : List (Value × Value) :=
  functionsOf none ++ [(.ofString "_VERSION", .ofString "Lua 5.4")] ++
    match trust with
    | .elevated => [(.ofString "require", .native (.foreign ⟨none, "require"⟩))]
    | _ => []

/-- Put a table on the heap, under a name in another one. -/
def addTable (heap : Heap) (parent : Nat) (name : String) (entries : List (Value × Value)) :
    Heap :=
  let (heap, id) := heap.newTable (.ofEntries entries)
  heap.rawSet parent (.ofString name) (.table id)

/-- Put a library on the heap under its name. -/
def addLibrary (heap : Heap) (library : String × List (Value × Value)) : Heap :=
  addTable heap heap.globals library.1 library.2

/-- Give handles the metatable of open files. -/
def addFileMethods (heap : Heap) : Heap :=
  let (heap, methods) := heap.newTable (.ofEntries (functionsOf (some "FILE*")))
  let (heap, metatable) := heap.newTable (.ofEntries [
    (.ofString "__index", .table methods),
    (.ofString "__name", .ofString "FILE*")])
  { heap with handles := some metatable }

/-- The libraries as modules that are loaded already. -/
def loadedModules (heap : Heap) : List (Value × Value) :=
  ["_G", "string", "table", "math", "utf8", "coroutine", "io", "os", "package"].map fun name =>
    (.ofString name, heap.rawGet heap.globals (.ofString name))

/-- The functions that look for a module, one after the other. -/
def searchers : List (Value × Value) :=
  [1, 2, 3].map fun place =>
    (.int (Int64.ofNat place), .native (.foreign ⟨some "package.searchers", toString place⟩))

/-- Put the tables of the library of modules on the heap. -/
def addModuleTables (heap : Heap) : Heap :=
  match heap.rawGet heap.globals (.ofString "package") with
  | .table package =>
    let loaded := loadedModules heap
    let heap := addTable heap package "loaded" loaded
    let heap := addTable heap package "preload" []
    addTable heap package "searchers" searchers
  | _ => heap

end Library

/-- The heap that a script starts with. -/
def Heap.initial (trust : TrustLevel) (world : World := {}) : Heap :=
  let (heap, globals) := Heap.newTable { world } (.ofEntries (globalEntries trust))
  let heap := { heap with globals }.rawSet globals (.ofString "_G") (.table globals)
  let heap := (libraries trust world).foldl addLibrary heap
  let strings := heap.rawGet globals (.ofString "string")
  let (heap, metatable) := heap.newTable (.ofEntries [(.ofString "__index", strings)])
  let heap := { heap with strings := some metatable }
  match trust with
  | .basic => heap
  | .fileRead => addFileMethods heap
  | .elevated => addModuleTables (addFileMethods heap)

end MediaImport.Script
