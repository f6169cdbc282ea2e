import MediaImport.Exchange.ObjectReading
import MediaImport.Exchange.ObjectTable

/-!
# What scripts can ask of the application

Printing a line, adding an object to the catalogue, copying an object, and
converting bytes from one of several places to text.

An object that a script adds is described by a table, and what the table leaves
out is taken from the object that is being processed.  A plain or active item
that is added refers back to that object.  A copy takes nothing from it.
-/

namespace MediaImport.Exchange

open MediaImport.Media MediaImport.Script Script.Behaviour

/-! ## Printing -/

/-- The name of a value's type where the application mentions it. -/
def typeWord : Value → String
  | .int _ => "integer"
  | .fault _ => "error"
  | value => value.typeName

/-- The text of a value in a printed line. -/
def printedText : Value → String
  | .nil => "nil"
  | .bool value => if value then "true" else "false"
  | .int value => toString value.toInt
  | .float value => value.asProperty
  | .str text => Utf8.lossy text
  | value => typeWord value

/-- A printed line. -/
def printedLine (values : List Value) : String :=
  " ".intercalate (values.map printedText)

/-- Print the arguments. -/
def print (arguments : List Value) : Behaviour (List Value) := do
  ask (.log arguments)
  return []

/-! ## Arguments -/

/-- Stop because an argument cannot be converted. -/
def refuseConversion {α : Type} (index : Nat) (value : Value) (wanted reason : String) :
    Behaviour α :=
  fail <| .script <|
    "bad argument #" ++ toString index ++ ": error converting Lua " ++ typeWord value ++
      " to " ++ wanted ++ " (" ++ reason ++ ")"

/-- An argument that is bytes; numbers count as their text. -/
def bytesArgument (index : Nat) (value : Value) (wanted : String) : Behaviour Bytes :=
  match value.asText? with
  | some contents => done contents
  | none => refuseConversion index value wanted "expected string or number"

/-- What is wrong with bytes that are not text. -/
def faultText (fault : Utf8.Fault) : String :=
  match fault.length? with
  | some length =>
    "invalid utf-8 sequence of " ++ toString length ++ " bytes from index " ++
      toString fault.offset
  | none => "incomplete utf-8 byte sequence from index " ++ toString fault.offset

/-- An argument that is a text, or nothing if it is nil. -/
def textArgument? (index : Nat) (value : Value) : Behaviour (Option String) :=
  match value with
  | .nil => done none
  | _ => do
    let contents ← bytesArgument index value "String"
    match Utf8.decodeText contents with
    | .ok text => return some text
    | .error fault => refuseConversion index value "String" (faultText fault)

/-! ## Objects -/

/-- The object that a table describes, in a running script. -/
def describedObject (function : String) (reader : Reader) (previous : Option Object)
    (value : Value) : Behaviour Object := do
  match ← (reader.object previous value.propertyTable?).behaviour with
  | some object => return object
  | none => fail (.script (runtimeError (function ++ ": object has no objectType")))

/-- Refer an added item back to the processed object; links and containers stand
for themselves. -/
def linkBack (processed : Option Object) (object : Object) : Object :=
  match processed with
  | some source =>
    if object.item?.isSome && !object.kind.isUrl && source.id != noId then
      { object with refId := source.id }
    else object
  | none => object

/-- Add an object to the catalogue. -/
def addObject (arguments : List Value) : Behaviour (List Value) := do
  let chain ← textArgument? 2 (Value.first (arguments.drop 1))
  let upnpClass ← textArgument? 3 (Value.first (arguments.drop 2))
  let surroundings ← ask .surroundings
  let reader := Reader.ofConversions surroundings.purpose surroundings.conversions
  let object ←
    describedObject "addCdsObject" reader surroundings.processed (Value.first arguments)
  let added := linkBack surroundings.processed object
  match ← ask (.submit added (chain.getD "") (upnpClass.filter (!·.isEmpty))) with
  | .ok id => return [.ofInt32 id]
  | .error failure => fail failure

/-- Copy an object: read it without a previous one, and show what was read. -/
def copyObject (arguments : List Value) : Behaviour (List Value) := do
  let surroundings ← ask .surroundings
  let reader := Reader.ofConversions surroundings.purpose surroundings.conversions
  let object ← describedObject "copyObject" reader none (Value.first arguments)
  return [← (ObjectTable.ofObject object).behaviour]

/-! ## Conversion -/

/-- Convert bytes to text. -/
def convertText (flavor : Flavor) (arguments : List Value) : Behaviour (List Value) := do
  let contents ← bytesArgument 1 (Value.first arguments) "string"
  let surroundings ← ask .surroundings
  match surroundings.conversions.convert flavor contents with
  | .ok text => return [.ofString text]
  | .error cause => fail (.conversion cause)

/-- What the functions of the application do. -/
def apply : HostFunction → List Value → Behaviour (List Value)
  | .print, arguments => print arguments
  | .addObject, arguments => addObject arguments
  | .copyObject, arguments => copyObject arguments
  | .convert flavor, arguments => convertText flavor arguments

/-! ## Names -/

/-- The functions of the application by the names that scripts know. -/
def functionNames : List (String × HostFunction) := [
  ("print", .print),
  ("addCdsObject", .addObject),
  ("copyObject", .copyObject),
  ("f2i", .convert .filesystem),
  ("m2i", .convert .metadata),
  ("p2i", .convert .playlist),
  ("j2i", .convert .script)]

/-- The constants that scripts know. -/
def constants (services : EnabledServices) : List (String × Value) :=
  [("OBJECT_TYPE_CONTAINER", .ofInt32 ObjectType.container),
    ("OBJECT_TYPE_ITEM", .ofInt32 ObjectType.item),
    ("OBJECT_TYPE_ACTIVE_ITEM", .ofInt32 ObjectType.activeItem),
    ("OBJECT_TYPE_ITEM_EXTERNAL_URL", .ofInt32 ObjectType.externalUrl),
    ("OBJECT_TYPE_ITEM_INTERNAL_URL", .ofInt32 ObjectType.internalUrl),
    ("ONLINE_SERVICE_NONE", .ofInt32 noServiceId)] ++
    OnlineService.all.map (fun service =>
      (service.globalName, .ofInt32 (services.scriptId service))) ++
    (if services.isEnabled .appleTrailers then
      [("APPLE_TRAILERS_AUXDATA_POST_DATE", .ofString trailerPostDateKey)]
    else []) ++
    (MetadataKey.all ++ ResourceKey.all ++ UpnpClass.all).map fun symbol =>
      (symbol.name, .ofString symbol.text)

/-- Everything that the application defines for scripts. -/
def globals (services : EnabledServices) : List (String × Value) :=
  functionNames.map (fun (name, function) => (name, .native (.host function))) ++
    constants services

/-- Define the names of the application in a heap. -/
def install (services : EnabledServices) (heap : Heap) : Heap :=
  (globals services).foldl
    (fun heap (name, value) => heap.rawSet heap.globals (.ofString name) value) heap

end MediaImport.Exchange
