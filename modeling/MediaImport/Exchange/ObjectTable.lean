import MediaImport.Media.Object
import MediaImport.Media.OnlineService
import MediaImport.Media.Vocabulary
import MediaImport.Script.Behaviour
import MediaImport.Text.Integer

/-!
# Objects as scripts see them

A script sees an object as a table of properties with three tables inside:
metadata, auxiliary texts, and the attributes of the first resource.
`ObjectTable.ofObject` says what stands in them.  Empty texts and missing
identifiers are left out, so that a script can test for them with nil; numbers
and flags are always there.

The tables are new each time an object is shown, and the script may change them
freely.
-/

namespace MediaImport.Exchange

open MediaImport.Media MediaImport.Script

/-- The contents of the tables that show an object. -/
structure ObjectTable where
  properties : List (String × Value)
  metadata : TextMap
  auxiliary : TextMap
  /-- The attributes of the first resource. -/
  resource : TextMap

namespace ObjectTable

/-- A property with some bytes, left out if there are none. -/
def bytesProperty (name : String) (contents : Bytes) : List (String × Value) :=
  if contents.isEmpty then [] else [(name, .str contents)]

/-- A property with a text, left out if the text is empty. -/
def textProperty (name text : String) : List (String × Value) :=
  bytesProperty name (Bytes.ofString text)

/-- A property with an identifier, left out if it stands for no object. -/
def idProperty (name : String) (id : Int32) : List (String × Value) :=
  if id = noId then [] else [(name, .ofInt32 id)]

/-- A size in the numbers of scripts, which are signed. -/
def sizeValue (size : UInt64) : Value :=
  .int (Int64.ofNat (min size.toNat 9223372036854775807))

/-- The service that an object comes from; zero if from none. -/
def serviceNumber (object : Object) : Int64 :=
  if object.hasFlag Flag.onlineService then
    (object.auxiliary[serviceKey]?.bind fun text =>
      Text.Integer.parseInt64? (Text.trim text)).getD 0
  else 0

/-- The properties that only some kinds of object have. -/
def kindProperties : Kind → List (String × Value)
  | .item contents =>
    textProperty "mimetype" contents.mimeType ++
      textProperty "serviceID" contents.serviceId ++
      match contents.variant with
      | .active command =>
        textProperty "action" command.action ++ textProperty "state" command.state
      | _ => []
  | .container contents =>
    [("updateID", .ofInt32 contents.updateId), ("searchable", .ofFlag contents.searchable)]

/-- The metadata that scripts see: a track number of the item itself takes the
place of what the metadata say about it. -/
def shownMetadata (object : Object) : TextMap :=
  match object.item? with
  | some contents =>
    if 0 < contents.trackNumber then
      object.metadata.insert MetadataKey.trackNumber (toString contents.trackNumber.toInt)
    else object.metadata
  | none => object.metadata

/-- The tables that show an object. -/
def ofObject (object : Object) : ObjectTable where
  properties :=
    [("objectType", .ofInt32 object.typeBits)] ++
      idProperty "id" object.id ++
      idProperty "parentID" object.parentId ++
      textProperty "title" object.title ++
      textProperty "upnpclass" object.upnpClass ++
      bytesProperty "location" object.location ++
      [("mtime", .int object.mtime),
        ("sizeOnDisk", sizeValue object.sizeOnDisk),
        ("restricted", .ofFlag object.restricted),
        ("theora", .ofFlag (object.hasFlag Flag.oggTheora)),
        ("onlineservice", .int (serviceNumber object))] ++
      kindProperties object.kind
  metadata := shownMetadata object
  auxiliary := object.auxiliary
  resource :=
    match object.resources with
    | first :: _ => first.attributes
    | [] => ∅

/-! ## On the heap -/

/-- A table of texts. -/
def tableOfTexts (texts : TextMap) : Table :=
  .ofEntries (texts.toList.map fun (key, text) => (.ofString key, .ofString text))

/-- Put the tables on the heap, in four tables that are new. -/
def allocate (shown : ObjectTable) (heap : Heap) : Heap × Nat :=
  let (heap, metadata) := heap.newTable (tableOfTexts shown.metadata)
  let (heap, auxiliary) := heap.newTable (tableOfTexts shown.auxiliary)
  let (heap, resource) := heap.newTable (tableOfTexts shown.resource)
  heap.newTable <| .ofEntries <|
    shown.properties.map (fun (name, value) => (.ofString name, value)) ++
      [(.ofString "meta", .table metadata), (.ofString "aux", .table auxiliary),
        (.ofString "res", .table resource)]

/-- Show an object to a running script. -/
def behaviour (shown : ObjectTable) : Behaviour Value :=
  .read fun heap =>
    let (heap, id) := shown.allocate heap
    .write (fun _ => heap) fun _ => .done (.table id)

end ObjectTable

end MediaImport.Exchange
