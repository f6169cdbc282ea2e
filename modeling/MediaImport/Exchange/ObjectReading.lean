import MediaImport.Exchange.Reading
import MediaImport.Media.Object
import MediaImport.Media.Vocabulary
import MediaImport.Text.Integer

/-!
# Objects from script tables

What object a script table describes, given the object that it was made from, if
any.  The type is read first and decides the kind of the new object.  A property
that is absent or empty is taken from the previous object; resources, flags and
auxiliary texts are taken from there whatever the table says.

Texts that a script writes are decoded with the character set of the script's
purpose, so they may be refused.  The location is a path and is taken as it is;
track numbers and the command of an active item are read with a replacement
character for what is not text.

The track number of an item is always the integer at the front of its metadata
entry, and there is no such entry unless that integer is positive.  For entries
of a playlist the place in the list counts instead.
-/

namespace MediaImport.Exchange

open MediaImport.Media MediaImport.Script

/-- How texts that a script hands back are read. -/
structure Reader where
  purpose : Purpose
  charset : Charset
  deriving DecidableEq

namespace Reader

/-- The reader for a purpose under the character sets of a context. -/
def ofConversions (purpose : Purpose) (conversions : Conversions) : Reader where
  purpose := purpose
  charset := conversions.charset purpose.flavor

/-- The text of bytes that a script hands back. -/
def decode (reader : Reader) (contents : Bytes) : Reading String :=
  match reader.charset.decode contents with
  | .ok text => .done text
  | .error offset => .fail (.conversion ⟨offset⟩)

/-- The bytes of a property. -/
def bytes (table : Option Nat) (key : String) : Reading Bytes :=
  Value.propertyBytes <$> Reading.property table key

/-- The text of a property, or nothing if it is empty. -/
def text? (reader : Reader) (table : Option Nat) (key : String) : Reading (Option String) := do
  let contents ← bytes table key
  if contents.isEmpty then return none else some <$> reader.decode contents

/-- A property as a signed 32-bit word. -/
def int32 (table : Option Nat) (key : String) (fallback : Int32) : Reading Int32 :=
  (·.propertyInt32 fallback) <$> Reading.property table key

/-- A property as a signed 64-bit word that is not negative. -/
def natural? (table : Option Nat) (key : String) : Reading (Option Int64) := do
  let number ← (·.propertyInt64 (-1)) <$> Reading.property table key
  return if 0 ≤ number then some number else none

/-- A text with a replacement character for what is not text, or nothing if it is
empty. -/
def looseText? (table : Option Nat) (key : String) : Reading (Option String) := do
  let text ← Value.propertyText <$> Reading.property table key
  return if text.isEmpty then none else some text

/-! ## Metadata -/

/-- The track number that metadata give: the integer at the front of the entry. -/
def trackNumber (metadata : TextMap) : Int32 :=
  (metadata[MetadataKey.trackNumber]?.bind Text.Integer.leading?).getD 0

/-- The metadata with a track number entry, if its text gives a positive number. -/
def withTrack (metadata : TextMap) (text : String) : TextMap :=
  if 0 < (Text.Integer.leading? text).getD 0 then
    metadata.insert MetadataKey.trackNumber text
  else metadata

/-- Read the entries under some metadata keys. -/
def metadataFrom (reader : Reader) (table : Option Nat) :
    List Symbol → TextMap → Reading TextMap
  | [], metadata => .done metadata
  | key :: keys, metadata => do
    let contents ← bytes table key.text
    if contents.isEmpty then reader.metadataFrom table keys metadata
    else if key.text = MetadataKey.trackNumber then
      reader.metadataFrom table keys (withTrack metadata (Utf8.lossy contents))
    else
      let text ← reader.decode contents
      reader.metadataFrom table keys (metadata.insert key.text text)

/-- Read the table of metadata; only the keys of the vocabulary count. -/
def metadata (reader : Reader) (table : Option Nat) : Reading TextMap := do
  match (← Reading.property table "meta").propertyTable? with
  | some id => reader.metadataFrom (some id) MetadataKey.all ∅
  | none => return ∅

/-! ## What all objects have -/

/-- Read what all objects have into an object that has just been made. -/
def common (reader : Reader) (previous : Option Object) (table : Option Nat)
    (created : Object) : Reading Object := do
  let id ← int32 table "id" noId
  let refId ← int32 table "refID" noId
  let parentId ← int32 table "parentID" noId
  let title ← reader.text? table "title"
  let upnpClass ← reader.text? table "upnpclass"
  let restricted ← Value.propertyFlag? <$> Reading.property table "restricted"
  let mtime ← natural? table "mtime"
  let size ← natural? table "sizeOnDisk"
  let metadata ← reader.metadata table
  let location ← bytes table "location"
  let before := previous.getD created
  return { created with
    id, refId, parentId, metadata
    title := title.getD before.title
    upnpClass := upnpClass.getD before.upnpClass
    restricted := restricted.getD false
    isVirtual := true
    location := if location.isEmpty then before.location else location
    mtime := mtime.getD before.mtime
    sizeOnDisk := (size.map Int64.toUInt64).getD before.sizeOnDisk
    auxiliary := before.auxiliary
    resources := before.resources
    flags := before.flags }

/-! ## What only some kinds have -/

/-- The description: a property of its own, before the one of the previous
object, before the metadata. -/
def withDescription (given : Option String) (previous : Option Object) (metadata : TextMap) :
    TextMap :=
  match given <|> previous.bind (·.metadata[MetadataKey.description]?) with
  | some text => metadata.insert MetadataKey.description text
  | none => metadata

/-- Read what belongs to one variant of item. -/
def variant (previous : Option Object) (table : Option Nat) : Variant → Reading Variant
  | .active _ => do
    let action ← looseText? table "action"
    let state ← looseText? table "state"
    let before := (previous.bind Object.command?).getD {}
    return .active { action := action.getD before.action, state := state.getD before.state }
  | other => .done other

/-- The resource of a link that has no other. -/
def linkResource (mimeType protocol : String) : Resource where
  handler := 0
  attributes := (∅ : TextMap).insert ResourceKey.protocolInfo (protocolInfo mimeType protocol)

/-- Read what links have: they are restricted, and have some resource. -/
def link (reader : Reader) (table : Option Nat) (mimeType : String) (object : Object) :
    Reading Object := do
  let protocol ← reader.text? table "protocol"
  return { object with
    restricted := true
    resources :=
      if object.resources.isEmpty then
        [linkResource mimeType (protocol.getD defaultProtocol)]
      else object.resources }

/-- Read what items have. -/
def item (reader : Reader) (previous : Option Object) (table : Option Nat)
    (contents : Item) (object : Object) : Reading Object := do
  let mimeType ← reader.text? table "mimetype"
  let serviceId ← reader.text? table "serviceID"
  let description ← reader.text? table "description"
  let trackNumber ←
    match reader.purpose with
    | .playlist => int32 table "playlistOrder" 0
    | .layout => pure (trackNumber object.metadata)
  let itemVariant ← variant previous table contents.variant
  let before := (previous.bind Object.item?).getD {}
  let mimeType := mimeType.getD before.mimeType
  let object := { object with
    metadata := withDescription description previous object.metadata
    kind := .item {
      mimeType, trackNumber
      serviceId := serviceId.getD before.serviceId
      variant := itemVariant } }
  if contents.variant.isUrl then reader.link table mimeType object else return object

/-- Read what containers have. -/
def container (table : Option Nat) (contents : Container) (object : Object) :
    Reading Object := do
  let updateId ← int32 table "updateID" (-1)
  let searchable ← Value.propertyFlag? <$> Reading.property table "searchable"
  return { object with
    kind := .container {
      updateId := if 0 ≤ updateId then updateId else contents.updateId
      searchable := searchable.getD contents.searchable } }

/-! ## Objects -/

/-- The object that a table describes, if it says what type of object it is. -/
def object (reader : Reader) (previous : Option Object) (table : Option Nat) :
    Reading (Option Object) := do
  let requested ← int32 table "objectType" (-1)
  if requested = -1 then return none
  match Object.create? requested with
  | none => .fail (.invalidObjectType requested)
  | some created =>
    let read ← reader.common previous table created
    match created.kind with
    | .item contents => some <$> reader.item previous table contents read
    | .container contents => some <$> container table contents read

end Reader

end MediaImport.Exchange
