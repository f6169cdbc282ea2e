import MediaImport.Json.Fields
import MediaImport.Media.Object
import MediaImport.Text.Utf8

/-!
# Objects as JSON

The stored form of media objects.  Every field but the kind may be left out
when it is read, and every field is written.  The members of a written object
are in alphabetical order.

A location that is not UTF-8 has no stored form, so `Object.toJson?` may fail.
-/

namespace MediaImport.Media

open Json (required? optional?)

def Resource.ofJson? (json : Json) : Option Resource := do
  match ← json.fields? ["handler_id", "attributes"] with
  | [handler, attributes] =>
    return {
      handler := ← required? Json.asInt32? handler
      attributes := ← required? Json.asTextMap? attributes }
  | _ => none

def Container.ofJson? (json : Json) : Option Container := do
  match ← json.fields? ["update_id", "searchable"] with
  | [updateId, searchable] =>
    return {
      updateId := ← required? Json.asInt32? updateId
      searchable := ← required? Json.asBool? searchable }
  | _ => none

def Command.ofJson? (json : Json) : Option Command := do
  match ← json.fields? ["action", "state"] with
  | [action, state] =>
    return {
      action := ← required? Json.asText? action
      state := ← required? Json.asText? state }
  | _ => none

/-- A part without contents: any object, or an array with nothing in it. -/
def isBare : Json → Bool
  | .object _ => true
  | .array [] => true
  | _ => false

/-- The tag of a variant is a name or the position of the variant. -/
def Variant.position? (tag : Json) : Option Nat :=
  match tag with
  | .text (some "plain") => some 0
  | .text (some "active") => some 1
  | .text (some "external_url") => some 2
  | .text (some "internal_url") => some 3
  | _ => (tag.asInt? 0 3).map Int.toNat

def Variant.ofJson? (json : Json) : Option Variant := do
  let (tag, contents) ← json.untag? "variant"
  match ← Variant.position? tag with
  | 0 => if isBare contents then some .plain else none
  | 1 => (Command.ofJson? contents).map .active
  | 2 => if isBare contents then some .externalUrl else none
  | _ => if isBare contents then some .internalUrl else none

def Item.ofJson? (json : Json) : Option Item := do
  match ← json.fields? ["mime_type", "service_id", "track_number", "variant"] with
  | [mimeType, serviceId, trackNumber, variant] =>
    return {
      mimeType := ← optional? Json.asText? "" mimeType
      serviceId := ← optional? Json.asText? "" serviceId
      trackNumber := ← optional? Json.asInt32? 0 trackNumber
      variant := ← optional? Variant.ofJson? .plain variant }
  | _ => none

/-- A kind has to be read as a whole before its tag is known. -/
def Kind.ofJson? (json : Json) : Option Kind := do
  if !json.isBuffered 1 then none
  else
    let (tag, contents) ← json.untag? "type"
    match ← tag.asText? with
    | "container" => (Container.ofJson? contents).map .container
    | "item" => (Item.ofJson? contents).map .item
    | _ => none

namespace Object

/-- The names of the fields, in the order of the array form. -/
def fieldNames : List String :=
  ["id", "parent_id", "ref_id", "title", "class", "restricted", "is_virtual", "location",
    "mtime", "size_on_disk", "metadata", "aux_data", "resources", "flags", "kind"]

def ofJson? (json : Json) : Option Object := do
  match ← json.fields? fieldNames with
  | [id, parentId, refId, title, upnpClass, restricted, isVirtual, location, mtime,
      sizeOnDisk, metadata, auxiliary, resources, flags, kind] =>
    return {
      id := ← optional? Json.asInt32? noId id
      parentId := ← optional? Json.asInt32? noId parentId
      refId := ← optional? Json.asInt32? noId refId
      title := ← optional? Json.asText? "" title
      upnpClass := ← optional? Json.asText? "" upnpClass
      restricted := ← optional? Json.asBool? false restricted
      isVirtual := ← optional? Json.asBool? false isVirtual
      location := ← optional? (fun json => json.asText?.map Bytes.ofString) [] location
      mtime := ← optional? Json.asInt64? 0 mtime
      sizeOnDisk := ← optional? Json.asUInt64? 0 sizeOnDisk
      metadata := ← optional? Json.asTextMap? ∅ metadata
      auxiliary := ← optional? Json.asTextMap? ∅ auxiliary
      resources := ← optional? (Json.asList? Resource.ofJson?) [] resources
      flags := ← optional? Json.asUInt32? 0 flags
      kind := ← required? Kind.ofJson? kind }
  | _ => none

end Object

/-! ## Writing -/

/-- Texts by name, in the order of the names. -/
def textMapJson (map : TextMap) : Json :=
  .ofMembers (map.toList.map fun entry => (entry.1, .ofString entry.2))

def Resource.toJson (resource : Resource) : Json :=
  .ofMembers [
    ("attributes", textMapJson resource.attributes),
    ("handler_id", .ofInt resource.handler.toInt)]

def Variant.toJson : Variant → Json
  | .plain => .ofMembers [("variant", .ofString "plain")]
  | .active command => .ofMembers [
      ("action", .ofString command.action),
      ("state", .ofString command.state),
      ("variant", .ofString "active")]
  | .externalUrl => .ofMembers [("variant", .ofString "external_url")]
  | .internalUrl => .ofMembers [("variant", .ofString "internal_url")]

def Kind.toJson : Kind → Json
  | .container contents => .ofMembers [
      ("searchable", .bool contents.searchable),
      ("type", .ofString "container"),
      ("update_id", .ofInt contents.updateId.toInt)]
  | .item contents => .ofMembers [
      ("mime_type", .ofString contents.mimeType),
      ("service_id", .ofString contents.serviceId),
      ("track_number", .ofInt contents.trackNumber.toInt),
      ("type", .ofString "item"),
      ("variant", contents.variant.toJson)]

namespace Object

/-- The JSON form of an object, given the form of its location. -/
def jsonWith (location : Json) (object : Object) : Json :=
  .ofMembers [
    ("aux_data", textMapJson object.auxiliary),
    ("class", .ofString object.upnpClass),
    ("flags", .ofInt object.flags.toNat),
    ("id", .ofInt object.id.toInt),
    ("is_virtual", .bool object.isVirtual),
    ("kind", object.kind.toJson),
    ("location", location),
    ("metadata", textMapJson object.metadata),
    ("mtime", .ofInt object.mtime.toInt),
    ("parent_id", .ofInt object.parentId.toInt),
    ("ref_id", .ofInt object.refId.toInt),
    ("resources", .array (object.resources.map Resource.toJson)),
    ("restricted", .bool object.restricted),
    ("size_on_disk", .ofInt object.sizeOnDisk.toNat),
    ("title", .ofString object.title)]

/-- The stored form of an object, if its location is UTF-8. -/
def toJson? (object : Object) : Option Json :=
  match Utf8.decodeText object.location with
  | .ok location => some (object.jsonWith (.ofString location))
  | .error _ => none

end Object

end MediaImport.Media
