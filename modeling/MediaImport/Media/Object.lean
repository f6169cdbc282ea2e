import Std.Data.ExtTreeMap
import MediaImport.Text.Bytes

/-!
# Media objects

A media object is a container or an item, and an item is plain, active, or one
of two kinds of link.  The kind is fixed when the object is made; what belongs
to one kind only is stored inside that kind.

Texts are keyed by name in maps whose equality is equality of contents.  The
location is a path and may be any bytes.

The set bits of an *object type* name a kind.  `Kind.ofType?` reads a requested
type, where containers win over items and among items the more specific bit
wins; `Kind.typeBits` gives the full pattern of a kind.
-/

namespace MediaImport

/-- Texts by name. -/
abbrev TextMap := Std.ExtTreeMap String String

namespace Media

/-- The identifier that stands for no object. -/
def noId : Int32 := -333

/-- A way to fetch the contents of an object. -/
structure Resource where
  handler : Int32
  attributes : TextMap
  deriving DecidableEq

/-- What only containers have. -/
structure Container where
  updateId : Int32 := 0
  searchable : Bool := false
  deriving DecidableEq

/-- What only active items have. -/
structure Command where
  action : String := ""
  state : String := ""
  deriving DecidableEq

/-- The kinds of item. -/
inductive Variant where
  | plain
  | active (command : Command)
  | externalUrl
  | internalUrl
  deriving DecidableEq

/-- What only items have. -/
structure Item where
  mimeType : String := ""
  serviceId : String := ""
  trackNumber : Int32 := 0
  variant : Variant := .plain
  deriving DecidableEq

/-- The kinds of object. -/
inductive Kind where
  | container (contents : Container)
  | item (contents : Item)
  deriving DecidableEq

/-- A media object. -/
structure Object where
  id : Int32 := noId
  parentId : Int32 := noId
  refId : Int32 := noId
  title : String := ""
  upnpClass : String := ""
  restricted : Bool := false
  isVirtual : Bool := false
  location : Bytes := []
  mtime : Int64 := 0
  sizeOnDisk : UInt64 := 0
  metadata : TextMap := ∅
  auxiliary : TextMap := ∅
  resources : List Resource := []
  flags : UInt32 := 0
  kind : Kind
  deriving DecidableEq

/-! ## Object types -/

namespace ObjectType

def container : Int32 := 1

def item : Int32 := 2

def activeItem : Int32 := 4

def externalUrl : Int32 := 8

def internalUrl : Int32 := 16

/-- Whether an object type has a bit set. -/
def has (bits bit : Int32) : Bool :=
  bits &&& bit != 0

end ObjectType

namespace Variant

/-- The bits of an item of this variant. -/
def typeBits : Variant → Int32
  | .plain => 2
  | .active _ => 6
  | .externalUrl => 10
  | .internalUrl => 26

/-- The variant that a requested item type names. -/
def ofType? (bits : Int32) : Option Variant :=
  if ObjectType.has bits ObjectType.internalUrl then some .internalUrl
  else if ObjectType.has bits ObjectType.externalUrl then some .externalUrl
  else if ObjectType.has bits ObjectType.activeItem then some (.active {})
  else if ObjectType.has bits ObjectType.item then some .plain
  else none

/-- Whether items of this variant are links. -/
def isUrl : Variant → Bool
  | .externalUrl => true
  | .internalUrl => true
  | _ => false

end Variant

namespace Kind

/-- The bits of an object of this kind. -/
def typeBits : Kind → Int32
  | .container _ => 1
  | .item contents => contents.variant.typeBits

/-- The empty kind that a requested type names, if any of its bits does. -/
def ofType? (bits : Int32) : Option Kind :=
  if ObjectType.has bits ObjectType.container then some (.container {})
  else (Variant.ofType? bits).map fun variant => .item { variant }

def item? : Kind → Option Item
  | .item contents => some contents
  | .container _ => none

def container? : Kind → Option Container
  | .container contents => some contents
  | .item _ => none

/-- Whether the kind is an item that is a link. -/
def isUrl : Kind → Bool
  | .item contents => contents.variant.isUrl
  | .container _ => false

end Kind

/-! ## Objects -/

namespace Object

/-- An empty object of a kind. -/
def ofKind (kind : Kind) : Object where
  kind := kind

/-- The empty object that a requested type names, if any of its bits does. -/
def create? (bits : Int32) : Option Object :=
  (Kind.ofType? bits).map ofKind

/-- The bits of the object's kind. -/
def typeBits (object : Object) : Int32 :=
  object.kind.typeBits

def item? (object : Object) : Option Item :=
  object.kind.item?

def container? (object : Object) : Option Container :=
  object.kind.container?

/-- The command of an active item. -/
def command? (object : Object) : Option Command :=
  match object.kind with
  | .item { variant := .active command, .. } => some command
  | _ => none

/-- Change what belongs to items; a container stays as it is. -/
def mapItem (change : Item → Item) (object : Object) : Object :=
  match object.kind with
  | .item contents => { object with kind := .item (change contents) }
  | .container _ => object

/-- Change what belongs to containers; an item stays as it is. -/
def mapContainer (change : Container → Container) (object : Object) : Object :=
  match object.kind with
  | .container contents => { object with kind := .container (change contents) }
  | .item _ => object

/-- Change the command of an active item; every other object stays as it is. -/
def mapCommand (change : Command → Command) (object : Object) : Object :=
  object.mapItem fun contents =>
    match contents.variant with
    | .active command => { contents with variant := .active (change command) }
    | _ => contents

/-- Whether any bit of a flag is set. -/
def hasFlag (object : Object) (flag : UInt32) : Bool :=
  object.flags &&& flag != 0

/-- Set the bits of a flag. -/
def setFlag (object : Object) (flag : UInt32) : Object :=
  { object with flags := object.flags ||| flag }

/-- Set a metadata text. -/
def setMetadata (object : Object) (key value : String) : Object :=
  { object with metadata := object.metadata.insert key value }

/-- Put a resource after the others. -/
def addResource (object : Object) (resource : Resource) : Object :=
  { object with resources := object.resources ++ [resource] }

end Object

/-- The flag of objects that come from an online service. -/
def Flag.onlineService : UInt32 := 0x40

/-- The flag of videos in an Ogg container. -/
def Flag.oggTheora : UInt32 := 0x80

end Media

end MediaImport
