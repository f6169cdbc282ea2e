import Std.Data.ExtTreeMap
import MediaImport.Json.Basic
import MediaImport.Number.Numeral
import MediaImport.Text.Integer

/-!
# Strict readers for JSON trees

Readers that turn trees into data and refuse everything else: numbers are
integers within bounds and spelled as such, strings have a text, nothing is null
by way of absence.

A record may be written as an object, with unknown members ignored and known
ones given at most once, or as an array of its fields in order, where only the
last ones may be missing.  `fields?` treats both the same way and leaves it to
the caller which fields have a default.

`isBuffered` is the stricter condition on a part that has to be read as a whole
before its meaning is known.
-/

namespace MediaImport.Json

def asBool? : Json → Option Bool
  | .bool value => some value
  | _ => none

def asText? : Json → Option String
  | .text value => value
  | _ => none

/-- An integer within bounds.  A number with a fraction or an exponent is not
an integer, and neither is minus zero. -/
def asInt? (lowest highest : Int) : Json → Option Int
  | .number literal =>
    if literal = "-0" then none else Text.Integer.parse? lowest highest literal
  | _ => none

def asInt32? (json : Json) : Option Int32 :=
  (json.asInt? (-2147483648) 2147483647).map Int32.ofInt

def asInt64? (json : Json) : Option Int64 :=
  (json.asInt? (-9223372036854775808) 9223372036854775807).map Int64.ofInt

def asUInt32? (json : Json) : Option UInt32 :=
  (json.asInt? 0 4294967295).map fun value => UInt32.ofNat value.toNat

def asUInt64? (json : Json) : Option UInt64 :=
  (json.asInt? 0 18446744073709551615).map fun value => UInt64.ofNat value.toNat

def asList? {α : Type} (read : Json → Option α) : Json → Option (List α)
  | .array items => items.mapM read
  | _ => none

/-- Texts by name; of repeated names the last one counts. -/
def asTextMap? : Json → Option (Std.ExtTreeMap String String)
  | .object members =>
    members.foldlM (fun map member => do
      let name ← member.1
      let value ← member.2.asText?
      return map.insert name value) ∅
  | _ => none

/-- The name of an alternative without contents, written as a string or as an
object with one member that is null. -/
def asName? : Json → Option String
  | .text value => value
  | .object [(name, .null)] => name
  | _ => none

/-- Sort the members of an object into fields. -/
def fieldsOfMembers? (names : List String) (members : List (Option String × Json)) :
    Option (List (Option Json)) :=
  if members.all fun member => member.1.isSome then
    names.mapM fun name =>
      match members.filter fun member => member.1 == some name with
      | [] => some none
      | [(_, value)] => some (some value)
      | _ => none
  else none

/-- Line up the items of an array with fields. -/
def fieldsOfItems? (names : List String) (items : List Json) : Option (List (Option Json)) :=
  if items.length ≤ names.length then
    some (items.map some ++ List.replicate (names.length - items.length) none)
  else none

/-- The fields of a record in order, each with its value if it is there. -/
def fields? (names : List String) : Json → Option (List (Option Json))
  | .object members => fieldsOfMembers? names members
  | .array items => fieldsOfItems? names items
  | _ => none

/-- Read a field that may be missing. -/
def optional? {α : Type} (read : Json → Option α) (fallback : α) : Option Json → Option α
  | some json => read json
  | none => some fallback

/-- Read a field that must be there. -/
def required? {α : Type} (read : Json → Option α) (field : Option Json) : Option α :=
  field.bind read

/-- The number of open containers at which a reader gives up. -/
def depthLimit : Nat := 128

/-- Whether a number is within the range of doubles. -/
def isRepresentable (literal : String) : Bool :=
  match Numeral.plain? (Bytes.ofString literal) with
  | some value => value.isFinite
  | none => false

mutual

/-- Whether every part of a tree can be read: its strings have a text and its
numbers are within the range of doubles. -/
def isReadable : Json → Bool
  | .number literal => isRepresentable literal
  | .text value => value.isSome
  | .array items => areReadable items
  | .object members => membersAreReadable members
  | _ => true

def areReadable : List Json → Bool
  | [] => true
  | item :: rest => isReadable item && areReadable rest

def membersAreReadable : List (Option String × Json) → Bool
  | [] => true
  | (name, value) :: rest =>
    name.isSome && isReadable value && membersAreReadable rest

end

/-- Whether a part inside a number of open containers can be read as a whole. -/
def isBuffered (outer : Nat) (json : Json) : Bool :=
  outer + json.depth < depthLimit && json.isReadable

/-- Split a tagged record into its tag and the rest: the tag is a member that
occurs once, or the first item of an array. -/
def untag? (tag : String) : Json → Option (Json × Json)
  | .object members =>
    match members.filter fun member => member.1 == some tag with
    | [(_, value)] =>
      some (value, .object (members.filter fun member => member.1 != some tag))
    | _ => none
  | .array (value :: rest) => some (value, .array rest)
  | _ => none

end MediaImport.Json
