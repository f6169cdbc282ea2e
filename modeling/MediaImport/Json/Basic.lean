/-!
# JSON trees

A tree keeps everything about a document that a strict reader may still object
to: members in order with repetitions, numbers as they were spelled, and strings
whose escapes contain an unpaired surrogate, which have no text.
-/

namespace MediaImport

/-- A JSON value as it was written. -/
inductive Json where
  | null
  | bool (value : Bool)
  /-- A number by its spelling. -/
  | number (literal : String)
  /-- A string; `none` if it contains an unpaired surrogate. -/
  | text (value : Option String)
  | array (items : List Json)
  | object (members : List (Option String × Json))

namespace Json

/-- A string that has a text. -/
abbrev ofString (value : String) : Json :=
  .text (some value)

/-- A whole number. -/
def ofInt (value : Int) : Json :=
  .number (toString value)

/-- An object with the given members. -/
def ofMembers (members : List (String × Json)) : Json :=
  .object (members.map fun member => (some member.1, member.2))

mutual

/-- The number of containers around the innermost value. -/
def depth : Json → Nat
  | .array items => depthOfItems items + 1
  | .object members => depthOfMembers members + 1
  | _ => 0

def depthOfItems : List Json → Nat
  | [] => 0
  | item :: rest => max (depth item) (depthOfItems rest)

def depthOfMembers : List (Option String × Json) → Nat
  | [] => 0
  | (_, value) :: rest => max (depth value) (depthOfMembers rest)

end

/-- The member under a name; the last one if the name is repeated. -/
def member? (json : Json) (name : String) : Option Json :=
  match json with
  | .object members =>
    (members.reverse.find? fun member => member.1 == some name).map (·.2)
  | _ => none

end Json

end MediaImport
