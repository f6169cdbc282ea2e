import MediaImport.Json.Basic

/-!
# Writing JSON text

Two layouts: `render` on one line without spaces, and `pretty` with two spaces
of indentation per level.  Only the characters that JSON requires are escaped;
text outside ASCII is written as it is.
-/

namespace MediaImport.Json

/-- A hexadecimal digit in lower case. -/
def hexDigit (value : Nat) : Char :=
  if value < 10 then Char.ofNat (0x30 + value) else Char.ofNat (0x57 + value)

/-- A character as it stands inside a string. -/
def escape (character : Char) : List Char :=
  if character == '"' then ['\\', '"']
  else if character == '\\' then ['\\', '\\']
  else if character == '\x08' then ['\\', 'b']
  else if character == '\x0c' then ['\\', 'f']
  else if character == '\n' then ['\\', 'n']
  else if character == '\r' then ['\\', 'r']
  else if character == '\t' then ['\\', 't']
  else if character < ' ' then
    ['\\', 'u', '0', '0', hexDigit (character.toNat / 16), hexDigit (character.toNat % 16)]
  else [character]

/-- A text between quotes. -/
def quote (text : String) : List Char :=
  '"' :: text.toList.flatMap escape ++ ['"']

mutual

/-- The text of a tree on one line. -/
def renderChars : Json → List Char
  | .null => "null".toList
  | .bool true => "true".toList
  | .bool false => "false".toList
  | .number literal => literal.toList
  | .text value => quote (value.getD "")
  | .array items => '[' :: renderItems items ++ [']']
  | .object members => '\x7b' :: renderMembers members ++ ['\x7d']

def renderItems : List Json → List Char
  | [] => []
  | [item] => renderChars item
  | item :: rest => renderChars item ++ ',' :: renderItems rest

def renderMembers : List (Option String × Json) → List Char
  | [] => []
  | [(name, value)] => quote (name.getD "") ++ ':' :: renderChars value
  | (name, value) :: rest =>
    quote (name.getD "") ++ ':' :: renderChars value ++ ',' :: renderMembers rest

end

/-- The text of a tree on one line. -/
def render (json : Json) : String :=
  String.ofList (renderChars json)

/-- A new line at a level of nesting. -/
def newline (level : Nat) : List Char :=
  '\n' :: List.replicate (2 * level) ' '

mutual

/-- The indented text of a tree whose first line starts at a level. -/
def prettyChars (level : Nat) : Json → List Char
  | .array [] => ['[', ']']
  | .array items => '[' :: prettyItems (level + 1) items ++ newline level ++ [']']
  | .object [] => ['\x7b', '\x7d']
  | .object members =>
    '\x7b' :: prettyMembers (level + 1) members ++ newline level ++ ['\x7d']
  | scalar => renderChars scalar

def prettyItems (level : Nat) : List Json → List Char
  | [] => []
  | [item] => newline level ++ prettyChars level item
  | item :: rest =>
    newline level ++ prettyChars level item ++ ',' :: prettyItems level rest

def prettyMembers (level : Nat) : List (Option String × Json) → List Char
  | [] => []
  | [(name, value)] =>
    newline level ++ quote (name.getD "") ++ ':' :: ' ' :: prettyChars level value
  | (name, value) :: rest =>
    newline level ++ quote (name.getD "") ++ ':' :: ' ' :: prettyChars level value ++
      ',' :: prettyMembers level rest

end

/-- The indented text of a tree. -/
def pretty (json : Json) : String :=
  String.ofList (prettyChars 0 json)

end MediaImport.Json
