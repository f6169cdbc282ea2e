import MediaImport.Json.Basic

/-!
# Reading JSON text

The reader accepts exactly the documents of RFC 8259: no comments, no trailing
commas, no leading zeros, no raw control characters in strings, nothing after
the value.  It works in two passes, each a single walk along its input: text is
cut into tokens, and tokens are assembled with an explicit stack of open
containers, so that nesting may be as deep as it likes.
-/

namespace MediaImport.Json

/-- A piece of JSON text. -/
inductive Token where
  | openArray
  | closeArray
  | openObject
  | closeObject
  | comma
  | colon
  /-- A value that is a single token. -/
  | scalar (value : Json)

/-- JSON white space. -/
def isSpace (character : Char) : Bool :=
  character == ' ' || character == '\t' || character == '\n' || character == '\r'

def isDigit (character : Char) : Bool :=
  '0' ≤ character && character ≤ '9'

/-- The value of a hexadecimal digit. -/
def hexDigit? (character : Char) : Option Nat :=
  if isDigit character then some (character.toNat - '0'.toNat)
  else if 'a' ≤ character && character ≤ 'f' then some (character.toNat - 'a'.toNat + 10)
  else if 'A' ≤ character && character ≤ 'F' then some (character.toNat - 'A'.toNat + 10)
  else none

/-- Four hexadecimal digits. -/
def hexUnit? (a b c d : Char) : Option Nat := do
  let a ← hexDigit? a
  let b ← hexDigit? b
  let c ← hexDigit? c
  let d ← hexDigit? d
  return ((a * 16 + b) * 16 + c) * 16 + d

/-- The character after a backslash that stands for a single character. -/
def simpleEscape? : Char → Option Char
  | '"' => some '"'
  | '\\' => some '\\'
  | '/' => some '/'
  | 'b' => some '\x08'
  | 'f' => some '\x0c'
  | 'n' => some '\n'
  | 'r' => some '\r'
  | 't' => some '\t'
  | _ => none

def isHighSurrogate (unit : Nat) : Bool :=
  0xd800 ≤ unit && unit < 0xdc00

def isLowSurrogate (unit : Nat) : Bool :=
  0xdc00 ≤ unit && unit < 0xe000

/-- The contents of a string as far as it has been read: its characters, newest
first, a high surrogate that waits for its partner, and whether a surrogate has
been left without one. -/
structure StringState where
  reversed : List Char
  waiting : Option Nat
  broken : Bool

namespace StringState

def start : StringState := ⟨[], none, false⟩

/-- Add a character that is not a surrogate. -/
def push (state : StringState) (character : Char) : StringState :=
  ⟨character :: state.reversed, none, state.broken || state.waiting.isSome⟩

/-- Add a unit written by its number. -/
def pushUnit (state : StringState) (unit : Nat) : StringState :=
  if isHighSurrogate unit then
    ⟨state.reversed, some unit, state.broken || state.waiting.isSome⟩
  else if isLowSurrogate unit then
    match state.waiting with
    | some high =>
      let code := 0x10000 + (high - 0xd800) * 0x400 + (unit - 0xdc00)
      ⟨Char.ofNat code :: state.reversed, none, state.broken⟩
    | none => ⟨state.reversed, none, true⟩
  else state.push (Char.ofNat unit)

/-- The text of a finished string. -/
def finish (state : StringState) : Option String :=
  if state.broken || state.waiting.isSome then none
  else some (String.ofList state.reversed.reverse)

end StringState

/-- Read a string after its opening quote, up to and including the closing one. -/
def readString (state : StringState) : List Char → Option (Option String × List Char)
  | [] => none
  | '"' :: rest => some (state.finish, rest)
  | '\\' :: 'u' :: a :: b :: c :: d :: rest =>
    match hexUnit? a b c d with
    | some unit => readString (state.pushUnit unit) rest
    | none => none
  | '\\' :: escape :: rest =>
    match simpleEscape? escape with
    | some character => readString (state.push character) rest
    | none => none
  | character :: rest =>
    if character == '\\' || character < ' ' then none
    else readString (state.push character) rest

/-- Split digits off the front. -/
def spanDigits (characters : List Char) : List Char × List Char :=
  (characters.takeWhile isDigit, characters.dropWhile isDigit)

/-- The fraction of a number, if there is one. -/
def readFraction : List Char → Option (List Char × List Char)
  | '.' :: rest =>
    let (digits, after) := spanDigits rest
    if digits.isEmpty then none else some ('.' :: digits, after)
  | rest => some ([], rest)

/-- The exponent of a number, if there is one. -/
def readExponent : List Char → Option (List Char × List Char)
  | mark :: rest =>
    if mark == 'e' || mark == 'E' then
      let (sign, unsigned) :=
        match rest with
        | '+' :: after => (['+'], after)
        | '-' :: after => (['-'], after)
        | _ => ([], rest)
      let (digits, after) := spanDigits unsigned
      if digits.isEmpty then none else some (mark :: sign ++ digits, after)
    else some ([], mark :: rest)
  | [] => some ([], [])

/-- Read a number without its sign. -/
def readMagnitude (characters : List Char) : Option (List Char × List Char) := do
  let (whole, rest) := spanDigits characters
  if whole.isEmpty || (whole.length > 1 && whole.head? == some '0') then none
  else
    let (fraction, rest) ← readFraction rest
    let (exponent, rest) ← readExponent rest
    return (whole ++ fraction ++ exponent, rest)

/-- Read a number. -/
def readNumber : List Char → Option (List Char × List Char)
  | '-' :: rest => (readMagnitude rest).map fun (digits, after) => ('-' :: digits, after)
  | rest => readMagnitude rest

/-- Read the token that starts with a character that is not white space. -/
def readToken (first : Char) (rest : List Char) : Option (Token × List Char) :=
  match first, rest with
  | '[', _ => some (.openArray, rest)
  | ']', _ => some (.closeArray, rest)
  | '{', _ => some (.openObject, rest)
  | '}', _ => some (.closeObject, rest)
  | ',', _ => some (.comma, rest)
  | ':', _ => some (.colon, rest)
  | 'n', 'u' :: 'l' :: 'l' :: after => some (.scalar .null, after)
  | 't', 'r' :: 'u' :: 'e' :: after => some (.scalar (.bool true), after)
  | 'f', 'a' :: 'l' :: 's' :: 'e' :: after => some (.scalar (.bool false), after)
  | '"', _ =>
    (readString .start rest).map fun (contents, after) => (.scalar (.text contents), after)
  | _, _ =>
    (readNumber (first :: rest)).map fun (digits, after) =>
      (.scalar (.number (String.ofList digits)), after)

/-- Cut text into tokens, newest first.  Every token takes at least one
character, so the number of characters bounds the number of steps. -/
def tokensFrom : Nat → List Token → List Char → Option (List Token)
  | _, reversed, [] => some reversed.reverse
  | 0, _, _ :: _ => none
  | steps + 1, reversed, first :: rest =>
    if isSpace first then tokensFrom steps reversed rest
    else
      match readToken first rest with
      | some (token, after) => tokensFrom steps (token :: reversed) after
      | none => none

def tokens? (text : String) : Option (List Token) :=
  let characters := text.toList
  tokensFrom characters.length [] characters

/-- An open container with what it holds so far, newest first; an object also
knows the name whose value comes next. -/
inductive Container where
  | array (reversed : List Json)
  | object (reversed : List (Option String × Json)) (name : Option String)

/-- What the next token has to be. -/
inductive Expected where
  /-- A value; just after the opening bracket the closing one will do too. -/
  | value (orClose : Bool)
  /-- The name of a member of an object that holds the given members; just after
  the opening brace the closing one will do too. -/
  | name (reversed : List (Option String × Json)) (orClose : Bool)
  /-- The colon after a name. -/
  | colon (reversed : List (Option String × Json)) (name : Option String)
  /-- A comma or the end of the innermost container. -/
  | separator
  /-- Nothing more: the document is complete. -/
  | nothing (document : Json)

/-- Put a finished value where it belongs. -/
def close (value : Json) : List Container → Expected × List Container
  | [] => (.nothing value, [])
  | .array reversed :: outer => (.separator, .array (value :: reversed) :: outer)
  | .object reversed name :: outer =>
    (.separator, .object ((name, value) :: reversed) none :: outer)

/-- Take one token. -/
def accept (token : Token) (expected : Expected) (stack : List Container) :
    Option (Expected × List Container) :=
  match expected, token with
  | .value _, .scalar value => some (close value stack)
  | .value _, .openArray => some (.value true, .array [] :: stack)
  | .value _, .openObject => some (.name [] true, stack)
  | .value true, .closeArray =>
    match stack with
    | .array reversed :: outer => some (close (.array reversed.reverse) outer)
    | _ => none
  | .name reversed _, .scalar (.text name) => some (.colon reversed name, stack)
  | .name reversed true, .closeObject =>
    some (close (.object reversed.reverse) stack)
  | .colon reversed name, .colon =>
    some (.value false, .object reversed name :: stack)
  | .separator, .comma =>
    match stack with
    | .array _ :: _ => some (.value false, stack)
    | .object reversed _ :: outer => some (.name reversed false, outer)
    | [] => none
  | .separator, .closeArray =>
    match stack with
    | .array reversed :: outer => some (close (.array reversed.reverse) outer)
    | _ => none
  | .separator, .closeObject =>
    match stack with
    | .object reversed _ :: outer => some (close (.object reversed.reverse) outer)
    | _ => none
  | _, _ => none

/-- Assemble tokens. -/
def assemble : List Token → Expected → List Container → Option Json
  | [], .nothing document, _ => some document
  | [], _, _ => none
  | token :: rest, expected, stack =>
    match accept token expected stack with
    | some (expected, stack) => assemble rest expected stack
    | none => none

/-- The tree that a text spells, if it is JSON. -/
def parse? (text : String) : Option Json := do
  let tokens ← tokens? text
  assemble tokens (.value false) []

end MediaImport.Json
