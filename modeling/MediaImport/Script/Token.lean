import MediaImport.Number.Numeral

/-!
# Tokens of scripts

Script text is cut into names, numbers, strings and fixed words.  Comments and
white space separate tokens and are dropped.  Each token keeps the line on which
it ends.

Reading fails on anything that is not a token: an unfinished string or comment,
an unknown escape, a malformed number, a stray character.
-/

namespace MediaImport.Script

/-- A token. -/
inductive Token where
  | name (text : String)
  /-- A keyword or a punctuation mark. -/
  | word (text : String)
  | int (value : Int64)
  | float (value : Double)
  | text (value : Bytes)
  deriving DecidableEq

/-- A token with the line on which it ends. -/
structure Lexeme where
  token : Token
  line : Nat

namespace Token

def keywords : List String :=
  ["and", "break", "do", "else", "elseif", "end", "false", "for", "function", "goto", "if",
    "in", "local", "nil", "not", "or", "repeat", "return", "then", "true", "until", "while"]

/-- The ASCII text of bytes. -/
def asciiText (bytes : Bytes) : String :=
  String.ofList (bytes.map fun byte => Char.ofNat byte.toNat)

def isNameStart (byte : UInt8) : Bool :=
  Bytes.isLetter byte || byte == 0x5f

def isNamePart (byte : UInt8) : Bool :=
  isNameStart byte || Bytes.isDigit byte

def isNewline (byte : UInt8) : Bool :=
  byte == 0x0a || byte == 0x0d

/-- Skip one line break; two different break characters together are one. -/
def skipNewline : Bytes → Bytes
  | 0x0a :: 0x0d :: rest => rest
  | 0x0d :: 0x0a :: rest => rest
  | _ :: rest => rest
  | [] => []

/-! ## Long brackets -/

/-- The level of a long bracket after its first bracket, and what follows it. -/
def openLong? (bracket : UInt8) (bytes : Bytes) : Option (Nat × Bytes) :=
  let signs := bytes.takeWhile (· == 0x3d)
  match bytes.drop signs.length with
  | byte :: rest => if byte == bracket then some (signs.length, rest) else none
  | [] => none

/-- The rest after a closing long bracket of a level, if the text starts with one. -/
def closeLong? (level : Nat) : Bytes → Option Bytes
  | 0x5d :: rest =>
    match openLong? 0x5d rest with
    | some (found, after) => if found = level then some after else none
    | none => none
  | _ => none

/-- The contents of a long bracket up to the closing one, with line breaks made
uniform: contents, rest, and the line reached. -/
def readLong (level : Nat) :
    Nat → Bytes → Nat → Bytes → Option (Bytes × Bytes × Nat)
  | 0, _, _, _ => none
  | steps + 1, reversed, line, bytes =>
    match closeLong? level bytes with
    | some rest => some (reversed.reverse, rest, line)
    | none =>
      match bytes with
      | [] => none
      | byte :: rest =>
        if isNewline byte then
          readLong level steps (0x0a :: reversed) (line + 1) (skipNewline bytes)
        else readLong level steps (byte :: reversed) line rest

/-- Read a long bracket; a line break directly after the opening one is dropped. -/
def readLongText (level line : Nat) (bytes : Bytes) : Option (Bytes × Bytes × Nat) :=
  match bytes with
  | byte :: _ =>
    if isNewline byte then
      readLong level (bytes.length + 1) [] (line + 1) (skipNewline bytes)
    else readLong level (bytes.length + 1) [] line bytes
  | [] => none

/-! ## Quoted strings -/

/-- The bytes of a code point of up to 31 bits, in the extended form of UTF-8. -/
def encodeWide (code : Nat) : Bytes :=
  let continuation (shift : Nat) : UInt8 :=
    UInt8.ofNat (0x80 + code / Nat.pow 2 shift % 64)
  if code < 0x80 then [UInt8.ofNat code]
  else if code < 0x800 then [UInt8.ofNat (0xc0 + code / Nat.pow 2 6), continuation 0]
  else if code < 0x10000 then
    [UInt8.ofNat (0xe0 + code / Nat.pow 2 12), continuation 6, continuation 0]
  else if code < 0x200000 then
    [UInt8.ofNat (0xf0 + code / Nat.pow 2 18), continuation 12, continuation 6, continuation 0]
  else if code < 0x4000000 then
    [UInt8.ofNat (0xf8 + code / Nat.pow 2 24), continuation 18, continuation 12, continuation 6,
      continuation 0]
  else
    [UInt8.ofNat (0xfc + code / Nat.pow 2 30), continuation 24, continuation 18, continuation 12,
      continuation 6, continuation 0]

/-- A code point in braces, after the opening one. -/
def readCodePoint (bytes : Bytes) : Option (Bytes × Bytes) :=
  let digits := bytes.takeWhile Numeral.isHexDigit
  match bytes.drop digits.length with
  | 0x7d :: rest =>
    let code := Numeral.hexValue digits
    if digits.isEmpty || Nat.pow 2 31 ≤ code then none else some (encodeWide code, rest)
  | _ => none

/-- Up to three decimal digits that name a byte. -/
def readByte (bytes : Bytes) : Option (Bytes × Bytes) :=
  let digits := (bytes.take 3).takeWhile Bytes.isDigit
  let code := Bytes.decimalValue digits
  if digits.isEmpty || 256 ≤ code then none
  else some ([UInt8.ofNat code], bytes.drop digits.length)

/-- The number of line breaks in white space. -/
def skipSpace : Nat → Nat → Bytes → Nat × Bytes
  | 0, line, bytes => (line, bytes)
  | steps + 1, line, bytes =>
    match bytes with
    | byte :: rest =>
      if isNewline byte then skipSpace steps (line + 1) (skipNewline bytes)
      else if Bytes.isSpace byte then skipSpace steps line rest
      else (line, bytes)
    | [] => (line, [])

/-- What an escape stands for, after its backslash: bytes, rest, line. -/
def readEscape (line : Nat) (bytes : Bytes) : Option (Bytes × Bytes × Nat) :=
  match bytes with
  | [] => none
  | byte :: rest =>
    let plain (value : UInt8) : Option (Bytes × Bytes × Nat) := some ([value], rest, line)
    if isNewline byte then some ([0x0a], skipNewline bytes, line + 1)
    else
      match Char.ofNat byte.toNat with
      | 'a' => plain 0x07
      | 'b' => plain 0x08
      | 'f' => plain 0x0c
      | 'n' => plain 0x0a
      | 'r' => plain 0x0d
      | 't' => plain 0x09
      | 'v' => plain 0x0b
      | '\\' => plain byte
      | '"' => plain byte
      | '\'' => plain byte
      | 'x' =>
        match rest with
        | high :: low :: after => do
          let high ← Bytes.hexDigit? high
          let low ← Bytes.hexDigit? low
          return ([UInt8.ofNat (high * 16 + low)], after, line)
        | _ => none
      | 'z' =>
        let (line, after) := skipSpace rest.length line rest
        some ([], after, line)
      | 'u' =>
        match rest with
        | 0x7b :: digits =>
          (readCodePoint digits).map fun (code, after) => (code, after, line)
        | _ => none
      | _ => (readByte bytes).map fun (value, after) => (value, after, line)

/-- The contents of a quoted string up to the closing quote. -/
def readQuoted (quote : UInt8) :
    Nat → Bytes → Nat → Bytes → Option (Bytes × Bytes × Nat)
  | 0, _, _, _ => none
  | _, _, _, [] => none
  | steps + 1, reversed, line, byte :: rest =>
    if byte == quote then some (reversed.reverse, rest, line)
    else if byte == 0x5c then
      match readEscape line rest with
      | some (value, after, line) =>
        readQuoted quote steps (value.reverse ++ reversed) line after
      | none => none
    else if isNewline byte then none
    else readQuoted quote steps (byte :: reversed) line rest

/-! ## Numbers and words -/

/-- The bytes of a number, given the two marks of its exponent: digits of either
base, points, and exponents with their signs. -/
def spanNumber (upper lower : UInt8) : Bytes → Bytes × Bytes
  | [] => ([], [])
  | mark :: sign :: rest =>
    if (mark == upper || mark == lower) && (sign == 0x2b || sign == 0x2d) then
      let (part, after) := spanNumber upper lower rest
      (mark :: sign :: part, after)
    else if mark == upper || mark == lower || Numeral.isHexDigit mark || mark == 0x2e then
      let (part, after) := spanNumber upper lower (sign :: rest)
      (mark :: part, after)
    else ([], mark :: sign :: rest)
  | [byte] =>
    if byte == upper || byte == lower || Numeral.isHexDigit byte || byte == 0x2e then
      ([byte], [])
    else ([], [byte])

/-- Read a number that starts with a digit or a point.  A letter directly after
the number spoils it. -/
def readNumber (bytes : Bytes) : Option (Token × Bytes) :=
  let (start, upper, lower, rest) : Bytes × UInt8 × UInt8 × Bytes :=
    match bytes with
    | 0x30 :: 0x78 :: rest => ([0x30, 0x78], 0x50, 0x70, rest)
    | 0x30 :: 0x58 :: rest => ([0x30, 0x58], 0x50, 0x70, rest)
    | _ => ([], 0x45, 0x65, bytes)
  let (part, after) := spanNumber upper lower rest
  if after.head?.any isNameStart then none
  else
    (Numeral.script? (start ++ part)).map fun
      | .int value => (.int value, after)
      | .float value => (.float value, after)

/-- The punctuation marks, a longer one before its beginnings. -/
def punctuation : List String :=
  ["...", "..", "==", "~=", "<=", ">=", "//", "::", "<<", ">>", "+", "-", "*", "/", "%", "^",
    "#", "&", "~", "|", "<", ">", "=", "(", ")", "\x7b", "\x7d", "[", "]", ";", ":", ",", "."]

/-- The rest after a word, if the text starts with it. -/
def dropWord? : Bytes → Bytes → Option Bytes
  | [], bytes => some bytes
  | byte :: more, first :: rest => if byte = first then dropWord? more rest else none
  | _ :: _, [] => none

def readPunctuation (bytes : Bytes) : Option (Token × Bytes) :=
  punctuation.findSome? fun mark =>
    (dropWord? (Bytes.ofString mark) bytes).map fun rest => (.word mark, rest)

def readName (bytes : Bytes) : Token × Bytes :=
  let text := asciiText (bytes.takeWhile isNamePart)
  (if text ∈ keywords then .word text else .name text, bytes.dropWhile isNamePart)

/-- Drop a comment after its two dashes. -/
def skipComment (line : Nat) (bytes : Bytes) : Option (Bytes × Nat) :=
  let short := some (bytes.dropWhile fun byte => !isNewline byte, line)
  match bytes with
  | 0x5b :: rest =>
    match openLong? 0x5b rest with
    | some (level, contents) =>
      (readLongText level line contents).map fun (_, after, line) => (after, line)
    | none => short
  | _ => short

/-- Read the token at the front: token, rest, line. -/
def readOne (line : Nat) (first : UInt8) (rest : Bytes) : Option (Token × Bytes × Nat) :=
  let here (read : Token × Bytes) : Token × Bytes × Nat := (read.1, read.2, line)
  if isNameStart first then some (here (readName (first :: rest)))
  else if Bytes.isDigit first then (readNumber (first :: rest)).map here
  else if first == 0x22 || first == 0x27 then
    (readQuoted first (rest.length + 1) [] line rest).map fun (value, after, line) =>
      (.text value, after, line)
  else if first == 0x5b then
    match openLong? 0x5b rest with
    | some (level, contents) =>
      (readLongText level line contents).map fun (value, after, line) =>
        (.text value, after, line)
    | none =>
      if rest.head? = some 0x3d then none
      else (readPunctuation (first :: rest)).map here
  else if first == 0x2e && rest.head?.any Bytes.isDigit then
    (readNumber (first :: rest)).map here
  else (readPunctuation (first :: rest)).map here

/-- Cut bytes into tokens.  Every step takes at least one byte, so the number of
bytes bounds the number of steps. -/
def readAll : Nat → List Lexeme → Nat → Bytes → Option (List Lexeme)
  | _, reversed, _, [] => some reversed.reverse
  | 0, _, _, _ :: _ => none
  | steps + 1, reversed, line, first :: rest =>
    if isNewline first then readAll steps reversed (line + 1) (skipNewline (first :: rest))
    else if Bytes.isSpace first then readAll steps reversed line rest
    else if first == 0x2d && rest.head? == some 0x2d then
      match skipComment line (rest.drop 1) with
      | some (after, line) => readAll steps reversed line after
      | none => none
    else
      match readOne line first rest with
      | some (token, after, line) => readAll steps (⟨token, line⟩ :: reversed) line after
      | none => none

/-- The tokens of a script. -/
def ofBytes? (bytes : Bytes) : Option (List Lexeme) :=
  readAll (bytes.length + 1) [] 1 bytes

end Token

end MediaImport.Script
