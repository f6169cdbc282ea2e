import MediaImport.Text.Bytes

/-!
# Patterns

The text patterns of the script library.  A pattern is read once into a list of
elements; matching is then recursion on that list.  An element that stands for
something malformed stops the search only when it is reached, so a pattern may
be used as long as its faulty part never matters.

A match is found by trying the positions that an element allows in order of
preference and going on with the rest of the pattern from each.
-/

namespace MediaImport.Script

/-- What is wrong with a pattern. -/
inductive PatternFault where
  | endsWithEscape
  | missingBracket
  | missingBalance
  | missingFrontierSet
  | invalidCapture
  | invalidCaptureIndex (index : Nat)
  | unfinishedCapture
  | tooManyCaptures
  deriving DecidableEq

def PatternFault.message : PatternFault → String
  | endsWithEscape => "malformed pattern (ends with '%')"
  | missingBracket => "malformed pattern (missing ']')"
  | missingBalance => "malformed pattern (missing arguments to '%b')"
  | missingFrontierSet => "missing '[' after '%f' in pattern"
  | invalidCapture => "invalid pattern capture"
  | invalidCaptureIndex index => "invalid capture index %" ++ toString index
  | unfinishedCapture => "unfinished capture"
  | tooManyCaptures => "too many captures"

/-- A class of bytes. -/
inductive ByteClass where
  | any
  | exactly (byte : UInt8)
  | range (low high : UInt8)
  /-- The class named by a letter after the escape; an upper-case letter names
  the complement. -/
  | named (letter : UInt8)
  | set (negated : Bool) (members : List ByteClass)

namespace ByteClass

def isPunctuation (byte : UInt8) : Bool :=
  0x21 ≤ byte && byte ≤ 0x7e && !Bytes.isLetter byte && !Bytes.isDigit byte

def isControl (byte : UInt8) : Bool :=
  byte < 0x20 || byte == 0x7f

/-- Whether a byte is in the class of a lower-case letter, if the letter names one. -/
def hasNamed? (letter : Char) (byte : UInt8) : Option Bool :=
  match letter with
  | 'a' => some (Bytes.isLetter byte)
  | 'c' => some (isControl byte)
  | 'd' => some (Bytes.isDigit byte)
  | 'g' => some (0x21 ≤ byte && byte ≤ 0x7e)
  | 'l' => some (Bytes.isLower byte)
  | 'p' => some (isPunctuation byte)
  | 's' => some (Bytes.isSpace byte)
  | 'u' => some (Bytes.isUpper byte)
  | 'w' => some (Bytes.isLetter byte || Bytes.isDigit byte)
  | 'x' => some (Bytes.hexDigit? byte).isSome
  | _ => none

/-- Whether a byte is in the class of a letter; any other byte names itself. -/
def hasLetter (letter byte : UInt8) : Bool :=
  let character := Char.ofNat letter.toNat
  match hasNamed? character.toLower byte with
  | some found => if Bytes.isUpper letter then !found else found
  | none => letter == byte

mutual

def has (byte : UInt8) : ByteClass → Bool
  | .any => true
  | .exactly expected => expected == byte
  | .range low high => low ≤ byte && byte ≤ high
  | .named letter => hasLetter letter byte
  | .set negated members => hasAny byte members != negated

def hasAny (byte : UInt8) : List ByteClass → Bool
  | [] => false
  | first :: rest => has byte first || hasAny byte rest

end

end ByteClass

/-- How often a class may match in a row. -/
inductive Repetition where
  | once
  | optional
  /-- As often as possible, at least so often. -/
  | many (least : Nat)
  /-- As rarely as possible. -/
  | few
  deriving DecidableEq

/-- An element of a pattern. -/
inductive PatternElement where
  | bytes (kind : ByteClass) (repetition : Repetition)
  | openCapture
  | positionCapture
  | closeCapture
  | atEnd
  /-- A balanced stretch between two bytes. -/
  | balance (opening closing : UInt8)
  /-- A place where a set begins to apply. -/
  | frontier (kind : ByteClass)
  /-- What an earlier capture matched. -/
  | again (digit : UInt8)
  | malformed (fault : PatternFault)

namespace Pattern

/-- The bytes of a set up to its closing bracket, and what follows; the first
byte is never the closing bracket. -/
def setBody (isFirst : Bool) : Bytes → Option (Bytes × Bytes)
  | [] => none
  | 0x25 :: escaped :: rest =>
    (setBody false rest).map fun (body, after) => (0x25 :: escaped :: body, after)
  | byte :: rest =>
    if byte == 0x5d && !isFirst then some ([], rest)
    else (setBody false rest).map fun (body, after) => (byte :: body, after)

/-- The members of a set. -/
def setMembers : Bytes → List ByteClass
  | [] => []
  | 0x25 :: letter :: rest => .named letter :: setMembers rest
  | low :: 0x2d :: high :: rest => .range low high :: setMembers rest
  | byte :: rest => .exactly byte :: setMembers rest

/-- Read a set after its opening bracket. -/
def readSet (bytes : Bytes) : Option (ByteClass × Bytes) :=
  match bytes with
  | 0x5e :: rest =>
    (setBody true rest).map fun (body, after) => (.set true (setMembers body), after)
  | _ => (setBody true bytes).map fun (body, after) => (.set false (setMembers body), after)

/-- Read the class at the front. -/
def readClass (first : UInt8) (rest : Bytes) : Except PatternFault (ByteClass × Bytes) :=
  if first == 0x2e then .ok (.any, rest)
  else if first == 0x25 then
    match rest with
    | letter :: after => .ok (.named letter, after)
    | [] => .error .endsWithEscape
  else if first == 0x5b then
    match readSet rest with
    | some read => .ok read
    | none => .error .missingBracket
  else .ok (.exactly first, rest)

/-- Read the sign after a class that says how often it may match. -/
def readRepetition : Bytes → Repetition × Bytes
  | 0x3f :: rest => (.optional, rest)
  | 0x2b :: rest => (.many 1, rest)
  | 0x2a :: rest => (.many 0, rest)
  | 0x2d :: rest => (.few, rest)
  | rest => (.once, rest)

/-- Read the element at the front. -/
def readElement (first : UInt8) (rest : Bytes) : PatternElement × Bytes :=
  let byClass :=
    match readClass first rest with
    | .ok (kind, after) =>
      let (repetition, after) := readRepetition after
      (.bytes kind repetition, after)
    | .error fault => (.malformed fault, [])
  match first, rest with
  | 0x28, 0x29 :: after => (.positionCapture, after)
  | 0x28, _ => (.openCapture, rest)
  | 0x29, _ => (.closeCapture, rest)
  | 0x24, [] => (.atEnd, [])
  | 0x25, 0x62 :: after =>
    match after with
    | opening :: closing :: after => (.balance opening closing, after)
    | _ => (.malformed .missingBalance, [])
  | 0x25, 0x66 :: after =>
    match after with
    | 0x5b :: set =>
      match readSet set with
      | some (kind, after) => (.frontier kind, after)
      | none => (.malformed .missingBracket, [])
    | _ => (.malformed .missingFrontierSet, [])
  | 0x25, digit :: after => if Bytes.isDigit digit then (.again digit, after) else byClass
  | _, _ => byClass

/-- Read elements; every element takes at least one byte. -/
def readElements : Nat → Bytes → List PatternElement
  | 0, _ => []
  | _, [] => []
  | steps + 1, first :: rest =>
    let (element, after) := readElement first rest
    element :: readElements steps after

/-- The elements of a pattern without its anchor. -/
def ofBytes (bytes : Bytes) : List PatternElement :=
  readElements bytes.length bytes

/-- Split off the anchor that ties a match to the start. -/
def splitAnchor : Bytes → Bool × Bytes
  | 0x5e :: rest => (true, rest)
  | bytes => (false, bytes)

/-- The extent of a capture. -/
inductive Extent where
  | unfinished
  /-- A capture of the position itself. -/
  | position
  | length (bytes : Nat)
  deriving DecidableEq

/-- A capture: where it starts and how far it goes. -/
structure Capture where
  start : Nat
  extent : Extent
  deriving DecidableEq

/-- Most captures in a pattern. -/
def captureLimit : Nat := 32

/-- The bytes of a subject from one position up to another. -/
def slice (subject : Array UInt8) (start stop : Nat) : Bytes :=
  (subject.extract start stop).toList

/-- Close the capture opened last. -/
def closeLast (position : Nat) : List Capture → Option (List Capture)
  | [] => none
  | capture :: rest =>
    if capture.extent = .unfinished then
      some ({ capture with extent := .length (position - capture.start) } :: rest)
    else (closeLast position rest).map (capture :: ·)

/-- The end of a balanced stretch, searched from a position at a depth. -/
def balanceEnd (subject : Array UInt8) (opening closing : UInt8) :
    Nat → Nat → Nat → Option Nat
  | 0, _, _ => none
  | steps + 1, position, depth =>
    match subject[position]? with
    | none => none
    | some byte =>
      if byte == closing then
        if depth = 1 then some (position + 1)
        else balanceEnd subject opening closing steps (position + 1) (depth - 1)
      else if byte == opening then
        balanceEnd subject opening closing steps (position + 1) (depth + 1)
      else balanceEnd subject opening closing steps (position + 1) depth

/-- How many bytes in a row from a position are in a class. -/
def runLength (subject : Array UInt8) (kind : ByteClass) : Nat → Nat → Nat
  | 0, _ => 0
  | steps + 1, position =>
    match subject[position]? with
    | some byte => if kind.has byte then runLength subject kind steps (position + 1) + 1 else 0
    | none => 0

/-- The positions at which a match may go on after a class, in order of preference. -/
def positionsAfter (subject : Array UInt8) (kind : ByteClass) (repetition : Repetition)
    (position : Nat) : List Nat :=
  let fits := (subject[position]?).any kind.has
  match repetition with
  | .once => if fits then [position + 1] else []
  | .optional => if fits then [position + 1, position] else [position]
  | .many least =>
    let run := runLength subject kind (subject.size - position) position
    (List.range (run + 1)).reverse.filterMap fun count =>
      if least ≤ count then some (position + count) else none
  | .few =>
    let run := runLength subject kind (subject.size - position) position
    (List.range (run + 1)).map (position + ·)

/-- The bytes of an earlier capture that is finished. -/
def capturedBytes (subject : Array UInt8) (captures : List Capture) (digit : UInt8) :
    Except PatternFault Bytes :=
  let index := digit.toNat - 0x30
  let inOrder := captures.reverse
  if index = 0 then .error (.invalidCaptureIndex index)
  else
    match inOrder[index - 1]? with
    | some ⟨start, .length bytes⟩ => .ok (slice subject start (start + bytes))
    | some ⟨_, .position⟩ => .ok []
    | _ => .error (.invalidCaptureIndex index)

/-- Match elements from a position: where the match ends, and the captures, newest
first. -/
def matchFrom (subject : Array UInt8) :
    List PatternElement → List Capture → Nat →
      Except PatternFault (Option (Nat × List Capture))
  | [], captures, position => .ok (some (position, captures))
  | element :: rest, captures, position =>
    match element with
    | .bytes kind repetition =>
      (positionsAfter subject kind repetition position).findSomeM? fun next =>
        matchFrom subject rest captures next
    | .openCapture =>
      if captureLimit ≤ captures.length then .error .tooManyCaptures
      else matchFrom subject rest (⟨position, .unfinished⟩ :: captures) position
    | .positionCapture =>
      if captureLimit ≤ captures.length then .error .tooManyCaptures
      else matchFrom subject rest (⟨position, .position⟩ :: captures) position
    | .closeCapture =>
      match closeLast position captures with
      | some captures => matchFrom subject rest captures position
      | none => .error .invalidCapture
    | .atEnd =>
      if position = subject.size then matchFrom subject rest captures position
      else .ok none
    | .balance opening closing =>
      if subject[position]? = some opening then
        match balanceEnd subject opening closing subject.size (position + 1) 1 with
        | some next => matchFrom subject rest captures next
        | none => .ok none
      else .ok none
    | .frontier kind =>
      let before := if position = 0 then 0 else (subject[position - 1]?).getD 0
      let here := (subject[position]?).getD 0
      if !kind.has before && kind.has here then matchFrom subject rest captures position
      else .ok none
    | .again digit =>
      match capturedBytes subject captures digit with
      | .ok bytes =>
        if slice subject position (position + bytes.length) = bytes then
          matchFrom subject rest captures (position + bytes.length)
        else .ok none
      | .error fault => .error fault
    | .malformed fault => .error fault

/-- A match: its bounds and its captures in order. -/
structure Match where
  start : Nat
  stop : Nat
  captures : List Capture

/-- The first match that starts at one of so many positions from a position on,
unless the given end is forbidden. -/
def search (subject : Array UInt8) (elements : List PatternElement) (forbidden : Option Nat) :
    Nat → Nat → Except PatternFault (Option Match)
  | 0, _ => .ok none
  | steps + 1, position =>
    match matchFrom subject elements [] position with
    | .error fault => .error fault
    | .ok (some (stop, captures)) =>
      if forbidden = some stop then search subject elements forbidden steps (position + 1)
      else .ok (some ⟨position, stop, captures.reverse⟩)
    | .ok none => search subject elements forbidden steps (position + 1)

/-- The first match of a pattern at a position or after it; an anchored pattern
matches only at the position. -/
def find? (subject : Array UInt8) (pattern : Bytes) (position : Nat) :
    Except PatternFault (Option Match) :=
  let (anchored, body) := splitAnchor pattern
  let steps := if anchored then 1 else subject.size + 1 - position
  search subject (ofBytes body) none steps position

/-- The position at which bytes first occur as they are, from a position on. -/
def findPlain? (subject : Array UInt8) (wanted : Bytes) : Nat → Nat → Option Nat
  | 0, _ => none
  | steps + 1, position =>
    if slice subject position (position + wanted.length) = wanted then some position
    else findPlain? subject wanted steps (position + 1)

/-- The bytes that have a meaning of their own in patterns. -/
def specials : Bytes := Bytes.ofString "^$*+?.([%-"

end Pattern

end MediaImport.Script
