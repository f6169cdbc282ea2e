import MediaImport.Script.Library.Arguments
import MediaImport.Script.Pattern

/-!
# Functions on strings

Parts of strings, letter case, repetition, and searching and replacing by
patterns.  Positions count bytes from one; a negative position counts from the
end.
-/

namespace MediaImport.Script.Library

open Behaviour

/-! ## Positions -/

/-- The position at which a part starts, in a string of some length. -/
def startPosition (position : Int64) (length : Nat) : Nat :=
  let position := position.toInt
  if 0 < position then position.toNat
  else if position = 0 then 1
  else (max 1 (length + position + 1)).toNat

/-- The position at which a part ends, in a string of some length. -/
def stopPosition (position : Int64) (length : Nat) : Nat :=
  let position := position.toInt
  if 0 ≤ position then min position.toNat length
  else (max 0 (length + position + 1)).toNat

/-- The part of a string between two positions, both included. -/
def part (text : Bytes) (start stop : Nat) : Bytes :=
  (text.drop (start - 1)).take (stop + 1 - start)

/-! ## Plain functions -/

def partFunction (arguments : Arguments) : Behaviour (List Value) := do
  let text ← arguments.text 1
  let start ← arguments.word 2
  let stop ← arguments.wordOr 3 (-1)
  return [.str (part text (startPosition start text.length) (stopPosition stop text.length))]

def byteFunction (arguments : Arguments) : Behaviour (List Value) := do
  let text ← arguments.text 1
  let start ← arguments.wordOr 2 1
  let stop ← arguments.wordOr 3 start
  let bytes := part text (startPosition start text.length) (stopPosition stop text.length)
  return bytes.map fun byte => count byte.toNat

/-- The bytes with the values of the arguments from one on. -/
def bytesFrom (arguments : Arguments) : Nat → Nat → Behaviour Bytes
  | 0, _ => done []
  | remaining + 1, index => do
    let code ← arguments.word index
    if 0 ≤ code && code ≤ 255 then
      return code.toUInt64.toUInt8 :: (← bytesFrom arguments remaining (index + 1))
    else arguments.refuse index "value out of range"

def charFunction (arguments : Arguments) : Behaviour (List Value) := do
  return [.str (← bytesFrom arguments arguments.values.length 1)]

def lengthFunction (arguments : Arguments) : Behaviour (List Value) := do
  return [count (← arguments.text 1).length]

def lowerByte (byte : UInt8) : UInt8 :=
  if Bytes.isUpper byte then byte + 32 else byte

def upperByte (byte : UInt8) : UInt8 :=
  if Bytes.isLower byte then byte - 32 else byte

def mapFunction (change : Bytes → Bytes) (arguments : Arguments) : Behaviour (List Value) := do
  return [.str (change (← arguments.text 1))]

/-- The longest string that may be built by repetition. -/
def repetitionLimit : Nat := 2147483647

def repeatFunction (arguments : Arguments) : Behaviour (List Value) := do
  let text ← arguments.text 1
  let times ← arguments.word 2
  let separator ← arguments.textOr 3 []
  let times := times.toInt.toNat
  if times = 0 then return [.str []]
  else if repetitionLimit / times < text.length + separator.length then
    refuse (Bytes.ofString "resulting string too large")
  else return [.str (text ++ (List.replicate (times - 1) (separator ++ text)).flatten)]

/-! ## Captures -/

/-- Stop because of a pattern. -/
def refusePattern {α : Type} (fault : PatternFault) : Behaviour α :=
  refuse (Bytes.ofString fault.message)

/-- What a capture holds. -/
def captureValue (subject : Array UInt8) (capture : Pattern.Capture) : Behaviour Value :=
  match capture.extent with
  | .unfinished => refusePattern .unfinishedCapture
  | .position => done (count (capture.start + 1))
  | .length bytes => done (.str (Pattern.slice subject capture.start (capture.start + bytes)))

def captureValues (subject : Array UInt8) : List Pattern.Capture → Behaviour (List Value)
  | [] => done []
  | capture :: rest => do
    let value ← captureValue subject capture
    return value :: (← captureValues subject rest)

/-- The whole match. -/
def wholeMatch (subject : Array UInt8) (found : Pattern.Match) : Value :=
  .str (Pattern.slice subject found.start found.stop)

/-- The captures of a match; the whole match if there are none. -/
def matchValues (subject : Array UInt8) (found : Pattern.Match) : Behaviour (List Value) :=
  if found.captures.isEmpty then done [wholeMatch subject found]
  else captureValues subject found.captures

/-! ## Searching -/

/-- A pattern that has no special bytes. -/
def isPlain (pattern : Bytes) : Bool :=
  !pattern.any Pattern.specials.contains

/-- Find a pattern: the bounds of the match and its captures, or only these. -/
def searchFunction (withBounds : Bool) (arguments : Arguments) : Behaviour (List Value) := do
  let text ← arguments.text 1
  let pattern ← arguments.text 2
  let start := startPosition (← arguments.wordOr 3 1) text.length - 1
  if text.length < start then return [.nil]
  let subject := text.toArray
  if withBounds && ((arguments.get 4).isTrue || isPlain pattern) then
    match Pattern.findPlain? subject pattern (text.length + 1 - start) start with
    | some position => return [count (position + 1), count (position + pattern.length)]
    | none => return [.nil]
  else
    match Pattern.find? subject pattern start with
    | .error fault => refusePattern fault
    | .ok none => return [.nil]
    | .ok (some found) =>
      if withBounds then
        let captures ← captureValues subject found.captures
        return count (found.start + 1) :: count found.stop :: captures
      else matchValues subject found

/-- The iterator over all matches of a pattern. -/
def matchesFunction (arguments : Arguments) : Behaviour (List Value) := do
  let subject ← arguments.text 1
  let pattern ← arguments.text 2
  let start := startPosition (← arguments.wordOr 3 1) subject.length - 1
  let search : Search :=
    { subject, pattern, start := min start (subject.length + 1), lastEnd := none }
  let id ← make fun heap => heap.newSearch search
  return [.native (.iterator id)]

/-- The next match of a search. -/
def nextMatch (id : Nat) : Behaviour (List Value) := do
  match ← look fun heap => heap.searches.get? id with
  | none => return [.nil]
  | some search =>
    let subject := search.subject.toArray
    match
      Pattern.search subject (Pattern.ofBytes search.pattern) search.lastEnd
        (subject.size + 1 - search.start) search.start with
    | .error fault => refusePattern fault
    | .ok none => return [.nil]
    | .ok (some found) =>
      let next := { search with start := found.stop, lastEnd := some found.stop }
      write (fun heap => { heap with searches := heap.searches.insert id next }) fun _ =>
        matchValues subject found

/-! ## Replacing -/

/-- What takes the place of a match: a text with marks for captures, or what a
table or a function says about the first capture. -/
inductive Replacement where
  | text (marked : Bytes)
  | lookup (table : Value)
  | answer (function : Value)

/-- A text with its marks replaced by captures of a match. -/
def fillMarks (subject : Array UInt8) (found : Pattern.Match) : Bytes → Behaviour Bytes
  | [] => done []
  | 0x25 :: rest =>
    match rest with
    | 0x25 :: rest => do return 0x25 :: (← fillMarks subject found rest)
    | digit :: rest => do
      if !Bytes.isDigit digit then
        refuse (Bytes.ofString "invalid use of '%' in replacement string")
      let index := digit.toNat - 0x30
      let value ←
        if index = 0 || (index = 1 && found.captures.isEmpty) then
          done (wholeMatch subject found)
        else
          match found.captures[index - 1]? with
          | some capture => captureValue subject capture
          | none =>
            refuse (Bytes.ofString
              ("invalid capture index %" ++ toString index ++ " in replacement string"))
      return (value.asText?.getD []) ++ (← fillMarks subject found rest)
    | [] => refuse (Bytes.ofString "invalid use of '%' in replacement string")
  | byte :: rest => do return byte :: (← fillMarks subject found rest)

/-- What takes the place of one match. -/
def replace (subject : Array UInt8) (found : Pattern.Match) (replacement : Replacement) :
    Behaviour Bytes := do
  let whole := Pattern.slice subject found.start found.stop
  let chosen (value : Value) : Behaviour Bytes :=
    match value with
    | .nil => done whole
    | .bool false => done whole
    | _ =>
      match value.asText? with
      | some text => done text
      | none => do
        let type ← look fun heap => value.typeNameIn heap
        refuse (Bytes.ofString "invalid replacement value (a " ++ type ++ Bytes.ofString ")")
  match replacement with
  | .text marked => fillMarks subject found marked
  | .lookup table => do
    let captures ← matchValues subject found
    chosen (← index none table (Value.first captures) [])
  | .answer function => do
    let captures ← matchValues subject found
    chosen (Value.first (← callValue function captures))

/-- Replace matches from a position on, at most so many: the pieces of the result,
newest first, and the number of replacements. -/
def replaceFrom (subject : Array UInt8) (elements : List PatternElement) (anchored : Bool)
    (replacement : Replacement) :
    Nat → Nat → Nat → Option Nat → List Bytes → Nat → Behaviour (List Bytes × Nat)
  | 0, _, _, _, pieces, replaced => done (pieces, replaced)
  | steps + 1, most, position, lastEnd, pieces, replaced =>
    if most = 0 then done (Pattern.slice subject position subject.size :: pieces, replaced)
    else
      match Pattern.search subject elements lastEnd 1 position with
      | .error fault => refusePattern fault
      | .ok (some found) => do
        let piece ← replace subject found replacement
        let pieces := piece :: pieces
        if anchored then
          return (Pattern.slice subject found.stop subject.size :: pieces, replaced + 1)
        else
          replaceFrom subject elements anchored replacement steps (most - 1) found.stop
            (some found.stop) pieces (replaced + 1)
      | .ok none =>
        if subject.size ≤ position || anchored then
          done (Pattern.slice subject position subject.size :: pieces, replaced)
        else
          replaceFrom subject elements anchored replacement steps most (position + 1) lastEnd
            (Pattern.slice subject position (position + 1) :: pieces) replaced

def replaceFunction (arguments : Arguments) : Behaviour (List Value) := do
  let text ← arguments.text 1
  let pattern ← arguments.text 2
  let replacement ←
    match arguments.get 3 with
    | .table id => done (Replacement.lookup (.table id))
    | value =>
      if value.isFunction then done (Replacement.answer value)
      else
        match value.asText? with
        | some marked => done (Replacement.text marked)
        | none => arguments.refuseKind 3 "string/function/table"
  let most ← arguments.wordOr 4 (Int64.ofNat (text.length + 1))
  let subject := text.toArray
  let (anchored, body) := Pattern.splitAnchor pattern
  let (pieces, replaced) ←
    replaceFrom subject (Pattern.ofBytes body) anchored replacement (2 * subject.size + 2)
      most.toInt.toNat 0 none [] 0
  return [.str pieces.reverse.flatten, count replaced]

end MediaImport.Script.Library
