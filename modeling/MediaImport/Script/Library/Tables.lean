import MediaImport.Script.Library.Arguments

/-!
# Functions on tables

Joining, inserting, removing, packing and sorting the items of a table.  Items
are read and stored through metatables.

Sorting moves the middle one of three items out of the way and divides the
others by it, so the order in which items are compared is fixed.  A comparison
that contradicts itself is noticed when a division would leave its bounds.
-/

namespace MediaImport.Script.Library

open Behaviour

/-- Read an item. -/
def item (table : Value) (place : Int) : Behaviour Value :=
  index none table (.int (Int64.ofInt place)) []

/-- Store an item. -/
def setItem (table : Value) (place : Int) (value : Value) : Behaviour Unit :=
  store none table (.int (Int64.ofInt place)) value []

/-- The number of items. -/
def itemCount (arguments : Arguments) : Behaviour Int := do
  let table := arguments.get 1
  match table with
  | .table _ => pure ()
  | _ => arguments.refuseKind 1 "table"
  match ← lengthOf {} table with
  | .int length => return length.toInt
  | _ => refuse (Bytes.ofString "object length is not an integer")

/-! ## Joining -/

/-- The texts of items, with a separator between them. -/
def joinFrom (table : Value) (separator : Bytes) : Nat → Int → Behaviour (List Bytes)
  | 0, _ => done []
  | remaining + 1, place => do
    let value ← item table place
    match value.asText? with
    | none =>
      refuse (Bytes.ofString
        ("invalid value (at index " ++ toString place ++ ") in table for 'concat'"))
    | some text =>
      let rest ← joinFrom table separator remaining (place + 1)
      return if remaining = 0 then [text] else text :: separator :: rest

def joinFunction (arguments : Arguments) : Behaviour (List Value) := do
  let last ← itemCount arguments
  let separator ← arguments.textOr 2 []
  let first ← arguments.wordOr 3 1
  let last ← arguments.wordOr 4 (Int64.ofInt last)
  let size := (last.toInt - first.toInt + 1).toNat
  return [.str (← joinFrom (arguments.get 1) separator size first.toInt).flatten]

/-! ## Inserting and removing -/

/-- Move items up by one place, the last one first. -/
def moveUp (table : Value) : Nat → Int → Behaviour Unit
  | 0, _ => done ()
  | remaining + 1, place => do
    setItem table place (← item table (place - 1))
    moveUp table remaining (place - 1)

/-- Move items down by one place. -/
def moveDown (table : Value) : Nat → Int → Behaviour Unit
  | 0, _ => done ()
  | remaining + 1, place => do
    setItem table place (← item table (place + 1))
    moveDown table remaining (place + 1)

def insertFunction (arguments : Arguments) : Behaviour (List Value) := do
  let next := (← itemCount arguments) + 1
  let table := arguments.get 1
  match arguments.values.length with
  | 2 =>
    setItem table next (arguments.get 2)
    return []
  | 3 =>
    let place := (← arguments.word 2).toInt
    if place < 1 || next < place then arguments.refuse 2 "position out of bounds"
    else
      moveUp table (next - place).toNat next
      setItem table place (arguments.get 3)
      return []
  | _ => refuse (Bytes.ofString "wrong number of arguments to 'insert'")

def removeFunction (arguments : Arguments) : Behaviour (List Value) := do
  let size ← itemCount arguments
  let table := arguments.get 1
  let place := (← arguments.wordOr 2 (Int64.ofInt size)).toInt
  if place ≠ size && (place < 1 || size + 1 < place) then
    arguments.refuse 2 "position out of bounds"
  else
    let removed ← item table place
    moveDown table (size - place).toNat place
    setItem table (max place size) .nil
    return [removed]

/-! ## Packing -/

def packFunction (arguments : Arguments) : Behaviour (List Value) := do
  let places := (List.range arguments.values.length).map fun place => count (place + 1)
  let entries := places.zip arguments.values
  let size := (Value.ofString "n", count arguments.values.length)
  return [← newTable (.ofEntries (entries ++ [size]))]

def itemsFrom (table : Value) : Nat → Int → Behaviour (List Value)
  | 0, _ => done []
  | remaining + 1, place => do
    let value ← item table place
    return value :: (← itemsFrom table remaining (place + 1))

/-- The greatest number of values that a function may return. -/
def resultLimit : Nat := 1000000

def unpackFunction (arguments : Arguments) : Behaviour (List Value) := do
  let table := arguments.get 1
  let first ← arguments.wordOr 2 1
  let last ←
    if arguments.isAbsent 3 then
      match ← lengthOf {} table with
      | .int length => done length
      | _ => refuse (Bytes.ofString "object length is not an integer")
    else arguments.word 3
  let size := (last.toInt - first.toInt + 1).toNat
  if resultLimit ≤ size then refuse (Bytes.ofString "too many results to unpack")
  else itemsFrom table size first.toInt

/-! ## Sorting -/

/-- Whether an item belongs before another. -/
def belongsBefore (function : Value) (left right : Value) : Behaviour Bool :=
  match function with
  | .nil => compareValues none false left right
  | _ => (fun results => (Value.first results).isTrue) <$> callValue function [left, right]

/-- Put two items into each other's places. -/
def exchange (table : Value) (first second : Int) (atFirst atSecond : Value) :
    Behaviour Unit := do
  setItem table first atSecond
  setItem table second atFirst

/-- Stop because a comparison contradicts itself. -/
def refuseOrder {α : Type} : Behaviour α :=
  refuse (Bytes.ofString "invalid order function for sorting")

/-- Search upwards for an item that does not belong before the dividing one. -/
def searchUp (table function pivot : Value) (bound : Int) :
    Nat → Int → Behaviour (Int × Value)
  | 0, _ => refuseOrder
  | steps + 1, place => do
    let value ← item table place
    if ← belongsBefore function value pivot then
      if place = bound then refuseOrder
      else searchUp table function pivot bound steps (place + 1)
    else return (place, value)

/-- Search downwards for an item that the dividing one does not belong before. -/
def searchDown (table function pivot : Value) (bound : Int) :
    Nat → Int → Behaviour (Int × Value)
  | 0, _ => refuseOrder
  | steps + 1, place => do
    let value ← item table place
    if ← belongsBefore function pivot value then
      if place < bound then refuseOrder
      else searchDown table function pivot bound steps (place - 1)
    else return (place, value)

/-- Divide the items between two places, the dividing one being last but one: its
new place. -/
def divide (table function pivot : Value) (up : Int) :
    Nat → Int → Int → Behaviour Int
  | 0, _, _ => refuseOrder
  | steps + 1, low, high => do
    let size := (up - low).toNat + 2
    let (left, leftValue) ← searchUp table function pivot (up - 1) size (low + 1)
    let (right, rightValue) ←
      searchDown table function pivot left ((high - left).toNat + 2) (high - 1)
    if right < left then
      exchange table (up - 1) left pivot leftValue
      return left
    else
      exchange table left right leftValue rightValue
      divide table function pivot up steps left right

/-- Put two items in order. -/
def orderPair (table function : Value) (low high : Int) : Behaviour Unit := do
  let lowValue ← item table low
  let highValue ← item table high
  if ← belongsBefore function highValue lowValue then
    exchange table low high lowValue highValue

/-- Put the middle item in order with the ones at both ends. -/
def orderMiddle (table function : Value) (low middle high : Int) : Behaviour Unit := do
  let middleValue ← item table middle
  let lowValue ← item table low
  if ← belongsBefore function middleValue lowValue then
    exchange table middle low middleValue lowValue
  else
    let highValue ← item table high
    if ← belongsBefore function highValue middleValue then
      exchange table middle high middleValue highValue

/-- Sort the items between two places, both included. -/
def sortFrom (table function : Value) : Nat → Int → Int → Behaviour Unit
  | 0, _, _ => done ()
  | steps + 1, low, high => do
    if high ≤ low then return
    orderPair table function low high
    if high - low = 1 then return
    let middle := (low + high) / 2
    orderMiddle table function low middle high
    if high - low = 2 then return
    let pivot ← item table middle
    let beforeLast ← item table (high - 1)
    exchange table middle (high - 1) pivot beforeLast
    let place ← divide table function pivot high (high - low).toNat low (high - 1)
    if place - low < high - place then
      sortFrom table function steps low (place - 1)
      sortFrom table function steps (place + 1) high
    else
      sortFrom table function steps (place + 1) high
      sortFrom table function steps low (place - 1)

/-- The greatest number of items that can be sorted. -/
def sortLimit : Int := 2147483647

def sortFunction (arguments : Arguments) : Behaviour (List Value) := do
  let size ← itemCount arguments
  if 1 < size then
    if sortLimit ≤ size then arguments.refuse 1 "array too big"
    let function := arguments.get 2
    if !arguments.isAbsent 2 && !function.isFunction then arguments.refuseKind 2 "function"
    sortFrom (arguments.get 1) function size.toNat 1 size
  return []

end MediaImport.Script.Library
