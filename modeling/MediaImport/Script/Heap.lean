import Std.Data.TreeMap
import MediaImport.Failure
import MediaImport.Script.World

/-!
# The heap

Everything that scripts can change or share lives on the heap under a number:
tables, local variables, functions with the scope they were written in, searches
in progress, and failures that crossed into a script.  Numbers come from one
supply and are never used again, so whatever is made is different from
everything that was there.  Beside all that stands the world, which takes note of
the calls that scripts make to it.
-/

namespace MediaImport.Script

/-- A table: its entries, none of which is nil, and its metatable. -/
structure Table where
  entries : Std.TreeMap Value Value Value.order := ∅
  metatable : Option Nat := none

namespace Table

/-- The value under a key, nil if there is none. -/
def get (table : Table) (key : Value) : Value :=
  table.entries.getD key.asKey .nil

/-- Store a value under a key; storing nil removes the entry. -/
def set (table : Table) (key value : Value) : Table :=
  match value with
  | .nil => { table with entries := table.entries.erase key.asKey }
  | _ => { table with entries := table.entries.insert key.asKey value }

/-- The table with the given entries, a later one replacing an earlier one. -/
def ofEntries (entries : List (Value × Value)) : Table :=
  entries.foldl (fun table entry => table.set entry.1 entry.2) {}

/-- The greatest positive integer key, zero if there is none. -/
def length (table : Table) : Int64 :=
  match table.entries.getKeyLE? (.int 9223372036854775807) with
  | some (.int key) => if 0 < key then key else 0
  | _ => 0

/-- The entry after a key in the order of keys; the first one after nil. -/
def next? (table : Table) (key : Value) : Option (Value × Value) :=
  match key with
  | .nil => table.entries.minEntry?
  | key => table.entries.getEntryGT? key.asKey

end Table

/-- A local variable in scope: its name, where its value is kept, and how many
functions enclose its declaration. -/
structure Binding where
  name : String
  cell : Nat
  level : Nat

/-- What the names in a piece of program refer to. -/
structure Scope where
  /-- The local variables, innermost first. -/
  bindings : List Binding
  /-- The extra arguments of the function. -/
  varargs : List Value
  /-- The name of the script, as errors report it. -/
  chunk : Bytes
  /-- The number of enclosing functions. -/
  level : Nat

namespace Scope

/-- The variable that a name refers to. -/
def find? (scope : Scope) (name : String) : Option Binding :=
  scope.bindings.find? fun binding => binding.name == name

/-- Bring a variable into scope. -/
def bind (scope : Scope) (name : String) (cell : Nat) : Scope :=
  { scope with bindings := ⟨name, cell, scope.level⟩ :: scope.bindings }

/-- Leave only the outer variables in scope. -/
def truncate (scope : Scope) (count : Nat) : Scope :=
  { scope with bindings := scope.bindings.drop (scope.bindings.length - count) }

end Scope

/-- A function of a script. -/
structure Closure where
  function : Function
  scope : Scope

/-- A search for every match of a pattern: where the next one may start, and
where the last one ended. -/
structure Search where
  subject : Bytes
  pattern : Bytes
  start : Nat
  lastEnd : Option Nat

/-- Everything that scripts can change or share. -/
structure Heap where
  tables : Std.TreeMap Nat Table := ∅
  cells : Std.TreeMap Nat Value := ∅
  closures : Std.TreeMap Nat Closure := ∅
  searches : Std.TreeMap Nat Search := ∅
  faults : Std.TreeMap Nat Failure := ∅
  /-- The first number that is not in use. -/
  fresh : Nat := 0
  /-- The table of global variables. -/
  globals : Nat := 0
  /-- The metatable of strings. -/
  strings : Option Nat := none
  /-- The metatable of handles. -/
  handles : Option Nat := none
  world : World := {}

namespace Heap

/-- The table with a number; an empty one if there is none. -/
def table (heap : Heap) (id : Nat) : Table :=
  heap.tables.getD id {}

/-- The value of a local variable. -/
def cell (heap : Heap) (id : Nat) : Value :=
  heap.cells.getD id .nil

/-- Replace a table. -/
def setTable (heap : Heap) (id : Nat) (table : Table) : Heap :=
  { heap with tables := heap.tables.insert id table }

/-- Store a value under a key of a table, without metamethods. -/
def rawSet (heap : Heap) (id : Nat) (key value : Value) : Heap :=
  heap.setTable id ((heap.table id).set key value)

/-- The value under a key of a table, without metamethods. -/
def rawGet (heap : Heap) (id : Nat) (key : Value) : Value :=
  (heap.table id).get key

/-- Make a table. -/
def newTable (heap : Heap) (table : Table) : Heap × Nat :=
  ({ heap with tables := heap.tables.insert heap.fresh table, fresh := heap.fresh + 1 },
    heap.fresh)

/-- Make a local variable. -/
def newCell (heap : Heap) (value : Value) : Heap × Nat :=
  ({ heap with cells := heap.cells.insert heap.fresh value, fresh := heap.fresh + 1 },
    heap.fresh)

/-- Make a function. -/
def newClosure (heap : Heap) (closure : Closure) : Heap × Nat :=
  ({ heap with closures := heap.closures.insert heap.fresh closure, fresh := heap.fresh + 1 },
    heap.fresh)

/-- Make a search. -/
def newSearch (heap : Heap) (search : Search) : Heap × Nat :=
  ({ heap with searches := heap.searches.insert heap.fresh search, fresh := heap.fresh + 1 },
    heap.fresh)

/-- Make a failure that a script can hold. -/
def newFault (heap : Heap) (failure : Failure) : Heap × Nat :=
  ({ heap with faults := heap.faults.insert heap.fresh failure, fresh := heap.fresh + 1 },
    heap.fresh)

/-- The metatable of a value: tables have their own, all strings share one, and so do all
handles. -/
def metatable? (heap : Heap) : Value → Option Nat
  | .table id => (heap.table id).metatable
  | .str _ => heap.strings
  | .handle _ => heap.handles
  | _ => none

/-- What a metatable holds under the name of an event, nil if there is nothing. -/
def metamethod (heap : Heap) (value : Value) (event : String) : Value :=
  match heap.metatable? value with
  | some id => heap.rawGet id (.ofString event)
  | none => .nil

end Heap

end MediaImport.Script
