import Std.Data.ExtTreeMap
import MediaImport.Proofs.Text.Utf8
import MediaImport.Script.Heap

/-!
# What stands in a table

Reading a table back under string keys.  Storing under one string changes what is
read under that string and nothing else, and a table that is made of entries
gives, under each string, the last entry for it.

The order of keys is a total preorder, and two strings are equal in it only if
they have the same bytes; that is all that reading under strings needs.
-/

namespace MediaImport.Script

instance : Std.TransCmp Value.order := by
  unfold Value.order
  infer_instance

theorem Value.order_str_eq_iff (left right : Bytes) :
    Value.order (.str left) (.str right) = .eq ↔ left = right := by
  simp [Value.order, compareLex, compareOn, Value.rank, Value.number, Value.bytes]

/-! ## One table -/

namespace Table

theorem get_empty (key : Value) : ({} : Table).get key = .nil := by
  simp [get]

theorem get_set_str (table : Table) (stored wanted : Bytes) (value : Value) :
    (table.set (.str stored) value).get (.str wanted) =
      if stored = wanted then value else table.get (.str wanted) := by
  have same := Value.order_str_eq_iff stored wanted
  cases value with
  | nil => simp only [get, set, Value.asKey, Std.TreeMap.getD_erase, same]
  | _ => simp only [get, set, Value.asKey, Std.TreeMap.getD_insert, same]

@[simp]
theorem metatable_set (table : Table) (key value : Value) :
    (table.set key value).metatable = table.metatable := by
  cases value <;> rfl

/-- Store entries one after the other. -/
def setAll (table : Table) (entries : List (Value × Value)) : Table :=
  entries.foldl (fun table entry => table.set entry.1 entry.2) table

theorem ofEntries_eq_setAll (entries : List (Value × Value)) :
    ofEntries entries = ({} : Table).setAll entries := rfl

theorem metatable_setAll (table : Table) (entries : List (Value × Value)) :
    (table.setAll entries).metatable = table.metatable := by
  induction entries generalizing table with
  | nil => rfl
  | cons entry rest ih => exact (ih _).trans (metatable_set _ _ _)

@[simp]
theorem metatable_ofEntries (entries : List (Value × Value)) :
    (ofEntries entries).metatable = none :=
  metatable_setAll {} entries

/-- Entries under strings. -/
def stringEntries (entries : List (String × Value)) : List (Value × Value) :=
  entries.map fun entry => (.ofString entry.1, entry.2)

/-- The last value that entries give for a name, if any. -/
def lastIn (entries : List (String × Value)) (name : String) : Option Value :=
  entries.reverse.lookup name

@[simp]
theorem lastIn_nil (name : String) : lastIn [] name = none := rfl

@[simp]
theorem lastIn_append (first second : List (String × Value)) (name : String) :
    lastIn (first ++ second) name = (lastIn second name).or (lastIn first name) := by
  rw [lastIn, List.reverse_append, List.lookup_append]
  rfl

theorem lastIn_singleton (key name : String) (value : Value) :
    lastIn [(key, value)] name = if key = name then some value else none := by
  by_cases same : key = name
  · simp [lastIn, same]
  · simp [lastIn, same, List.lookup_cons, beq_eq_false_iff_ne.mpr (Ne.symm same)]

@[simp]
theorem lastIn_cons (entry : String × Value) (rest : List (String × Value)) (name : String) :
    lastIn (entry :: rest) name =
      (lastIn rest name).or (if entry.1 = name then some entry.2 else none) := by
  rw [← List.singleton_append, lastIn_append, ← lastIn_singleton]

theorem get_setAll (table : Table) (entries : List (String × Value)) (name : String) :
    (table.setAll (stringEntries entries)).get (.ofString name) =
      (lastIn entries name).getD (table.get (.ofString name)) := by
  induction entries generalizing table with
  | nil => rfl
  | cons entry rest ih =>
    obtain ⟨key, value⟩ := entry
    change ((table.set (.ofString key) value).setAll (stringEntries rest)).get _ = _
    rw [ih, lastIn_cons]
    cases lastIn rest name with
    | some last => rfl
    | none =>
      simp only [Value.ofString, get_set_str, Bytes.ofString_inj]
      by_cases same : key = name <;> simp [same]

/-- Under each string stands the last value that the entries give for it. -/
theorem get_ofEntries (entries : List (String × Value)) (name : String) :
    (ofEntries (stringEntries entries)).get (.ofString name) =
      (lastIn entries name).getD .nil := by
  rw [ofEntries_eq_setAll, get_setAll, get_empty]

end Table

/-! ## Tables on the heap -/

namespace Heap

theorem table_newTable (heap : Heap) (table : Table) (id : Nat) :
    (heap.newTable table).1.table id =
      if id = heap.fresh then table else heap.table id := by
  by_cases same : id = heap.fresh
  · simp [newTable, Heap.table, same]
  · simp [newTable, Heap.table, same, Std.TreeMap.getD_insert, Ne.symm same]

@[simp]
theorem newTable_id (heap : Heap) (table : Table) :
    (heap.newTable table).2 = heap.fresh := rfl

@[simp]
theorem fresh_newTable (heap : Heap) (table : Table) :
    (heap.newTable table).1.fresh = heap.fresh + 1 := rfl

/-- The value under a string in a table, whatever its metatable. -/
def property (heap : Heap) (id : Nat) (name : String) : Value :=
  heap.rawGet id (.ofString name)

/-- No table on the heap has a metatable. -/
def IsBare (heap : Heap) : Prop :=
  ∀ id, (heap.table id).metatable = none

theorem isBare_empty : IsBare {} :=
  fun _ => rfl

/-- Making tables of entries leaves a heap bare. -/
theorem IsBare.newTable {heap : Heap} (bare : heap.IsBare) (entries : List (Value × Value)) :
    (heap.newTable (.ofEntries entries)).1.IsBare := by
  intro id
  rw [table_newTable]
  split
  · exact Table.metatable_ofEntries entries
  · exact bare id

end Heap

end MediaImport.Script
