import MediaImport.Proofs.Exchange.UntouchedTable
import MediaImport.Proofs.Script.PropertyReads

/-!
# Handing back an untouched table

An object is shown to an interpreter, and the table is read again before anyone has
changed it.  The interpreter may be in any state, and the character sets of the
context do not matter: what an import context hands back is internal text.

Reading succeeds for every object.  What it gives is `Object.handedBack` if the
object itself is what missing properties are taken from, and `Object.recovered` if
there is nothing but the table.
-/

namespace MediaImport.Exchange

open MediaImport.Media MediaImport.Script

/-- The table of metadata inside the table that shows an object. -/
theorem ObjectTable.property_meta_allocate (shown : ObjectTable) (heap : Heap) :
    (shown.allocate heap).1.property (shown.allocate heap).2 "meta" = .table heap.fresh :=
  (shown.occupies_allocate heap).property_inner.1

/-- Neither a table nor the table of metadata in it has a metatable. -/
structure IsPlain (heap : Heap) (table : Nat) : Prop where
  outer : (heap.table table).metatable = none
  nested : ∀ id, heap.property table "meta" = .table id → (heap.table id).metatable = none

theorem isPlain_of_isBare {heap : Heap} (bare : heap.IsBare) (table : Nat) : IsPlain heap table :=
  ⟨bare table, fun id _ => bare id⟩

/-- The tables that show an object have no metatables. -/
theorem ObjectTable.Stands.isPlain {shown : ObjectTable} {heap : Heap} {table : Nat}
    (stands : shown.Stands heap table) : IsPlain heap table := by
  obtain ⟨metadata, auxiliary, resource, occupies⟩ := stands
  constructor
  · rw [occupies.outer]
    exact Table.metatable_ofEntries _
  · intro id answer
    rw [occupies.property_inner.1] at answer
    cases answer
    rw [occupies.metadata]
    exact Table.metatable_ofEntries _

theorem isPlain_allocate (shown : ObjectTable) (heap : Heap) :
    IsPlain (shown.allocate heap).1 (shown.allocate heap).2 :=
  (shown.stands_allocate heap).isPlain

namespace Reader

variable {σ : Type} (host : Host σ) (interpreter : Interpreter) (state : σ)

theorem asks_of_isPlain (reader : Reader) (previous : Option Object) {heap : Heap} {table : Nat}
    (plain : IsPlain heap table) :
    (reader.object previous (some table)).Asks
      (fun table key value => value = heap.property table key)
      (fun table => (heap.table table).metatable = none) askedNames :=
  reader.asks_object plain.outer (fun id answer => plain.nested id answer.symm) previous

/-- Reading plain tables is looking at what stands in them. -/
theorem read_of_isPlain (reader : Reader) (previous : Option Object) (table : Nat)
    (plain : IsPlain interpreter.heap table) :
    interpreter.read host state (reader.object previous (some table)) =
      (reader.outcome interpreter.heap.property table previous, interpreter, state) := by
  rw [Interpreter.read_of_plain host interpreter state _ askedNames
    (reader.asks_of_isPlain previous plain), under_object]

/-- Reading a table that nobody touched over the object that it shows, in whatever character
set. -/
theorem read_untouched (reader : Reader) (object : Object) :
    let shown := (ObjectTable.ofObject object).allocate interpreter.heap
    Interpreter.read host { interpreter with heap := shown.1 } state
        (reader.object (some object) (some shown.2)) =
      (.ok (some (reader.describedAs shown.1.property shown.2 (some object) object.kind.emptied)),
        { interpreter with heap := shown.1 }, state) := by
  intro shown
  have shows := (ObjectTable.ofObject object).shows_allocate interpreter.heap
  have plain := isPlain_allocate (ObjectTable.ofObject object) interpreter.heap
  rw [read_of_isPlain host { interpreter with heap := shown.1 } state _ _ _ plain,
    outcome_shows shows]

/-- What an untouched table shows, when the object is still at hand. -/
theorem under_untouched_over_object (conversions : Conversions) (object : Object) (heap : Heap) :
    let shown := (ObjectTable.ofObject object).allocate heap
    ((Reader.ofConversions .layout conversions).object (some object) (some shown.2)).under
        shown.1.property = .ok (some object.handedBack) := by
  intro shown
  have shows := (ObjectTable.ofObject object).shows_allocate heap
  rw [ofConversions_layout, under_object, outcome_shows shows, describedAs_handedBack shows]

/-- Handing back an untouched table, when the object is still at hand. -/
theorem read_untouched_over_object (conversions : Conversions) (object : Object) :
    let shown := (ObjectTable.ofObject object).allocate interpreter.heap
    Interpreter.read host { interpreter with heap := shown.1 } state
        ((Reader.ofConversions .layout conversions).object (some object) (some shown.2)) =
      (.ok (some object.handedBack), { interpreter with heap := shown.1 }, state) := by
  intro shown
  have plain := isPlain_allocate (ObjectTable.ofObject object) interpreter.heap
  rw [read_of_isPlain host { interpreter with heap := shown.1 } state _ _ _ plain, ← under_object,
    under_untouched_over_object]

/-- Handing back an untouched table, when there is nothing else. -/
theorem read_untouched_alone (conversions : Conversions) (object : Object) :
    let shown := (ObjectTable.ofObject object).allocate interpreter.heap
    Interpreter.read host { interpreter with heap := shown.1 } state
        ((Reader.ofConversions .layout conversions).object none (some shown.2)) =
      (.ok (some object.recovered), { interpreter with heap := shown.1 }, state) := by
  intro shown
  have shows := (ObjectTable.ofObject object).shows_allocate interpreter.heap
  have plain := isPlain_allocate (ObjectTable.ofObject object) interpreter.heap
  rw [ofConversions_layout,
    read_of_isPlain host { interpreter with heap := shown.1 } state internal _ _ plain,
    outcome_shows shows, describedAs_recovered shows]

end Reader

end MediaImport.Exchange
