import MediaImport.Exchange.HostFunctions
import MediaImport.Proofs.Script.Assignments

/-!
# Heaps that hold nothing to call

To look into a table and to describe a value may call what a metatable has for that.
`Heap.IsInert` says that metatables have nothing for it but functions of the application, and
that the table of global variables has no metatable.  The heap that a script starts with is like
that, and stays so when the names of the application are put on it, when an object is shown, and
when a global variable is set.
-/

namespace MediaImport.Script

open MediaImport.Exchange

/-! ## What can be called -/

/-- To call the value is to call a function of the application, if anything. -/
def Value.IsInert : Value → Prop
  | .closure _ => False
  | .native (.host _) => True
  | .native .idle => True
  | .native _ => False
  | _ => True

/-- The names of what metatables have for looking into a value, for calling it, and for its
text. -/
def calledEvents : List String :=
  ["__index", "__call", "__tostring"]

/-- Nothing stands in the table that could be called as a metamethod, other than functions of
the application. -/
def Table.IsInert (table : Table) : Prop :=
  ∀ event ∈ calledEvents, (table.get (.ofString event)).IsInert

/-- No metatable has anything to call other than functions of the application, and the table of
global variables has no metatable. -/
structure Heap.IsInert (heap : Heap) : Prop where
  tables : ∀ id, (heap.table id).IsInert
  plain : (heap.table heap.globals).metatable = none
  inUse : heap.globals < heap.fresh

namespace Table

theorem isInert_empty : IsInert {} :=
  fun event _ => by rw [get_empty]; trivial

theorem IsInert.set {table : Table} (inert : table.IsInert) {key value : Value}
    (harmless : key ∈ calledEvents.map Value.ofString → value.IsInert) :
    (table.set key value).IsInert := by
  intro event called
  rw [Value.ofString, get_set]
  split
  · next same =>
    exact harmless (same ▸ List.mem_map_of_mem called)
  · exact inert event called

/-- A table of entries is inert if each entry is that would be called. -/
theorem isInert_ofEntries {entries : List (Value × Value)}
    (harmless : ∀ entry ∈ entries, entry.1 ∈ calledEvents.map Value.ofString → entry.2.IsInert) :
    (ofEntries entries).IsInert := by
  suffices kept : ∀ table : Table, table.IsInert → (table.setAll entries).IsInert from
    kept {} isInert_empty
  induction entries with
  | nil => exact fun table inert => inert
  | cons entry rest ih =>
    intro table inert
    obtain ⟨first, others⟩ := List.forall_mem_cons.mp harmless
    exact ih others _ (inert.set first)

end Table

namespace Heap

variable {heap : Heap}

theorem IsInert.metamethod (inert : heap.IsInert) (value : Value) (event : String)
    (called : event ∈ calledEvents) : (heap.metamethod value event).IsInert := by
  rw [Heap.metamethod]
  split
  · exact inert.tables _ event called
  · trivial

theorem IsInert.newTable (inert : heap.IsInert) {table : Table} (harmless : table.IsInert) :
    (heap.newTable table).1.IsInert where
  tables id := by
    rw [table_newTable]
    split
    · exact harmless
    · exact inert.tables id
  plain := by
    have older : heap.globals ≠ heap.fresh := Nat.ne_of_lt inert.inUse
    exact (congrArg Table.metatable ((table_newTable heap table heap.globals).trans
      (if_neg older))).trans inert.plain
  inUse := Nat.lt_succ_of_lt inert.inUse

/-- Put tables on the heap. -/
def addTables (heap : Heap) : List Table → Heap
  | [] => heap
  | table :: tables => (heap.newTable table).1.addTables tables

theorem IsInert.addTables {tables : List Table} (inert : heap.IsInert)
    (harmless : ∀ table ∈ tables, table.IsInert) : (heap.addTables tables).IsInert := by
  induction tables generalizing heap with
  | nil => exact inert
  | cons table rest ih =>
    obtain ⟨first, others⟩ := List.forall_mem_cons.mp harmless
    exact ih (inert.newTable first) others

theorem IsInert.newFault (inert : heap.IsInert) (failure : Failure) :
    (heap.newFault failure).1.IsInert :=
  ⟨inert.tables, inert.plain, Nat.lt_succ_of_lt inert.inUse⟩

theorem IsInert.rawSet (inert : heap.IsInert) (id : Nat) {key value : Value}
    (harmless : key ∈ calledEvents.map Value.ofString → value.IsInert) :
    (heap.rawSet id key value).IsInert where
  tables other := by
    rw [table_rawSet]
    split
    · exact (inert.tables id).set harmless
    · exact inert.tables other
  plain := (metatable_rawSet heap id _ key value).trans inert.plain
  inUse := inert.inUse

end Heap

/-! ## Tables of objects -/

/-- A value that is complete in itself, and not the number of something that stands elsewhere. -/
def Value.IsScalar : Value → Prop
  | .nil | .bool _ | .int _ | .float _ | .str _ => True
  | _ => False

theorem Value.IsScalar.isInert {value : Value} (scalar : value.IsScalar) : value.IsInert := by
  cases value with
  | closure id => exact scalar
  | native function => exact scalar.elim
  | _ => trivial

theorem Value.IsScalar.ne_table {value : Value} (scalar : value.IsScalar) (id : Nat) :
    value ≠ .table id := by
  rintro rfl
  exact scalar

theorem isScalar_bytesProperty (name : String) (contents : Bytes) :
    ∀ entry ∈ ObjectTable.bytesProperty name contents, entry.2.IsScalar := by
  intro entry member
  unfold ObjectTable.bytesProperty at member
  split at member
  · cases member
  · obtain rfl := List.mem_singleton.mp member
    trivial

theorem isScalar_idProperty (name : String) (id : Int32) :
    ∀ entry ∈ ObjectTable.idProperty name id, entry.2.IsScalar := by
  intro entry member
  unfold ObjectTable.idProperty at member
  split at member
  · cases member
  · obtain rfl := List.mem_singleton.mp member
    trivial

theorem isScalar_kindProperties (kind : Media.Kind) :
    ∀ entry ∈ ObjectTable.kindProperties kind, entry.2.IsScalar := by
  have text (name text : String) := isScalar_bytesProperty name (Bytes.ofString text)
  cases kind with
  | item contents =>
    rw [ObjectTable.kindProperties]
    refine List.forall_mem_append.mpr
      ⟨List.forall_mem_append.mpr ⟨text _ _, text _ _⟩, ?_⟩
    split
    · exact List.forall_mem_append.mpr ⟨text _ _, text _ _⟩
    · exact List.forall_mem_nil _
  | container contents =>
    exact List.forall_mem_cons.mpr ⟨trivial, List.forall_mem_singleton.mpr trivial⟩

/-- All properties that show an object are complete in themselves. -/
theorem isScalar_properties (object : Media.Object) :
    ∀ entry ∈ (ObjectTable.ofObject object).properties, entry.2.IsScalar := by
  simp only [ObjectTable.ofObject, ObjectTable.textProperty, List.forall_mem_append,
    List.forall_mem_cons]
  refine ⟨⟨⟨⟨⟨⟨⟨?_, isScalar_idProperty _ _⟩, isScalar_idProperty _ _⟩,
    isScalar_bytesProperty _ _⟩, isScalar_bytesProperty _ _⟩, isScalar_bytesProperty _ _⟩, ?_⟩,
    isScalar_kindProperties _⟩
  · exact ⟨trivial, List.forall_mem_nil _⟩
  · exact ⟨trivial, trivial, trivial, trivial, trivial, List.forall_mem_nil _⟩

/-- To show an object leaves a heap inert: there are no functions in the tables. -/
theorem Heap.IsInert.allocate {heap : Heap} (inert : heap.IsInert) (object : Media.Object) :
    ((ObjectTable.ofObject object).allocate heap).1.IsInert := by
  have texts (texts : TextMap) : (ObjectTable.tableOfTexts texts).IsInert := by
    refine Table.isInert_ofEntries fun entry member _ => ?_
    obtain ⟨⟨key, text⟩, -, rfl⟩ := List.mem_map.mp member
    trivial
  refine (((inert.newTable (texts _)).newTable (texts _)).newTable (texts _)).newTable ?_
  refine Table.isInert_ofEntries fun entry member _ => ?_
  rcases List.mem_append.mp member with property | nested
  · obtain ⟨⟨name, value⟩, listed, rfl⟩ := List.mem_map.mp property
    exact (isScalar_properties object _ listed).isInert
  · simp only [List.mem_cons, List.not_mem_nil, or_false] at nested
    rcases nested with rfl | rfl | rfl <;> trivial

/-! ## The heap that a script starts with -/

/-- Of these entries, those that a metatable would call are harmless. -/
def AreInert (entries : List (Value × Value)) : Prop :=
  ∀ entry ∈ entries, entry.1 ∈ calledEvents.map Value.ofString → entry.2.IsInert

namespace AreInert

theorem nil : AreInert [] :=
  List.forall_mem_nil _

theorem append {first second : List (Value × Value)} (left : AreInert first)
    (right : AreInert second) : AreInert (first ++ second) :=
  List.forall_mem_append.mpr ⟨left, right⟩

/-- The library has nothing under the names of metamethods. -/
theorem functionsOf (library : Option String) : AreInert (Library.functionsOf library) := by
  intro entry member event
  rcases List.mem_append.mp member with written | named
  · obtain ⟨routine, -, rfl⟩ := List.mem_map.mp written
    cases routine <;> exact absurd event (by decide)
  · obtain ⟨function, found, rfl⟩ := List.mem_map.mp named
    have apart : ∀ function ∈ Foreign.all,
        Value.ofString function.name ∉ calledEvents.map Value.ofString := by decide +kernel
    exact absurd event (apart function (List.mem_filter.mp found).1)

theorem mathConstants : AreInert Library.mathConstants := by
  intro entry member _
  simp only [Library.mathConstants, List.mem_cons, List.not_mem_nil, or_false] at member
  rcases member with rfl | rfl | rfl | rfl <;> trivial

theorem standardFiles : AreInert Library.standardFiles := by
  intro entry member _
  simp only [Library.standardFiles, List.mem_cons, List.not_mem_nil, or_false] at member
  rcases member with rfl | rfl | rfl <;> trivial

theorem modulePlaces (world : World) : AreInert (Library.modulePlaces world) := by
  intro entry member _
  simp only [Library.modulePlaces, List.mem_cons, List.not_mem_nil, or_false] at member
  rcases member with rfl | rfl | rfl <;> trivial

theorem libraries (trust : TrustLevel) (world : World) :
    ∀ library ∈ Library.libraries trust world, AreInert library.2 := by
  have pattern : AreInert [(.ofString "charpattern", .str Library.characterPattern)] :=
    List.forall_mem_singleton.mpr fun _ => trivial
  have basic : ∀ library ∈ Library.libraries .basic world, AreInert library.2 := by
    simp only [Library.libraries, List.forall_mem_cons]
    exact ⟨functionsOf _, functionsOf _, (functionsOf _).append mathConstants,
      (functionsOf _).append pattern, functionsOf _, List.forall_mem_nil _⟩
  have files := (functionsOf (some "io")).append standardFiles
  cases trust with
  | basic => exact basic
  | fileRead =>
    exact List.forall_mem_append.mpr ⟨basic, List.forall_mem_singleton.mpr files⟩
  | elevated =>
    refine List.forall_mem_append.mpr ⟨basic, ?_⟩
    simp only [List.forall_mem_cons]
    exact ⟨files, functionsOf _, (functionsOf _).append (modulePlaces world),
      List.forall_mem_nil _⟩

theorem globalEntries (trust : TrustLevel) : AreInert (Library.globalEntries trust) := by
  refine ((functionsOf none).append ?_).append ?_
  · exact List.forall_mem_singleton.mpr fun _ => trivial
  · cases trust with
    | elevated => exact List.forall_mem_singleton.mpr fun event => absurd event (by decide)
    | _ => exact nil

end AreInert

namespace Heap

theorem IsInert.addTable {heap : Heap} (inert : heap.IsInert) (parent : Nat) (name : String)
    {entries : List (Value × Value)} (harmless : AreInert entries) :
    (Library.addTable heap parent name entries).IsInert :=
  (inert.newTable (Table.isInert_ofEntries harmless)).rawSet _ fun _ => trivial

/-- A library stands under its name afterwards. -/
theorem rawGet_addLibrary {heap : Heap} (inUse : heap.globals < heap.fresh)
    (library : String × List (Value × Value)) (name : String) :
    (Library.addLibrary heap library).rawGet heap.globals (.ofString name) =
      if library.1 = name then .table heap.fresh
      else heap.rawGet heap.globals (.ofString name) := by
  have older : heap.globals ≠ heap.fresh := Nat.ne_of_lt inUse
  rw [Library.addLibrary, Library.addTable, rawGet, table_rawSet, if_pos rfl]
  simp only [Value.ofString, Table.get_set_str, Bytes.ofString_inj, table_newTable, if_neg older]
  rfl

theorem IsInert.addLibraries {heap : Heap} (inert : heap.IsInert)
    {libraries : List (String × List (Value × Value))}
    (harmless : ∀ library ∈ libraries, AreInert library.2) :
    (libraries.foldl Library.addLibrary heap).IsInert := by
  induction libraries generalizing heap with
  | nil => exact inert
  | cons library rest ih =>
    obtain ⟨first, others⟩ := List.forall_mem_cons.mp harmless
    exact ih (inert.addTable _ _ first) others

/-- The metatable of open files leads to their functions, which stand in a table. -/
theorem IsInert.addFileMethods {heap : Heap} (inert : heap.IsInert) :
    (Library.addFileMethods heap).IsInert := by
  have leads : AreInert [
      (.ofString "__index", .table (heap.newTable (.ofEntries
        (Library.functionsOf (some "FILE*")))).2),
      (.ofString "__name", .ofString "FILE*")] :=
    List.forall_mem_cons.mpr ⟨fun _ => trivial, List.forall_mem_singleton.mpr fun _ => trivial⟩
  obtain ⟨tables, plain, inUse⟩ :=
    (inert.newTable (Table.isInert_ofEntries (AreInert.functionsOf (some "FILE*")))).newTable
      (Table.isInert_ofEntries leads)
  exact ⟨tables, plain, inUse⟩

theorem IsInert.addModuleTables {heap : Heap} (inert : heap.IsInert) :
    (Library.addModuleTables heap).IsInert := by
  have loaded : AreInert (Library.loadedModules heap) := by
    intro entry member event
    obtain ⟨name, listed, rfl⟩ := List.mem_map.mp member
    have apart : ∀ name ∈
        ["_G", "string", "table", "math", "utf8", "coroutine", "io", "os", "package"],
        Value.ofString name ∉ calledEvents.map Value.ofString := by decide +kernel
    exact absurd event (apart name listed)
  have searchers : AreInert Library.searchers := by
    intro entry member event
    obtain ⟨place, -, rfl⟩ := List.mem_map.mp member
    simp [calledEvents, Value.ofString] at event
  unfold Library.addModuleTables
  split
  · exact ((inert.addTable _ _ loaded).addTable _ _ AreInert.nil).addTable _ _ searchers
  · exact inert

/-- The heap with the global names that are not libraries. -/
def withGlobals (trust : TrustLevel) (world : World) : Heap :=
  { (newTable { world } (.ofEntries (Library.globalEntries trust))).1 with globals := 0 }

/-- The heap with the libraries as well. -/
def withLibraries (trust : TrustLevel) (world : World) : Heap :=
  (Library.libraries trust world).foldl Library.addLibrary
    ((withGlobals trust world).rawSet 0 (.ofString "_G") (.table 0))

theorem isInert_withGlobals (trust : TrustLevel) (world : World) :
    (withGlobals trust world).IsInert where
  tables id := by
    refine (congrArg Table.IsInert (table_newTable { world } _ id)).mpr ?_
    split
    · exact Table.isInert_ofEntries (AreInert.globalEntries trust)
    · exact Table.isInert_empty
  plain := (congrArg Table.metatable (table_newTable { world } _ 0)).trans
    (Table.metatable_ofEntries _)
  inUse := Nat.zero_lt_one

theorem isInert_withLibraries (trust : TrustLevel) (world : World) :
    (withLibraries trust world).IsInert := by
  have named : ((withGlobals trust world).rawSet 0 (.ofString "_G") (.table 0)).IsInert :=
    (isInert_withGlobals trust world).rawSet 0 fun _ => trivial
  exact named.addLibraries (AreInert.libraries trust world)

/-- Libraries under other names leave what stands under a name. -/
theorem rawGet_addLibraries {heap : Heap} (inUse : heap.globals < heap.fresh) {name : String}
    {libraries : List (String × List (Value × Value))}
    (apart : ∀ library ∈ libraries, library.1 ≠ name) :
    (libraries.foldl Library.addLibrary heap).rawGet heap.globals (.ofString name) =
      heap.rawGet heap.globals (.ofString name) := by
  induction libraries generalizing heap with
  | nil => rfl
  | cons library rest ih =>
    obtain ⟨first, others⟩ := List.forall_mem_cons.mp apart
    have later : (Library.addLibrary heap library).globals <
        (Library.addLibrary heap library).fresh := Nat.lt_succ_of_lt inUse
    exact (ih later others).trans ((rawGet_addLibrary inUse library name).trans (if_neg first))

theorem string_withLibraries (trust : TrustLevel) (world : World) :
    (withLibraries trust world).rawGet 0 (.ofString "string") = .table 1 := by
  obtain ⟨rest, listed, apart⟩ : ∃ rest, Library.libraries trust world =
      ("string", Library.functionsOf (some "string")) :: rest ∧
        ∀ library ∈ rest, library.1 ≠ "string" := by
    cases trust <;> exact ⟨_, rfl, by simp⟩
  have named : ((withGlobals trust world).rawSet 0 (.ofString "_G") (.table 0)).globals <
      ((withGlobals trust world).rawSet 0 (.ofString "_G") (.table 0)).fresh := Nat.zero_lt_one
  rw [withLibraries, listed, List.foldl_cons]
  exact (rawGet_addLibraries (Nat.lt_succ_of_lt named) apart).trans
    ((rawGet_addLibrary named _ _).trans (if_pos rfl))

theorem isInert_initial (trust : TrustLevel) (world : World) : (initial trust world).IsInert := by
  -- The metatable of strings leads to their library, which is a table.
  have strings : AreInert
      [(.ofString "__index", (withLibraries trust world).rawGet 0 (.ofString "string"))] := by
    rw [string_withLibraries]
    exact List.forall_mem_singleton.mpr fun _ => trivial
  obtain ⟨tables, plain, inUse⟩ :=
    (isInert_withLibraries trust world).newTable (Table.isInert_ofEntries strings)
  have basic : Heap.IsInert { ((withLibraries trust world).newTable (.ofEntries
      [(.ofString "__index", (withLibraries trust world).rawGet 0 (.ofString "string"))])).1 with
      strings := some (withLibraries trust world).fresh } := ⟨tables, plain, inUse⟩
  cases trust with
  | basic => exact basic
  | fileRead => exact basic.addFileMethods
  | elevated => exact basic.addFileMethods.addModuleTables

theorem isInert_constant (services : Media.EnabledServices) {entry : String × Value}
    (member : entry ∈ Exchange.constants services) : entry.2.IsInert := by
  simp only [Exchange.constants, List.mem_append, List.mem_cons, List.not_mem_nil, or_false,
    List.mem_map] at member
  rcases member with (((rfl | rfl | rfl | rfl | rfl | rfl) | ⟨_, _, rfl⟩) | trailers) | ⟨_, _, rfl⟩
  any_goals trivial
  split at trailers
  · obtain rfl := List.mem_singleton.mp trailers
    trivial
  · cases trailers

/-- The names of the application leave a heap inert. -/
theorem IsInert.install {heap : Heap} (inert : heap.IsInert) (services : Media.EnabledServices) :
    (Exchange.install services heap).IsInert := by
  have harmless : ∀ entry ∈ Exchange.globals services, entry.2.IsInert := by
    intro entry member
    rcases List.mem_append.mp member with function | constant
    · obtain ⟨_, _, rfl⟩ := List.mem_map.mp function
      trivial
    · exact isInert_constant services constant
  rw [Exchange.install]
  generalize Exchange.globals services = entries at harmless
  induction entries generalizing heap with
  | nil => exact inert
  | cons entry rest ih =>
    obtain ⟨first, others⟩ := List.forall_mem_cons.mp harmless
    exact ih (inert.rawSet heap.globals fun _ => first) others

end Heap

end MediaImport.Script
