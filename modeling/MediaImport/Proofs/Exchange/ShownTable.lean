import MediaImport.Proofs.Exchange.PropertyValues
import MediaImport.Proofs.Exchange.ReadingOutcome
import MediaImport.Proofs.Script.TableContents

/-!
# The tables that show an object

Showing an object puts four new tables on the heap.  None of them has a metatable,
so reading them is reading their entries: `Shows` says of a view that a table holds
exactly the properties that an export lists, with the tables of metadata, auxiliary
texts and resource attributes inside.

`shows_allocate` is the one fact about the heap.  Everything else is about the list
of properties, one lemma for each property that an object table may have.
-/

namespace MediaImport.Exchange

open MediaImport.Media MediaImport.Script

namespace ObjectTable

/-- The property of a name in the table that shows an object, the nested tables
aside. -/
def property (shown : ObjectTable) (name : String) : Value :=
  (Table.lastIn shown.properties name).getD .nil

/-- A text of a map as scripts see it. -/
def textIn (texts : TextMap) (key : String) : Value :=
  texts[key]?.elim .nil Value.ofString

theorem lastIn_texts (texts : TextMap) (key : String) :
    Table.lastIn (texts.toList.map fun entry => (entry.1, Value.ofString entry.2)) key =
      texts[key]?.map Value.ofString := by
  unfold Table.lastIn
  cases found : List.lookup key (List.reverse _) with
  | some value =>
    obtain ⟨before, after, split, -⟩ := List.lookup_eq_some_iff.mp found
    have listed : (key, value) ∈
        texts.toList.map fun entry => (entry.1, Value.ofString entry.2) := by
      rw [← List.mem_reverse, split]
      exact List.mem_append_right _ (List.mem_cons_self ..)
    obtain ⟨entry, member, same⟩ := List.mem_map.mp listed
    cases same
    rw [Std.ExtTreeMap.mem_toList_iff_getElem?_eq_some.mp member]
    rfl
  | none =>
    cases stored : texts[key]? with
    | none => rfl
    | some text =>
      have member := Std.ExtTreeMap.mem_toList_iff_getElem?_eq_some.mpr stored
      have absent := List.lookup_eq_none_iff.mp found (key, .ofString text)
        (List.mem_reverse.mpr (List.mem_map_of_mem member))
      simp at absent

theorem tableOfTexts_eq (texts : TextMap) :
    tableOfTexts texts = .ofEntries (Table.stringEntries
      (texts.toList.map fun entry => (entry.1, Value.ofString entry.2))) := by
  rw [tableOfTexts, Table.stringEntries, List.map_map]
  rfl

theorem get_tableOfTexts (texts : TextMap) (key : String) :
    (tableOfTexts texts).get (.ofString key) = textIn texts key := by
  rw [tableOfTexts_eq, Table.get_ofEntries, lastIn_texts, textIn]
  cases texts[key]? <;> rfl

/-! ## The list of properties -/

@[simp]
theorem lastIn_bytesProperty (name wanted : String) (contents : Bytes) :
    Table.lastIn (bytesProperty name contents) wanted =
      if contents ≠ [] ∧ name = wanted then some (.str contents) else none := by
  cases contents with
  | nil => simp [bytesProperty]
  | cons first rest => simp [bytesProperty]

@[simp]
theorem lastIn_textProperty (name wanted text : String) :
    Table.lastIn (textProperty name text) wanted =
      if text ≠ "" ∧ name = wanted then some (.ofString text) else none := by
  simp [textProperty, Value.ofString]

@[simp]
theorem lastIn_idProperty (name wanted : String) (id : Int32) :
    Table.lastIn (idProperty name id) wanted =
      if id ≠ noId ∧ name = wanted then some (.ofInt32 id) else none := by
  by_cases absent : id = noId <;> simp [idProperty, absent]

/-- A value that is left out if some condition holds, and then stands for nothing. -/
theorem propertyBytes_unless (contents : Bytes) :
    ((if contents = [] then none else some (Value.str contents)).getD .nil).propertyBytes =
      contents := by
  by_cases empty : contents = [] <;> simp [empty]

theorem propertyBytes_unlessEmpty (text : String) :
    ((if text = "" then none else some (Value.ofString text)).getD .nil).propertyBytes =
      Bytes.ofString text := by
  by_cases empty : text = "" <;> simp [empty]

theorem propertyInt32_unless (id : Int32) :
    ((if id = noId then none else some (Value.ofInt32 id)).getD .nil).propertyInt32 noId = id := by
  by_cases absent : id = noId
  · simp [absent, Value.propertyInt32]
  · simp [absent]

/-- The properties that all kinds of object have. -/
def commonProperties (object : Object) : List (String × Value) :=
  [("objectType", .ofInt32 object.typeBits)] ++
    idProperty "id" object.id ++
    idProperty "parentID" object.parentId ++
    textProperty "title" object.title ++
    textProperty "upnpclass" object.upnpClass ++
    bytesProperty "location" object.location ++
    [("mtime", .int object.mtime),
      ("sizeOnDisk", sizeValue object.sizeOnDisk),
      ("restricted", .ofFlag object.restricted),
      ("theora", .ofFlag (object.hasFlag Flag.oggTheora)),
      ("onlineservice", .int (serviceNumber object))]

/-- The names of the properties that only some kinds of object have. -/
def kindNames : List String :=
  ["mimetype", "serviceID", "action", "state", "updateID", "searchable"]

/-- The names of the properties that all kinds of object have. -/
def commonNames : List String :=
  ["objectType", "id", "parentID", "title", "upnpclass", "location", "mtime", "sizeOnDisk",
    "restricted", "theora", "onlineservice"]

theorem lastIn_kindProperties_eq_none (kind : Kind) (name : String) (other : name ∉ kindNames) :
    Table.lastIn (kindProperties kind) name = none := by
  simp only [kindNames, List.mem_cons, not_or] at other
  obtain ⟨mimeType, serviceId, action, state, updateId, searchable, -⟩ := other
  cases kind with
  | container contents =>
    simp [kindProperties, Ne.symm updateId, Ne.symm searchable]
  | item contents =>
    cases variant : contents.variant with
    | active command =>
      simp [kindProperties, variant, Ne.symm mimeType, Ne.symm serviceId, Ne.symm action,
        Ne.symm state]
    | _ => simp [kindProperties, variant, Ne.symm mimeType, Ne.symm serviceId]

theorem lastIn_commonProperties_eq_none (object : Object) (name : String)
    (other : name ∉ commonNames) : Table.lastIn (commonProperties object) name = none := by
  simp only [commonNames, List.mem_cons, not_or] at other
  simp only [commonProperties, Table.lastIn_append, Table.lastIn_cons, Table.lastIn_nil,
    lastIn_idProperty, lastIn_textProperty, lastIn_bytesProperty]
  simp [Ne.symm, other, @eq_comm String _ name]

variable (object : Object)

theorem property_ofObject (name : String) :
    (ofObject object).property name =
      ((Table.lastIn (kindProperties object.kind) name).or
        (Table.lastIn (commonProperties object) name)).getD .nil := by
  rw [← Table.lastIn_append]
  rfl

theorem property_of_notMem_kindNames (name : String) (other : name ∉ kindNames) :
    (ofObject object).property name =
      (Table.lastIn (commonProperties object) name).getD .nil := by
  rw [property_ofObject, lastIn_kindProperties_eq_none _ _ other, Option.none_or]

theorem property_of_notMem_commonNames (name : String) (other : name ∉ commonNames) :
    (ofObject object).property name =
      (Table.lastIn (kindProperties object.kind) name).getD .nil := by
  rw [property_ofObject, lastIn_commonProperties_eq_none _ _ other, Option.or_none]

/-- A name of neither list is the name of no property. -/
theorem property_eq_nil (name : String) (notKind : name ∉ kindNames)
    (notCommon : name ∉ commonNames) : (ofObject object).property name = .nil := by
  rw [property_of_notMem_kindNames _ _ notKind, lastIn_commonProperties_eq_none _ _ notCommon]
  rfl

theorem property_objectType :
    (ofObject object).property "objectType" = .ofInt32 object.typeBits := by
  rw [property_of_notMem_kindNames _ _ (by decide)]
  simp [commonProperties]

theorem property_id :
    ((ofObject object).property "id").propertyInt32 noId = object.id := by
  rw [property_of_notMem_kindNames _ _ (by decide)]
  simpa [commonProperties] using propertyInt32_unless object.id

theorem property_parentId :
    ((ofObject object).property "parentID").propertyInt32 noId = object.parentId := by
  rw [property_of_notMem_kindNames _ _ (by decide)]
  simpa [commonProperties] using propertyInt32_unless object.parentId

theorem property_title :
    ((ofObject object).property "title").propertyBytes = Bytes.ofString object.title := by
  rw [property_of_notMem_kindNames _ _ (by decide)]
  simpa [commonProperties] using propertyBytes_unlessEmpty object.title

theorem property_upnpClass :
    ((ofObject object).property "upnpclass").propertyBytes =
      Bytes.ofString object.upnpClass := by
  rw [property_of_notMem_kindNames _ _ (by decide)]
  simpa [commonProperties] using propertyBytes_unlessEmpty object.upnpClass

theorem property_location :
    ((ofObject object).property "location").propertyBytes = object.location := by
  rw [property_of_notMem_kindNames _ _ (by decide)]
  simpa [commonProperties] using propertyBytes_unless object.location

theorem property_mtime : (ofObject object).property "mtime" = .int object.mtime := by
  rw [property_of_notMem_kindNames _ _ (by decide)]
  simp [commonProperties]

theorem property_sizeOnDisk :
    (ofObject object).property "sizeOnDisk" = sizeValue object.sizeOnDisk := by
  rw [property_of_notMem_kindNames _ _ (by decide)]
  simp [commonProperties]

theorem property_restricted :
    (ofObject object).property "restricted" = .ofFlag object.restricted := by
  rw [property_of_notMem_kindNames _ _ (by decide)]
  simp [commonProperties]

theorem property_mimeType (contents : Item) (isItem : object.kind = .item contents) :
    ((ofObject object).property "mimetype").propertyBytes =
      Bytes.ofString contents.mimeType := by
  rw [property_of_notMem_commonNames _ _ (by decide), isItem]
  cases variant : contents.variant <;>
    simpa [kindProperties, variant] using propertyBytes_unlessEmpty contents.mimeType

theorem property_serviceId (contents : Item) (isItem : object.kind = .item contents) :
    ((ofObject object).property "serviceID").propertyBytes =
      Bytes.ofString contents.serviceId := by
  rw [property_of_notMem_commonNames _ _ (by decide), isItem]
  cases variant : contents.variant <;>
    simpa [kindProperties, variant] using propertyBytes_unlessEmpty contents.serviceId

theorem property_action (contents : Item) (isItem : object.kind = .item contents)
    (command : Command) (isActive : contents.variant = .active command) :
    ((ofObject object).property "action").propertyBytes = Bytes.ofString command.action := by
  rw [property_of_notMem_commonNames _ _ (by decide), isItem]
  simpa [kindProperties, isActive] using propertyBytes_unlessEmpty command.action

theorem property_state (contents : Item) (isItem : object.kind = .item contents)
    (command : Command) (isActive : contents.variant = .active command) :
    ((ofObject object).property "state").propertyBytes = Bytes.ofString command.state := by
  rw [property_of_notMem_commonNames _ _ (by decide), isItem]
  simpa [kindProperties, isActive] using propertyBytes_unlessEmpty command.state

theorem property_updateId (contents : Container) (isContainer : object.kind = .container contents) :
    (ofObject object).property "updateID" = .ofInt32 contents.updateId := by
  rw [property_of_notMem_commonNames _ _ (by decide), isContainer]
  simp [kindProperties]

theorem property_searchable (contents : Container)
    (isContainer : object.kind = .container contents) :
    (ofObject object).property "searchable" = .ofFlag contents.searchable := by
  rw [property_of_notMem_commonNames _ _ (by decide), isContainer]
  simp [kindProperties]

/-! ## On the heap -/

/-- In a view, a table holds exactly what shows an object. -/
structure Shows (view : Nat → String → Value) (table : Nat) (shown : ObjectTable) : Prop where
  property : ∀ name, name ∉ ["meta", "aux", "res"] → view table name = shown.property name
  metadata : ∃ id, view table "meta" = .table id ∧
    ∀ key, view id key = textIn shown.metadata key
  auxiliary : ∃ id, view table "aux" = .table id ∧
    ∀ key, view id key = textIn shown.auxiliary key
  resource : ∃ id, view table "res" = .table id ∧
    ∀ key, view id key = textIn shown.resource key

/-- The entries of the outer table, when the inner ones have some numbers. -/
def outerEntries (shown : ObjectTable) (metadata auxiliary resource : Nat) :
    List (String × Value) :=
  shown.properties ++
    [("meta", .table metadata), ("aux", .table auxiliary), ("res", .table resource)]

/-- The outer table is made last, and the inner ones have the numbers before it. -/
theorem allocate_eq (shown : ObjectTable) (heap : Heap) :
    shown.allocate heap =
      (((heap.newTable (tableOfTexts shown.metadata)).1.newTable
        (tableOfTexts shown.auxiliary)).1.newTable (tableOfTexts shown.resource)).1.newTable
          (.ofEntries (Table.stringEntries
            (shown.outerEntries heap.fresh (heap.fresh + 1) (heap.fresh + 2)))) := by
  simp only [Table.stringEntries, outerEntries, List.map_append]
  rfl

theorem table_allocate (shown : ObjectTable) (heap : Heap) (id : Nat) :
    (shown.allocate heap).1.table id =
      if id = heap.fresh + 3 then
        .ofEntries (Table.stringEntries
          (shown.outerEntries heap.fresh (heap.fresh + 1) (heap.fresh + 2)))
      else if id = heap.fresh + 2 then tableOfTexts shown.resource
      else if id = heap.fresh + 1 then tableOfTexts shown.auxiliary
      else if id = heap.fresh then tableOfTexts shown.metadata
      else heap.table id := by
  simp only [allocate_eq, Heap.table_newTable, Heap.fresh_newTable, Nat.add_assoc,
    Nat.reduceAdd]

theorem allocate_id (shown : ObjectTable) (heap : Heap) :
    (shown.allocate heap).2 = heap.fresh + 3 := rfl

/-- What shows an object stands in four tables of a heap, and nothing else is in them. -/
structure Occupies (shown : ObjectTable) (heap : Heap)
    (table metadata auxiliary resource : Nat) : Prop where
  outer : heap.table table =
    .ofEntries (Table.stringEntries (shown.outerEntries metadata auxiliary resource))
  metadata : heap.table metadata = tableOfTexts shown.metadata
  auxiliary : heap.table auxiliary = tableOfTexts shown.auxiliary
  resource : heap.table resource = tableOfTexts shown.resource

/-- What shows an object stands in a table and in the three tables inside it. -/
def Stands (shown : ObjectTable) (heap : Heap) (table : Nat) : Prop :=
  ∃ metadata auxiliary resource, shown.Occupies heap table metadata auxiliary resource

theorem occupies_allocate (shown : ObjectTable) (heap : Heap) :
    shown.Occupies (shown.allocate heap).1 (heap.fresh + 3) heap.fresh (heap.fresh + 1)
      (heap.fresh + 2) where
  outer := by rw [table_allocate, if_pos rfl]
  metadata := by simp [table_allocate]
  auxiliary := by simp [table_allocate]
  resource := by simp [table_allocate]

theorem stands_allocate (shown : ObjectTable) (heap : Heap) :
    shown.Stands (shown.allocate heap).1 (shown.allocate heap).2 :=
  ⟨_, _, _, shown.occupies_allocate heap⟩

section Occupies

variable {shown : ObjectTable} {heap : Heap} {table metadata auxiliary resource : Nat}
  (occupies : shown.Occupies heap table metadata auxiliary resource)
include occupies

theorem Occupies.property_outer (name : String) :
    heap.property table name =
      (Table.lastIn (shown.outerEntries metadata auxiliary resource) name).getD .nil := by
  rw [Heap.property, Heap.rawGet, occupies.outer, Table.get_ofEntries]

/-- The three tables inside have their own names. -/
theorem Occupies.property_inner :
    heap.property table "meta" = .table metadata ∧
      heap.property table "aux" = .table auxiliary ∧
      heap.property table "res" = .table resource := by
  simp only [occupies.property_outer, outerEntries, Table.lastIn_append]
  simp

theorem Occupies.property_of_ne (name : String) (other : name ∉ ["meta", "aux", "res"]) :
    heap.property table name = shown.property name := by
  rw [occupies.property_outer, outerEntries, Table.lastIn_append, property]
  simp only [List.mem_cons, not_or] at other
  simp [Ne.symm other.1, Ne.symm other.2.1, Ne.symm other.2.2.1]

omit occupies in
theorem property_tableOfTexts {id : Nat} {texts : TextMap}
    (contents : heap.table id = tableOfTexts texts) (key : String) :
    heap.property id key = textIn texts key := by
  rw [Heap.property, Heap.rawGet, contents, get_tableOfTexts]

theorem Occupies.shows : Shows heap.property table shown where
  property := occupies.property_of_ne
  metadata := ⟨_, occupies.property_inner.1, property_tableOfTexts occupies.metadata⟩
  auxiliary := ⟨_, occupies.property_inner.2.1, property_tableOfTexts occupies.auxiliary⟩
  resource := ⟨_, occupies.property_inner.2.2, property_tableOfTexts occupies.resource⟩

end Occupies

theorem Stands.shows {shown : ObjectTable} {heap : Heap} {table : Nat}
    (stands : shown.Stands heap table) : Shows heap.property table shown := by
  obtain ⟨metadata, auxiliary, resource, occupies⟩ := stands
  exact occupies.shows

theorem shows_allocate (shown : ObjectTable) (heap : Heap) :
    Shows (shown.allocate heap).1.property (shown.allocate heap).2 shown :=
  (shown.stands_allocate heap).shows

end ObjectTable

end MediaImport.Exchange
