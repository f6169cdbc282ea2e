import MediaImport.Proofs.Exchange.CopiedObject
import MediaImport.Proofs.Importer.CopyingCall
import MediaImport.Proofs.Script.InertHeaps
import MediaImport.Proofs.Script.ReachableTables

/-!
# A copy shares nothing with its source

The four tables of a copy are new, and nothing stands in them but texts, numbers and each
other.  So no table that was there refers to them, and they refer to none that was there.
Whatever a script assigns to the tables of the copy, nothing that it reads through the source
is changed by it, and the other way round.

This holds as long as the look-ups in the source have left the tables as they were.  A
metatable may do anything while the source is read; the call itself changes none of them.
-/

namespace MediaImport

open Exchange Media Script

namespace Exchange.ObjectTable

/-! ## The tables of a copy -/

/-- The tables in the outer table of a copy are the three inner ones. -/
theorem mem_of_outerEntries {object : Object} {metadata auxiliary resource id : Nat}
    {entry : String × Value}
    (listed : entry ∈ (ofObject object).outerEntries metadata auxiliary resource)
    (held : entry.2 = .table id) : id ∈ [metadata, auxiliary, resource] := by
  rcases List.mem_append.mp listed with own | inner
  · exact absurd held ((isScalar_properties object entry own).ne_table id)
  · simp only [List.mem_cons, List.not_mem_nil, or_false] at inner
    rcases inner with rfl | rfl | rfl <;> cases held <;> simp

/-- There is no table in a table of texts. -/
theorem ne_table_of_texts {texts : TextMap} {entry : String × Value}
    (listed : entry ∈ texts.toList.map fun entry => (entry.1, Value.ofString entry.2))
    (id : Nat) : entry.2 ≠ .table id := by
  obtain ⟨text, -, rfl⟩ := List.mem_map.mp listed
  exact nofun

section Occupies

variable {object : Object} {heap : Heap} {table metadata auxiliary resource : Nat}
  (occupies : (ofObject object).Occupies heap table metadata auxiliary resource)
include occupies

theorem Occupies.metatable_eq_none {id : Nat}
    (member : id ∈ [table, metadata, auxiliary, resource]) :
    (heap.table id).metatable = none := by
  simp only [List.mem_cons, List.not_mem_nil, or_false] at member
  rcases member with rfl | rfl | rfl | rfl
  · rw [occupies.outer]
    exact Table.metatable_ofEntries _
  · rw [occupies.metadata]
    exact Table.metatable_ofEntries _
  · rw [occupies.auxiliary]
    exact Table.metatable_ofEntries _
  · rw [occupies.resource]
    exact Table.metatable_ofEntries _

omit occupies in
theorem not_holds_tableOfTexts {id : Nat} {texts : TextMap}
    (contents : heap.table id = tableOfTexts texts) (other : Nat) : ¬heap.Holds id other := by
  intro holds
  obtain ⟨entry, listed, held⟩ := holds.of_stringEntries (contents.trans (tableOfTexts_eq texts))
  exact ne_table_of_texts listed other held

/-- The tables of a copy refer to each other only. -/
theorem Occupies.isClosed :
    heap.IsClosed (· ∈ [table, metadata, auxiliary, resource]) where
  held id other member holds := by
    simp only [List.mem_cons, List.not_mem_nil, or_false] at member
    rcases member with rfl | rfl | rfl | rfl
    · obtain ⟨entry, listed, held⟩ := holds.of_stringEntries occupies.outer
      exact List.mem_cons_of_mem _ (mem_of_outerEntries listed held)
    · exact absurd holds (not_holds_tableOfTexts occupies.metadata other)
    · exact absurd holds (not_holds_tableOfTexts occupies.auxiliary other)
    · exact absurd holds (not_holds_tableOfTexts occupies.resource other)
  shared id other member has := absurd (occupies.metatable_eq_none member) has

/-- The metadata of a copy are read through its outer table. -/
theorem Occupies.reads_metadata (key : String) :
    heap.Reads (.table table) [.ofString "meta", .ofString key]
      (textIn (ofObject object).metadata key) := by
  have outer : Behaviour.Direct heap (index none (.table table) (.ofString "meta") []) 1
      (.table metadata) heap := by
    rw [← occupies.property_inner.1]
    exact direct_index (occupies.metatable_eq_none (by simp)) none _ _
  have inner : Behaviour.Direct heap (index none (.table metadata) (.ofString key) []) 1
      (textIn (ofObject object).metadata key) heap := by
    rw [← property_tableOfTexts occupies.metadata]
    exact direct_index (occupies.metatable_eq_none (by simp)) none _ _
  exact .under outer (.under inner (.here _))

end Occupies

end Exchange.ObjectTable

namespace Script.Heap

/-- Tables that are made later leave those that were there as they are. -/
theorem KeptIn.allocate {heap later : Heap} (kept : heap.KeptIn later)
    (below : ∀ id ∈ heap.tables, id < heap.fresh) (shown : ObjectTable) :
    heap.KeptIn (shown.allocate later).1 where
  fresh := Nat.le_trans kept.fresh (Nat.le_add_right _ 4)
  strings := kept.strings
  handles := kept.handles
  tables id known := by
    obtain ⟨stays, same⟩ := kept.tables id known
    have before := Nat.lt_of_lt_of_le (below id known) kept.fresh
    constructor
    · exact mem_tables_newTable (mem_tables_newTable (mem_tables_newTable
        (mem_tables_newTable stays _) _) _) _
    · rw [ObjectTable.table_allocate, if_neg (by omega), if_neg (by omega), if_neg (by omega),
        if_neg (by omega), same]

/-- To show an object leaves a store: the new tables refer to each other only. -/
theorem IsStore.allocate {heap : Heap} (store : heap.IsStore) (object : Object) :
    ((ObjectTable.ofObject object).allocate heap).1.IsStore := by
  have texts {heap : Heap} (store : heap.IsStore) (texts : TextMap) :
      (heap.newTable (ObjectTable.tableOfTexts texts)).1.IsStore := by
    rw [ObjectTable.tableOfTexts_eq]
    exact store.newTable fun entry listed id held =>
      absurd held (ObjectTable.ne_table_of_texts listed id)
  rw [ObjectTable.allocate_eq]
  refine (texts (texts (texts store _) _) _).newTable fun entry listed id held => ?_
  have inner := ObjectTable.mem_of_outerEntries listed held
  simp only [List.mem_cons, List.not_mem_nil, or_false] at inner
  rcases inner with rfl | rfl | rfl
  · exact mem_tables_newTable (mem_tables_newTable (fresh_mem_tables_newTable ..) _) _
  · exact mem_tables_newTable (fresh_mem_tables_newTable ..) _
  · exact fresh_mem_tables_newTable ..

/-- What can be read through a table that was there has stayed as it was. -/
theorem KeptIn.agreesOn {heap later : Heap} (kept : heap.KeptIn later) (store : heap.IsStore)
    {source : Nat} (known : source ∈ heap.tables) :
    AgreesOn heap later (heap.Leads source) where
  tables _ leads := (kept.tables _ (store.mem_of_leads known leads)).2
  strings := kept.strings
  handles := kept.handles

end Script.Heap

namespace Importer

variable {call : Config Desk} {arguments : List Value} {surroundings : Surroundings}

/-- Some tables that have come to a heap are new and different from each other, have no
metatable, and stand apart: those that were there are as they were, and do not lead to them. -/
structure StandApart (before after : Heap) (copy : List Nat) : Prop where
  nodup : copy.Nodup
  new : ∀ id ∈ copy, id ∉ before.tables
  plain : ∀ id ∈ copy, (after.table id).metatable = none
  kept : ∀ id ∈ before.tables, id ∈ after.tables ∧ after.table id = before.table id
  apart : ∀ source ∈ before.tables, ∀ id ∈ copy, ¬before.Leads source id

/-- The tables that an object is put into stand apart from all that a heap began with. -/
theorem standApart_allocate {before later : Heap} (store : before.IsStore)
    (kept : before.KeptIn later) (object : Object) :
    StandApart before ((ObjectTable.ofObject object).allocate later).1
      [later.fresh + 3, later.fresh, later.fresh + 1, later.fresh + 2] := by
  have new : ∀ id ∈ [later.fresh + 3, later.fresh, later.fresh + 1, later.fresh + 2],
      id ∉ before.tables := by
    intro id member known
    have older := Nat.lt_of_lt_of_le (store.below id known) kept.fresh
    simp only [List.mem_cons, List.not_mem_nil, or_false] at member
    omega
  refine ⟨by simp, new, ?_, (kept.allocate store.below _).tables, ?_⟩
  · exact fun id member =>
      ((ObjectTable.ofObject object).occupies_allocate later).metatable_eq_none member
  · exact fun source known id member leads => new id member (store.mem_of_leads known leads)

/-- A call that copies an object fails, or puts the copy into four new tables and leaves all
others as they were, provided that the look-ups did: they are over two steps before the call is.

From then on, assignments to tables that an older table does not lead to, such as the four new
ones, change nothing that can be read through it, nor any table that it leads to.  Assignments
to other tables than the four change nothing that can be read through the copy. -/
theorem copyObject_separate {looking : Nat} (begins : BeginsCopy call arguments)
    (surrounds : call.state.Surrounds surroundings)
    (isOver : call.OverAfter host (looking + 2)) (store : call.heap.IsStore)
    (quiet : call.heap.KeptIn (call.after host looking).heap) :
    call.Fails host (looking + 2) ∨ ∃ copied metadata auxiliary resource,
      let before := call.heap
      let after := (call.after host (looking + 2)).heap
      let copy := [copied, metadata, auxiliary, resource]
      (call.after host (looking + 2)).focus = .done (.result [.table copied]) ∧
      after.property copied "meta" = .table metadata ∧
      after.property copied "aux" = .table auxiliary ∧
      after.property copied "res" = .table resource ∧
      StandApart before after copy ∧
      (∀ source ∈ before.tables, ∀ assignments : List Heap.Assignment,
        (∀ assignment ∈ assignments, ¬before.Leads source assignment.table) →
          (∀ id, before.Leads source id →
            (after.assign assignments).table id = before.table id) ∧
          ∀ keys value, (after.assign assignments).Reads (.table source) keys value ↔
            before.Reads (.table source) keys value) ∧
      (∀ assignments : List Heap.Assignment,
        (∀ assignment ∈ assignments, assignment.table ∉ copy) →
          (∀ id ∈ copy, (after.assign assignments).table id = after.table id) ∧
          ∀ keys value, (after.assign assignments).Reads (.table copied) keys value ↔
            after.Reads (.table copied) keys value) := by
  rcases copyObject_work begins surrounds isOver with fails | ⟨read, object, same, copies⟩
  · exact .inl fails
  obtain rfl : looking = 1 + read := Nat.add_right_cancel same
  -- All tables of the copy have numbers that were not given out when the reading was over.
  have heap := copies.heap
  have kept := quiet.allocate store.below (ObjectTable.ofObject object)
  have occupies := (ObjectTable.ofObject object).occupies_allocate (call.after host (1 + read)).heap
  have separate := standApart_allocate store quiet object
  rw [← heap] at kept occupies separate
  obtain ⟨metadata, auxiliary, resource⟩ := occupies.property_inner
  refine .inr ⟨_, _, _, _, copies.answers, metadata, auxiliary, resource, separate, ?_, ?_⟩
  · intro source known assignments apart
    have agrees := (kept.agreesOn store known).assign apart
    exact ⟨agrees.tables, agrees.reads_iff (Heap.isClosed_leads _ _) .self⟩
  · intro assignments apart
    have agrees := (Heap.AgreesOn.refl (call.after host (1 + read + 2)).heap _).assign apart
    exact ⟨agrees.tables, agrees.reads_iff occupies.isClosed (List.mem_cons_self ..)⟩

/-- A folder with a title in its metadata. -/
def jazz : Object where
  metadata := (∅ : TextMap).insert "dc:title" "Jazz"
  kind := .container {}

/-- The tables of the folder are copied, and what a script then writes into the copy and its
metadata does not show in the metadata of the folder. -/
theorem copyObject_separate_jazz :
    let shown := (ObjectTable.ofObject jazz).allocate {}
    let call := copying shown.1 .absent shown.2
    ∃ looking copied metadata,
      (call.after host (looking + 2)).focus = .done (.result [.table copied]) ∧
      let after := (call.after host (looking + 2)).heap
      after.property copied "meta" = .table metadata ∧
      (after.assign [⟨copied, .ofString "title", .ofString "Blues"⟩,
        ⟨metadata, .ofString "dc:title", .ofString "Blues"⟩]).Reads (.table shown.2)
          [.ofString "meta", .ofString "dc:title"] (.ofString "Jazz") := by
  intro shown call
  obtain ⟨read, isOver, copies, untouched⟩ := copying_succeeds .absent
    (isPlain_allocate (ObjectTable.ofObject jazz) {})
    (Reader.under_shown_alone (ObjectTable.shows_allocate _ _))
  have begins : BeginsCopy call [.table shown.2] := rfl
  have store : call.heap.IsStore := Heap.isStore_empty.allocate jazz
  have quiet : call.heap.KeptIn (call.after host (1 + read)).heap := untouched ▸ .refl _
  rcases copyObject_separate begins rfl isOver store quiet with ⟨⟨error, stopped⟩, -⟩ |
    ⟨copied, metadata, auxiliary, resource, answers, inner, -, -, separate, later, -⟩
  · rw [copies.answers] at stopped
    cases stopped
  have known : shown.2 ∈ call.heap.tables := Heap.fresh_mem_tables_newTable ..
  have apart := separate.apart shown.2 known
  have title : ObjectTable.textIn (ObjectTable.ofObject jazz).metadata "dc:title" =
      .ofString "Jazz" := by
    have stored : (ObjectTable.ofObject jazz).metadata["dc:title"]? = some "Jazz" :=
      Std.ExtTreeMap.getElem?_insert_self
    rw [ObjectTable.textIn, stored]
    rfl
  refine ⟨1 + read, copied, metadata, answers, inner, ((later shown.2 known _ ?_).2 _ _).mpr ?_⟩
  · simp only [List.forall_mem_cons]
    exact ⟨apart _ (by simp), apart _ (by simp), List.forall_mem_nil _⟩
  · exact title ▸ ((ObjectTable.ofObject jazz).occupies_allocate {}).reads_metadata "dc:title"

end Importer

end MediaImport
