import MediaImport.Proofs.Script.Assignments

/-!
# The tables that a table leads to

A script that has a table can read what stands in it, then what stands in the tables in there,
and so on; a missing entry may be looked up in another table that a metatable names.  All that
such reads can see are the tables that the first one leads to (`Heap.Leads`), and they see the
same in two heaps that agree on these tables (`Heap.AgreesOn.reads_iff`).

An assignment changes one table.  So assignments to tables that another one does not lead to
leave everything that is read through it as it was.
-/

namespace MediaImport.Script

/-! ## Entries under any key -/

namespace Table

/-- Storing changes what is read under the keys that are equal to the given one. -/
theorem get_set_any (table : Table) (key value wanted : Value) :
    (table.set key value).get wanted =
      if Value.order key.asKey wanted.asKey = .eq then value else table.get wanted := by
  cases value with
  | nil => simp only [get, set, Std.TreeMap.getD_erase]
  | _ => simp only [get, set, Std.TreeMap.getD_insert]

/-- What stands in a table that is made of entries is the value of an entry with that key. -/
theorem get_setAll_cases (table : Table) (entries : List (Value × Value)) (wanted : Value) :
    (table.setAll entries).get wanted = table.get wanted ∨
      ∃ entry ∈ entries, Value.order entry.1.asKey wanted.asKey = .eq ∧
        (table.setAll entries).get wanted = entry.2 := by
  induction entries generalizing table with
  | nil => exact .inl rfl
  | cons entry rest ih =>
    change ((table.set entry.1 entry.2).setAll rest).get wanted = _ ∨ _
    rcases ih (table.set entry.1 entry.2) with stays | ⟨later, member, same, found⟩
    · rw [get_set_any] at stays
      by_cases same : Value.order entry.1.asKey wanted.asKey = .eq
      · rw [if_pos same] at stays
        exact .inr ⟨entry, List.mem_cons_self .., same, stays⟩
      · rw [if_neg same] at stays
        exact .inl stays
    · exact .inr ⟨later, List.mem_cons_of_mem _ member, same, found⟩

theorem get_ofEntries_cases (entries : List (Value × Value)) (wanted : Value) :
    (ofEntries entries).get wanted = .nil ∨
      ∃ entry ∈ entries, Value.order entry.1.asKey wanted.asKey = .eq ∧
        (ofEntries entries).get wanted = entry.2 := by
  rcases get_setAll_cases {} entries wanted with nothing | found
  · exact .inl (nothing.trans (get_empty wanted))
  · exact .inr found

/-- In a table that is made of entries under strings nothing stands under other keys. -/
theorem get_stringEntries_cases (entries : List (String × Value)) (wanted : Value) :
    (ofEntries (stringEntries entries)).get wanted = .nil ∨
      ∃ entry ∈ entries, wanted = .ofString entry.1 ∧
        (ofEntries (stringEntries entries)).get wanted = entry.2 := by
  rcases get_ofEntries_cases (stringEntries entries) wanted with
    nothing | ⟨found, member, same, value⟩
  · exact .inl nothing
  · obtain ⟨entry, listed, rfl⟩ := List.mem_map.mp member
    have key : Value.order wanted.asKey (.str (Bytes.ofString entry.1)) = .eq :=
      Std.OrientedCmp.eq_comm.mp same
    rw [Value.order_str_right_iff, Value.asKey_eq_str_iff] at key
    exact .inr ⟨entry, listed, key, value⟩

end Table

namespace Heap

/-! ## Tables that refer to each other -/

/-- A table refers to another one. -/
inductive Holds (heap : Heap) (id other : Nat) : Prop where
  | value (key : Value) (held : heap.rawGet id key = .table other)
  | key (held : heap.rawGet id (.table other) ≠ .nil)
  | metatable (held : (heap.table id).metatable = some other)

/-- A table that is made of entries under strings refers to the tables among their values. -/
theorem Holds.of_stringEntries {heap : Heap} {id other : Nat} {entries : List (String × Value)}
    (contents : heap.table id = .ofEntries (Table.stringEntries entries))
    (holds : heap.Holds id other) : ∃ entry ∈ entries, entry.2 = .table other := by
  cases holds with
  | value key held =>
    rw [rawGet, contents] at held
    rcases Table.get_stringEntries_cases entries key with nothing | ⟨entry, member, -, found⟩
    · rw [nothing] at held
      cases held
    · exact ⟨entry, member, found.symm.trans held⟩
  | key held =>
    rw [rawGet, contents] at held
    rcases Table.get_stringEntries_cases entries (.table other) with
      nothing | ⟨entry, member, same, -⟩
    · exact absurd nothing held
    · cases same
  | metatable held =>
    rw [contents, Table.metatable_ofEntries] at held
    cases held

/-- A table is the metatable of all strings, or that of all handles. -/
def Shares (heap : Heap) (id : Nat) : Prop :=
  heap.strings = some id ∨ heap.handles = some id

/-- A table leads to itself and to whatever the tables that it leads to refer to.  The metatables
of strings and of handles are shared by all, and so every table leads to them. -/
inductive Leads (heap : Heap) (source : Nat) : Nat → Prop where
  | self : Leads heap source source
  | holds {id other : Nat} (leads : Leads heap source id) (held : heap.Holds id other) :
    Leads heap source other
  | shared {id : Nat} (held : heap.Shares id) : Leads heap source id

theorem mem_tables_newTable {heap : Heap} {id : Nat} (known : id ∈ heap.tables) (table : Table) :
    id ∈ (heap.newTable table).1.tables := by
  simp [newTable, known]

theorem fresh_mem_tables_newTable (heap : Heap) (table : Table) :
    heap.fresh ∈ (heap.newTable table).1.tables := by
  simp [newTable]

/-- Every table that is referred to stands on the heap, under a number that was given out. -/
structure IsStore (heap : Heap) : Prop where
  below : ∀ id ∈ heap.tables, id < heap.fresh
  held : ∀ id other, heap.Holds id other → other ∈ heap.tables
  shared : ∀ id, heap.Shares id → id ∈ heap.tables

/-- What a table refers to depends on its contents only. -/
theorem Holds.of_table_eq {heap other : Heap} {id next : Nat}
    (same : other.table id = heap.table id) (holds : other.Holds id next) :
    heap.Holds id next := by
  cases holds with
  | value key held => exact .value key (by rwa [rawGet, ← same])
  | key held => exact .key (by rwa [rawGet, ← same])
  | metatable held => exact .metatable (same ▸ held)

theorem isStore_empty : IsStore {} where
  below _ known := absurd known (Std.TreeMap.not_mem_emptyc)
  held id _ holds := by
    have contents : table {} id = .ofEntries (Table.stringEntries []) := rfl
    obtain ⟨_, member, -⟩ := holds.of_stringEntries contents
    cases member
  shared _ held := nomatch held

/-- A new table may refer to the tables that are there. -/
theorem IsStore.newTable {heap : Heap} (store : heap.IsStore) {entries : List (String × Value)}
    (known : ∀ entry ∈ entries, ∀ id, entry.2 = .table id → id ∈ heap.tables) :
    (heap.newTable (.ofEntries (Table.stringEntries entries))).1.IsStore where
  below id there := by
    simp only [Heap.newTable, Std.TreeMap.mem_insert, Nat.compare_eq_eq] at there
    rcases there with rfl | older
    · exact Nat.lt_succ_self _
    · exact Nat.lt_succ_of_lt (store.below id older)
  held id other holds := by
    suffices older : other ∈ heap.tables from mem_tables_newTable older _
    by_cases new : id = heap.fresh
    · have contents := (table_newTable heap (.ofEntries (Table.stringEntries entries)) id).trans
        (if_pos new)
      obtain ⟨entry, member, held⟩ := holds.of_stringEntries contents
      exact known entry member other held
    · exact store.held id other (holds.of_table_eq ((table_newTable ..).trans (if_neg new)))
  shared id held := mem_tables_newTable (store.shared id held) _

theorem IsStore.mem_of_leads {heap : Heap} {source id : Nat} (store : heap.IsStore)
    (known : source ∈ heap.tables) (leads : heap.Leads source id) : id ∈ heap.tables := by
  cases leads with
  | self => exact known
  | holds leads held => exact store.held _ _ held
  | shared held => exact store.shared _ held

/-- A heap has become another one, and the tables that were there have stayed as they were. -/
structure KeptIn (heap later : Heap) : Prop where
  fresh : heap.fresh ≤ later.fresh
  strings : later.strings = heap.strings
  handles : later.handles = heap.handles
  tables : ∀ id ∈ heap.tables, id ∈ later.tables ∧ later.table id = heap.table id

theorem KeptIn.refl (heap : Heap) : heap.KeptIn heap :=
  ⟨Nat.le_refl _, rfl, rfl, fun _ known => ⟨known, rfl⟩⟩

/-! ## Reading through a table -/

/-- Looking up one key after another, first in a value, then in what was found there, comes to
a value.  Only tables are looked into, and no function is called. -/
inductive Reads (heap : Heap) : Value → List Value → Value → Prop where
  | here (value : Value) : Reads heap value [] value
  | under {id : Nat} {key found last : Value} {keys : List Value} {steps : Nat}
    (looked : Behaviour.Direct heap (index none (.table id) key []) steps found heap)
    (rest : Reads heap found keys last) : Reads heap (.table id) (key :: keys) last

/-- Some tables refer to each other only.  Where one has a metatable, strings and handles may be
looked into, so the metatables of these are among them. -/
structure IsClosed (heap : Heap) (among : Nat → Prop) : Prop where
  held : ∀ id other, among id → heap.Holds id other → among other
  shared : ∀ id other, among id → (heap.table id).metatable ≠ none →
    heap.Shares other → among other

theorem isClosed_leads (heap : Heap) (source : Nat) : heap.IsClosed (heap.Leads source) where
  held _ _ leads held := .holds leads held
  shared _ _ _ _ held := .shared held

/-- Two heaps have the same contents in some tables. -/
structure AgreesOn (heap other : Heap) (among : Nat → Prop) : Prop where
  tables : ∀ id, among id → other.table id = heap.table id
  strings : other.strings = heap.strings
  handles : other.handles = heap.handles

/-- What looking into a value may see stands in some tables. -/
def Within (heap : Heap) (among : Nat → Prop) : Value → Prop
  | .table id => among id
  | .str _ | .handle _ => ∀ id, heap.Shares id → among id
  | _ => True

theorem AgreesOn.refl (heap : Heap) (among : Nat → Prop) : AgreesOn heap heap among :=
  ⟨fun _ _ => rfl, rfl, rfl⟩

section Congruence

variable {heap other : Heap} {among : Nat → Prop}

theorem AgreesOn.rawGet (agrees : AgreesOn heap other among) {id : Nat} (member : among id)
    (key : Value) : other.rawGet id key = heap.rawGet id key := by
  rw [Heap.rawGet, Heap.rawGet, agrees.tables id member]

theorem IsClosed.metatable (closed : heap.IsClosed among) {value : Value}
    (within : heap.Within among value) {id : Nat} (has : heap.metatable? value = some id) :
    among id := by
  cases value with
  | table own => exact closed.held own id within (.metatable has)
  | str text => exact within id (.inl has)
  | handle own => exact within id (.inr has)
  | _ => cases has

theorem AgreesOn.metatable? (agrees : AgreesOn heap other among) {value : Value}
    (within : heap.Within among value) : other.metatable? value = heap.metatable? value := by
  cases value with
  | table own => exact congrArg Table.metatable (agrees.tables own within)
  | str text => exact agrees.strings
  | handle own => exact agrees.handles
  | _ => rfl

theorem AgreesOn.metamethod (agrees : AgreesOn heap other among) (closed : heap.IsClosed among)
    {value : Value} (within : heap.Within among value) (event : String) :
    other.metamethod value event = heap.metamethod value event := by
  unfold Heap.metamethod
  rw [agrees.metatable? within]
  cases has : heap.metatable? value with
  | none => rfl
  | some id => exact agrees.rawGet (closed.metatable within has) _

end Congruence

end Heap

/-! ## One look-up -/

/-- What looking up a key sees at first: the value that was found, and who is asked next. -/
def peek (heap : Heap) (value key : Value) : Value × Value :=
  match value with
  | .table id =>
    match heap.rawGet id key with
    | .nil => (Value.nil, heap.metamethod value "__index")
    | found => (found, Value.nil)
  | _ => (Value.nil, heap.metamethod value "__index")

/-- What looking up a key does then. -/
def passOn (site : Option Site) (limit : Nat) (value key : Value) (subject : Bytes)
    (seen : Value × Value) : Behaviour Value :=
  match value, seen.2 with
  | .table _, .nil => .done seen.1
  | _, .nil => refuseType site "index" value subject
  | _, _ =>
    if seen.2.isFunction then Value.first <$> .call site seen.2 [value, key] .done
    else indexFrom site limit seen.2 key []

theorem indexFrom_succ (site : Option Site) (limit : Nat) (value key : Value) (subject : Bytes) :
    indexFrom site (limit + 1) value key subject =
      .read fun heap => passOn site limit value key subject (peek heap value key) := rfl

open Behaviour

/-- A direct look-up has found something, or goes on with whoever is asked next. -/
theorem direct_passOn {heap later : Heap} {site : Option Site} {limit steps : Nat}
    {value key found : Value} {subject : Bytes} {seen : Value × Value}
    (direct : Direct heap (passOn site limit value key subject seen) steps found later) :
    (found = seen.1 ∧ later = heap ∧
        passOn site limit value key subject seen = .done seen.1) ∨
      passOn site limit value key subject seen = indexFrom site limit seen.2 key [] := by
  obtain ⟨entry, handler⟩ := seen
  by_cases asked : handler = .nil
  · subst asked
    by_cases isTable : ∃ id, value = .table id
    · obtain ⟨id, rfl⟩ := isTable
      cases direct
      exact .inl ⟨rfl, rfl, rfl⟩
    · have refused : passOn site limit value key subject (entry, .nil) =
          refuseType site "index" value subject := by
        cases value with
        | table id => exact absurd ⟨id, rfl⟩ isTable
        | _ => rfl
      rw [refused] at direct
      cases direct with
      | read rest => cases rest
  · have goesOn : passOn site limit value key subject (entry, handler) =
        if handler.isFunction then Value.first <$> .call site handler [value, key] .done
        else indexFrom site limit handler key [] := by
      cases handler with
      | nil => exact absurd rfl asked
      | _ => cases value <;> rfl
    rw [goesOn] at direct ⊢
    split at direct
    · cases direct
    · next notFunction => exact .inr (if_neg notFunction)

namespace Heap

section Congruence

variable {heap other : Heap} {among : Nat → Prop}

/-- The first look sees the same, and nothing but what the tables refer to. -/
theorem AgreesOn.peek (agrees : AgreesOn heap other among) (closed : heap.IsClosed among)
    {value : Value} (within : heap.Within among value) (key : Value) :
    Script.peek other value key = Script.peek heap value key := by
  unfold Script.peek
  rw [agrees.metamethod closed within]
  cases value with
  | table id =>
    have member : among id := within
    simp only [agrees.rawGet member]
  | _ => rfl

/-- Whoever is asked next can be looked into as well. -/
theorem IsClosed.within_metamethod (closed : heap.IsClosed among) {value : Value}
    (within : heap.Within among value) (event : String) :
    heap.Within among (heap.metamethod value event) := by
  unfold Heap.metamethod
  cases has : heap.metatable? value with
  | none => trivial
  | some id =>
    have member := closed.metatable within has
    -- A handler that is a string or a handle is looked into by way of a shared metatable.
    have shared : ∀ other, heap.Shares other → among other := by
      cases value with
      | table own =>
        have present : (heap.table own).metatable ≠ none := fun none => by
          rw [Heap.metatable?, none] at has
          cases has
        exact fun other => closed.shared own other within present
      | str text => exact within
      | handle own => exact within
      | _ => cases has
    dsimp only
    cases held : heap.rawGet id (.ofString event) with
    | table other => exact closed.held id other member (.value _ held)
    | str text => exact shared
    | handle own => exact shared
    | _ => trivial

theorem IsClosed.within_peek (closed : heap.IsClosed among) {value : Value}
    (within : heap.Within among value) (key : Value) :
    (∀ next, (Script.peek heap value key).1 = .table next → among next) ∧
      heap.Within among (Script.peek heap value key).2 := by
  have asked := closed.within_metamethod within "__index"
  unfold Script.peek
  cases value with
  | table id =>
    dsimp only
    cases held : heap.rawGet id key with
    | nil => exact ⟨nofun, asked⟩
    | table other =>
      refine ⟨?_, trivial⟩
      rintro _ ⟨rfl⟩
      exact closed.held id other within (.value key held)
    | _ => exact ⟨nofun, trivial⟩
  | _ => exact ⟨nofun, asked⟩

/-- A direct look-up finds the same in a heap that agrees on the tables that it may see, and it
finds none but these. -/
theorem AgreesOn.direct_indexFrom (agrees : AgreesOn heap other among)
    (closed : heap.IsClosed among) {limit : Nat} {site : Option Site} {value key found : Value}
    {subject : Bytes} {steps : Nat} {later : Heap} (within : heap.Within among value)
    (direct : Direct heap (indexFrom site limit value key subject) steps found later) :
    Direct other (indexFrom site limit value key subject) steps found other ∧
      ∀ next, found = .table next → among next := by
  -- On how many more may be asked.  What carries it is that whoever is asked next is among
  -- the tables as well.
  induction limit generalizing value subject steps with
  | zero => cases direct
  | succ limit ih =>
    rw [indexFrom_succ] at direct ⊢
    obtain ⟨held, asked⟩ := closed.within_peek within key
    cases direct with
    | @read _ _ _ steps _ rest =>
      dsimp only at rest
      have same := agrees.peek closed within key
      rcases direct_passOn rest with ⟨rfl, rfl, ends⟩ | goesOn
      · rw [ends] at rest
        cases rest
        refine ⟨.read ?_, held⟩
        rw [same, ends]
        exact .done
      · rw [goesOn] at rest
        obtain ⟨there, known⟩ := ih asked rest
        refine ⟨.read ?_, known⟩
        rw [same, goesOn]
        exact there

/-- Whatever is read through a table is read in a heap that agrees on the tables that the reads
may see. -/
theorem AgreesOn.reads (agrees : AgreesOn heap other among) (closed : heap.IsClosed among)
    {value last : Value} {keys : List Value}
    (within : ∀ id, value = .table id → among id) (reads : heap.Reads value keys last) :
    other.Reads value keys last := by
  induction reads with
  | here value => exact .here value
  | @under id key found last keys steps looked rest ih =>
    have member : heap.Within among (.table id) := within id rfl
    obtain ⟨there, known⟩ := agrees.direct_indexFrom closed member looked
    exact .under there (ih known)

theorem AgreesOn.symm (agrees : AgreesOn heap other among) : AgreesOn other heap among where
  tables id member := (agrees.tables id member).symm
  strings := agrees.strings.symm
  handles := agrees.handles.symm

theorem AgreesOn.isClosed (agrees : AgreesOn heap other among) (closed : heap.IsClosed among) :
    other.IsClosed among where
  held id next member holds :=
    closed.held id next member (holds.of_table_eq (agrees.tables id member))
  shared id next member has held := by
    rw [Shares, agrees.strings, agrees.handles] at held
    exact closed.shared id next member (agrees.tables id member ▸ has) held

/-- Reading through a table depends on the tables that may be seen, and on nothing else. -/
theorem AgreesOn.reads_iff (agrees : AgreesOn heap other among) (closed : heap.IsClosed among)
    {source : Nat} (member : among source) (keys : List Value) (value : Value) :
    other.Reads (.table source) keys value ↔ heap.Reads (.table source) keys value := by
  have within : ∀ id, Value.table source = .table id → among id := by
    rintro id ⟨rfl⟩
    exact member
  exact ⟨agrees.symm.reads (agrees.isClosed closed) within, agrees.reads closed within⟩

end Congruence

/-! ## Assignments -/

/-- A value to be stored under a key of a table. -/
structure Assignment where
  table : Nat
  key : Value
  value : Value

/-- Store one value after another. -/
def assign (heap : Heap) : List Assignment → Heap
  | [] => heap
  | first :: rest => (heap.rawSet first.table first.key first.value).assign rest

/-- Assignments change the tables that they are made to. -/
theorem table_assign {assignments : List Assignment} {id : Nat} (heap : Heap)
    (other : ∀ assignment ∈ assignments, assignment.table ≠ id) :
    (heap.assign assignments).table id = heap.table id := by
  induction assignments generalizing heap with
  | nil => rfl
  | cons first rest ih =>
    rw [assign, ih _ fun assignment member => other assignment (List.mem_cons_of_mem _ member),
      table_rawSet, if_neg (Ne.symm (other first (List.mem_cons_self ..)))]

theorem strings_assign (heap : Heap) (assignments : List Assignment) :
    (heap.assign assignments).strings = heap.strings := by
  induction assignments generalizing heap with
  | nil => rfl
  | cons first rest ih => exact ih _

theorem handles_assign (heap : Heap) (assignments : List Assignment) :
    (heap.assign assignments).handles = heap.handles := by
  induction assignments generalizing heap with
  | nil => rfl
  | cons first rest ih => exact ih _

/-- Assignments to other tables leave some tables as they are. -/
theorem AgreesOn.assign {heap other : Heap} {among : Nat → Prop}
    (agrees : AgreesOn heap other among) {assignments : List Assignment}
    (apart : ∀ assignment ∈ assignments, ¬among assignment.table) :
    AgreesOn heap (other.assign assignments) among where
  tables id member := by
    refine (table_assign other ?_).trans (agrees.tables id member)
    rintro assignment made rfl
    exact apart assignment made member
  strings := (strings_assign other assignments).trans agrees.strings
  handles := (handles_assign other assignments).trans agrees.handles

end Heap

end MediaImport.Script
