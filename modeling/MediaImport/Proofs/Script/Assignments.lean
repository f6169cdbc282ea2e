import MediaImport.Proofs.Script.Levels
import MediaImport.Proofs.Script.PropertyReads

/-!
# Assignments to tables without a metatable

Looking into a table and storing in it call nothing, as long as the table has no
metatable: all that happens is that the heap is looked at and changed.  `Direct` says
this of a behaviour, together with what it comes to and what becomes of the heap, and an
interpreter that runs such a behaviour ends with just that.

An assignment to a field changes one place.  Under every other name, and in every other
table, there stands what stood there before.
-/

namespace MediaImport.Script

/-! ## What stands in a table after a store -/

theorem Value.order_str_right_iff (key : Value) (wanted : Bytes) :
    Value.order key (.str wanted) = .eq ↔ key = .str wanted := by
  cases key with
  | str stored => rw [order_str_eq_iff, str.injEq]
  | _ => simp [order, compareLex, compareOn, rank]

theorem Value.asKey_eq_str_iff (key : Value) (wanted : Bytes) :
    key.asKey = .str wanted ↔ key = .str wanted := by
  cases key with
  | float number =>
    rw [asKey]
    split <;> simp
  | _ => rfl

namespace Table

/-- Storing changes what is read under the same key, and under no other string. -/
theorem get_set (table : Table) (key value : Value) (wanted : Bytes) :
    (table.set key value).get (.str wanted) =
      if key = .str wanted then value else table.get (.str wanted) := by
  have same : Value.order key.asKey (.str wanted) = .eq ↔ key = .str wanted := by
    rw [Value.order_str_right_iff, Value.asKey_eq_str_iff]
  have found : (Value.str wanted).asKey = .str wanted := rfl
  cases value with
  | nil => simp only [get, set, found, Std.TreeMap.getD_erase, same]
  | _ => simp only [get, set, found, Std.TreeMap.getD_insert, same]

end Table

namespace Heap

theorem table_rawSet (heap : Heap) (id other : Nat) (key value : Value) :
    (heap.rawSet id key value).table other =
      if other = id then (heap.table id).set key value else heap.table other := by
  by_cases same : other = id
  · simp [rawSet, setTable, table, same]
  · simp [rawSet, setTable, table, same, Std.TreeMap.getD_insert, Ne.symm same]

/-- Storing changes one place. -/
theorem property_rawSet (heap : Heap) (id other : Nat) (key value : Value) (name : String) :
    (heap.rawSet id key value).property other name =
      if other = id ∧ key = .ofString name then value else heap.property other name := by
  simp only [property, rawGet, table_rawSet]
  by_cases same : other = id
  · subst same
    simp only [if_true, true_and, Value.ofString, Table.get_set]
  · simp only [same, if_false, false_and]

@[simp]
theorem metatable_rawSet (heap : Heap) (id other : Nat) (key value : Value) :
    ((heap.rawSet id key value).table other).metatable = (heap.table other).metatable := by
  rw [table_rawSet]
  by_cases same : other = id
  · rw [if_pos same, Table.metatable_set, same]
  · rw [if_neg same]

/-- Store a value under each of some names of a table. -/
def storeUnder (heap : Heap) (table : Nat) (value : String → Value) : List String → Heap
  | [] => heap
  | name :: names =>
    (heap.rawSet table (.ofString name) (value name)).storeUnder table value names

theorem property_storeUnder (table : Nat) (value : String → Value) (names : List String)
    (heap : Heap) (place : Nat) (name : String) :
    (heap.storeUnder table value names).property place name =
      if place = table ∧ name ∈ names then value name else heap.property place name := by
  induction names generalizing heap with
  | nil => simp [storeUnder]
  | cons first names ih =>
    have named : Value.ofString first = .ofString name ↔ first = name := by
      rw [Value.ofString, Value.ofString, Value.str.injEq, Bytes.ofString_inj]
    rw [storeUnder, ih, property_rawSet]
    simp only [named, List.mem_cons]
    by_cases here : place = table
    · by_cases last : name ∈ names
      · simp only [here, last, true_and, or_true, if_true]
      · by_cases same : first = name
        · simp [here, last, same]
        · simp [here, last, same, Ne.symm same]
    · simp only [here, false_and, if_false]

@[simp]
theorem metatable_storeUnder (table : Nat) (value : String → Value) (names : List String)
    (heap : Heap) (place : Nat) :
    ((heap.storeUnder table value names).table place).metatable =
      (heap.table place).metatable := by
  induction names generalizing heap with
  | nil => rfl
  | cons first names ih => rw [storeUnder, ih, metatable_rawSet]

end Heap

/-! ## Behaviours that only look at the heap and change it -/

namespace Behaviour

variable {α β : Type}

/-- From some heap, a behaviour comes to a value in so many steps, and all that it does is
to look at the heap and to change it into another one. -/
inductive Direct : Heap → Behaviour α → Nat → α → Heap → Prop where
  | done {heap : Heap} {value : α} : Direct heap (.done value) 0 value heap
  | read {heap later : Heap} {next : Heap → Behaviour α} {steps : Nat} {value : α}
    (rest : Direct heap (next heap) steps value later) :
    Direct heap (.read next) (steps + 1) value later
  | write {heap later : Heap} {change : Heap → Heap} {next : Unit → Behaviour α} {steps : Nat}
    {value : α} (rest : Direct (change heap) (next ()) steps value later) :
    Direct heap (.write change next) (steps + 1) value later

theorem Direct.bind {heap middle later : Heap} {first : Behaviour α} {steps more : Nat}
    {value : α} {result : β} (begins : Direct heap first steps value middle)
    (rest : α → Behaviour β) (goesOn : Direct middle (rest value) more result later) :
    Direct heap (first.bind rest) (steps + more) result later := by
  induction begins with
  | done =>
    rw [Nat.zero_add]
    exact goesOn
  | read _ ih =>
    rw [Nat.add_right_comm]
    exact .read (ih goesOn)
  | write _ ih =>
    rw [Nat.add_right_comm]
    exact .write (ih goesOn)

theorem Direct.map {heap later : Heap} {behaviour : Behaviour α} {steps : Nat} {value : α}
    (direct : Direct heap behaviour steps value later) (change : α → β) :
    Direct heap (change <$> behaviour) steps (change value) later :=
  direct.bind (fun value => .done (change value)) .done

end Behaviour

open Behaviour

theorem direct_index {heap : Heap} {table : Nat} (plain : (heap.table table).metatable = none)
    (site : Option Site) (key : Value) (subject : Bytes) :
    Direct heap (index site (.table table) key subject) 1 (heap.rawGet table key) heap := by
  refine .read ?_
  have noHandler : heap.metamethod (.table table) "__index" = .nil := by
    simp [Heap.metamethod, Heap.metatable?, plain]
  simp only [noHandler]
  cases heap.rawGet table key <;> exact .done

theorem direct_store {heap : Heap} {table : Nat} (plain : (heap.table table).metatable = none)
    (site : Option Site) {key : Value} (usable : badKey? key = none) (value : Value)
    (subject : Bytes) :
    Direct heap (store site (.table table) key value subject) 2 ()
      (heap.rawSet table key value) := by
  refine .read ?_
  have noHandler : heap.metamethod (.table table) "__newindex" = .nil := by
    simp [Heap.metamethod, Heap.metatable?, plain]
  simp only [noHandler, usable, Behaviour.bind, BEq.rfl, Bool.or_true]
  exact .write .done

/-! ## Running them -/

theorem Config.run_of_direct {σ : Type} (host : Host σ) {heap later : Heap}
    {behaviour : Behaviour Signal} {steps : Nat} {signal : Signal}
    (direct : Direct heap behaviour steps signal later) (config : Config σ)
    (focus : config.focus = behaviour) (alone : config.frames = []) (looksAt : config.heap = heap)
    {limit : Nat} (enough : steps < limit) :
    config.run host limit = { config with focus := .done signal, heap := later } := by
  induction direct generalizing config limit with
  | @done heap signal =>
    obtain ⟨limit, rfl⟩ := Nat.exists_eq_succ_of_ne_zero (Nat.ne_zero_of_lt enough)
    have finished : config.ending? = some (.ended (.ok signal.values)) := by
      simp only [ending?, focus, alone]
    rw [run, finished, ← focus, ← looksAt]
  | @read heap later next steps signal direct ih =>
    obtain ⟨limit, rfl⟩ := Nat.exists_eq_succ_of_ne_zero (Nat.ne_zero_of_lt enough)
    have unfinished : config.ending? = none := by
      simp only [ending?, focus, alone]
    have stepped : config.step host = { config with focus := next heap } := by
      simp only [step, focus, looksAt]
    rw [run, unfinished, stepped]
    exact ih { config with focus := next heap } rfl alone looksAt (Nat.lt_of_succ_lt_succ enough)
  | @write heap later change next steps signal direct ih =>
    obtain ⟨limit, rfl⟩ := Nat.exists_eq_succ_of_ne_zero (Nat.ne_zero_of_lt enough)
    have unfinished : config.ending? = none := by
      simp only [ending?, focus, alone]
    have stepped : config.step host =
        { config with focus := next (), heap := change heap } := by
      simp only [step, focus, looksAt]
    rw [run, unfinished, stepped]
    exact ih { config with focus := next (), heap := change heap } rfl alone rfl
      (Nat.lt_of_succ_lt_succ enough)

namespace Interpreter

variable {σ : Type} (host : Host σ) (interpreter : Interpreter) (state : σ)

/-- An interpreter that runs such a behaviour ends with its value and its heap. -/
theorem attempt_of_direct {behaviour : Behaviour Signal} {steps : Nat} {signal : Signal}
    {later : Heap} (direct : Direct interpreter.heap behaviour steps signal later)
    (enough : steps < stepLimit) :
    interpreter.attempt host state behaviour =
      (.ok signal.values, { interpreter with heap := later }, state) := by
  have within : steps < interpreter.limit := Nat.lt_add_right _ enough
  have ran := Config.run_of_direct host direct (interpreter.start state behaviour) rfl rfl rfl
    within
  rw [attempt, Interpreter.run]
  simp only [ran]
  rfl

end Interpreter

end MediaImport.Script
