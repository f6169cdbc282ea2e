import MediaImport.Proofs.Exchange.AskedProperties
import MediaImport.Proofs.Script.TableContents
import MediaImport.Script.Interpreter

/-!
# Reading properties of tables in an interpreter

A property may be computed by a metatable, which may run any script: it may change
the heap, add objects, answer differently the next time, or raise an error.  What
can be said of all tables is what a reading comes to when every property it asks for
is answered: it depends on the answers alone.  A reading that asks for nothing twice
sees one answer for each property, and so a view.

A table without a metatable answers with its entries, and answering changes nothing.
-/

namespace MediaImport.Script

open MediaImport.Exchange

namespace Interpreter

variable {σ α : Type}

/-- Read one property of a table. -/
def readProperty (host : Host σ) (interpreter : Interpreter) (state : σ) (table : Nat)
    (key : String) : Except Failure (List Value) × Interpreter × σ :=
  interpreter.attempt host state
    ((fun value => .result [value]) <$> index none (.table table) (.ofString key) [])

/-- Every property that a reading asks for is answered, by whatever value. -/
def Quiet (host : Host σ) : Reading α → Interpreter → σ → Prop
  | .done _, _, _ => True
  | .fail _, _, _ => True
  | .get table key next, interpreter, state =>
    ∃ values interpreter' state',
      interpreter.readProperty host state table key = (.ok values, interpreter', state') ∧
      Quiet host (next (Value.first values)) interpreter' state'

/-- Every property that a reading asks for is answered, by the value in a view. -/
def Answered (host : Host σ) (view : Nat → String → Value) :
    Reading α → Interpreter → σ → Prop
  | .done _, _, _ => True
  | .fail _, _, _ => True
  | .get table key next, interpreter, state =>
    ∃ values interpreter' state',
      interpreter.readProperty host state table key = (.ok values, interpreter', state') ∧
      Value.first values = view table key ∧
      Answered host view (next (view table key)) interpreter' state'

theorem read_get (host : Host σ) (interpreter : Interpreter) (state : σ) (table : Nat)
    (key : String) (next : Value → Reading α) :
    interpreter.read host state (.get table key next) =
      match interpreter.readProperty host state table key with
      | (.ok values, interpreter, state) =>
        interpreter.read host state (next (Value.first values))
      | (.error failure, interpreter, state) =>
        (.error (outside failure), interpreter, state) := by
  rw [read, readProperty]
  cases interpreter.attempt host state _ with
  | mk result rest => cases result <;> rfl

/-- What a reading comes to depends on the answers alone. -/
theorem read_of_answered {host : Host σ} {view : Nat → String → Value} {reading : Reading α}
    {interpreter : Interpreter} {state : σ}
    (answered : Answered host view reading interpreter state) :
    (interpreter.read host state reading).1 = reading.under view := by
  induction reading generalizing interpreter state with
  | done value => rw [read]; rfl
  | fail failure => rw [read]; rfl
  | get table key next ih =>
    obtain ⟨values, interpreter', state', answer, value, rest⟩ := answered
    rw [read_get, answer, Reading.under]
    change (interpreter'.read host state' (next (Value.first values))).1 = _
    rw [value]
    exact ih _ rest

theorem Answered.quiet {host : Host σ} {view : Nat → String → Value} {reading : Reading α}
    {interpreter : Interpreter} {state : σ}
    (answered : Answered host view reading interpreter state) :
    Quiet host reading interpreter state := by
  induction reading generalizing interpreter state with
  | done value => trivial
  | fail failure => trivial
  | get table key next ih =>
    obtain ⟨values, interpreter', state', answer, value, rest⟩ := answered
    refine ⟨values, interpreter', state', answer, ?_⟩
    rw [value]
    exact ih _ rest

/-- A reading that came to a value was answered every time. -/
theorem quiet_of_read {host : Host σ} {reading : Reading α} {interpreter : Interpreter} {state : σ}
    {value : α} (came : (interpreter.read host state reading).1 = .ok value) :
    Quiet host reading interpreter state := by
  induction reading generalizing interpreter state with
  | done value => trivial
  | fail failure => trivial
  | get table key next ih =>
    rw [read_get] at came
    unfold Quiet
    cases answer : interpreter.readProperty host state table key with
    | mk result rest =>
      rw [answer] at came
      cases result with
      | error failure => cases came
      | ok values => exact ⟨values, rest.1, rest.2, rfl, ih _ came⟩

/-- A reading that asks for nothing twice sees one answer for each property. -/
theorem Quiet.answered {host : Host σ} {reading : Reading α} {names : List String}
    {interpreter : Interpreter} {state : σ} (quiet : Quiet host reading interpreter state)
    (asks : reading.Asks (fun _ _ _ => True) (fun _ => True) names) (distinct : names.Nodup)
    (base : Nat → String → Value) :
    ∃ view, Answered host view reading interpreter state ∧
      ∀ table key, key ∉ names → view table key = base table key := by
  induction reading generalizing names interpreter state base with
  | done value => exact ⟨base, trivial, fun _ _ _ => rfl⟩
  | fail failure => exact ⟨base, trivial, fun _ _ _ => rfl⟩
  | get table key next ih =>
    obtain ⟨values, interpreter', state', answer, rest⟩ := quiet
    obtain ⟨-, before, after, split, later⟩ := asks
    subst split
    obtain ⟨-, distinct, apart⟩ := List.nodup_append.mp distinct
    obtain ⟨fresh, distinct⟩ := List.nodup_cons.mp distinct
    obtain ⟨view, answered, agrees⟩ := ih _ rest (later _ trivial) distinct
      fun table other => if other = key then Value.first values else base table other
    have own : view table key = Value.first values := by
      rw [agrees table key fresh, if_pos rfl]
    refine ⟨view, ⟨values, interpreter', state', answer, own.symm, own ▸ answered⟩, ?_⟩
    intro table other notAsked
    rw [List.mem_append, List.mem_cons, not_or, not_or] at notAsked
    rw [agrees table other notAsked.2.2, if_neg notAsked.2.1]

theorem Quiet.exists_answered {host : Host σ} {reader : Reader} {previous : Option Media.Object}
    {table : Nat} {interpreter : Interpreter} {state : σ}
    (quiet : Quiet host (reader.object previous (some table)) interpreter state) :
    ∃ view, Answered host view (reader.object previous (some table)) interpreter state := by
  obtain ⟨view, answered, -⟩ :=
    quiet.answered (reader.asks_object trivial (fun _ _ => trivial) previous)
      Reader.nodup_askedNames fun _ _ => .nil
  exact ⟨view, answered⟩

end Interpreter

/-! ## Tables without a metatable -/

/-- Looking into a table without a metatable is one look at the heap. -/
theorem map_index_table {β : Type} (use : Value → β) (site : Option Site) (table : Nat)
    (key : Value) (subject : Bytes) :
    ∃ next, use <$> index site (.table table) key subject = .read next ∧
      ∀ heap : Heap, (heap.table table).metatable = none →
        next heap = .done (use (heap.rawGet table key)) := by
  refine ⟨_, rfl, ?_⟩
  intro heap plain
  have noHandler : heap.metamethod (.table table) "__index" = .nil := by
    simp [Heap.metamethod, Heap.metatable?, plain]
  simp only [noHandler]
  cases heap.rawGet table key <;> rfl

theorem Config.run_of_two_steps {σ : Type} (host : Host σ) {limit : Nat} (enough : 2 ≤ limit)
    (config : Config σ) (unfinished : config.ending? = none) {ending : Ending}
    (finished : (config.step host).ending? = some ending) :
    config.run host limit = config.step host := by
  obtain ⟨limit, rfl⟩ := Nat.exists_eq_add_of_le' enough
  rw [run, unfinished]
  change (config.step host).run host (limit + 1) = _
  rw [run, finished]

namespace Interpreter

variable {σ α : Type}

/-- A table without a metatable answers with its entry, and nothing changes. -/
theorem readProperty_of_plain (host : Host σ) (interpreter : Interpreter) (state : σ)
    (table : Nat) (key : String) (plain : (interpreter.heap.table table).metatable = none) :
    interpreter.readProperty host state table key =
      (.ok [interpreter.heap.property table key], interpreter, state) := by
  obtain ⟨next, request, look⟩ := map_index_table (fun value => Signal.result [value]) none table
    (.ofString key) []
  have answer := look interpreter.heap plain
  let start := interpreter.start state (.read next)
  have asked : start.step host =
      { start with focus := .done (.result [interpreter.heap.property table key]) } := by
    simp only [start, Interpreter.start, Config.step, answer]
    rfl
  have finished : (start.step host).ending? =
      some (.ended (.ok [interpreter.heap.property table key])) := by
    rw [asked]
    rfl
  have enough : 2 ≤ interpreter.limit := Nat.le_add_right_of_le (by decide)
  have ran : start.run host interpreter.limit = start.step host :=
    start.run_of_two_steps host enough rfl finished
  rw [readProperty, request, attempt, run]
  simp only [start] at ran asked
  simp only [ran, asked]
  rfl

/-- Reading tables without a metatable is looking at the heap. -/
theorem read_of_plain (host : Host σ) (interpreter : Interpreter) (state : σ)
    (reading : Reading α) (names : List String)
    (asks : reading.Asks (fun table key value => value = interpreter.heap.property table key)
      (fun table => (interpreter.heap.table table).metatable = none) names) :
    interpreter.read host state reading =
      (reading.under interpreter.heap.property, interpreter, state) := by
  induction reading generalizing names with
  | done value => rw [read]; rfl
  | fail failure => rw [read]; rfl
  | get table key next ih =>
    obtain ⟨plain, before, after, -, later⟩ := asks
    rw [read_get, readProperty_of_plain host interpreter state table key plain]
    exact ih _ after (later _ rfl)

theorem answered_of_plain (host : Host σ) (interpreter : Interpreter) (state : σ)
    (reading : Reading α) (names : List String)
    (asks : reading.Asks (fun table key value => value = interpreter.heap.property table key)
      (fun table => (interpreter.heap.table table).metatable = none) names) :
    Answered host interpreter.heap.property reading interpreter state := by
  induction reading generalizing names with
  | done value => trivial
  | fail failure => trivial
  | get table key next ih =>
    obtain ⟨plain, before, after, -, later⟩ := asks
    exact ⟨_, interpreter, state, readProperty_of_plain host interpreter state table key plain, rfl,
      ih _ after (later _ rfl)⟩

end Interpreter

end MediaImport.Script
