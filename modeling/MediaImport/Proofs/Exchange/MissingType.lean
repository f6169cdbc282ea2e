import MediaImport.Importer.Context
import MediaImport.Proofs.Exchange.RoundTrip
import MediaImport.Proofs.Script.ReadingWork

/-!
# Which types count as missing

A table without an objectType describes no object.  The property is read as a signed
32-bit word with -1 standing for what is absent, so a value that is there is taken for
missing as well if its word is -1.  These are the values whose whole number is one less
than a multiple of 2 ^ 32, such as -1, its text, and 4294967295, and no others:
`Reader.read_eq_none_iff` says that a reading comes to no object if its value is no table,
or if the type is nil or one of these.  Every other type brings an object or an error.

`Reader.read_minusOne` is a table that has a type, which is -1, and is passed over.  The
lowest bit of this type is the one of containers, so the table would describe one.
-/

namespace MediaImport

namespace Script.Value

/-- A type is taken for missing: it is nil, or its whole number is one less than a
multiple of 2 ^ 32. -/
def CountsAsMissing (type : Value) : Prop :=
  type = .nil ∨ ∃ multiple : Int, type.propertyWhole = 4294967296 * multiple - 1

theorem ofInt_eq_minusOne_iff (number : Int) :
    Int32.ofInt number = -1 ↔ ∃ multiple : Int, number = 4294967296 * multiple - 1 := by
  rw [← Int32.toInt_inj, Int32.toInt_ofInt]
  have word : number.bmod Int32.size = (-1 : Int32).toInt ↔
      number % 4294967296 = 4294967295 := by
    change number.bmod 4294967296 = -1 ↔ _
    rw [Int.bmod_def]
    split <;> omega
  rw [word]
  constructor
  · intro rest
    exact ⟨(number + 1) / 4294967296, by omega⟩
  · rintro ⟨multiple, rfl⟩
    omega

theorem propertyInt32_eq_minusOne_iff (type : Value) :
    type.propertyInt32 (-1) = -1 ↔ type.CountsAsMissing := by
  unfold CountsAsMissing
  by_cases absent : type = .nil
  · simp [absent, propertyInt32]
  · rw [propertyInt32_of_present absent, ofInt_eq_minusOne_iff, or_iff_right absent]

example : (ofString "-1").CountsAsMissing ∧ (int 4294967295).CountsAsMissing :=
  ⟨.inr ⟨0, by decide +kernel⟩, .inr ⟨1, rfl⟩⟩

end Script.Value

namespace Exchange.Reader

open MediaImport.Media MediaImport.Script

variable (reader : Reader) (previous : Option Object)

theorem outcome_eq_none_iff (view : Nat → String → Value) (table : Nat) :
    reader.outcome view table previous = .ok none ↔ (view table "objectType").CountsAsMissing := by
  rw [← Value.propertyInt32_eq_minusOne_iff, outcome]
  by_cases missing : (view table "objectType").propertyInt32 (-1) = -1
  · simp [missing]
  · rw [if_neg missing]
    -- A reading that went past the type brings an object whatever the type is.
    refine iff_of_false ?_ missing
    split
    · simp
    · unfold checked
      split <;> simp

/-- What the answer to the first question of a reading, which is about the type, says about
the outcome. -/
theorem under_eq_none_iff (view : Nat → String → Value) (table : Nat) :
    (reader.object previous (some table)).under view = .ok none ↔
      (view table "objectType").CountsAsMissing := by
  rw [under_object, outcome_eq_none_iff]

/-- The type is asked for first, and nothing else is if it is taken for missing. -/
theorem object_asksType (table : Nat) :
    ∃ next, reader.object previous (some table) = .get table "objectType" next ∧
      ∀ type : Value, type.CountsAsMissing → next type = .done none := by
  refine ⟨_, rfl, ?_⟩
  intro type missing
  exact if_pos ((Value.propertyInt32_eq_minusOne_iff type).mpr missing)

variable {σ : Type} (host : Host σ)

theorem read_table_eq_none_iff (table : Nat) (interpreter : Interpreter) (state : σ) :
    (interpreter.read host state (reader.object previous (some table))).1 = .ok none ↔
      ∃ answers, (interpreter.readProperty host state table "objectType").1 = .ok answers ∧
        (Value.first answers).CountsAsMissing := by
  obtain ⟨next, asks, stops⟩ := reader.object_asksType previous table
  constructor
  · intro came
    obtain ⟨view, answered⟩ := (Interpreter.quiet_of_read came).exists_answered
    have missing : (view table "objectType").CountsAsMissing := by
      rw [← reader.under_eq_none_iff previous view table, ← Interpreter.read_of_answered answered]
      exact came
    rw [asks] at answered
    obtain ⟨answers, _, _, answer, seen, -⟩ := answered
    exact ⟨answers, by rw [answer], seen ▸ missing⟩
  · rintro ⟨answers, answer, missing⟩
    obtain ⟨later, known⟩ :
        ∃ later, interpreter.readProperty host state table "objectType" = (.ok answers, later) :=
      ⟨_, Prod.ext answer rfl⟩
    rw [asks, Interpreter.read_get, known]
    change (Interpreter.read host later.1 later.2 (next (Value.first answers))).1 = _
    rw [stops _ missing, Interpreter.read]

theorem follows_table_none_iff (table : Nat) {config : Config σ} {steps : Nat}
    {described : Option Object}
    (follows : config.Follows host (reader.object previous (some table)) steps (.done described)) :
    ∃ goOn inside answers,
      config.focus = .attempt (.index (.table table) (.ofString "objectType")) goOn ∧
        config.ComesBackWith host goOn inside answers ∧
        (described = none ↔ (Value.first answers).CountsAsMissing) := by
  obtain ⟨next, asks, -⟩ := reader.object_asksType previous table
  obtain ⟨view, inView⟩ := follows.exists_inView
  have missing : described = none ↔ (view table "objectType").CountsAsMissing := by
    rw [← reader.under_eq_none_iff previous view table, inView.under]
    exact ⟨congrArg Except.ok, Except.ok.inj⟩
  rw [asks] at inView
  cases inView with
  | answer asked answered seen rest => exact ⟨_, _, _, asked, answered, seen ▸ missing⟩

/-- Between two runs of scripts a reading comes to no object if and only if its value is no
table, or is one whose type is answered by nil or by what is taken for missing.  A reading in
a running script that came to its end asked for the type first, and came to no object exactly
if it was answered so.  Neither the object before nor what metatables do makes a difference. -/
theorem read_eq_none_iff (value : Value) :
    let reading := reader.object previous value.propertyTable?
    (∀ (interpreter : Interpreter) (state : σ),
      (interpreter.read host state reading).1 = .ok none ↔
        value.propertyTable? = none ∨ ∃ table answers, value = .table table ∧
          (interpreter.readProperty host state table "objectType").1 = .ok answers ∧
          (Value.first answers).CountsAsMissing) ∧
    ∀ (config : Config σ) (steps : Nat) (described : Option Object),
      Config.Follows host reading config steps (.done described) →
        (value.propertyTable? = none ∧ described = none) ∨
          ∃ table goOn inside answers, value = .table table ∧
            config.focus = .attempt (.index (.table table) (.ofString "objectType")) goOn ∧
            config.ComesBackWith host goOn inside answers ∧
            (described = none ↔ (Value.first answers).CountsAsMissing) := by
  intro reading
  cases value with
  | table table =>
    constructor
    · intro interpreter state
      rw [show reading = reader.object previous (some table) from rfl, read_table_eq_none_iff]
      simp [Value.propertyTable?]
    · intro config steps described follows
      obtain ⟨goOn, inside, answers, known⟩ :=
        reader.follows_table_none_iff previous host table follows
      exact .inr ⟨table, goOn, inside, answers, rfl, known⟩
  | _ =>
    have nothing : reading = .done none := rfl
    refine ⟨fun interpreter state => iff_of_true ?_ (.inl rfl), ?_⟩
    · rw [nothing, Interpreter.read]
    · intro config steps described follows
      rw [nothing] at follows
      cases follows
      exact .inl ⟨rfl, rfl⟩

/-- A heap with one table, which has nothing but a type. -/
def typed (type : Value) : Heap :=
  (({} : Heap).newTable (.ofEntries (Table.stringEntries [("objectType", type)]))).1

theorem isPlain_typed (type : Value) : IsPlain (typed type) 0 :=
  isPlain_of_isBare (.newTable Heap.isBare_empty _) 0

/-- A script has a table with the type of items read, which brings an object: the answer to
the first question was not one that counts as missing. -/
theorem follows_item :
    let reading := (Reader.ofConversions .layout ⟨.utf8, .utf8, .utf8, .utf8⟩).object none
      (Value.table 0).propertyTable?
    ∃ (config : Config Importer.Desk) (steps : Nat),
      Config.Follows Importer.host reading config steps
        (.done (some { isVirtual := true, kind := .item {} })) ∧
      ∃ goOn inside answers,
        config.focus = .attempt (.index (.table 0) (.ofString "objectType")) goOn ∧
        config.ComesBackWith Importer.host goOn inside answers ∧
        ¬(Value.first answers).CountsAsMissing := by
  intro reading
  have item : reading.under (typed (.int 2)).property =
      .ok (some { isVirtual := true, kind := .item {} }) :=
    (under_object _ _ _ _).trans (by decide +kernel)
  obtain ⟨config, steps, -, inView⟩ := Config.exists_followsIn_of_plain (typed (.int 2))
    (⟨.absent, {}⟩ : Importer.Desk) reading askedNames
    (Reader.asks_of_isPlain _ none (isPlain_typed _)) item
  refine ⟨config, steps, inView.follows, ?_⟩
  rcases (read_eq_none_iff _ none Importer.host (.table 0)).2 config steps _ inView.follows with
    ⟨noTable, -⟩ | ⟨table, goOn, inside, answers, same, asks, answered, known⟩
  · cases noTable
  · cases same
    exact ⟨goOn, inside, answers, asks, answered, fun missing => nomatch known.mpr missing⟩

/-- A table whose type is answered by -1 is passed over, though the type is one of a
container. -/
theorem read_minusOne :
    let interpreter : Interpreter := { heap := typed (.int (-1)) }
    let desk : Importer.Desk := ⟨.absent, {}⟩
    let reading := (Reader.ofConversions .layout ⟨.utf8, .utf8, .utf8, .utf8⟩).object none
      (Value.table 0).propertyTable?
    (interpreter.readProperty Importer.host desk 0 "objectType").1 = .ok [.int (-1)] ∧
      (interpreter.read Importer.host desk reading).1 = .ok none ∧
      Object.create? (-1) = some { kind := .container {} } := by
  intro interpreter desk reading
  have plain : IsPlain interpreter.heap 0 := isPlain_typed _
  refine ⟨?_, ?_, by decide⟩
  · rw [Interpreter.readProperty_of_plain _ _ _ _ _ plain.outer]
    decide +kernel
  · rw [show reading = Reader.object _ none (some 0) from rfl, read_of_isPlain _ _ _ _ _ _ plain]
    decide +kernel

end Exchange.Reader

end MediaImport
