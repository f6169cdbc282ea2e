import MediaImport.Importer.Basic
import MediaImport.Proofs.Exchange.RoundTrip

/-!
# Which tables are refused

A table may be any, with metatables that run scripts, as long as reading its
properties raises no error.  Whether it is refused is decided by its type and by the
texts that are decoded, and by nothing else: a type that names no kind of object is
refused, and otherwise the first text that is not well-formed UTF-8, if the character
set is UTF-8.  Under ISO 8859-1 no text is refused.

What a metatable answers is known from the reading itself: a view in which every
property has the value that was answered.  There is always such a view, because no
property is read twice.
-/

namespace MediaImport.Media

/-! ## Types -/

theorem ObjectType.has_eq_false {bits bit : Int32} :
    ObjectType.has bits bit = false ↔ bits &&& bit = 0 := by
  simp [ObjectType.has]

theorem ObjectType.and_or_eq_zero (bits first second : Int32) :
    bits &&& (first ||| second) = 0 ↔ bits &&& first = 0 ∧ bits &&& second = 0 := by
  have distributes : bits &&& (first ||| second) = bits &&& first ||| bits &&& second := by
    rw [← Int32.toBitVec_inj]
    ext position
    simp [Bool.and_or_distrib_left]
  rw [distributes, Int32.or_eq_zero_iff]

/-- A requested type names no kind exactly if none of its five bits is set. -/
theorem Kind.ofType?_eq_none_iff (bits : Int32) : ofType? bits = none ↔ bits &&& 31 = 0 := by
  have bitwise : bits &&& 31 = 0 ↔
      ObjectType.has bits ObjectType.container = false ∧
        ObjectType.has bits ObjectType.item = false ∧
        ObjectType.has bits ObjectType.activeItem = false ∧
        ObjectType.has bits ObjectType.externalUrl = false ∧
        ObjectType.has bits ObjectType.internalUrl = false := by
    rw [show (31 : Int32) = 1 ||| (2 ||| (4 ||| (8 ||| 16))) by decide]
    simp only [ObjectType.and_or_eq_zero, ObjectType.has_eq_false]
    rfl
  rw [bitwise]
  unfold ofType? Variant.ofType?
  cases ObjectType.has bits ObjectType.container <;>
    cases ObjectType.has bits ObjectType.item <;>
    cases ObjectType.has bits ObjectType.activeItem <;>
    cases ObjectType.has bits ObjectType.externalUrl <;>
    cases ObjectType.has bits ObjectType.internalUrl <;>
    simp

end MediaImport.Media

namespace MediaImport.Exchange

open MediaImport.Media MediaImport.Script

/-! ## Texts -/

/-- Reading stops at an offset in the first of some byte strings that is not
well-formed UTF-8. -/
def FirstFault (decoded : List Bytes) (offset : Nat) : Prop :=
  ∃ before contents after fault, decoded = before ++ contents :: after ∧
    (∀ earlier ∈ before, Utf8.IsText earlier) ∧
    Utf8.decodeText contents = .error fault ∧ fault.offset = offset

namespace Reader

theorem fault?_latin1 {reader : Reader} (latin1 : reader.charset = .latin1) (contents : Bytes) :
    reader.fault? contents = none := by
  rw [fault?, latin1]
  rfl

theorem fault?_eq_none_iff {reader : Reader} (utf8 : reader.charset = .utf8) (contents : Bytes) :
    reader.fault? contents = none ↔ Utf8.IsText contents := by
  rw [Utf8.isText_iff_decodeText, fault?, utf8]
  cases read : Utf8.decodeText contents with
  | ok text => simp [Charset.decode_utf8_of_ok read]
  | error fault => simp [Charset.decode_utf8_of_error read]

theorem fault?_eq_some_iff {reader : Reader} (utf8 : reader.charset = .utf8) (contents : Bytes)
    (offset : Nat) :
    reader.fault? contents = some offset ↔
      ∃ fault, Utf8.decodeText contents = .error fault ∧ fault.offset = offset := by
  rw [fault?, utf8]
  cases read : Utf8.decodeText contents with
  | ok text => simp [Charset.decode_utf8_of_ok read]
  | error fault => simp [Charset.decode_utf8_of_error read]

theorem findSome?_fault?_iff {reader : Reader} (utf8 : reader.charset = .utf8)
    (decoded : List Bytes) (offset : Nat) :
    decoded.findSome? reader.fault? = some offset ↔ FirstFault decoded offset := by
  rw [List.findSome?_eq_some_iff]
  simp only [fault?_eq_none_iff utf8, fault?_eq_some_iff utf8]
  constructor
  · rintro ⟨before, contents, after, split, ⟨fault, broken, here⟩, texts⟩
    exact ⟨before, contents, after, fault, split, texts, broken, here⟩
  · rintro ⟨before, contents, after, fault, split, texts, broken, here⟩
    exact ⟨before, contents, after, split, ⟨fault, broken, here⟩, texts⟩

theorem findSome?_fault?_eq_none_iff (reader : Reader) (decoded : List Bytes) :
    decoded.findSome? reader.fault? = none ↔
      ¬(reader.charset = .utf8 ∧ ∃ contents ∈ decoded, contents ≠ [] ∧ ¬Utf8.IsText contents) := by
  rw [List.findSome?_eq_none_iff]
  cases charset : reader.charset with
  | latin1 =>
    simp [fault?_latin1 charset]
  | utf8 =>
    simp only [fault?_eq_none_iff charset, true_and, not_exists, not_and, Classical.not_not]
    constructor
    · intro texts contents member present
      exact texts contents member
    · intro texts contents member
      by_cases empty : contents = []
      · rw [empty]
        exact Utf8.isText_nil
      · exact texts contents member empty

/-- A table with a type that is no kind's. -/
theorem outcome_of_unknown (reader : Reader) (view : Nat → String → Value) (table : Nat)
    (previous : Option Object) {number : Int32}
    (requested : (view table "objectType").propertyInt32 (-1) = number) (meant : number ≠ -1)
    (unknown : Object.create? number = none) :
    reader.outcome view table previous = .error (.invalidObjectType number) := by
  have noKind : Kind.ofType? number = none := Option.map_eq_none_iff.mp unknown
  simp only [outcome, requested, if_neg meant, noKind]

/-- A table with a type that is the type of some kind. -/
theorem outcome_of_created (reader : Reader) (view : Nat → String → Value) (table : Nat)
    (previous : Option Object) {number : Int32}
    (requested : (view table "objectType").propertyInt32 (-1) = number) (meant : number ≠ -1)
    {created : Object} (known : Object.create? number = some created) :
    reader.outcome view table previous =
      reader.checked (decodedFor view table created.kind)
        (some (reader.describedAs view table previous created.kind)) := by
  obtain ⟨kind, named, rfl⟩ := Option.map_eq_some_iff.mp known
  simp only [outcome, requested, if_neg meant, named]
  rfl

/-- What reading a table comes to, when its properties are answered by a view and its
type is present and not minus one. -/
theorem outcome_cases (reader : Reader) (view : Nat → String → Value) (table : Nat)
    (previous : Option Object) (number : Int32)
    (requested : (view table "objectType").propertyInt32 (-1) = number) (meant : number ≠ -1) :
    (reader.outcome view table previous = .error (.invalidObjectType number) ↔
      number &&& 31 = 0) ∧
    ∀ created, Object.create? number = some created →
      let decoded := decodedFor view table created.kind
      let broken := reader.charset = .utf8 ∧
        ∃ contents ∈ decoded, contents ≠ [] ∧ ¬Utf8.IsText contents
      ((∃ cause, reader.outcome view table previous = .error (.conversion cause)) ↔ broken) ∧
      (∀ offset, reader.outcome view table previous = .error (.conversion ⟨offset⟩) ↔
        reader.charset = .utf8 ∧ FirstFault decoded offset) ∧
      (¬broken → ∃ object, reader.outcome view table previous = .ok (some object)) := by
  constructor
  · rw [← Kind.ofType?_eq_none_iff]
    constructor
    · intro refused
      cases known : Object.create? number with
      | none => exact Option.map_eq_none_iff.mp known
      | some created =>
        rw [reader.outcome_of_created view table previous requested meant known, checked] at refused
        split at refused <;> cases refused
    · intro unknown
      exact reader.outcome_of_unknown view table previous requested meant
        (Option.map_eq_none_iff.mpr unknown)
  · intro created known decoded broken
    have found : decoded.findSome? reader.fault? = none ↔ ¬broken :=
      reader.findSome?_fault?_eq_none_iff decoded
    rw [reader.outcome_of_created view table previous requested meant known, checked]
    cases first : decoded.findSome? reader.fault? with
    | none =>
      have intact : ¬broken := found.mp first
      refine ⟨?_, ?_, fun _ => ⟨_, rfl⟩⟩
      · constructor
        · rintro ⟨cause, refused⟩
          cases refused
        · intro fault
          exact absurd fault intact
      · intro offset
        constructor
        · intro refused
          cases refused
        · rintro ⟨utf8, fault⟩
          rw [(findSome?_fault?_iff utf8 decoded offset).mpr fault] at first
          cases first
    | some place =>
      have fault : broken := by
        refine Classical.not_not.mp fun intact => ?_
        rw [found.mpr intact] at first
        cases first
      refine ⟨iff_of_true ⟨_, rfl⟩ fault, ?_, fun intact => absurd fault intact⟩
      intro offset
      rw [← findSome?_fault?_iff fault.1, first]
      constructor
      · intro refused
        cases refused
        exact ⟨fault.1, rfl⟩
      · rintro ⟨-, same⟩
        cases same
        rfl

/-- Reading a table that raises no error: the values that its properties have, and
which of them make it fail, and how. -/
theorem read_refused_iff {σ : Type} (host : Host σ) (interpreter : Interpreter) (state : σ)
    (purpose : Purpose) (conversions : Conversions) (previous : Option Object) (table : Nat)
    (quiet : Interpreter.Quiet host
      ((Reader.ofConversions purpose conversions).object previous (some table))
      interpreter state) :
    let reading := (Reader.ofConversions purpose conversions).object previous (some table)
    let result := (interpreter.read host state reading).1
    (∃ view, Interpreter.Answered host view reading interpreter state) ∧
    ∀ view, Interpreter.Answered host view reading interpreter state →
      view table "objectType" ≠ .nil →
      ∀ number, Int32.ofInt (view table "objectType").propertyWhole = number → number ≠ -1 →
        (result = .error (.invalidObjectType number) ↔ number &&& 31 = 0) ∧
        (number &&& 31 ≠ 0 → ∃ created, Object.create? number = some created ∧
          let decoded := decodedFor view table created.kind
          let broken := conversions.charset purpose.flavor = .utf8 ∧
            ∃ contents ∈ decoded, contents ≠ [] ∧ ¬Utf8.IsText contents
          ((∃ cause, result = .error (.conversion cause)) ↔ broken) ∧
          (∀ offset, result = .error (.conversion ⟨offset⟩) ↔
            conversions.charset purpose.flavor = .utf8 ∧ FirstFault decoded offset) ∧
          (¬broken → ∃ object, result = .ok (some object))) := by
  intro reading result
  constructor
  · have asks : reading.Asks (fun _ _ _ => True) (fun _ => True) askedNames :=
      (Reader.ofConversions purpose conversions).asks_object trivial (fun _ _ => trivial) previous
    obtain ⟨view, answered, -⟩ := quiet.answered asks nodup_askedNames fun _ _ => .nil
    exact ⟨view, answered⟩
  · intro view answered present number coerced meant
    have requested : (view table "objectType").propertyInt32 (-1) = number := by
      rw [Value.propertyInt32_of_present present, coerced]
    have read : result = (Reader.ofConversions purpose conversions).outcome view table previous :=
      (Interpreter.read_of_answered answered).trans (under_object _ _ _ _)
    obtain ⟨unknown, known⟩ := outcome_cases (Reader.ofConversions purpose conversions) view table
      previous number requested meant
    rw [read]
    refine ⟨unknown, ?_⟩
    intro named
    cases created : Object.create? number with
    | none =>
      exact absurd ((Kind.ofType?_eq_none_iff number).mp (Option.map_eq_none_iff.mp created)) named
    | some object => exact ⟨object, rfl, known object created⟩

/-- A heap with a table that has the type of an item and a title that is no text. -/
def brokenTitle : Heap :=
  (({} : Heap).newTable (.ofEntries (Table.stringEntries
    [("objectType", .int 2), ("title", .str [0x61, 0xff])]))).1

theorem property_brokenTitle (name : String) :
    brokenTitle.property 0 name =
      (Table.lastIn [("objectType", .int 2), ("title", .str [0x61, 0xff])] name).getD .nil :=
  Table.get_ofEntries _ name

theorem isPlain_brokenTitle : IsPlain brokenTitle 0 := by
  constructor
  · exact Table.metatable_ofEntries _
  · intro id nested
    rw [property_brokenTitle] at nested
    simp at nested

theorem decodeText_brokenTitle : Utf8.decodeText [0x61, 0xff] = .error ⟨1, some 1⟩ := by
  simp [Utf8.decodeText, Utf8.decode, Utf8.decodeFrom, Utf8.scan, Utf8.lead?, Except.map]

/-- An item whose title is no text, in an import context: the byte after the first one
is reported. -/
theorem read_refused_of_brokenTitle :
    (({ heap := brokenTitle } : Interpreter).read Importer.host ⟨.absent, {}⟩
      ((Reader.ofConversions .layout ⟨.latin1, .latin1, .latin1, .latin1⟩).object none
        (some 0))).1 = .error (.conversion ⟨1⟩) := by
  have answered := Interpreter.answered_of_plain Importer.host { heap := brokenTitle }
    ⟨.absent, {}⟩ _ askedNames
    ((Reader.ofConversions .layout ⟨.latin1, .latin1, .latin1, .latin1⟩).asks_of_isPlain none
      isPlain_brokenTitle)
  have objectType : brokenTitle.property 0 "objectType" = .int 2 := by
    rw [property_brokenTitle]
    simp
  have title : brokenTitle.property 0 "title" = .str [0x61, 0xff] := by
    rw [property_brokenTitle]
    simp
  obtain ⟨-, refused⟩ := (read_refused_iff Importer.host { heap := brokenTitle } ⟨.absent, {}⟩
    .layout ⟨.latin1, .latin1, .latin1, .latin1⟩ none 0 answered.quiet).2 brokenTitle.property
    answered (by rw [objectType]; simp) 2 (by rw [objectType]; rfl) (by decide)
  obtain ⟨created, -, -, offsets, -⟩ := refused (by decide)
  have first : FirstFault (decodedFor brokenTitle.property 0 created.kind) 1 := by
    rw [decodedFor.eq_def, title]
    exact ⟨[], [0x61, 0xff], _, ⟨1, some 1⟩, rfl, by simp, decodeText_brokenTitle, rfl⟩
  exact (offsets 1).mpr ⟨rfl, first⟩

end Reader

end MediaImport.Exchange
