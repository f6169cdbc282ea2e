import MediaImport.Proofs.Text.LeadingWord
import MediaImport.Proofs.Text.Trimmed

/-!
# The integer at the front of a text

A track number such as 5/12 is read as far as its digits go.  `Leads` says which integer
stands at the front of some characters: there may be blanks and one sign before its digits,
and whatever comes after them.  It says nothing of bounds, and there is at most one such
integer.  The reader finds it and clamps it to 32 bits.
-/

namespace MediaImport.Text.Integer

/-- Digits as far as they go. -/
structure IsRun (digits rest : List Char) : Prop where
  present : digits ≠ []
  decimal : ∀ digit ∈ digits, isDigit digit = true
  ends : ∀ next ∈ rest.head?, isDigit next = false

/-- The integer that stands at the front of some characters. -/
inductive Leads : List Char → Int → Prop where
  | unsigned {blanks digits rest : List Char}
    (blank : ∀ character ∈ blanks, isBlank character = true) (run : IsRun digits rest) :
    Leads (blanks ++ (digits ++ rest)) (value digits)
  | plus {blanks digits rest : List Char}
    (blank : ∀ character ∈ blanks, isBlank character = true) (run : IsRun digits rest) :
    Leads (blanks ++ '+' :: (digits ++ rest)) (value digits)
  | minus {blanks digits rest : List Char}
    (blank : ∀ character ∈ blanks, isBlank character = true) (run : IsRun digits rest) :
    Leads (blanks ++ '-' :: (digits ++ rest)) (-(value digits : Int))

theorem IsRun.takeWhile_append {digits rest : List Char} (run : IsRun digits rest) :
    (digits ++ rest).takeWhile isDigit = digits := by
  have nothing : rest.takeWhile isDigit = [] := by
    cases rest with
    | nil => rfl
    | cons next later => exact List.takeWhile_cons_of_neg (by simp [run.ends next rfl])
  rw [List.takeWhile_append_of_pos run.decimal, nothing, List.append_nil]

/-- What is left after all digits were taken does not start with one. -/
theorem isRun_takeWhile {characters : List Char} (present : characters.takeWhile isDigit ≠ []) :
    IsRun (characters.takeWhile isDigit) (characters.dropWhile isDigit) where
  present := present
  decimal := fun digit member => List.all_eq_true.mp List.all_takeWhile digit member
  ends := by
    intro next first
    have := List.head?_dropWhile_not isDigit characters
    rw [Option.mem_def.mp first] at this
    simpa using this

theorem splitSign_cases (characters : List Char) :
    (∃ rest, characters = '-' :: rest ∧ splitSign characters = (true, rest)) ∨
      (∃ rest, characters = '+' :: rest ∧ splitSign characters = (false, rest)) ∨
        splitSign characters = (false, characters) := by
  unfold splitSign
  split
  · exact .inl ⟨_, rfl, rfl⟩
  · exact .inr (.inl ⟨_, rfl, rfl⟩)
  · exact .inr (.inr rfl)

/-- Digits carry no sign. -/
theorem splitSign_of_isRun {digits rest : List Char} (run : IsRun digits rest) :
    splitSign (digits ++ rest) = (false, digits ++ rest) := by
  obtain ⟨first, others, rfl⟩ := List.exists_cons_of_ne_nil run.present
  obtain ⟨-, notMinus, notPlus⟩ := apart_of_isDigit (run.decimal first (List.mem_cons_self ..))
  exact splitSign_of_ne notMinus notPlus _

/-- The sign and the digits of an integer at the front, as the reader cuts them out. -/
theorem Leads.cut {characters : List Char} {spelled : Int} (leads : Leads characters spelled) :
    ∃ negative after, splitSign (trimStart characters) = (negative, after) ∧
      after.takeWhile isDigit ≠ [] ∧
      spelled = signed negative (value (after.takeWhile isDigit)) := by
  cases leads with
  | @unsigned blanks digits rest blank run =>
    obtain ⟨first, others, rfl⟩ := List.exists_cons_of_ne_nil run.present
    have apart := (apart_of_isDigit (run.decimal first (List.mem_cons_self ..))).1
    refine ⟨false, first :: others ++ rest, ?_, ?_, ?_⟩
    · rw [List.cons_append, trimStart_append blank apart, ← List.cons_append,
        splitSign_of_isRun run]
    · rw [run.takeWhile_append]
      exact run.present
    · rw [run.takeWhile_append]
      rfl
  | @plus blanks digits rest blank run =>
    refine ⟨false, digits ++ rest, ?_, ?_, ?_⟩
    · rw [trimStart_append blank (by decide)]
      rfl
    · rw [run.takeWhile_append]
      exact run.present
    · rw [run.takeWhile_append]
      rfl
  | @minus blanks digits rest blank run =>
    refine ⟨true, digits ++ rest, ?_, ?_, ?_⟩
    · rw [trimStart_append blank (by decide)]
      rfl
    · rw [run.takeWhile_append]
      exact run.present
    · rw [run.takeWhile_append]
      rfl

/-- There is at most one integer at the front. -/
theorem Leads.unique {characters : List Char} {first second : Int} (left : Leads characters first)
    (right : Leads characters second) : first = second := by
  obtain ⟨negative, after, cut, -, rfl⟩ := left.cut
  obtain ⟨_, _, same, -, rfl⟩ := right.cut
  obtain ⟨rfl, rfl⟩ := Prod.mk.inj (cut.symm.trans same)
  rfl

/-- Digits were found after a sign, so there is a run of them. -/
theorem isRun_of_found {negative : Bool} {characters : List Char} {number : Int}
    (found : (let digits := characters.takeWhile isDigit
      if digits.isEmpty then none else some (clamp32 (signed negative (value digits)))) =
        some number) :
    ∃ digits rest, characters = digits ++ rest ∧ IsRun digits rest ∧
      number = clamp32 (signed negative (value digits)) := by
  by_cases empty : (characters.takeWhile isDigit).isEmpty = true
  · simp [empty] at found
  · simp only [if_neg empty, Option.some.injEq] at found
    exact ⟨_, _, List.takeWhile_append_dropWhile.symm, isRun_takeWhile (by simpa using empty),
      found.symm⟩

/-- An integer is found exactly if one stands at the front. -/
theorem leadingOfChars?_eq_some_iff {characters : List Char} {number : Int} :
    leadingOfChars? characters = some number ↔
      ∃ spelled, Leads characters spelled ∧ number = clamp32 spelled := by
  constructor
  · intro found
    have blank : ∀ character ∈ characters.takeWhile isBlank, isBlank character = true :=
      List.all_eq_true.mp List.all_takeWhile
    have split : characters = characters.takeWhile isBlank ++ trimStart characters :=
      List.takeWhile_append_dropWhile.symm
    unfold leadingOfChars? at found
    rcases splitSign_cases (trimStart characters) with
      ⟨after, trimmed, sign⟩ | ⟨after, trimmed, sign⟩ | sign
    · rw [sign] at found
      obtain ⟨digits, rest, rfl, run, rfl⟩ := isRun_of_found found
      rw [split, trimmed]
      exact ⟨_, .minus blank run, rfl⟩
    · rw [sign] at found
      obtain ⟨digits, rest, rfl, run, rfl⟩ := isRun_of_found found
      rw [split, trimmed]
      exact ⟨_, .plus blank run, rfl⟩
    · rw [sign] at found
      obtain ⟨digits, rest, trimmed, run, rfl⟩ := isRun_of_found found
      rw [split, trimmed]
      exact ⟨_, .unsigned blank run, rfl⟩
  · rintro ⟨spelled, leads, rfl⟩
    obtain ⟨negative, after, cut, present, rfl⟩ := leads.cut
    have nonempty : (after.takeWhile isDigit).isEmpty = false := by simpa using present
    simp only [leadingOfChars?, cut, nonempty]
    rfl

theorem toInt_ofInt_clamp32 (number : Int) :
    (Int32.ofInt (clamp32 number)).toInt = clamp32 number := by
  refine Int32.toInt_ofInt_of_le ?_ ?_ <;> unfold clamp32 <;> omega

/-- The reader of texts finds the integer at the front, clamped to 32 bits. -/
theorem leading?_eq_some_iff {text : String} {number : Int32} :
    leading? text = some number ↔
      ∃ spelled, Leads text.toList spelled ∧ number.toInt = clamp32 spelled := by
  rw [leading?_eq, Option.map_eq_some_iff]
  constructor
  · rintro ⟨_, found, rfl⟩
    obtain ⟨spelled, leads, rfl⟩ := leadingOfChars?_eq_some_iff.mp found
    exact ⟨spelled, leads, toInt_ofInt_clamp32 spelled⟩
  · rintro ⟨spelled, leads, same⟩
    refine ⟨clamp32 spelled, leadingOfChars?_eq_some_iff.mpr ⟨spelled, leads, rfl⟩, ?_⟩
    rw [← same, Int32.ofInt_toInt]

theorem clamp32_pos_iff (number : Int) : 0 < clamp32 number ↔ 0 < number := by
  unfold clamp32
  omega

/-- The number that is read is positive if the integer is. -/
theorem leading?_pos_iff (text : String) :
    0 < (leading? text).getD 0 ↔ ∃ spelled, Leads text.toList spelled ∧ 0 < spelled := by
  have positive : ∀ number : Int32, 0 < number ↔ 0 < number.toInt :=
    fun number => Int32.lt_iff_toInt_lt
  constructor
  · intro found
    cases read : leading? text with
    | none =>
      rw [read] at found
      exact absurd found (by decide)
    | some number =>
      rw [read, Option.getD_some, positive] at found
      obtain ⟨spelled, leads, same⟩ := leading?_eq_some_iff.mp read
      exact ⟨spelled, leads, (clamp32_pos_iff spelled).mp (same ▸ found)⟩
  · rintro ⟨spelled, leads, found⟩
    have read := leading?_eq_some_iff.mpr ⟨spelled, leads, toInt_ofInt_clamp32 spelled⟩
    rw [read, Option.getD_some, positive, toInt_ofInt_clamp32]
    exact (clamp32_pos_iff spelled).mpr found

end MediaImport.Text.Integer
