import MediaImport.Text.Blank

/-!
# Trimmed texts

To trim characters is to take the blanks away that surround them, and nothing else: what is left
stands between blanks (`isPadded_trimChars`), and a word without blanks that stands between blanks
is what is left.
-/

namespace MediaImport.Text

/-- A word stands in some characters with nothing but blanks around it. -/
def IsPadded (word characters : List Char) : Prop :=
  ∃ front back, characters = front ++ word ++ back ∧
    (∀ character ∈ front, isBlank character = true) ∧
    ∀ character ∈ back, isBlank character = true

variable {word characters : List Char}

theorem trimStart_append {blanks : List Char}
    (blank : ∀ character ∈ blanks, isBlank character = true) {first : Char}
    (apart : isBlank first = false) (rest : List Char) :
    trimStart (blanks ++ first :: rest) = first :: rest := by
  rw [trimStart, List.dropWhile_append_of_pos blank,
    List.dropWhile_cons_of_neg (by simp [apart])]

/-- A word behind blanks is where trimming the front stops. -/
theorem trimStart_word {blanks : List Char}
    (blank : ∀ character ∈ blanks, isBlank character = true) (present : word ≠ [])
    (solid : ∀ character ∈ word, isBlank character = false) (rest : List Char) :
    trimStart (blanks ++ (word ++ rest)) = word ++ rest := by
  obtain ⟨first, others, rfl⟩ := List.exists_cons_of_ne_nil present
  rw [List.cons_append, trimStart_append blank (solid first List.mem_cons_self)]

theorem exists_trimStart (characters : List Char) :
    ∃ front, characters = front ++ trimStart characters ∧
      ∀ character ∈ front, isBlank character = true :=
  ⟨characters.takeWhile isBlank, List.takeWhile_append_dropWhile.symm,
    fun _ member => List.all_eq_true.mp List.all_takeWhile _ member⟩

/-- Nothing but blanks is taken away. -/
theorem isPadded_trimChars (characters : List Char) :
    IsPadded (trimChars characters) characters := by
  obtain ⟨front, kept, blankFront⟩ := exists_trimStart characters
  obtain ⟨back, keptBack, blankBack⟩ := exists_trimStart (trimStart characters).reverse
  refine ⟨front, back.reverse, ?_, blankFront, ?_⟩
  · have turned := congrArg List.reverse keptBack
    rw [List.reverse_reverse, List.reverse_append] at turned
    rw [trimChars, List.append_assoc, ← turned]
    exact kept
  · exact fun character member => blankBack character (List.mem_reverse.mp member)

theorem IsPadded.trans {inner : List Char} (inside : IsPadded inner word)
    (outside : IsPadded word characters) : IsPadded inner characters := by
  obtain ⟨front, back, rfl, blankFront, blankBack⟩ := inside
  obtain ⟨outerFront, outerBack, rfl, outerBlankFront, outerBlankBack⟩ := outside
  refine ⟨outerFront ++ front, back ++ outerBack, by simp, ?_, ?_⟩
  · intro character member
    exact (List.mem_append.mp member).elim (outerBlankFront character) (blankFront character)
  · intro character member
    exact (List.mem_append.mp member).elim (blankBack character) (outerBlankBack character)

/-- A word without blanks is found between blanks. -/
theorem IsPadded.trimChars_eq (padded : IsPadded word characters) (present : word ≠ [])
    (solid : ∀ character ∈ word, isBlank character = false) : trimChars characters = word := by
  obtain ⟨front, back, rfl, blankFront, blankBack⟩ := padded
  have blank : ∀ character ∈ back.reverse, isBlank character = true := by simpa using blankBack
  have solidBack : ∀ character ∈ word.reverse, isBlank character = false := by simpa using solid
  have turned := trimStart_word blank (mt List.reverse_eq_nil_iff.mp present) solidBack []
  simp only [List.append_nil] at turned
  rw [trimChars, List.append_assoc, trimStart_word blankFront present solid,
    List.reverse_append, turned, List.reverse_reverse]

end MediaImport.Text
