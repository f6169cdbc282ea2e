import MediaImport.Text.Blank

/-!
# Separated lists

Pieces without a separator, written with the separator between them, are found again when the
text is cut at the separator.  Only no pieces at all look like one empty piece.  So each text has
one sequence of pieces (`ArePieces`), and if two texts are written with the separator between them,
the pieces of the second come after those of the first.
-/

namespace MediaImport.Text

variable {separator : Char} {piece : List Char}

/-- A piece that runs to the end is the last one. -/
theorem splitChars_of_notMem (whole : separator ∉ piece) :
    splitChars separator piece = [piece] := by
  induction piece with
  | nil => rfl
  | cons first rest ih =>
    rw [splitChars, if_neg (Ne.symm (List.ne_of_not_mem_cons whole)),
      ih (List.not_mem_of_not_mem_cons whole)]

/-- A piece ends at the next separator. -/
theorem splitChars_append_cons (whole : separator ∉ piece) (rest : List Char) :
    splitChars separator (piece ++ separator :: rest) = piece :: splitChars separator rest := by
  induction piece with
  | nil => rw [List.nil_append, splitChars, if_pos rfl]
  | cons first piece ih =>
    rw [List.cons_append, splitChars, if_neg (Ne.symm (List.ne_of_not_mem_cons whole)),
      ih (List.not_mem_of_not_mem_cons whole)]

theorem splitChars_intercalate {pieces : List (List Char)} (present : pieces ≠ [])
    (whole : ∀ piece ∈ pieces, separator ∉ piece) :
    splitChars separator ([separator].intercalate pieces) = pieces := by
  induction pieces with
  | nil => exact absurd rfl present
  | cons first rest ih =>
    obtain ⟨here, there⟩ := List.forall_mem_cons.mp whole
    cases rest with
    | nil => simpa using splitChars_of_notMem here
    | cons second rest =>
      rw [List.intercalate_cons_cons, List.append_assoc, List.singleton_append,
        splitChars_append_cons here, ih (List.cons_ne_nil _ _) there]

/-- Texts without a separator are found again between separators. -/
theorem split_intercalate {texts : List String} (present : texts ≠ [])
    (whole : ∀ text ∈ texts, separator ∉ text.toList) :
    split separator ((String.singleton separator).intercalate texts) = texts := by
  have pieces : ∀ piece ∈ texts.map String.toList, separator ∉ piece := by
    simpa using whole
  rw [split, String.toList_intercalate, String.toList_singleton,
    splitChars_intercalate (by simpa using present) pieces]
  simp

/-! ## The pieces of any text -/

/-- A text is these pieces with a separator between them, and none of them has one inside. -/
structure ArePieces (separator : Char) (pieces : List String) (text : String) : Prop where
  present : pieces ≠ []
  whole : ∀ piece ∈ pieces, separator ∉ piece.toList
  written : (String.singleton separator).intercalate pieces = text

theorem splitChars_cons (separator first : Char) (rest : List Char) :
    ∃ piece pieces, splitChars separator rest = piece :: pieces ∧
      splitChars separator (first :: rest) =
        if first = separator then [] :: piece :: pieces else (first :: piece) :: pieces := by
  obtain ⟨piece, pieces, cut⟩ := List.exists_cons_of_ne_nil (splitChars_ne_nil separator rest)
  exact ⟨piece, pieces, cut, by rw [splitChars, cut]⟩

/-- To cut a text takes nothing from it but the separators. -/
theorem intercalate_splitChars (separator : Char) (characters : List Char) :
    [separator].intercalate (splitChars separator characters) = characters ∧
      ∀ piece ∈ splitChars separator characters, separator ∉ piece := by
  induction characters with
  | nil => simp [splitChars]
  | cons first rest ih =>
    obtain ⟨piece, pieces, cut, cutAll⟩ := splitChars_cons separator first rest
    rw [cut] at ih
    obtain ⟨written, whole⟩ := ih
    obtain ⟨here, there⟩ := List.forall_mem_cons.mp whole
    rw [cutAll]
    split
    · next same =>
      refine ⟨?_, List.forall_mem_cons.mpr ⟨List.not_mem_nil, whole⟩⟩
      rw [List.intercalate_cons_cons, written, List.nil_append, List.singleton_append, same]
    · next other =>
      refine ⟨?_, List.forall_mem_cons.mpr ⟨List.not_mem_cons_of_ne_of_not_mem (Ne.symm other) here,
        there⟩⟩
      rw [← written]
      cases pieces <;> simp [List.intercalate_cons_cons]

theorem arePieces_split (separator : Char) (text : String) :
    ArePieces separator (split separator text) text := by
  obtain ⟨written, whole⟩ := intercalate_splitChars separator text.toList
  refine ⟨by simpa [split] using splitChars_ne_nil separator text.toList, ?_, ?_⟩
  · simpa [split] using whole
  · rw [← String.toList_inj, String.toList_intercalate, String.toList_singleton, split,
      List.map_map]
    simpa [Function.comp_def] using written

/-- The pieces of a text are those that it is cut into. -/
theorem ArePieces.eq_split {pieces : List String} {text : String}
    (arePieces : ArePieces separator pieces text) : pieces = split separator text := by
  rw [← arePieces.written, split_intercalate arePieces.present arePieces.whole]

theorem splitChars_append (left right : List Char) :
    splitChars separator (left ++ separator :: right) =
      splitChars separator left ++ splitChars separator right := by
  induction left with
  | nil => simp [splitChars]
  | cons first rest ih =>
    obtain ⟨piece, pieces, cut, cutAll⟩ := splitChars_cons separator first rest
    rw [cut, List.cons_append] at ih
    rw [List.cons_append, splitChars, ih, cutAll]
    split <;> rfl

/-- Two texts with a separator between them have the pieces of both. -/
theorem split_append (left right : String) :
    split separator (left ++ String.singleton separator ++ right) =
      split separator left ++ split separator right := by
  simp [split, splitChars_append]

end MediaImport.Text
