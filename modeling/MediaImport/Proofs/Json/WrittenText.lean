import MediaImport.Json.Printer
import MediaImport.Proofs.Json.Numerals

/-!
# Written trees are read back

Both layouts of a tree spell the same tokens with white space between them, and the tokens are
assembled to the tree again.  A tree can be written if its strings have a text and its numbers are
numerals.
-/

namespace MediaImport.Json

/-! ## Strings -/

theorem hexUnit?_control : ∀ unit < 32,
    hexUnit? '0' '0' (hexDigit (unit / 16)) (hexDigit (unit % 16)) = some unit := by
  decide

/-- The three ways in which a character stands in a string: by a letter of its own, by its number,
or as it is. -/
theorem escape_cases (character : Char) :
    (∃ letter, escape character = ['\\', letter] ∧ letter ≠ 'u' ∧
      simpleEscape? letter = some character) ∨
    (character.toNat < 32 ∧ escape character = ['\\', 'u', '0', '0',
      hexDigit (character.toNat / 16), hexDigit (character.toNat % 16)]) ∨
    (character ≠ '"' ∧ character ≠ '\\' ∧ ¬character < ' ' ∧ escape character = [character]) := by
  by_cases named : character ∈ ['"', '\\', '\x08', '\x0c', '\n', '\r', '\t']
  · left
    simp only [List.mem_cons, List.not_mem_nil, or_false] at named
    rcases named with rfl | rfl | rfl | rfl | rfl | rfl | rfl
    exacts [⟨'"', rfl, by decide, rfl⟩, ⟨'\\', rfl, by decide, rfl⟩, ⟨'b', rfl, by decide, rfl⟩,
      ⟨'f', rfl, by decide, rfl⟩, ⟨'n', rfl, by decide, rfl⟩, ⟨'r', rfl, by decide, rfl⟩,
      ⟨'t', rfl, by decide, rfl⟩]
  · right
    simp only [List.mem_cons, List.not_mem_nil, or_false, not_or] at named
    by_cases control : character < ' '
    · left
      refine ⟨UInt32.lt_iff_toNat_lt.mp control, ?_⟩
      simp [escape, named, control]
    · right
      exact ⟨named.1, named.2.1, control, by simp [escape, named, control]⟩

/-- An escaped character is read as the character. -/
theorem readString_escape (reversed : List Char) (character : Char) (rest : List Char) :
    readString ⟨reversed, none, false⟩ (escape character ++ rest) =
      readString ⟨character :: reversed, none, false⟩ rest := by
  rcases escape_cases character with
    ⟨letter, written, notNumber, stands⟩ | ⟨control, written⟩ |
      ⟨notQuote, notBackslash, solid, written⟩
  · simp [written, readString, notNumber, stands, StringState.push]
  · have plain : isHighSurrogate character.toNat = false ∧
        isLowSurrogate character.toNat = false := by
      simp only [isHighSurrogate, isLowSurrogate, Bool.and_eq_false_iff, decide_eq_false_iff_not]
      omega
    simp [written, readString, hexUnit?_control character.toNat control, StringState.pushUnit,
      plain, StringState.push]
  · rw [written, List.singleton_append, readString]
    · simp [notBackslash, solid, StringState.push]
    · exact notQuote
    · exact fun _ _ _ _ _ same => absurd same notBackslash
    · exact fun _ _ same => absurd same notBackslash

/-- A quoted text is read as the text. -/
theorem readString_quote (text : String) (rest : List Char) :
    readString .start (text.toList.flatMap escape ++ '"' :: rest) = some (some text, rest) := by
  have reads (characters reversed : List Char) :
      readString ⟨reversed, none, false⟩ (characters.flatMap escape ++ '"' :: rest) =
        some (some (String.ofList (reversed.reverse ++ characters)), rest) := by
    induction characters generalizing reversed with
    | nil => simp [readString, StringState.finish]
    | cons first characters ih =>
      rw [List.flatMap_cons, List.append_assoc, readString_escape, ih]
      simp
  simpa [StringState.start] using reads text.toList []

/-! ## Tokens -/

/-- Characters that spell tokens, with white space in front of any of them and after the last. -/
inductive Spells : List Char → List Token → Prop where
  | done : Spells [] []
  | space {character : Char} {rest : List Char} {tokens : List Token}
    (blank : isSpace character = true) (spells : Spells rest tokens) :
    Spells (character :: rest) tokens
  | token {first : Char} {rest after : List Char} {token : Token} {tokens : List Token}
    (solid : isSpace first = false) (read : readToken first rest = some (token, after))
    (shorter : after.length ≤ rest.length) (spells : Spells after tokens) :
    Spells (first :: rest) (token :: tokens)

theorem Spells.tokensFrom {characters : List Char} {tokens : List Token}
    (spells : Spells characters tokens) :
    ∀ (steps : Nat) (reversed : List Token), characters.length ≤ steps →
      tokensFrom steps reversed characters = some (reversed.reverse ++ tokens) := by
  induction spells with
  | done =>
    intro steps reversed _
    simp [Json.tokensFrom]
  | space blank _ ih =>
    intro steps reversed enough
    cases steps with
    | zero => simp at enough
    | succ steps =>
      rw [Json.tokensFrom, if_pos blank]
      exact ih steps reversed (Nat.le_of_succ_le_succ enough)
  | token solid read shorter _ ih =>
    intro steps reversed enough
    cases steps with
    | zero => simp at enough
    | succ steps =>
      rw [Json.tokensFrom, if_neg (by simp [solid]), read]
      simp only [List.length_cons] at enough
      exact (ih steps _ (by omega)).trans (by simp)

theorem Spells.tokens? {text : String} {tokens : List Token}
    (spells : Spells text.toList tokens) : Json.tokens? text = some tokens :=
  spells.tokensFrom text.toList.length [] (Nat.le_refl _)

theorem Spells.blanks {blanks rest : List Char} {tokens : List Token}
    (blank : ∀ character ∈ blanks, isSpace character = true) (spells : Spells rest tokens) :
    Spells (blanks ++ rest) tokens := by
  induction blanks with
  | nil => exact spells
  | cons first blanks ih =>
    obtain ⟨here, there⟩ := List.forall_mem_cons.mp blank
    exact .space here (ih there)

section Tokens

variable {rest : List Char} {tokens : List Token}

/-- A single character may be a token. -/
theorem Spells.mark {mark : Char} {token : Token} (solid : isSpace mark = false)
    (read : ∀ rest, readToken mark rest = some (token, rest)) (spells : Spells rest tokens) :
    Spells (mark :: rest) (token :: tokens) :=
  .token solid (read rest) (Nat.le_refl _) spells

/-- A quoted text is a token. -/
theorem Spells.quote (text : String) (spells : Spells rest tokens) :
    Spells (quote text ++ rest) (.scalar (.text (some text)) :: tokens) := by
  have read : readToken '"' (text.toList.flatMap escape ++ '"' :: rest) =
      some (.scalar (.text (some text)), rest) := by
    simp [readToken, readString_quote]
  have written : Json.quote text ++ rest = '"' :: (text.toList.flatMap escape ++ '"' :: rest) := by
    simp [Json.quote]
  rw [written]
  refine .token (by decide) read ?_ spells
  simp
  omega

theorem readToken_of_number {first : Char} (leads : first = '-' ∨ isDigit first = true)
    (rest : List Char) :
    readToken first rest = (readNumber (first :: rest)).map fun (digits, after) =>
      (.scalar (.number (String.ofList digits)), after) := by
  unfold readToken
  split
  case h_11 => rfl
  all_goals exact absurd leads (by decide)

/-- A numeral is a token, if it cannot go on. -/
theorem Spells.numeral {literal : String} (numeral : isNumeral literal = true)
    (stops : Stops rest) (spells : Spells rest tokens) :
    Spells (literal.toList ++ rest) (.scalar (.number literal) :: tokens) := by
  have found := readNumber_numeral numeral stops
  obtain ⟨first, others, characters, leads⟩ := first_of_readNumber (eq_of_beq numeral)
  have solid : isSpace first = false := by
    rw [Bool.eq_false_iff]
    intro blank
    simp only [isSpace, Bool.or_eq_true, beq_iff_eq] at blank
    rcases blank with ((rfl | rfl) | rfl) | rfl <;> exact absurd leads (by decide)
  rw [characters, List.cons_append] at found ⊢
  refine .token solid ?_ (by simp) spells
  rw [readToken_of_number leads, found, Option.map_some, ← characters]
  simp

end Tokens

/-! ## The tokens of a tree -/

mutual

/-- The tokens that a tree is written in. -/
def tokens : Json → List Token
  | .array items => .openArray :: (tokensOfItems items ++ [.closeArray])
  | .object members => .openObject :: (tokensOfMembers members ++ [.closeObject])
  | scalar => [.scalar scalar]

def tokensOfItems : List Json → List Token
  | [] => []
  | [item] => tokens item
  | item :: rest => tokens item ++ .comma :: tokensOfItems rest

def tokensOfMembers : List (Option String × Json) → List Token
  | [] => []
  | [(name, value)] => .scalar (.text name) :: .colon :: tokens value
  | (name, value) :: rest =>
    .scalar (.text name) :: .colon :: (tokens value ++ .comma :: tokensOfMembers rest)

end

-- What is open outside stays as it is, so the stack, the tokens that follow, and what a container
-- holds so far are free in all three statements.
mutual

/-- The tokens of a tree are assembled to the tree, wherever a value may stand. -/
theorem assemble_tokens (orClose : Bool) (stack : List Container) (after : List Token) :
    (json : Json) → assemble (tokens json ++ after) (.value orClose) stack =
      assemble after (close json stack).1 (close json stack).2
  | .null | .bool _ | .number _ | .text _ => by
    simp [tokens, assemble, accept]
  | .array items => by
    by_cases empty : items = []
    · simp [empty, tokens, tokensOfItems, assemble, accept]
    · have rest := assemble_tokensOfItems true [] stack after items empty
      simpa [tokens, assemble, accept] using rest
  | .object members => by
    by_cases empty : members = []
    · simp [empty, tokens, tokensOfMembers, assemble, accept]
    · have rest := assemble_tokensOfMembers true [] stack after members empty
      simpa [tokens, assemble, accept] using rest
termination_by json => sizeOf json

theorem assemble_tokensOfItems (orClose : Bool) (reversed : List Json) (stack : List Container)
    (after : List Token) : (items : List Json) → items ≠ [] →
      assemble (tokensOfItems items ++ .closeArray :: after) (.value orClose)
          (.array reversed :: stack) =
        assemble after (close (.array (reversed.reverse ++ items)) stack).1
          (close (.array (reversed.reverse ++ items)) stack).2
  | [item], _ => by
    rw [tokensOfItems, assemble_tokens]
    simp [close, assemble, accept]
  | item :: next :: rest, _ => by
    have others := assemble_tokensOfItems false (item :: reversed) stack after (next :: rest)
      (List.cons_ne_nil _ _)
    rw [tokensOfItems, List.append_assoc, assemble_tokens]
    · simpa [close, assemble, accept] using others
    · exact List.cons_ne_nil _ _
termination_by items => sizeOf items

theorem assemble_tokensOfMembers (orClose : Bool) (reversed : List (Option String × Json))
    (stack : List Container) (after : List Token) :
    (members : List (Option String × Json)) → members ≠ [] →
      assemble (tokensOfMembers members ++ .closeObject :: after) (.name reversed orClose) stack =
        assemble after (close (.object (reversed.reverse ++ members)) stack).1
          (close (.object (reversed.reverse ++ members)) stack).2
  | [(name, value)], _ => by
    have only := assemble_tokens false (.object reversed name :: stack) (.closeObject :: after)
      value
    simpa [tokensOfMembers, close, assemble, accept] using only
  | (name, value) :: next :: rest, _ => by
    have first := assemble_tokens false (.object reversed name :: stack)
      (.comma :: (tokensOfMembers (next :: rest) ++ .closeObject :: after)) value
    have others := assemble_tokensOfMembers false ((name, value) :: reversed) stack after
      (next :: rest) (List.cons_ne_nil _ _)
    simp only [close, assemble, accept] at first
    simpa [tokensOfMembers, assemble, accept, first] using others
termination_by members => sizeOf members

end

/-! ## Trees that can be written -/

mutual

/-- Whether a tree has a text: its strings and names have one, and its numbers are numerals. -/
def isWritable : Json → Bool
  | .number literal => isNumeral literal
  | .text value => value.isSome
  | .array items => areWritable items
  | .object members => membersAreWritable members
  | _ => true

def areWritable : List Json → Bool
  | [] => true
  | item :: rest => isWritable item && areWritable rest

def membersAreWritable : List (Option String × Json) → Bool
  | [] => true
  | (name, value) :: rest => name.isSome && isWritable value && membersAreWritable rest

end

/-- What is written without brackets is one token. -/
theorem Spells.scalar {json : Json} {rest : List Char} {after : List Token}
    (writable : json.isWritable = true) (single : tokens json = [.scalar json])
    (stops : Stops rest) (spells : Spells rest after) :
    Spells (renderChars json ++ rest) (tokens json ++ after) := by
  rw [single]
  cases json with
  | null => exact .token (by decide) rfl (by simp; omega) spells
  | bool value => cases value <;> exact .token (by decide) rfl (by simp; omega) spells
  | number literal =>
    rw [isWritable] at writable
    exact .numeral writable stops spells
  | text value =>
    rw [isWritable] at writable
    obtain ⟨text, rfl⟩ := Option.isSome_iff_exists.mp writable
    exact .quote text spells
  | array items => simp [tokens] at single
  | object members => simp [tokens] at single

section Marks

variable {rest : List Char} {after : List Token}

theorem Spells.comma (spells : Spells rest after) : Spells (',' :: rest) (.comma :: after) :=
  .mark (by decide) (fun _ => rfl) spells

theorem Spells.colon (spells : Spells rest after) : Spells (':' :: rest) (.colon :: after) :=
  .mark (by decide) (fun _ => rfl) spells

/-- The name of a member, and the colon behind it. -/
theorem Spells.name {name : Option String} (named : name.isSome = true)
    (spells : Spells rest after) :
    Spells (Json.quote (name.getD "") ++ ':' :: rest)
      (.scalar (.text name) :: .colon :: after) := by
  obtain ⟨text, rfl⟩ := Option.isSome_iff_exists.mp named
  exact .quote text spells.colon

theorem Spells.openArray (spells : Spells rest after) :
    Spells ('[' :: rest) (.openArray :: after) :=
  .mark (by decide) (fun _ => rfl) spells

theorem Spells.closeArray (spells : Spells rest after) :
    Spells (']' :: rest) (.closeArray :: after) :=
  .mark (by decide) (fun _ => rfl) spells

theorem Spells.openObject (spells : Spells rest after) :
    Spells ('\x7b' :: rest) (.openObject :: after) :=
  .mark (by decide) (fun _ => rfl) spells

theorem Spells.closeObject (spells : Spells rest after) :
    Spells ('\x7d' :: rest) (.closeObject :: after) :=
  .mark (by decide) (fun _ => rfl) spells

theorem Spells.blank (spells : Spells rest after) : Spells (' ' :: rest) after :=
  .space (by decide) spells

theorem Spells.newline (level : Nat) (spells : Spells rest after) :
    Spells (newline level ++ rest) after := by
  refine spells.blanks fun character among => ?_
  rcases List.mem_cons.mp among with rfl | among
  · decide
  · rw [List.eq_of_mem_replicate among]
    decide

end Marks

/-! ## One line -/

mutual

theorem spells_renderChars {rest : List Char} {after : List Token} (stops : Stops rest)
    (spells : Spells rest after) : (json : Json) → json.isWritable = true →
      Spells (renderChars json ++ rest) (tokens json ++ after)
  | .null, writable | .bool _, writable | .number _, writable | .text _, writable =>
    .scalar writable (by simp [tokens]) stops spells
  | .array items, writable => by
    have inner := spells_renderItems (stops_cons (by decide) rest) spells.closeArray items
      (by simpa only [isWritable] using writable)
    simpa [renderChars, tokens] using inner.openArray
  | .object members, writable => by
    have inner := spells_renderMembers (stops_cons (by decide) rest) spells.closeObject members
      (by simpa only [isWritable] using writable)
    simpa [renderChars, tokens] using inner.openObject

theorem spells_renderItems {rest : List Char} {after : List Token} (stops : Stops rest)
    (spells : Spells rest after) : (items : List Json) → areWritable items = true →
      Spells (renderItems items ++ rest) (tokensOfItems items ++ after)
  | [], _ => spells
  | [item], writable => by
    rw [areWritable, Bool.and_eq_true] at writable
    exact spells_renderChars stops spells item writable.1
  | item :: next :: others, writable => by
    rw [areWritable, Bool.and_eq_true] at writable
    have behind := spells_renderItems stops spells (next :: others) writable.2
    have whole := spells_renderChars (stops_cons (by decide) _) behind.comma item writable.1
    simpa [renderItems, tokensOfItems] using whole

theorem spells_renderMembers {rest : List Char} {after : List Token} (stops : Stops rest)
    (spells : Spells rest after) : (members : List (Option String × Json)) →
      membersAreWritable members = true →
      Spells (renderMembers members ++ rest) (tokensOfMembers members ++ after)
  | [], _ => spells
  | [(name, value)], writable => by
    simp only [membersAreWritable, Bool.and_eq_true] at writable
    have inner := spells_renderChars stops spells value writable.1.2
    simpa [renderMembers, tokensOfMembers] using inner.name writable.1.1
  | (name, value) :: next :: others, writable => by
    rw [membersAreWritable, Bool.and_eq_true, Bool.and_eq_true] at writable
    have behind := spells_renderMembers stops spells (next :: others) writable.2
    have inner := spells_renderChars (stops_cons (by decide) _) behind.comma value writable.1.2
    simpa [renderMembers, tokensOfMembers] using inner.name writable.1.1

end

/-! ## Indented -/

mutual

theorem spells_prettyChars {rest : List Char} {after : List Token} (level : Nat)
    (stops : Stops rest) (spells : Spells rest after) : (json : Json) → json.isWritable = true →
      Spells (prettyChars level json ++ rest) (tokens json ++ after)
  | .null, writable | .bool _, writable | .number _, writable | .text _, writable =>
    .scalar writable (by simp [tokens]) stops spells
  | .array [], _ => spells.closeArray.openArray
  | .array (item :: items), writable => by
    have inner := spells_prettyItems (level + 1) (stops_cons (by decide) _)
      (spells.closeArray.newline level) (item :: items) (by simpa only [isWritable] using writable)
    simpa [prettyChars, tokens, Json.newline] using inner.openArray
  | .object [], _ => spells.closeObject.openObject
  | .object (member :: members), writable => by
    have inner := spells_prettyMembers (level + 1) (stops_cons (by decide) _)
      (spells.closeObject.newline level) (member :: members)
      (by simpa only [isWritable] using writable)
    simpa [prettyChars, tokens, Json.newline] using inner.openObject

theorem spells_prettyItems {rest : List Char} {after : List Token} (level : Nat)
    (stops : Stops rest) (spells : Spells rest after) : (items : List Json) →
      areWritable items = true →
      Spells (prettyItems level items ++ rest) (tokensOfItems items ++ after)
  | [], _ => spells
  | [item], writable => by
    rw [areWritable, Bool.and_eq_true] at writable
    have inner := spells_prettyChars level stops spells item writable.1
    simpa [prettyItems, tokensOfItems] using inner.newline level
  | item :: next :: others, writable => by
    rw [areWritable, Bool.and_eq_true] at writable
    have behind := spells_prettyItems level stops spells (next :: others) writable.2
    have inner := spells_prettyChars level (stops_cons (by decide) _) behind.comma item writable.1
    simpa [prettyItems, tokensOfItems] using inner.newline level

theorem spells_prettyMembers {rest : List Char} {after : List Token} (level : Nat)
    (stops : Stops rest) (spells : Spells rest after) :
    (members : List (Option String × Json)) → membersAreWritable members = true →
      Spells (prettyMembers level members ++ rest) (tokensOfMembers members ++ after)
  | [], _ => spells
  | [(name, value)], writable => by
    simp only [membersAreWritable, Bool.and_eq_true] at writable
    have inner := (spells_prettyChars level stops spells value writable.1.2).blank
    simpa [prettyMembers, tokensOfMembers] using (inner.name writable.1.1).newline level
  | (name, value) :: next :: others, writable => by
    rw [membersAreWritable, Bool.and_eq_true, Bool.and_eq_true] at writable
    have behind := spells_prettyMembers level stops spells (next :: others) writable.2
    have inner := (spells_prettyChars level (stops_cons (by decide) _) behind.comma value
      writable.1.2).blank
    simpa [prettyMembers, tokensOfMembers] using (inner.name writable.1.1).newline level

end

/-! ## Reading back -/

theorem stops_of_blanks {blanks : List Char}
    (blank : ∀ character ∈ blanks, isSpace character = true) : Stops blanks := by
  intro first found
  have space := blank first (List.mem_of_mem_head? found)
  simp only [isSpace, Bool.or_eq_true, beq_iff_eq] at space
  rcases space with ((rfl | rfl) | rfl) | rfl <;> decide

/-- Characters that spell the tokens of a tree are read as the tree. -/
theorem Spells.parse? {text : String} {json : Json} (spells : Spells text.toList (tokens json)) :
    Json.parse? text = some json := by
  have assembled := assemble_tokens false [] [] json
  rw [List.append_nil] at assembled
  rw [Json.parse?, spells.tokens?]
  exact assembled.trans rfl

theorem parse?_render {json : Json} (writable : json.isWritable = true) :
    parse? json.render = some json := by
  have spells := spells_renderChars stops_nil .done json writable
  simp only [List.append_nil] at spells
  exact Spells.parse? (by simpa [render] using spells)

/-- An indented text is read back, with the line ended or not. -/
theorem parse?_prettyChars {json : Json} (writable : json.isWritable = true) (level : Nat)
    (blanks : List Char) (blank : ∀ character ∈ blanks, isSpace character = true) :
    parse? (String.ofList (prettyChars level json ++ blanks)) = some json := by
  have ends : Spells blanks [] := by simpa using Spells.done.blanks blank
  have spells := spells_prettyChars level (stops_of_blanks blank) ends json writable
  exact Spells.parse? (by simpa using spells)

theorem parse?_pretty_line {json : Json} (writable : json.isWritable = true) :
    parse? (json.pretty ++ "\n") = some json := by
  have line := parse?_prettyChars writable 0 ['\n'] (List.forall_mem_singleton.mpr rfl)
  rwa [String.ofList_append] at line

theorem parse?_pretty {json : Json} (writable : json.isWritable = true) :
    parse? json.pretty = some json := by
  simpa [pretty] using parse?_prettyChars writable 0 [] (by simp)

end MediaImport.Json
