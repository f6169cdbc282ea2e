import MediaImport.Proofs.Text.Utf8
import MediaImport.Settings.Charset

/-!
# What character sets make of texts

Texts are written in one way only, as UTF-8, whatever character set they are read in.
`Charset.reread` is what becomes of a text that is written and read again: the text
itself if it is read as UTF-8, and one character for each of its bytes if it is read as
ISO 8859-1.  Those are the same text exactly if there are as many bytes as characters,
so the one loses nothing, and the other nothing but what is not ASCII.
-/

namespace MediaImport.Charset

/-- What becomes of a text that is written as UTF-8 and read in a character set. -/
def reread (charset : Charset) (text : String) : String :=
  match charset with
  | .utf8 => text
  | .latin1 => String.ofList ((Bytes.ofString text).map latin1Char)

@[simp]
theorem reread_utf8 (text : String) : utf8.reread text = text := rfl

/-- A text that was written is never refused. -/
@[simp]
theorem decode_ofString (charset : Charset) (text : String) :
    charset.decode (Bytes.ofString text) = .ok (charset.reread text) := by
  cases charset with
  | utf8 =>
    rw [decode, Utf8.decodeText_ofString]
    rfl
  | latin1 => rfl

@[simp]
theorem reread_empty (charset : Charset) : charset.reread "" = "" := by
  cases charset with
  | utf8 => rfl
  | latin1 =>
    rw [reread, Bytes.ofString_empty]
    rfl

theorem decode_utf8_of_ok {contents : Bytes} {text : String}
    (read : Utf8.decodeText contents = .ok text) : utf8.decode contents = .ok text := by
  rw [decode, read]
  rfl

theorem decode_utf8_of_error {contents : Bytes} {fault : Utf8.Fault}
    (read : Utf8.decodeText contents = .error fault) :
    utf8.decode contents = .error fault.offset := by
  rw [decode, read]
  rfl

/-- Only nothing is read as the empty text. -/
theorem toOption_decode_ne_empty (charset : Charset) {contents : Bytes}
    (present : contents ≠ []) : (charset.decode contents).toOption ≠ some "" := by
  intro empty
  cases charset with
  | utf8 =>
    cases read : Utf8.decodeText contents with
    | error fault =>
      rw [decode_utf8_of_error read] at empty
      cases empty
    | ok text =>
      rw [decode_utf8_of_ok read] at empty
      obtain rfl : text = "" := Option.some.inj empty
      exact present ((Utf8.ofString_of_decodeText read).symm.trans Bytes.ofString_empty)
  | latin1 =>
    have nothing : contents = [] := by simpa [decode, Except.toOption] using empty
    exact present nothing

/-! ## ISO 8859-1 -/

/-- No character takes less than one byte, and one byte is enough exactly for ASCII. -/
theorem length_encoded (character : Char) :
    1 ≤ (String.utf8EncodeChar character).length ∧
      ((String.utf8EncodeChar character).length = 1 ↔ character.toNat < 128) := by
  rw [String.length_utf8EncodeChar]
  refine ⟨character.utf8Size_pos, ?_⟩
  rw [Char.utf8Size_eq_one_iff, UInt32.le_iff_toNat_le]
  exact Nat.lt_succ_iff.symm

theorem length_le_ofChars (characters : List Char) :
    characters.length ≤ (Bytes.ofChars characters).length := by
  induction characters with
  | nil => exact Nat.le_refl 0
  | cons first rest ih =>
    have least := (length_encoded first).1
    rw [Bytes.ofChars_cons, List.length_append, List.length_cons]
    omega

/-- There are as many bytes as characters exactly if all characters are ASCII. -/
theorem length_ofChars_eq_iff (characters : List Char) :
    (Bytes.ofChars characters).length = characters.length ↔
      ∀ character ∈ characters, character.toNat < 128 := by
  induction characters with
  | nil => simp
  | cons first rest ih =>
    obtain ⟨least, single⟩ := length_encoded first
    have rest_le := length_le_ofChars rest
    rw [Bytes.ofChars_cons, List.length_append, List.length_cons, List.forall_mem_cons, ← ih,
      ← single]
    omega

theorem latin1Char_ofNat {character : Char} (ascii : character.toNat < 128) :
    latin1Char (UInt8.ofNat character.toNat) = character := by
  rw [latin1Char, UInt8.toNat_ofNat_of_lt' (by omega : character.toNat < 256), Char.ofNat_toNat]

theorem map_latin1Char_ofChars {characters : List Char}
    (ascii : ∀ character ∈ characters, character.toNat < 128) :
    (Bytes.ofChars characters).map latin1Char = characters := by
  induction characters with
  | nil => rfl
  | cons first rest ih =>
    obtain ⟨small, others⟩ := List.forall_mem_cons.mp ascii
    have encoded : String.utf8EncodeChar first = [UInt8.ofNat first.toNat] := by
      have known := Utf8.encode_one small
      rwa [Char.ofNat_toNat] at known
    rw [Bytes.ofChars_cons, encoded, List.singleton_append, List.map_cons, ih others,
      latin1Char_ofNat small]

/-- A text that is written and read again is the same, unless it is read as ISO 8859-1
and is not all ASCII. -/
theorem reread_eq_self_iff (charset : Charset) (text : String) :
    charset.reread text = text ↔
      charset = .utf8 ∨ ∀ character ∈ text.toList, character.toNat < 128 := by
  cases charset with
  | utf8 => exact iff_of_true rfl (.inl rfl)
  | latin1 =>
    rw [reread, ← Bytes.ofChars_toList]
    constructor
    -- Each byte is read as a character, so the same text has as many bytes as characters.
    · intro same
      refine .inr ((length_ofChars_eq_iff text.toList).mp ?_)
      have lengths := congrArg (·.toList.length) same
      simpa using lengths
    · rintro (utf8 | ascii)
      · cases utf8
      · rw [map_latin1Char_ofChars ascii, String.ofList_toList]

/-- Bytes that are all ASCII are UTF-8 for the characters of the same numbers. -/
theorem ofString_map_latin1Char {contents : Bytes} (ascii : ∀ byte ∈ contents, byte.toNat < 128) :
    Bytes.ofString (String.ofList (contents.map latin1Char)) = contents := by
  rw [← Bytes.ofChars_toList, String.toList_ofList]
  induction contents with
  | nil => rfl
  | cons first rest ih =>
    obtain ⟨small, others⟩ := List.forall_mem_cons.mp ascii
    rw [List.map_cons, Bytes.ofChars_cons, ih others, latin1Char, Utf8.encode_one small,
      Utf8.ofNat_toNat, List.singleton_append]

/-- Bytes that are all ASCII are the same text in every character set. -/
theorem decode_eq_of_ascii (charset another : Charset) {contents : Bytes}
    (ascii : ∀ byte ∈ contents, byte.toNat < 128) :
    charset.decode contents = another.decode contents := by
  have single (charset : Charset) :
      charset.decode contents = .ok (String.ofList (contents.map latin1Char)) := by
    cases charset with
    | latin1 => rfl
    | utf8 =>
      have written := decode_ofString utf8 (String.ofList (contents.map latin1Char))
      rwa [ofString_map_latin1Char ascii, reread_utf8] at written
  rw [single, single]

end MediaImport.Charset
