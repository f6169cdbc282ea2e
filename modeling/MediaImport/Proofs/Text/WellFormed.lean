import MediaImport.Proofs.Text.Utf8
import Mathlib.Order.Bounds.Basic

/-!
# Well-formed UTF-8

UTF-8 by its grammar.  A byte string is well formed if it is a sequence of encoded numbers that are
neither surrogates nor beyond the last code point.  That refers to `Encodes`, and not to how bytes
are read.

The decoder reads a byte string if and only if it is well formed (`isWellFormed_iff_decodeText`).
Where it stops otherwise is the end of the longest well-formed beginning: a beginning that went
further would have to start with the same characters, and the decoder stopped because no character
came next.
-/

namespace MediaImport.Utf8

/-- Bytes that spell characters, one after the other. -/
inductive IsWellFormed : Bytes → Prop
  | nil : IsWellFormed []
  | cons {number : Nat} {front rest : Bytes} (encodes : Encodes number front)
      (scalar : number.isValidChar) (more : IsWellFormed rest) : IsWellFormed (front ++ rest)

/-- A well-formed beginning of a byte string has this length, and none is longer. -/
def IsLongestBeginning (contents : Bytes) (length : Nat) : Prop :=
  IsGreatest {other | ∃ front, front <+: contents ∧ IsWellFormed front ∧ front.length = other}
    length

/-! ## Characters -/

/-- A character is encoded in one way only. -/
theorem Encodes.eq_utf8EncodeChar {number : Nat} {bytes : Bytes} (encodes : Encodes number bytes)
    (scalar : number.isValidChar) : String.utf8EncodeChar (Char.ofNat number) = bytes := by
  unfold Nat.isValidChar at scalar
  cases encodes with
  | one small => exact encode_one small
  | two high low highSmall lowSmall shortest => exact encode_two (by omega) highSmall lowSmall
  | three high middle low highSmall middleSmall lowSmall shortest =>
    exact encode_three highSmall middleSmall lowSmall (by omega) (by omega)
  | four high second third low highSmall secondSmall thirdSmall lowSmall shortest =>
    exact encode_four (by omega) secondSmall thirdSmall lowSmall (by omega) (by omega)

/-! ## Texts -/

theorem isWellFormed_ofChars (characters : List Char) :
    IsWellFormed (Bytes.ofChars characters) := by
  induction characters with
  | nil => exact .nil
  | cons character rest ih =>
    rw [Bytes.ofChars_cons]
    exact .cons (encodes_utf8EncodeChar character) character.valid ih

theorem IsWellFormed.exists_ofChars {bytes : Bytes} (wellFormed : IsWellFormed bytes) :
    ∃ characters, Bytes.ofChars characters = bytes := by
  induction wellFormed with
  | nil => exact ⟨[], rfl⟩
  | @cons number front rest encodes scalar more ih =>
    obtain ⟨characters, rfl⟩ := ih
    exact ⟨Char.ofNat number :: characters, by
      rw [Bytes.ofChars_cons, encodes.eq_utf8EncodeChar scalar]⟩

/-- The grammar describes the bytes of texts. -/
theorem isWellFormed_iff_isText {bytes : Bytes} : IsWellFormed bytes ↔ IsText bytes := by
  constructor
  · intro wellFormed
    obtain ⟨characters, rfl⟩ := wellFormed.exists_ofChars
    exact ⟨String.ofList characters, Bytes.ofString_ofList characters⟩
  · rintro ⟨text, rfl⟩
    rw [← Bytes.ofChars_toList]
    exact isWellFormed_ofChars text.toList

theorem isWellFormed_iff_decodeText {bytes : Bytes} :
    IsWellFormed bytes ↔ ∃ text, decodeText bytes = .ok text :=
  isWellFormed_iff_isText.trans isText_iff_decodeText

/-! ## Longest beginnings -/

/-- A byte string that begins with a character is read as that character, and what is left begins
with whatever followed it. -/
theorem scan_of_prefix {character : Char} {following : List Char} {first : UInt8} {rest : Bytes}
    (front : Bytes.ofChars (character :: following) <+: first :: rest) :
    ∃ remaining, scan first rest = .character character remaining ∧
      Bytes.ofChars following <+: remaining := by
  obtain ⟨back, whole⟩ := front
  obtain ⟨lead, others, encoded, read⟩ :=
    scan_encoded character (Bytes.ofChars following ++ back)
  rw [Bytes.ofChars_cons, encoded, List.append_assoc, List.cons_append] at whole
  obtain ⟨rfl, rfl⟩ := List.cons.inj whole
  exact ⟨_, read, List.prefix_append ..⟩

/-- Where nothing is read as a character, no well-formed beginning has any bytes. -/
theorem eq_nil_of_scan {front : Bytes} {first : UInt8} {rest : Bytes}
    (stuck : ∀ character remaining, scan first rest ≠ .character character remaining)
    (begins : front <+: first :: rest) (wellFormed : IsWellFormed front) : front = [] := by
  obtain ⟨characters, rfl⟩ := wellFormed.exists_ofChars
  cases characters with
  | nil => rfl
  | cons character following =>
    obtain ⟨remaining, read, -⟩ := scan_of_prefix begins
    exact absurd read (stuck character remaining)

theorem isLongestBeginning_zero {contents : Bytes}
    (none : ∀ front, front <+: contents → IsWellFormed front → front = []) :
    IsLongestBeginning contents 0 := by
  refine ⟨⟨[], List.nil_prefix, .nil, rfl⟩, ?_⟩
  rintro _ ⟨front, begins, wellFormed, rfl⟩
  rw [none front begins wellFormed]
  exact Nat.le_refl 0

/-- The longest beginning of a byte string goes on behind the character in front. -/
theorem IsLongestBeginning.cons {first : UInt8} {rest remaining : Bytes} {character : Char}
    {length : Nat} (scanned : scan first rest = .character character remaining)
    (longest : IsLongestBeginning remaining length) :
    IsLongestBeginning (first :: rest) ((String.utf8EncodeChar character).length + length) := by
  obtain ⟨⟨front, begins, wellFormed, rfl⟩, most⟩ := longest
  refine ⟨⟨String.utf8EncodeChar character ++ front, ?_, ?_, List.length_append⟩, ?_⟩
  · rw [scan_sound scanned]
    exact (List.prefix_append_right_inj _).mpr begins
  · exact .cons (encodes_utf8EncodeChar character) character.valid wellFormed
  · rintro _ ⟨other, otherBegins, otherWellFormed, rfl⟩
    obtain ⟨characters, rfl⟩ := otherWellFormed.exists_ofChars
    cases characters with
    | nil => exact Nat.zero_le _
    | cons another following =>
      obtain ⟨left, read, leftBegins⟩ := scan_of_prefix otherBegins
      rw [scanned] at read
      injection read with same sameLeft
      subst same sameLeft
      have bound := most ⟨_, leftBegins, isWellFormed_ofChars following, rfl⟩
      rw [Bytes.ofChars_cons, List.length_append]
      exact Nat.add_le_add_left bound _

/-- A fault is found at the end of the longest well-formed beginning. -/
theorem decodeFrom_fault {offset : Nat} {reversed : List Char} {bytes : Bytes} {fault : Fault}
    (read : decodeFrom offset reversed bytes = .error fault) :
    ∃ length, fault.offset = offset + length ∧ IsLongestBeginning bytes length := by
  fun_induction decodeFrom offset reversed bytes with
  | case1 => cases read
  | case2 offset reversed first rest character remaining scanned ih =>
    obtain ⟨length, place, longest⟩ := ih read
    refine ⟨_, ?_, longest.cons scanned⟩
    have whole := congrArg List.length (scan_sound scanned)
    rw [List.length_append] at whole
    omega
  | case3 offset reversed first rest length remaining scanned =>
    cases read
    refine ⟨0, rfl, isLongestBeginning_zero fun front => eq_nil_of_scan ?_⟩
    simp [scanned]
  | case4 offset reversed first rest scanned =>
    cases read
    refine ⟨0, rfl, isLongestBeginning_zero fun front => eq_nil_of_scan ?_⟩
    simp [scanned]

theorem isLongestBeginning_of_decodeText {bytes : Bytes} {fault : Fault}
    (read : decodeText bytes = .error fault) : IsLongestBeginning bytes fault.offset := by
  unfold decodeText decode at read
  cases decoded : decodeFrom 0 [] bytes with
  | ok characters => simp [decoded, Except.map] at read
  | error found =>
    obtain ⟨length, place, longest⟩ := decodeFrom_fault decoded
    rw [decoded] at read
    cases read
    rwa [place, Nat.zero_add]

end MediaImport.Utf8
