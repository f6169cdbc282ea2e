import MediaImport.Proofs.Text.Charset
import MediaImport.Proofs.Text.WellFormed
import MediaImport.Settings.Conversion

/-!
# What conversions keep

Bytes from any place come to a text with nothing lost or added.  In UTF-8 they are the bytes of
that text, and bytes that are not well formed are refused, by the length of their longest
well-formed beginning.  In ISO 8859-1 each of them is one character of the same number.  What was
converted once is a text, so converting it again as UTF-8 gives it back.

A script file in UTF-8 may open with a byte order mark, which is not part of its text.  This is the
only mark that is dropped: a second one is a character of the text like any other, and so is the
first one wherever else the bytes come from.
-/

namespace MediaImport

/-- A conversion that reads UTF-8: all of it, nothing else, and with the fault where the longest
well-formed beginning ends. -/
structure ReadsUtf8 (convert : Bytes → Except ConversionFailure String) : Prop where
  reads_iff (contents : Bytes) : (∃ text, convert contents = .ok text) ↔ Utf8.IsWellFormed contents
  keeps (contents : Bytes) (text : String) :
    convert contents = .ok text ↔ Bytes.ofString text = contents
  refuses (contents : Bytes) (broken : ¬Utf8.IsWellFormed contents) :
    ∃ failure, convert contents = .error failure ∧
      Utf8.IsLongestBeginning contents failure.offset ∧
      failure.message = "charset conversion failed: invalid UTF-8 sequence at byte " ++
        toString failure.offset

/-- A conversion that reads ISO 8859-1: each byte is one character, and all of them count. -/
structure ReadsLatin1 (convert : Bytes → Except ConversionFailure String) : Prop where
  reads (contents : Bytes) : ∃ text, convert contents = .ok text ∧
    text.toList.map Char.toNat = contents.map UInt8.toNat
  injective : Function.Injective convert

namespace Charset

variable {contents : Bytes} {text : String}

/-! ## UTF-8 -/

theorem decode_utf8_eq_ok_iff :
    utf8.decode contents = .ok text ↔ Bytes.ofString text = contents := by
  constructor
  · intro read
    cases decoded : Utf8.decodeText contents with
    | error fault =>
      rw [decode_utf8_of_error decoded] at read
      cases read
    | ok found =>
      rw [decode_utf8_of_ok decoded] at read
      obtain rfl := Except.ok.inj read
      exact Utf8.ofString_of_decodeText decoded
  · rintro rfl
    exact decode_ofString utf8 text

theorem exists_decode_utf8_iff :
    (∃ text, utf8.decode contents = .ok text) ↔ Utf8.IsWellFormed contents := by
  rw [Utf8.isWellFormed_iff_isText]
  exact exists_congr fun text => decode_utf8_eq_ok_iff

theorem decode_utf8_of_broken (broken : ¬Utf8.IsWellFormed contents) :
    ∃ offset, utf8.decode contents = .error offset ∧ Utf8.IsLongestBeginning contents offset := by
  cases decoded : Utf8.decodeText contents with
  | ok text => exact absurd (Utf8.isWellFormed_iff_decodeText.mpr ⟨text, decoded⟩) broken
  | error fault =>
    exact ⟨fault.offset, decode_utf8_of_error decoded,
      Utf8.isLongestBeginning_of_decodeText decoded⟩

/-! ## Byte order marks -/

/-- The mark is a character of its own. -/
theorem ofString_mark (text : String) :
    Bytes.ofString ("\uFEFF" ++ text) = byteOrderMark ++ Bytes.ofString text := by
  rw [← Bytes.ofChars_toList, String.toList_append, ← Bytes.ofChars_toList text]
  rfl

theorem dropMark_append (contents : Bytes) : dropMark (byteOrderMark ++ contents) = contents := rfl

theorem dropMark_of_absent (absent : ¬byteOrderMark <+: contents) :
    dropMark contents = contents := by
  unfold dropMark
  split
  · next rest => exact absurd ⟨rest, rfl⟩ absent
  · rfl

/-! ## ISO 8859-1 -/

theorem toNat_latin1Char (byte : UInt8) : (latin1Char byte).toNat = byte.toNat := by
  have small := byte.toNat_lt
  exact Utf8.toNat_ofNat (.inl (by omega))

theorem map_toNat_latin1 (contents : Bytes) :
    (String.ofList (contents.map latin1Char)).toList.map Char.toNat =
      contents.map UInt8.toNat := by
  rw [String.toList_ofList, List.map_map]
  exact List.map_congr_left fun byte _ => toNat_latin1Char byte

end Charset

namespace Conversions

open Charset

variable (conversions : Conversions) {flavor : Flavor} {contents : Bytes} {text : String}

theorem convert_eq_ok_iff :
    conversions.convert flavor contents = .ok text ↔
      (conversions.charset flavor).decode contents = .ok text := by
  unfold convert
  cases (conversions.charset flavor).decode contents with
  | error offset => exact ⟨nofun, nofun⟩
  | ok found => rw [Except.mapError, Except.ok.injEq, Except.ok.injEq]

theorem readsUtf8_convert (utf8 : conversions.charset flavor = .utf8) :
    ReadsUtf8 (conversions.convert flavor) where
  reads_iff contents := by
    simp only [convert_eq_ok_iff, utf8]
    exact exists_decode_utf8_iff
  keeps contents text := by
    rw [convert_eq_ok_iff, utf8]
    exact decode_utf8_eq_ok_iff
  refuses contents broken := by
    obtain ⟨offset, found, longest⟩ := decode_utf8_of_broken broken
    refine ⟨⟨offset⟩, ?_, longest, rfl⟩
    rw [convert, utf8, found]
    rfl

theorem convert_latin1 (latin1 : conversions.charset flavor = .latin1) (contents : Bytes) :
    conversions.convert flavor contents = .ok (String.ofList (contents.map latin1Char)) := by
  rw [convert, latin1]
  rfl

theorem readsLatin1_convert (latin1 : conversions.charset flavor = .latin1) :
    ReadsLatin1 (conversions.convert flavor) where
  reads contents := ⟨_, conversions.convert_latin1 latin1 contents, map_toNat_latin1 contents⟩
  injective left right same := by
    rw [conversions.convert_latin1 latin1, conversions.convert_latin1 latin1] at same
    have numbers := congrArg (·.toList.map Char.toNat) (Except.ok.inj same)
    simp only [map_toNat_latin1] at numbers
    exact (List.map_inj_right fun _ _ => UInt8.toNat_inj.mp).mp numbers

theorem convertFile_mark (utf8 : conversions.script = .utf8) (contents : Bytes) :
    conversions.convertFile (byteOrderMark ++ contents) = conversions.convert .script contents := by
  rw [convertFile, convert, charset, utf8, decodeFile, dropMark_append]

theorem convertFile_of_absent (absent : ¬byteOrderMark <+: contents) :
    conversions.convertFile contents = conversions.convert .script contents := by
  rw [convertFile, convert, charset]
  cases conversions.script with
  | utf8 => rw [decodeFile, dropMark_of_absent absent]
  | latin1 => rfl

/-- Where bytes are UTF-8, a mark in front of them is a character of the text. -/
theorem convert_mark (utf8 : conversions.charset flavor = .utf8)
    (read : conversions.convert flavor contents = .ok text) :
    conversions.convert flavor (byteOrderMark ++ contents) = .ok ("\uFEFF" ++ text) := by
  have reads := conversions.readsUtf8_convert utf8
  rw [reads.keeps] at read ⊢
  rw [ofString_mark, read]

/-- Conversions are exact. -/
theorem conversions_exact :
    (∀ flavor, conversions.charset flavor = .utf8 → ReadsUtf8 (conversions.convert flavor)) ∧
    (∀ flavor, conversions.charset flavor = .latin1 → ReadsLatin1 (conversions.convert flavor)) ∧
    (conversions.script = .utf8 →
      (∀ contents, conversions.convertFile (byteOrderMark ++ contents) =
        conversions.convert .script contents) ∧
      ∀ contents, ¬byteOrderMark <+: contents →
        conversions.convertFile contents = conversions.convert .script contents) ∧
    (conversions.script = .latin1 → ∀ contents,
      conversions.convertFile contents = conversions.convert .script contents) ∧
    (∀ flavor contents text, conversions.charset flavor = .utf8 →
      conversions.convert flavor contents = .ok text →
      conversions.convert flavor (byteOrderMark ++ contents) = .ok ("\uFEFF" ++ text)) ∧
    (∀ contents text, conversions.script = .utf8 →
      conversions.convert .script contents = .ok text →
      conversions.convertFile (byteOrderMark ++ (byteOrderMark ++ contents)) =
        .ok ("\uFEFF" ++ text)) ∧
    (∀ flavor contents text, conversions.convert flavor contents = .ok text →
      ∀ (others : Conversions) (again : Flavor), others.charset again = .utf8 →
        others.convert again (Bytes.ofString text) = .ok text) := by
  refine ⟨fun _ => conversions.readsUtf8_convert, fun _ => conversions.readsLatin1_convert,
    ?_, ?_, fun _ _ _ => conversions.convert_mark, ?_, ?_⟩
  · intro utf8
    exact ⟨conversions.convertFile_mark utf8, fun _ => conversions.convertFile_of_absent⟩
  · intro latin1 contents
    rw [convertFile, convert, charset, latin1]
    rfl
  · intro contents text utf8 read
    rw [conversions.convertFile_mark utf8]
    exact conversions.convert_mark utf8 read
  · intro flavor contents text _ others again utf8
    exact ((others.readsUtf8_convert utf8).keeps _ _).mpr rfl

/-- Four places, one of which is in ISO 8859-1: a byte that no character has is refused behind the
text before it, the bytes of a mark are three characters there, and of two marks in a file one is
left. -/
theorem conversions_exact_mixed :
    (∃ failure, Conversions.convert ⟨.utf8, .latin1, .utf8, .utf8⟩ .filesystem [0x61, 0xff] =
        .error failure ∧ Utf8.IsLongestBeginning [0x61, 0xff] failure.offset) ∧
    Conversions.convert ⟨.utf8, .latin1, .utf8, .utf8⟩ .metadata byteOrderMark = .ok "ï»¿" ∧
    Conversions.convert ⟨.utf8, .latin1, .utf8, .utf8⟩ .playlist (Bytes.ofString "ï»¿") =
      .ok "ï»¿" ∧
    Conversions.convertFile ⟨.utf8, .latin1, .utf8, .utf8⟩
        (byteOrderMark ++ (byteOrderMark ++ [0x78])) = .ok "\uFEFFx" := by
  obtain ⟨utf8, -, -, -, -, twice, again⟩ :=
    conversions_exact ⟨.utf8, .latin1, .utf8, .utf8⟩
  have broken : ¬Utf8.IsWellFormed [0x61, 0xff] := by
    rw [Utf8.isWellFormed_iff_decodeText]
    rintro ⟨text, read⟩
    have refused : Utf8.decodeText [0x61, 0xff] = .error ⟨1, some 1⟩ := by decide +kernel
    simp [refused] at read
  obtain ⟨failure, refused, longest, -⟩ := (utf8 .filesystem rfl).refuses _ broken
  have marks : Conversions.convert ⟨.utf8, .latin1, .utf8, .utf8⟩ .metadata byteOrderMark =
      .ok "ï»¿" := by decide +kernel
  have single : Conversions.convert ⟨.utf8, .latin1, .utf8, .utf8⟩ .script [0x78] = .ok "x" :=
    ((utf8 .script rfl).keeps _ _).mpr (by decide +kernel)
  exact ⟨⟨failure, refused, longest⟩, marks, again _ _ _ marks _ _ rfl, twice _ _ rfl single⟩

end Conversions

end MediaImport
