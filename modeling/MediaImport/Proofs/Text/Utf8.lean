import MediaImport.Proofs.Text.Encoding
import MediaImport.Text.Utf8

/-!
# Reading back encoded text

The bytes that encode a text are read as that text again, by the strict decoder
and by the lossy one, and the strict decoder reads nothing else.  The main lemmas
are about one character: whatever bytes follow its encoding, `scan` stops exactly
where the encoding ends, and what `scan` takes for a character is the encoding of it.

A character takes one to four bytes.  The first byte announces how many follow
and bounds the second one; the bounds hold because a character is neither a
surrogate nor beyond the last code point.
-/

namespace MediaImport.Utf8

/-! ## Single bytes -/

theorem lead?_two : ∀ high < 32, 2 ≤ high →
    lead? (UInt8.ofNat (high + 192)) = some ⟨1, high, 0x80, 0xbf⟩ := by
  decide

theorem lead?_three : ∀ high < 16,
    lead? (UInt8.ofNat (high + 224)) =
      some ⟨2, high, if high = 0 then 0xa0 else 0x80,
        if high = 13 then 0x9f else 0xbf⟩ := by
  decide

theorem lead?_four : ∀ high < 5,
    lead? (UInt8.ofNat (high + 240)) =
      some ⟨3, high, if high = 0 then 0x90 else 0x80,
        if high = 4 then 0x8f else 0xbf⟩ := by
  decide

theorem not_ascii_of_lead? {first : UInt8} {lead : Lead}
    (announced : lead? first = some lead) : ¬ first < 0x80 := by
  intro ascii
  have below : first < 0xc2 := UInt8.lt_trans ascii (by decide)
  simp [lead?, below] at announced

theorem isContinuation_ofNat : ∀ low < 64,
    isContinuation (UInt8.ofNat (low + 128)) = true := by
  decide

theorem extend_ofNat (value : Nat) {low : Nat} (small : low < 64) :
    extend value (UInt8.ofNat (low + 128)) = value * 64 + low := by
  rw [extend, UInt8.toNat_ofNat_of_lt' (by omega : low + 128 < 256)]
  omega

/-- A second byte is accepted if it lies between the bounds that the first one
announced. -/
theorem second_accepted (low high : UInt8) (second : Nat)
    (small : second < 256) (above : low.toNat ≤ second)
    (below : second ≤ high.toNat) :
    (UInt8.ofNat second < low || high < UInt8.ofNat second) = false := by
  have value : (UInt8.ofNat second).toNat = second :=
    UInt8.toNat_ofNat_of_lt' small
  simp only [Bool.or_eq_false_iff, decide_eq_false_iff_not, UInt8.lt_iff_toNat_lt,
    value]
  omega

/-! ## Single characters -/

theorem scan_one (rest : Bytes) {number : Nat} (small : number < 128) :
    scan (UInt8.ofNat number) rest = .character (Char.ofNat number) rest := by
  have value : (UInt8.ofNat number).toNat = number :=
    UInt8.toNat_ofNat_of_lt' (by change number < 256; omega)
  have ascii : UInt8.ofNat number < 0x80 := by
    rw [UInt8.lt_iff_toNat_lt, value]
    exact small
  rw [scan, if_pos ascii, value]

theorem scan_two (rest : Bytes) {high low : Nat}
    (least : 2 ≤ high) (highSmall : high < 32) (lowSmall : low < 64) :
    scan (UInt8.ofNat (high + 192)) (UInt8.ofNat (low + 128) :: rest) =
      .character (Char.ofNat (high * 64 + low)) rest := by
  have announced := lead?_two high highSmall least
  have accepted := second_accepted 0x80 0xbf (low + 128)
    (by omega) (by change 128 ≤ _; omega)
    (by change _ ≤ 191; omega)
  rw [scan, if_neg (not_ascii_of_lead? announced), announced]
  simp only [accepted, extend_ofNat _ lowSmall, Bool.false_eq_true, if_false, if_true]

theorem scan_three (rest : Bytes) {high middle low : Nat}
    (highSmall : high < 16) (middleSmall : middle < 64) (lowSmall : low < 64)
    (notOverlong : high = 0 → 32 ≤ middle) (notSurrogate : high = 13 → middle < 32) :
    scan (UInt8.ofNat (high + 224))
        (UInt8.ofNat (middle + 128) :: UInt8.ofNat (low + 128) :: rest) =
      .character (Char.ofNat ((high * 64 + middle) * 64 + low)) rest := by
  have announced := lead?_three high highSmall
  have accepted := second_accepted
    (if high = 0 then 0xa0 else 0x80)
    (if high = 13 then 0x9f else 0xbf)
    (middle + 128) (by omega)
    (by
      split
      · next zero => have := notOverlong zero; change 160 ≤ _; omega
      · change 128 ≤ _; omega)
    (by
      split
      · next surrogates => have := notSurrogate surrogates; change _ ≤ 159; omega
      · change _ ≤ 191; omega)
  rw [scan, if_neg (not_ascii_of_lead? announced), announced]
  simp only [accepted, isContinuation_ofNat low lowSmall, extend_ofNat _ middleSmall,
    extend_ofNat _ lowSmall, Bool.false_eq_true, Bool.not_true, if_false]
  rfl

theorem scan_four (rest : Bytes) {high second third low : Nat}
    (highSmall : high < 5) (secondSmall : second < 64) (thirdSmall : third < 64)
    (lowSmall : low < 64) (notOverlong : high = 0 → 16 ≤ second)
    (notBeyond : high = 4 → second < 16) :
    scan (UInt8.ofNat (high + 240))
        (UInt8.ofNat (second + 128) :: UInt8.ofNat (third + 128) ::
          UInt8.ofNat (low + 128) :: rest) =
      .character (Char.ofNat (((high * 64 + second) * 64 + third) * 64 + low)) rest := by
  have announced := lead?_four high highSmall
  have accepted := second_accepted
    (if high = 0 then 0x90 else 0x80)
    (if high = 4 then 0x8f else 0xbf)
    (second + 128) (by omega)
    (by
      split
      · next zero => have := notOverlong zero; change 144 ≤ _; omega
      · change 128 ≤ _; omega)
    (by
      split
      · next last => have := notBeyond last; change _ ≤ 143; omega
      · change _ ≤ 191; omega)
  rw [scan, if_neg (not_ascii_of_lead? announced), announced]
  simp only [accepted, isContinuation_ofNat _ thirdSmall, isContinuation_ofNat _ lowSmall,
    extend_ofNat _ secondSmall, extend_ofNat _ thirdSmall, extend_ofNat _ lowSmall,
    Bool.false_eq_true, Bool.not_true, if_false]
  rfl

/-- Whatever follows an encoded number, reading stops where the encoding ends. -/
theorem Encodes.scan {number : Nat} {bytes : Bytes} (encodes : Encodes number bytes)
    (scalar : number.isValidChar) (rest : Bytes) :
    ∃ first following, bytes = first :: following ∧
      scan first (following ++ rest) = .character (Char.ofNat number) rest := by
  unfold Nat.isValidChar at scalar
  cases encodes with
  | one small => exact ⟨_, _, rfl, scan_one rest small⟩
  | two high low highSmall lowSmall shortest =>
    exact ⟨_, _, rfl, scan_two rest (by omega) highSmall lowSmall⟩
  | three high middle low highSmall middleSmall lowSmall shortest =>
    exact ⟨_, _, rfl, scan_three rest highSmall middleSmall lowSmall (by omega) (by omega)⟩
  | four high second third low highSmall secondSmall thirdSmall lowSmall shortest =>
    exact ⟨_, _, rfl, scan_four rest (by omega) secondSmall thirdSmall lowSmall (by omega)
      (by omega)⟩

/-- Whatever follows the encoding of a character, reading stops where the
encoding ends. -/
theorem scan_encoded (character : Char) (rest : Bytes) :
    ∃ first following,
      String.utf8EncodeChar character = first :: following ∧
        scan first (following ++ rest) = .character character rest := by
  have read := (encodes_utf8EncodeChar character).scan character.valid rest
  rwa [Char.ofNat_toNat] at read

/-! ## Texts -/

theorem decodeFrom_ofChars (offset : Nat) (reversed characters : List Char) :
    decodeFrom offset reversed (Bytes.ofChars characters) =
      .ok (reversed.reverse ++ characters) := by
  induction characters generalizing offset reversed with
  | nil => simp [decodeFrom]
  | cons character rest ih =>
    obtain ⟨first, following, encoded, read⟩ :=
      scan_encoded character (Bytes.ofChars rest)
    rw [Bytes.ofChars_cons, encoded, List.cons_append, decodeFrom]
    split
    · next character' remaining read' =>
      rw [read] at read'
      injection read' with same sameRest
      subst same sameRest
      rw [ih]
      simp
    · next read' => simp [read] at read'
    · next read' => simp [read] at read'

theorem lossyFrom_ofChars (reversed characters : List Char) :
    lossyFrom reversed (Bytes.ofChars characters) =
      reversed.reverse ++ characters := by
  induction characters generalizing reversed with
  | nil => simp [lossyFrom]
  | cons character rest ih =>
    obtain ⟨first, following, encoded, read⟩ :=
      scan_encoded character (Bytes.ofChars rest)
    rw [Bytes.ofChars_cons, encoded, List.cons_append, lossyFrom]
    split
    · next character' remaining read' =>
      rw [read] at read'
      injection read' with same sameRest
      subst same sameRest
      rw [ih]
      simp
    · next read' => simp [read] at read'
    · next read' => simp [read] at read'

/-- The bytes of a text spell that text. -/
@[simp]
theorem decodeText_ofString (text : String) :
    decodeText (Bytes.ofString text) = .ok text := by
  rw [decodeText, decode, ← Bytes.ofChars_toList, decodeFrom_ofChars]
  simp [Except.map]

/-- Nothing has to be replaced in the bytes of a text. -/
@[simp]
theorem lossy_ofString (text : String) : lossy (Bytes.ofString text) = text := by
  rw [lossy, ← Bytes.ofChars_toList, lossyFrom_ofChars]
  simp

/-! ## Reading nothing but encodings -/

/-- What the first byte of a longer character says, by the number of bytes that
follow. -/
theorem lead?_sound : ∀ number < 256, ∀ lead ∈ lead? (UInt8.ofNat number),
    lead.following = 1 ∧ number = lead.payload + 192 ∧ 2 ≤ lead.payload ∧ lead.payload < 32 ∧
        lead.low = 0x80 ∧ lead.high = 0xbf ∨
      lead.following = 2 ∧ number = lead.payload + 224 ∧ lead.payload < 16 ∧
        lead.low = (if lead.payload = 0 then 0xa0 else 0x80) ∧
        lead.high = (if lead.payload = 13 then 0x9f else 0xbf) ∨
      lead.following = 3 ∧ number = lead.payload + 240 ∧ lead.payload < 5 ∧
        lead.low = (if lead.payload = 0 then 0x90 else 0x80) ∧
        lead.high = (if lead.payload = 4 then 0x8f else 0xbf) := by
  decide +kernel

theorem toNat_ofNat {number : Nat}
    (valid : number < 0xd800 ∨ 0xdfff < number ∧ number < 0x110000) :
    (Char.ofNat number).toNat = number := by
  rw [Char.ofNat, dif_pos valid]
  rfl

theorem encode_one {number : Nat} (small : number < 128) :
    String.utf8EncodeChar (Char.ofNat number) = [UInt8.ofNat number] := by
  have code := toNat_ofNat (.inl (by omega : number < 0xd800))
  simp only [String.utf8EncodeChar, Char.toNat_val, code]
  rw [if_pos (by omega)]

theorem encode_two {high low : Nat} (least : 2 ≤ high) (highSmall : high < 32)
    (lowSmall : low < 64) :
    String.utf8EncodeChar (Char.ofNat (high * 64 + low)) =
      [UInt8.ofNat (high + 192), UInt8.ofNat (low + 128)] := by
  have code := toNat_ofNat (.inl (by omega : high * 64 + low < 0xd800))
  have first : (high * 64 + low) / 64 % 32 = high := by omega
  have second : (high * 64 + low) % 64 = low := by omega
  simp only [String.utf8EncodeChar, Char.toNat_val, code, first, second]
  rw [if_neg (by omega), if_pos (by omega)]

theorem encode_three {high middle low : Nat} (highSmall : high < 16) (middleSmall : middle < 64)
    (lowSmall : low < 64) (notOverlong : high = 0 → 32 ≤ middle)
    (notSurrogate : high = 13 → middle < 32) :
    String.utf8EncodeChar (Char.ofNat ((high * 64 + middle) * 64 + low)) =
      [UInt8.ofNat (high + 224), UInt8.ofNat (middle + 128), UInt8.ofNat (low + 128)] := by
  generalize joined : (high * 64 + middle) * 64 + low = number
  have code : (Char.ofNat number).toNat = number := toNat_ofNat (by omega)
  have first : number / 4096 % 16 = high := by omega
  have second : number / 64 % 64 = middle := by omega
  have third : number % 64 = low := by omega
  simp only [String.utf8EncodeChar, Char.toNat_val, code, first, second, third]
  rw [if_neg (by omega), if_neg (by omega), if_pos (by omega)]

theorem encode_four {high second third low : Nat} (highSmall : high < 5)
    (secondSmall : second < 64) (thirdSmall : third < 64) (lowSmall : low < 64)
    (notOverlong : high = 0 → 16 ≤ second) (notBeyond : high = 4 → second < 16) :
    String.utf8EncodeChar (Char.ofNat (((high * 64 + second) * 64 + third) * 64 + low)) =
      [UInt8.ofNat (high + 240), UInt8.ofNat (second + 128), UInt8.ofNat (third + 128),
        UInt8.ofNat (low + 128)] := by
  generalize joined : ((high * 64 + second) * 64 + third) * 64 + low = number
  have code : (Char.ofNat number).toNat = number := toNat_ofNat (by omega)
  have one : number / 262144 % 8 = high := by omega
  have two : number / 4096 % 64 = second := by omega
  have three : number / 64 % 64 = third := by omega
  have four : number % 64 = low := by omega
  simp only [String.utf8EncodeChar, Char.toNat_val, code, one, two, three, four]
  rw [if_neg (by omega), if_neg (by omega), if_neg (by omega)]

theorem ofNat_toNat (byte : UInt8) : UInt8.ofNat byte.toNat = byte := by simp

/-- A byte between 0x80 and 0xbf carries six bits. -/
theorem isContinuation_sound {byte : UInt8} (continues : isContinuation byte = true) :
    ∃ low < 64, byte = UInt8.ofNat (low + 128) := by
  simp only [isContinuation, Bool.and_eq_true, decide_eq_true_eq,
    UInt8.le_iff_toNat_le] at continues
  obtain ⟨above, below⟩ := continues
  change 128 ≤ byte.toNat at above
  change byte.toNat ≤ 191 at below
  refine ⟨byte.toNat - 128, by omega, ?_⟩
  rw [show byte.toNat - 128 + 128 = byte.toNat by omega, ofNat_toNat]

/-- A second byte within bounds that lie between 0x80 and 0xbf. -/
theorem second_sound {byte low high : UInt8} (least : 128 ≤ low.toNat) (most : high.toNat ≤ 191)
    (accepted : (byte < low || high < byte) = false) :
    ∃ bits < 64, byte = UInt8.ofNat (bits + 128) ∧ low.toNat ≤ bits + 128 ∧
      bits + 128 ≤ high.toNat := by
  simp only [Bool.or_eq_false_iff, decide_eq_false_iff_not, UInt8.lt_iff_toNat_lt] at accepted
  refine ⟨byte.toNat - 128, by omega, ?_, by omega, by omega⟩
  rw [show byte.toNat - 128 + 128 = byte.toNat by omega, ofNat_toNat]

/-- The second of three bytes; the bounds exclude overlong forms and surrogates. -/
theorem second_of_three {payload : Nat} {byte : UInt8}
    (accepted : (byte < (if payload = 0 then 0xa0 else 0x80) ||
      (if payload = 13 then 0x9f else 0xbf) < byte) = false) :
    ∃ bits < 64, byte = UInt8.ofNat (bits + 128) ∧ (payload = 0 → 32 ≤ bits) ∧
      (payload = 13 → bits < 32) := by
  obtain ⟨bits, small, same, above, below⟩ :=
    second_sound (by split <;> decide) (by split <;> decide) accepted
  refine ⟨bits, small, same, ?_, ?_⟩
  · intro zero
    rw [if_pos zero] at above
    change 160 ≤ _ at above
    omega
  · intro surrogates
    rw [if_pos surrogates] at below
    change _ ≤ 159 at below
    omega

/-- The second of four bytes; the bounds exclude overlong forms and what lies beyond the
last code point. -/
theorem second_of_four {payload : Nat} {byte : UInt8}
    (accepted : (byte < (if payload = 0 then 0x90 else 0x80) ||
      (if payload = 4 then 0x8f else 0xbf) < byte) = false) :
    ∃ bits < 64, byte = UInt8.ofNat (bits + 128) ∧ (payload = 0 → 16 ≤ bits) ∧
      (payload = 4 → bits < 16) := by
  obtain ⟨bits, small, same, above, below⟩ :=
    second_sound (by split <;> decide) (by split <;> decide) accepted
  refine ⟨bits, small, same, ?_, ?_⟩
  · intro zero
    rw [if_pos zero] at above
    change 144 ≤ _ at above
    omega
  · intro last
    rw [if_pos last] at below
    change _ ≤ 143 at below
    omega

/-- What has been read as a character is the encoding of it. -/
theorem scan_sound {first : UInt8} {bytes rest : Bytes} {character : Char}
    (read : scan first bytes = .character character rest) :
    first :: bytes = String.utf8EncodeChar character ++ rest := by
  unfold scan at read
  by_cases ascii : first < 0x80
  · rw [if_pos ascii] at read
    injection read with same sameRest
    subst same sameRest
    rw [encode_one (UInt8.lt_iff_toNat_lt.mp ascii), ofNat_toNat]
    rfl
  rw [if_neg ascii] at read
  cases announced : lead? first with
  | none => simp [announced] at read
  | some lead =>
    rw [announced] at read
    obtain ⟨following, payload, low, high⟩ := lead
    have sound := lead?_sound first.toNat first.toNat_lt _
      ((congrArg lead? (ofNat_toNat first)).trans announced)
    cases bytes with
    | nil => simp at read
    | cons second rest2 =>
      cases accepted : (second < low || high < second : Bool) with
      | true => simp [accepted] at read
      | false =>
        simp only [accepted, Bool.false_eq_true, if_false] at read sound
        rw [← ofNat_toNat first]
        rcases sound with ⟨rfl, number, least, small, rfl, rfl⟩ |
          ⟨rfl, number, small, lowest, highest⟩ | ⟨rfl, number, small, lowest, highest⟩
        · obtain ⟨bits, bitsSmall, rfl, -, -⟩ := second_sound (by decide) (by decide) accepted
          rw [if_pos rfl, extend_ofNat _ bitsSmall] at read
          injection read with same sameRest
          subst same sameRest
          rw [encode_two least small bitsSmall, number]
          rfl
        · rw [lowest, highest] at accepted
          obtain ⟨middle, middleSmall, rfl, notOverlong, notSurrogate⟩ := second_of_three accepted
          cases rest2 with
          | nil => simp at read
          | cons third rest3 =>
            cases continues : isContinuation third with
            | false => simp [continues] at read
            | true =>
              obtain ⟨bits, bitsSmall, rfl⟩ := isContinuation_sound continues
              simp only [continues, Bool.not_true, Bool.false_eq_true, if_false, if_true,
                show ¬(2 = 1) by decide, extend_ofNat _ middleSmall,
                extend_ofNat _ bitsSmall] at read
              injection read with same sameRest
              subst same sameRest
              rw [encode_three small middleSmall bitsSmall notOverlong notSurrogate, number]
              rfl
        · rw [lowest, highest] at accepted
          obtain ⟨middle, middleSmall, rfl, notOverlong, notBeyond⟩ := second_of_four accepted
          cases rest2 with
          | nil => simp at read
          | cons third rest3 =>
            cases continues : isContinuation third with
            | false => simp [continues] at read
            | true =>
              cases rest3 with
              | nil => simp [continues] at read
              | cons fourth rest4 =>
                cases ends : isContinuation fourth with
                | false => simp [continues, ends] at read
                | true =>
                  obtain ⟨bits, bitsSmall, rfl⟩ := isContinuation_sound continues
                  obtain ⟨lowBits, lowSmall, rfl⟩ := isContinuation_sound ends
                  simp only [continues, ends, Bool.not_true, Bool.false_eq_true, if_false,
                    show ¬(3 = 1) by decide, show ¬(3 = 2) by decide,
                    extend_ofNat _ middleSmall, extend_ofNat _ bitsSmall,
                    extend_ofNat _ lowSmall] at read
                  injection read with same sameRest
                  subst same sameRest
                  rw [encode_four small middleSmall bitsSmall lowSmall notOverlong notBeyond,
                    number]
                  rfl

theorem decodeFrom_sound {offset : Nat} {reversed characters : List Char} {bytes : Bytes}
    (read : decodeFrom offset reversed bytes = .ok characters) :
    Bytes.ofChars characters = Bytes.ofChars reversed.reverse ++ bytes := by
  fun_induction decodeFrom offset reversed bytes with
  | case1 offset reversed =>
    cases read
    rw [List.append_nil]
  | case2 offset reversed first rest character remaining scanned ih =>
    rw [ih read, scan_sound scanned, List.reverse_cons, Bytes.ofChars, List.flatMap_append,
      List.append_assoc, List.flatMap_singleton]
    rfl
  | case3 => cases read
  | case4 => cases read

/-- Bytes that are read as a text are the bytes of that text. -/
theorem ofString_of_decodeText {bytes : Bytes} {text : String}
    (read : decodeText bytes = .ok text) :
    Bytes.ofString text = bytes := by
  unfold decodeText decode at read
  cases decoded : decodeFrom 0 [] bytes with
  | error fault => simp [decoded, Except.map] at read
  | ok characters =>
    rw [decoded] at read
    cases read
    rw [Bytes.ofString_ofList]
    exact decodeFrom_sound decoded

/-- Bytes that are well-formed UTF-8. -/
def IsText (bytes : Bytes) : Prop :=
  ∃ text, Bytes.ofString text = bytes

theorem isText_nil : IsText [] :=
  ⟨"", Bytes.ofString_empty⟩

theorem isText_iff_decodeText {bytes : Bytes} :
    IsText bytes ↔ ∃ text, decodeText bytes = .ok text := by
  constructor
  · rintro ⟨text, rfl⟩
    exact ⟨text, decodeText_ofString text⟩
  · rintro ⟨text, read⟩
    exact ⟨text, ofString_of_decodeText read⟩

end MediaImport.Utf8

namespace MediaImport.Bytes

/-- Different texts have different bytes. -/
@[simp]
theorem ofString_inj {left right : String} :
    ofString left = ofString right ↔ left = right := by
  constructor
  · intro same
    have decoded := Utf8.lossy_ofString left
    rw [same, Utf8.lossy_ofString] at decoded
    exact decoded.symm
  · rintro rfl
    rfl

@[simp]
theorem ofString_eq_nil {text : String} : ofString text = [] ↔ text = "" := by
  rw [← ofString_empty, ofString_inj]

@[simp]
theorem isEmpty_ofString (text : String) :
    (ofString text).isEmpty = decide (text = "") := by
  rw [Bool.eq_iff_iff, List.isEmpty_iff, ofString_eq_nil, decide_eq_true_eq]

end MediaImport.Bytes
