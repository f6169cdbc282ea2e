import MediaImport.Proofs.Text.Encoding
import MediaImport.Proofs.Text.Integer

/-!
# Sign and digits, found by bytes

The reader of leading integers looks at bytes, cuts there, and works with words.  Here is why
characters and integers tell the same.  Signs and digits are single bytes in UTF-8, and no byte of
any other character looks like one; so a cut behind them is a cut between characters
(`cutSign?_eq`, `cutDigits?_eq`).  A magnitude of 64 bits loses what is beyond them, which is
beyond 32 bits as well; so the word that is left is the integer itself, clamped
(`clampedWord_eq`).
-/

namespace MediaImport.Text.Integer

/-! ## Cuts -/

/-- A cut behind some characters falls behind the bytes that they take. -/
theorem cutAfter?_append (front back : List Char) :
    cutAfter? (Bytes.ofChars front).length (front ++ back) = some (front, back) := by
  induction front with
  | nil => exact cutAfter?.eq_1 back
  | cons first front ih =>
    have size : (Bytes.ofChars (first :: front)).length =
        first.utf8Size - 1 + (Bytes.ofChars front).length + 1 := by
      have positive := first.utf8Size_pos
      rw [Bytes.ofChars_cons, List.length_append, String.length_utf8EncodeChar]
      omega
    have positive := first.utf8Size_pos
    rw [List.cons_append, size, cutAfter?, if_pos (by omega),
      show first.utf8Size - 1 + (Bytes.ofChars front).length + 1 - first.utf8Size =
        (Bytes.ofChars front).length by omega, ih]
    rfl

/-! ## Characters by their first bytes -/

/-- A character is a single byte below 128, or starts with a byte that is not. -/
theorem encoded_cases (character : Char) :
    (String.utf8EncodeChar character = [UInt8.ofNat character.toNat] ∧ character.toNat < 128) ∨
      128 ≤ character.toNat ∧ ∃ first following,
        String.utf8EncodeChar character = first :: following ∧ 128 ≤ first.toNat := by
  have lead {share base : Nat} (low : 128 ≤ base) (high : share + base < 256) :
      128 ≤ (UInt8.ofNat (share + base)).toNat := by
    rw [UInt8.toNat_ofNat_of_lt' high]
    omega
  have encodes := Utf8.encodes_utf8EncodeChar character
  generalize String.utf8EncodeChar character = bytes at encodes
  generalize character.toNat = number at encodes
  cases encodes with
  | one small => exact .inl ⟨rfl, small⟩
  | two high low highSmall lowSmall shortest =>
    exact .inr ⟨by omega, _, _, rfl, lead (by omega) (by omega)⟩
  | three high middle low highSmall middleSmall lowSmall shortest =>
    exact .inr ⟨by omega, _, _, rfl, lead (by omega) (by omega)⟩
  | four high second third low highSmall secondSmall thirdSmall lowSmall shortest =>
    exact .inr ⟨by omega, _, _, rfl, lead (by omega) (by omega)⟩

theorem isDigit_iff (character : Char) :
    isDigit character = true ↔ 48 ≤ character.toNat ∧ character.toNat ≤ 57 := by
  simp only [isDigit, Bool.and_eq_true, decide_eq_true_eq, Char.le_def, UInt32.le_iff_toNat_le]
  rfl

theorem isDigit_byte_iff (byte : UInt8) :
    Bytes.isDigit byte = true ↔ 48 ≤ byte.toNat ∧ byte.toNat ≤ 57 := by
  simp only [Bytes.isDigit, Bool.and_eq_true, decide_eq_true_eq, UInt8.le_iff_toNat_le]
  rfl

/-! ## Signs -/

theorem ofNat_toNat_eq_iff {character : Char} (small : character.toNat < 128) (other : Char)
    (otherSmall : other.toNat < 128) :
    UInt8.ofNat character.toNat = UInt8.ofNat other.toNat ↔ character = other := by
  refine ⟨fun same => ?_, fun same => by rw [same]⟩
  have codes := congrArg UInt8.toNat same
  rw [UInt8.toNat_ofNat_of_lt' (by omega : character.toNat < 256),
    UInt8.toNat_ofNat_of_lt' (by omega : other.toNat < 256)] at codes
  exact Char.toNat_inj.mp codes

/-- The sign that is found by its byte is the sign in front, and the cut behind it falls between
characters. -/
theorem cutSign?_eq (characters : List Char) :
    cutSign? characters = some (splitSign characters) := by
  cases characters with
  | nil => rfl
  | cons first rest =>
    rcases encoded_cases first with ⟨encoded, small⟩ | ⟨large, lead, following, encoded, leadLarge⟩
    · have head : (Bytes.ofChars (first :: rest)).head? = some (UInt8.ofNat first.toNat) := by
        rw [Bytes.ofChars_cons, encoded]
        rfl
      have behind : cutAfter? 1 (first :: rest) = some ([first], rest) := by
        have cut := cutAfter?_append [first] rest
        rwa [Bytes.ofChars_cons, encoded] at cut
      rw [cutSign?, head, behind]
      by_cases minus : first = '-'
      · subst minus
        rfl
      by_cases plus : first = '+'
      · subst plus
        rfl
      rw [splitSign_of_ne minus plus]
      split
      · next same =>
        exact absurd ((ofNat_toNat_eq_iff small '-' (by decide)).mp (Option.some.inj same)) minus
      · next same =>
        exact absurd ((ofNat_toNat_eq_iff small '+' (by decide)).mp (Option.some.inj same)) plus
      · rfl
    · have head : (Bytes.ofChars (first :: rest)).head? = some lead := by
        rw [Bytes.ofChars_cons, encoded]
        rfl
      have apart : first ≠ '-' ∧ first ≠ '+' := by
        constructor <;> rintro rfl <;> exact absurd large (by decide)
      rw [cutSign?, head, splitSign_of_ne apart.1 apart.2]
      split
      · next same =>
        obtain rfl := Option.some.inj same
        exact absurd leadLarge (by decide)
      · next same =>
        obtain rfl := Option.some.inj same
        exact absurd leadLarge (by decide)
      · rfl

/-! ## Digits -/

/-- As far as bytes are digits, they are the bytes of the digits. -/
theorem takeWhile_isDigit_ofChars (characters : List Char) :
    (Bytes.ofChars characters).takeWhile Bytes.isDigit =
      Bytes.ofChars (characters.takeWhile isDigit) := by
  induction characters with
  | nil => rfl
  | cons first rest ih =>
    rw [Bytes.ofChars_cons]
    by_cases decimal : isDigit first = true
    · obtain ⟨low, high⟩ := (isDigit_iff first).mp decimal
      rcases encoded_cases first with ⟨encoded, -⟩ | ⟨large, -⟩
      · have byte : Bytes.isDigit (UInt8.ofNat first.toNat) = true := by
          rw [isDigit_byte_iff, UInt8.toNat_ofNat_of_lt' (by omega : first.toNat < 256)]
          exact ⟨low, high⟩
        rw [encoded, List.singleton_append, List.takeWhile_cons_of_pos byte, ih,
          List.takeWhile_cons_of_pos decimal, Bytes.ofChars_cons, encoded]
        rfl
      · omega
    · rw [List.takeWhile_cons_of_neg decimal]
      obtain ⟨lead, following, encoded, other⟩ : ∃ lead following,
          String.utf8EncodeChar first = lead :: following ∧ ¬Bytes.isDigit lead = true := by
        rcases encoded_cases first with ⟨encoded, small⟩ | ⟨-, lead, following, encoded, large⟩
        · refine ⟨_, _, encoded, ?_⟩
          rwa [isDigit_byte_iff, UInt8.toNat_ofNat_of_lt' (by omega : first.toNat < 256),
            ← isDigit_iff]
        · refine ⟨lead, following, encoded, ?_⟩
          rw [isDigit_byte_iff]
          omega
      rw [encoded, List.cons_append, List.takeWhile_cons_of_neg other, Bytes.ofChars_nil]

/-- The digits that are found by counting bytes are the digits in front, and the cut behind them
falls between characters. -/
theorem cutDigits?_eq (characters : List Char) :
    cutDigits? characters = some (characters.takeWhile isDigit) := by
  have cut := cutAfter?_append (characters.takeWhile isDigit) (characters.dropWhile isDigit)
  rw [List.takeWhile_append_dropWhile] at cut
  rw [cutDigits?, takeWhile_isDigit_ofChars, cut]
  rfl

/-! ## Words -/

variable {digits : List Char}

/-- Digits as a 64-bit word, as far as there is one. -/
theorem toInt_magnitude (present : digits ≠ [])
    (decimal : ∀ digit ∈ digits, isDigit digit = true) :
    ((parseInt64? (String.ofList digits)).getD Int64.maxValue).toInt =
      min (value digits : Int) 9223372036854775807 := by
  rw [parseInt64?, parse?, String.toList_ofList, ofChars?_digits present decimal]
  by_cases fits : (value digits : Int) ≤ 9223372036854775807
  · have inRange : Option.filter (fun number : Int => decide (-9223372036854775808 ≤ number) &&
        decide (number ≤ 9223372036854775807)) (some (value digits : Int)) =
          some (value digits : Int) := by
      rw [Option.filter_some_pos]
      simp only [Bool.and_eq_true, decide_eq_true_eq]
      omega
    rw [inRange, Option.map_some, Option.getD_some, Int64.toInt_ofInt_of_le (by omega) (by omega)]
    omega
  · have outside : Option.filter (fun number : Int => decide (-9223372036854775808 ≤ number) &&
        decide (number ≤ 9223372036854775807)) (some (value digits : Int)) = none := by
      rw [Option.filter_some_neg]
      simp only [Bool.and_eq_false_iff, decide_eq_false_iff_not]
      omega
    rw [outside, Option.map_none, Option.getD_none]
    have greatest : Int64.maxValue.toInt = 9223372036854775807 := by decide
    omega

/-- What is lost beyond 64 bits is beyond 32 bits anyway. -/
theorem clampedWord_eq (negative : Bool) (present : digits ≠ [])
    (decimal : ∀ digit ∈ digits, isDigit digit = true) :
    clampedWord negative digits = Int32.ofInt (clamp32 (signed negative (value digits))) := by
  have magnitude := toInt_magnitude present decimal
  rw [clampedWord]
  generalize (parseInt64? (String.ofList digits)).getD Int64.maxValue = word at magnitude
  cases negative with
  | false =>
    have same : clamp32 word.toInt = clamp32 (value digits) := by
      rw [magnitude]
      unfold clamp32
      omega
    exact congrArg Int32.ofInt same
  | true =>
    have turned : (-word).toInt = -word.toInt := by
      rw [Int64.toInt_neg, Int.bmod_eq_of_le (by omega) (by omega)]
    have same : clamp32 (-word).toInt = clamp32 (-(value digits : Int)) := by
      rw [turned, magnitude]
      unfold clamp32
      omega
    exact congrArg Int32.ofInt same

/-! ## The whole reader -/

/-- No cut goes through a character, and what is read is what there is to read. -/
theorem readLeading?_eq (characters : List Char) :
    readLeading? characters = some ((leadingOfChars? characters).map Int32.ofInt) := by
  rcases cut : splitSign (trimStart characters) with ⟨negative, rest⟩
  rw [readLeading?, cutSign?_eq, cut]
  simp only [Option.bind_eq_bind, Option.bind_some, cutDigits?_eq, leadingOfChars?, cut]
  by_cases empty : (rest.takeWhile isDigit).isEmpty = true
  · simp [empty]
  · have present : rest.takeWhile isDigit ≠ [] := by simpa using empty
    have decimal : ∀ digit ∈ rest.takeWhile isDigit, isDigit digit = true :=
      fun _ => List.all_eq_true.mp List.all_takeWhile _
    simp [empty, clampedWord_eq negative present decimal]

theorem leading?_eq (text : String) :
    leading? text = (leadingOfChars? text.toList).map Int32.ofInt := by
  rw [leading?, readLeading?_eq, Option.join_some]

/-- The decimal text of an integer is read as the integer, clamped to 32 bits. -/
theorem leading?_toString (number : Int) :
    leading? (toString number) = some (Int32.ofInt (clamp32 number)) := by
  have decimal : ∀ digit ∈ Nat.toDigits 10 number.natAbs, isDigit digit = true :=
    fun _ => isDigit_of_mem_toDigits
  rw [leading?_eq, toList_toString]
  split
  · next negative =>
    rw [leadingOfChars?_minus Nat.toDigits_ne_nil decimal, value_toDigits,
      show -(number.natAbs : Int) = number by omega]
    rfl
  · next natural =>
    rw [leadingOfChars?_digits Nat.toDigits_ne_nil decimal, value_toDigits,
      show (number.natAbs : Int) = number by omega]
    rfl

/-- The decimal text of a 32-bit word is read as the word. -/
theorem leading?_toString_toInt (number : Int32) :
    leading? (toString number.toInt) = some number := by
  have low := number.le_toInt
  have high := number.toInt_lt
  have within : clamp32 number.toInt = number.toInt := by
    unfold clamp32
    omega
  rw [leading?_toString, within, Int32.ofInt_toInt]

end MediaImport.Text.Integer
