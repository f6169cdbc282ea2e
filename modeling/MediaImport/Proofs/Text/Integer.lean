import MediaImport.Text.Integer

/-!
# Reading back decimal texts

The decimal text of an integer is read as that integer.  The digits of a natural number
spell it, none of them is a blank or a sign, and so nothing is lost in front of them; a
minus in front of them is taken for what it is.
-/

namespace MediaImport.Text.Integer

/-! ## Digits -/

theorem isDigit_of_mem_toDigits {number : Nat} {digit : Char}
    (member : digit ∈ Nat.toDigits 10 number) : isDigit digit = true :=
  Nat.isDigit_of_mem_toDigits (by decide) (by decide) member

theorem value_toDigits (number : Nat) : value (Nat.toDigits 10 number) = number := by
  -- The library's fold has the factor on the other side.
  have step : (fun (total : Nat) (digit : Char) => total * 10 + (digit.toNat - 0x30)) =
      fun total digit => 10 * total + (digit.toNat - '0'.toNat) := by
    funext total digit
    rw [Nat.mul_comm]
    rfl
  rw [value, step, ← Nat.ofDigitChars_eq_foldl, Nat.ofDigitChars_ten_toDigits]

/-- A digit is neither a blank nor a sign. -/
theorem apart_of_isDigit {digit : Char} (decimal : isDigit digit = true) :
    isBlank digit = false ∧ digit ≠ '-' ∧ digit ≠ '+' := by
  simp only [isDigit, Bool.and_eq_true, decide_eq_true_eq, Char.le_def,
    UInt32.le_iff_toNat_le] at decimal
  have low : 48 ≤ digit.toNat := decimal.1
  have high : digit.toNat ≤ 57 := decimal.2
  refine ⟨?_, ?_, ?_⟩
  · simp only [isBlank, Bool.or_eq_false_iff, Bool.and_eq_false_iff, decide_eq_false_iff_not,
      beq_eq_false_iff_ne]
    omega
  · rintro rfl
    exact absurd low (by decide)
  · rintro rfl
    exact absurd low (by decide)

/-! ## Texts -/

/-- The integer at the front of some characters, clamped to 32 bits: what there is to read,
without regard to bytes and words. -/
def leadingOfChars? (characters : List Char) : Option Int :=
  let (negative, rest) := splitSign (trimStart characters)
  let digits := rest.takeWhile isDigit
  if digits.isEmpty then none
  else some (clamp32 (signed negative (value digits)))

theorem splitSign_of_ne {first : Char} (notMinus : first ≠ '-') (notPlus : first ≠ '+')
    (rest : List Char) : splitSign (first :: rest) = (false, first :: rest) := by
  unfold splitSign
  split
  · next same => exact absurd (List.cons.inj same).1 notMinus
  · next same => exact absurd (List.cons.inj same).1 notPlus
  · rfl

variable {digits : List Char}

theorem takeWhile_isDigit (decimal : ∀ digit ∈ digits, isDigit digit = true) :
    digits.takeWhile isDigit = digits := by
  induction digits with
  | nil => rfl
  | cons first rest ih =>
    rw [List.takeWhile_cons_of_pos (decimal first (List.mem_cons_self ..)),
      ih fun digit member => decimal digit (List.mem_cons_of_mem _ member)]

/-- Digits are read to their end. -/
theorem leadingOfChars?_digits (present : digits ≠ [])
    (decimal : ∀ digit ∈ digits, isDigit digit = true) :
    leadingOfChars? digits = some (clamp32 (value digits)) := by
  cases digits with
  | nil => exact absurd rfl present
  | cons first rest =>
    obtain ⟨notBlank, notMinus, notPlus⟩ := apart_of_isDigit (decimal first (List.mem_cons_self ..))
    have unsigned : splitSign (trimStart (first :: rest)) = (false, first :: rest) := by
      rw [trimStart, List.dropWhile_cons_of_neg (by simp [notBlank]),
        splitSign_of_ne notMinus notPlus]
    simp only [leadingOfChars?, unsigned, takeWhile_isDigit decimal]
    rfl

/-- So are digits after a minus. -/
theorem leadingOfChars?_minus (present : digits ≠ [])
    (decimal : ∀ digit ∈ digits, isDigit digit = true) :
    leadingOfChars? ('-' :: digits) = some (clamp32 (-(value digits : Int))) := by
  have signed : splitSign (trimStart ('-' :: digits)) = (true, digits) := by
    rw [trimStart, List.dropWhile_cons_of_neg (by decide)]
    rfl
  simp only [leadingOfChars?, signed, takeWhile_isDigit decimal]
  rw [if_neg (by simpa using present)]
  rfl

/-- The decimal text of an integer is its digits, after a minus if it is negative. -/
theorem toList_toString (number : Int) :
    (toString number).toList =
      if number < 0 then '-' :: Nat.toDigits 10 number.natAbs
      else Nat.toDigits 10 number.natAbs := by
  rw [Int.toString_eq_repr]
  cases number with
  | ofNat magnitude => exact String.toList_ofList
  | negSucc magnitude => simp [Int.repr, Nat.repr]

/-- Digits with nothing else are read to their end. -/
theorem ofChars?_digits (present : digits ≠ [])
    (decimal : ∀ digit ∈ digits, isDigit digit = true) :
    ofChars? digits = some (value digits : Int) := by
  cases digits with
  | nil => exact absurd rfl present
  | cons first rest =>
    obtain ⟨-, notMinus, notPlus⟩ := apart_of_isDigit (decimal first (List.mem_cons_self ..))
    simp only [ofChars?, splitSign_of_ne notMinus notPlus, List.all_eq_true.mpr decimal]
    rfl

/-- So are digits after a minus. -/
theorem ofChars?_minus (present : digits ≠ [])
    (decimal : ∀ digit ∈ digits, isDigit digit = true) :
    ofChars? ('-' :: digits) = some (-(value digits : Int)) := by
  simp only [ofChars?, splitSign, List.all_eq_true.mpr decimal]
  rw [if_neg (by simpa using present)]
  rfl

/-- The decimal text of an integer within bounds is read as the integer. -/
theorem parse?_toString {lowest highest number : Int} (low : lowest ≤ number)
    (high : number ≤ highest) : parse? lowest highest (toString number) = some number := by
  have decimal : ∀ digit ∈ Nat.toDigits 10 number.natAbs, isDigit digit = true :=
    fun _ => isDigit_of_mem_toDigits
  have spelled : ofChars? (toString number).toList = some number := by
    rw [toList_toString]
    split
    · next negative =>
      rw [ofChars?_minus Nat.toDigits_ne_nil decimal, value_toDigits,
        show -(number.natAbs : Int) = number by omega]
    · next natural =>
      rw [ofChars?_digits Nat.toDigits_ne_nil decimal, value_toDigits,
        show (number.natAbs : Int) = number by omega]
  rw [parse?, spelled]
  simp [low, high]

end MediaImport.Text.Integer
