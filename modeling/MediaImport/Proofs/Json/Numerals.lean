import Mathlib.Data.List.TakeWhile
import Mathlib.Data.Nat.Init
import MediaImport.Json.Fields
import MediaImport.Json.Reader
import MediaImport.Proofs.Text.Integer

/-!
# Numerals in JSON text

A numeral is read to its end: what follows a value in a document is a comma, a closing bracket,
white space or nothing, and none of these can go on with a number.  The decimal text of an integer
is a numeral, for it starts with a zero only if it is the zero, and it is read back as the integer.
-/

namespace MediaImport.Json

open Text.Integer (apart_of_isDigit isDigit_of_mem_toDigits parse?_toString toList_toString)

/-! ## Where numbers end -/

/-- A character that could go on with a number. -/
def goesOn (character : Char) : Bool :=
  isDigit character || character == '.' || character == 'e' || character == 'E'

/-- No number goes on with what follows. -/
def Stops (rest : List Char) : Prop :=
  ∀ character ∈ rest.head?, goesOn character = false

theorem stops_nil : Stops [] := by
  simp [Stops]

theorem stops_cons {character : Char} (ends : goesOn character = false) (rest : List Char) :
    Stops (character :: rest) := by
  simpa [Stops] using ends

variable {characters read after rest : List Char}

theorem spanDigits_append (stops : Stops rest) (characters : List Char) :
    spanDigits (characters ++ rest) =
      ((spanDigits characters).1, (spanDigits characters).2 ++ rest) := by
  induction characters with
  | nil =>
    cases rest with
    | nil => rfl
    | cons first rest =>
      have ends : isDigit first = false := by
        have := stops first rfl
        simp only [goesOn, Bool.or_eq_false_iff] at this
        exact this.1.1.1
      simp [spanDigits, ends]
  | cons first characters ih =>
    simp only [spanDigits, Prod.mk.injEq] at ih ⊢
    by_cases digit : isDigit first = true
    · simp [digit, ih]
    · simp [digit]

theorem readFraction_of_stops (stops : Stops rest) : readFraction rest = some ([], rest) := by
  unfold readFraction
  split
  · exact absurd (stops '.' rfl) (by decide)
  · rfl

theorem readExponent_of_stops (stops : Stops rest) : readExponent rest = some ([], rest) := by
  cases rest with
  | nil => rfl
  | cons mark rest =>
    have ends := stops mark rfl
    simp only [goesOn, Bool.or_eq_false_iff] at ends
    simp [readExponent, ends]

theorem readFraction_append (stops : Stops rest)
    (found : readFraction characters = some (read, after)) :
    readFraction (characters ++ rest) = some (read, after ++ rest) := by
  cases characters with
  | nil =>
    cases found
    exact readFraction_of_stops stops
  | cons first characters =>
    by_cases point : first = '.'
    · subst point
      simp only [readFraction, List.cons_append, spanDigits_append stops] at found ⊢
      split at found
      · cases found
      · next present =>
        cases found
        rw [if_neg present]
    · have plain (tail : List Char) : readFraction (first :: tail) = some ([], first :: tail) := by
        unfold readFraction
        split
        · next same => exact absurd (List.cons.inj same).1 point
        · rfl
      rw [plain] at found
      cases found
      exact plain _

theorem readExponent_append (stops : Stops rest)
    (found : readExponent characters = some (read, after)) :
    readExponent (characters ++ rest) = some (read, after ++ rest) := by
  cases characters with
  | nil =>
    cases found
    exact readExponent_of_stops stops
  | cons mark characters =>
    by_cases marks : (mark == 'e' || mark == 'E') = true
    · cases characters with
      | nil => simp [readExponent, marks, spanDigits] at found
      | cons sign characters =>
        -- A sign belongs to the exponent, and whatever else stands there begins its digits.
        have signed : ∃ sign' unsigned, ∀ tail,
            readExponent (mark :: sign :: (characters ++ tail)) =
            if (spanDigits (unsigned ++ tail)).1.isEmpty then none
            else some (mark :: sign' ++ (spanDigits (unsigned ++ tail)).1,
              (spanDigits (unsigned ++ tail)).2) := by
          by_cases plus : sign = '+'
          · exact ⟨['+'], characters, fun tail => by simp [readExponent, marks, plus]⟩
          · by_cases minus : sign = '-'
            · exact ⟨['-'], characters, fun tail => by simp [readExponent, marks, minus]⟩
            · exact ⟨[], sign :: characters, fun tail => by simp [readExponent, marks, plus, minus]⟩
        obtain ⟨sign', unsigned, signed⟩ := signed
        have bare := signed []
        rw [List.append_nil, List.append_nil, found] at bare
        rw [List.cons_append, List.cons_append, signed, spanDigits_append stops]
        simp only at bare ⊢
        split at bare
        · cases bare
        · next present =>
          cases bare
          rw [if_neg present]
    · simp only [readExponent, marks, List.cons_append] at found ⊢
      cases found
      rfl

theorem readMagnitude_append (stops : Stops rest)
    (found : readMagnitude characters = some (read, after)) :
    readMagnitude (characters ++ rest) = some (read, after ++ rest) := by
  simp only [readMagnitude, spanDigits_append stops] at found ⊢
  split at found
  · cases found
  · next whole =>
    rw [if_neg whole]
    obtain ⟨⟨fraction, afterFraction⟩, first, found⟩ := Option.bind_eq_some_iff.mp found
    obtain ⟨⟨exponent, afterExponent⟩, second, found⟩ := Option.bind_eq_some_iff.mp found
    cases found
    rw [readFraction_append stops first, Option.bind_eq_bind, Option.bind_some,
      readExponent_append stops second]
    rfl

/-- Without a minus, a number is its magnitude. -/
theorem readNumber_of_ne {first : Char} (unsigned : first ≠ '-') (rest : List Char) :
    readNumber (first :: rest) = readMagnitude (first :: rest) := by
  unfold readNumber
  split
  · next same => exact absurd (List.cons.inj same).1 unsigned
  · rfl

theorem readNumber_append (stops : Stops rest)
    (found : readNumber characters = some (read, after)) :
    readNumber (characters ++ rest) = some (read, after ++ rest) := by
  cases characters with
  | nil => simp [readNumber, readMagnitude, spanDigits] at found
  | cons first characters =>
    by_cases minus : first = '-'
    · subst minus
      obtain ⟨⟨digits, left⟩, magnitude, same⟩ := Option.map_eq_some_iff.mp found
      cases same
      rw [List.cons_append, readNumber, readMagnitude_append stops magnitude]
      rfl
    · rw [readNumber_of_ne minus] at found
      exact (readNumber_of_ne minus _).trans (readMagnitude_append stops found)

/-! ## Numerals -/

/-- A text that is a number and nothing else. -/
def isNumeral (literal : String) : Bool :=
  readNumber literal.toList == some (literal.toList, [])

variable {literal : String}

theorem readNumber_numeral (numeral : isNumeral literal = true) (stops : Stops rest) :
    readNumber (literal.toList ++ rest) = some (literal.toList, rest) := by
  simpa using readNumber_append stops (eq_of_beq numeral)

theorem first_of_readNumber (found : readNumber characters = some (read, after)) :
    ∃ first rest, characters = first :: rest ∧ (first = '-' ∨ isDigit first = true) := by
  cases characters with
  | nil => simp [readNumber, readMagnitude, spanDigits] at found
  | cons first rest =>
    refine ⟨first, rest, rfl, ?_⟩
    by_contra neither
    obtain ⟨minus, digit⟩ := not_or.mp neither
    rw [readNumber_of_ne minus] at found
    simp [readMagnitude, spanDigits, digit] at found

/-! ## Integers -/

theorem spanDigits_toDigits (number : Nat) :
    spanDigits (Nat.toDigits 10 number) = (Nat.toDigits 10 number, []) := by
  have digits : ∀ digit ∈ Nat.toDigits 10 number, isDigit digit = true :=
    fun _ => isDigit_of_mem_toDigits
  exact congrArg₂ Prod.mk (List.takeWhile_eq_self_iff.mpr digits)
    (List.dropWhile_eq_nil_iff.mpr digits)

/-- The digits of a number above zero do not start with a zero. -/
theorem head?_toDigits {number : Nat} (positive : 0 < number) :
    (Nat.toDigits 10 number).head? ≠ some '0' := by
  induction number using Nat.strongRecOn with
  | ind number ih =>
    by_cases small : number < 10
    · rw [Nat.toDigits_of_lt_base small]
      have digits : ∀ number < 10, 0 < number → [number.digitChar].head? ≠ some '0' := by decide
      exact digits number small positive
    · obtain ⟨first, rest, digits⟩ := List.exists_cons_of_ne_nil (Nat.toDigits_ne_nil (b := 10)
        (n := number / 10))
      have shorter := ih (number / 10) (by omega) (by omega)
      rw [Nat.toDigits_of_base_le (by decide) (Nat.le_of_not_lt small)]
      rw [digits] at shorter ⊢
      exact shorter

theorem readMagnitude_toDigits (number : Nat) :
    readMagnitude (Nat.toDigits 10 number) = some (Nat.toDigits 10 number, []) := by
  have canonical : ¬((Nat.toDigits 10 number).isEmpty ||
      ((Nat.toDigits 10 number).length > 1 &&
        (Nat.toDigits 10 number).head? == some '0')) = true := by
    by_cases zero : number = 0
    · subst zero
      decide
    · simp [Nat.toDigits_ne_nil, head?_toDigits (Nat.pos_of_ne_zero zero)]
  simp only [readMagnitude, spanDigits_toDigits]
  rw [if_neg canonical]
  simp [readFraction, readExponent]

/-- The decimal text of an integer is a numeral. -/
theorem isNumeral_toString (number : Int) : isNumeral (toString number) = true := by
  rw [isNumeral, beq_iff_eq, toList_toString]
  split
  · rw [readNumber, readMagnitude_toDigits]
    rfl
  · obtain ⟨first, rest, digits⟩ := List.exists_cons_of_ne_nil (Nat.toDigits_ne_nil (b := 10)
      (n := number.natAbs))
    have decimal : Text.Integer.isDigit first = true :=
      isDigit_of_mem_toDigits (digits ▸ List.mem_cons_self)
    rw [digits, readNumber_of_ne (apart_of_isDigit decimal).2.1, ← digits, readMagnitude_toDigits]

/-! ## Reading integers -/

theorem toString_ne_minus_zero (number : Int) : toString number ≠ "-0" := by
  intro same
  have spelled := congrArg String.toList same
  rw [toList_toString] at spelled
  split at spelled
  · next negative =>
    refine head?_toDigits (show 0 < number.natAbs by omega) ?_
    rw [List.cons.inj spelled |>.2]
    rfl
  · have minus : '-' ∈ Nat.toDigits 10 number.natAbs := spelled ▸ List.mem_cons_self
    exact absurd (isDigit_of_mem_toDigits minus) (by decide)

/-- An integer within bounds is read back. -/
theorem asInt?_ofInt {lowest highest number : Int} (low : lowest ≤ number)
    (high : number ≤ highest) : (ofInt number).asInt? lowest highest = some number := by
  rw [ofInt, asInt?, if_neg (toString_ne_minus_zero number), parse?_toString low high]

theorem asInt32?_ofInt (number : Int32) : (ofInt number.toInt).asInt32? = some number := by
  have low := number.le_toInt
  have high := number.toInt_lt
  rw [asInt32?, asInt?_ofInt (by omega) (by omega), Option.map_some, Int32.ofInt_toInt]

theorem asInt64?_ofInt (number : Int64) : (ofInt number.toInt).asInt64? = some number := by
  have low := number.le_toInt
  have high := number.toInt_lt
  rw [asInt64?, asInt?_ofInt (by omega) (by omega), Option.map_some, Int64.ofInt_toInt]

theorem asUInt32?_ofInt (number : UInt32) : (ofInt number.toNat).asUInt32? = some number := by
  have high := number.toNat_lt
  rw [asUInt32?, asInt?_ofInt (by omega) (by omega), Option.map_some, Int.toNat_natCast,
    UInt32.ofNat_toNat]

theorem asUInt64?_ofInt (number : UInt64) : (ofInt number.toNat).asUInt64? = some number := by
  have high := number.toNat_lt
  rw [asUInt64?, asInt?_ofInt (by omega) (by omega), Option.map_some, Int.toNat_natCast,
    UInt64.ofNat_toNat]

end MediaImport.Json
