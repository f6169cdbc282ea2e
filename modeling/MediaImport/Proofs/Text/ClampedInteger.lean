import Mathlib.Data.List.Induction
import Mathlib.Data.Nat.Digits.Defs
import MediaImport.Proofs.Text.LeadingInteger

/-!
# Leading integers, exactly

What the reader of leading integers finds in any text, in the words of the text alone.  It looks
behind the blanks and behind at most one sign.  If no digit stands there, nothing is found.  If
one does, all digits that follow each other count by their places, the sign turns them, and what
lies beyond 32 bits comes to the nearer bound (`leading?_clamped_places`).
-/

namespace MediaImport.Text.Integer

/-- What may stand in front of digits, and the factor that it puts on them. -/
inductive IsSign : List Char → Int → Prop where
  | absent : IsSign [] 1
  | plus : IsSign ['+'] 1
  | minus : IsSign ['-'] (-1)

/-- The number that digits stand for, each by its place: the last one counts ones, the one before
it tens. -/
def placeValue (digits : List Char) : Nat :=
  Nat.ofDigits 10 (digits.reverse.map fun digit => digit.toNat - '0'.toNat)

/-- Reading from the left comes to the same as counting by places. -/
theorem value_eq_placeValue (digits : List Char) : value digits = placeValue digits := by
  induction digits using List.reverseRecOn with
  | nil => rfl
  | append_singleton digits last ih =>
    have step : value (digits ++ [last]) = value digits * 10 + (last.toNat - '0'.toNat) := by
      rw [value, List.foldl_append]
      rfl
    rw [step, ih, placeValue, placeValue, List.reverse_append, List.reverse_singleton,
      List.singleton_append, List.map_cons, Nat.ofDigits_cons, Nat.mul_comm, Nat.add_comm]

/-- An integer at the front is blanks, at most one sign, and digits as far as they go. -/
theorem leads_iff {characters : List Char} {spelled : Int} :
    Leads characters spelled ↔
      ∃ blanks sign factor digits rest, characters = blanks ++ (sign ++ (digits ++ rest)) ∧
        (∀ character ∈ blanks, isBlank character = true) ∧ IsSign sign factor ∧
        IsRun digits rest ∧ spelled = factor * placeValue digits := by
  constructor
  · intro leads
    cases leads with
    | unsigned blank run =>
      exact ⟨_, _, _, _, _, rfl, blank, .absent, run, by rw [one_mul, value_eq_placeValue]⟩
    | plus blank run =>
      exact ⟨_, _, _, _, _, rfl, blank, .plus, run, by rw [one_mul, value_eq_placeValue]⟩
    | minus blank run =>
      exact ⟨_, _, _, _, _, rfl, blank, .minus, run, by rw [neg_one_mul, value_eq_placeValue]⟩
  · rintro ⟨blanks, sign, factor, digits, rest, rfl, blank, isSign, run, rfl⟩
    rw [← value_eq_placeValue]
    cases isSign with
    | absent =>
      rw [one_mul]
      exact .unsigned blank run
    | plus =>
      rw [one_mul]
      exact .plus blank run
    | minus =>
      rw [neg_one_mul]
      exact .minus blank run

/-- One digit behind blanks and a sign is enough for an integer to stand there. -/
theorem exists_leads_iff {characters : List Char} :
    (∃ spelled, Leads characters spelled) ↔
      ∃ blanks sign factor digit rest, characters = blanks ++ (sign ++ digit :: rest) ∧
        (∀ character ∈ blanks, isBlank character = true) ∧ IsSign sign factor ∧
        isDigit digit = true := by
  constructor
  · rintro ⟨spelled, leads⟩
    obtain ⟨blanks, sign, factor, digits, rest, rfl, blank, isSign, run, -⟩ := leads_iff.mp leads
    obtain ⟨first, others, rfl⟩ := List.exists_cons_of_ne_nil run.present
    exact ⟨blanks, sign, factor, first, others ++ rest, rfl, blank, isSign,
      run.decimal first List.mem_cons_self⟩
  · rintro ⟨blanks, sign, factor, digit, rest, rfl, blank, isSign, decimal⟩
    have present : (digit :: rest).takeWhile isDigit ≠ [] := by
      rw [List.takeWhile_cons_of_pos decimal]
      exact List.cons_ne_nil _ _
    refine ⟨_, leads_iff.mpr ⟨blanks, sign, factor, _, _, ?_, blank, isSign,
      isRun_takeWhile present, rfl⟩⟩
    rw [List.takeWhile_append_dropWhile]

/-- Nothing is found exactly if no integer stands at the front. -/
theorem leading?_eq_none_iff {text : String} :
    leading? text = none ↔ ¬∃ spelled, Leads text.toList spelled := by
  rw [Option.eq_none_iff_forall_ne_some]
  constructor
  · rintro nothing ⟨spelled, leads⟩
    exact nothing _ (leading?_eq_some_iff.mpr ⟨spelled, leads, toInt_ofInt_clamp32 spelled⟩)
  · intro nothing number found
    obtain ⟨spelled, leads, -⟩ := leading?_eq_some_iff.mp found
    exact nothing ⟨spelled, leads⟩

/-- Leading integers are read exactly.  No cut goes through a character.  Nothing is found exactly
if no digit follows the blanks and the sign; otherwise what is found is the digits as far as they
go, by their places and with their sign, or the bound of 32 bits that they lie beyond.  The
decimal text of a 32-bit word is read as the word. -/
theorem leading?_clamped_places :
    (∀ text : String,
      readLeading? text.toList = some (leading? text) ∧
      (leading? text = none ↔
        ¬∃ blanks sign factor digit rest, text.toList = blanks ++ (sign ++ digit :: rest) ∧
          (∀ character ∈ blanks, isBlank character = true) ∧ IsSign sign factor ∧
          isDigit digit = true) ∧
      ∀ word : Int32, leading? text = some word ↔
        ∃ blanks sign factor digits rest, text.toList = blanks ++ (sign ++ (digits ++ rest)) ∧
          (∀ character ∈ blanks, isBlank character = true) ∧ IsSign sign factor ∧
          IsRun digits rest ∧
          word.toInt = max (-2 ^ 31) (min (2 ^ 31 - 1) (factor * placeValue digits))) ∧
    ∀ word : Int32, leading? (toString word.toInt) = some word := by
  refine ⟨fun text => ⟨?_, ?_, fun word => ?_⟩, leading?_toString_toInt⟩
  · rw [readLeading?_eq, leading?_eq]
  · rw [leading?_eq_none_iff, exists_leads_iff]
  · rw [leading?_eq_some_iff]
    constructor
    · rintro ⟨spelled, leads, same⟩
      obtain ⟨blanks, sign, factor, digits, rest, shape, blank, isSign, run, rfl⟩ :=
        leads_iff.mp leads
      exact ⟨blanks, sign, factor, digits, rest, shape, blank, isSign, run, same⟩
    · rintro ⟨blanks, sign, factor, digits, rest, shape, blank, isSign, run, same⟩
      exact ⟨_, leads_iff.mpr ⟨blanks, sign, factor, digits, rest, shape, blank, isSign, run, rfl⟩,
        same⟩

end MediaImport.Text.Integer
