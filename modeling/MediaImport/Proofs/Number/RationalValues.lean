import MediaImport.Proofs.Number.WrappedWords
import Mathlib.Data.Rat.Floor
import Mathlib.Algebra.Order.Field.Power

/-!
# The rational values of doubles

Every finite double is a rational number, and `Double.value?` says which.  Cutting off its
fraction rounds that number towards zero, so the integer that comes out is never greater in
magnitude.
-/

namespace MediaImport

/-- A rational number without its fraction. -/
def towardZero (number : ℚ) : ℤ :=
  if 0 ≤ number then ⌊number⌋ else ⌈number⌉

theorem towardZero_intCast (number : ℤ) : towardZero number = number := by
  unfold towardZero
  split
  · exact Int.floor_intCast number
  · exact Int.ceil_intCast number

theorem towardZero_neg (number : ℚ) : towardZero (-number) = -towardZero number := by
  unfold towardZero
  rcases lt_trichotomy number 0 with negative | zero | positive
  · rw [if_pos (by linarith), if_neg (by linarith), Int.floor_neg]
  · simp [zero]
  · rw [if_neg (by linarith), if_pos (by linarith), Int.ceil_neg]

/-- Division of natural numbers rounds towards zero. -/
theorem towardZero_div (dividend divisor : ℕ) :
    towardZero (dividend / divisor : ℚ) = (dividend / divisor : ℕ) := by
  have natural : (0 : ℚ) ≤ dividend / divisor := by positivity
  rw [towardZero, if_pos natural]
  exact Rat.floor_intCast_div_natCast dividend divisor

/-- Nothing grows when its fraction is cut off. -/
theorem abs_towardZero_le (number : ℚ) : |(towardZero number : ℚ)| ≤ |number| := by
  unfold towardZero
  split
  · next natural =>
    rw [abs_of_nonneg (by exact_mod_cast Int.floor_nonneg.mpr natural), abs_of_nonneg natural]
    exact Int.floor_le number
  · next negative =>
    have below : number ≤ 0 := le_of_not_ge negative
    have ceiling : ((⌈number⌉ : ℤ) : ℚ) ≤ 0 := by exact_mod_cast Int.ceil_nonpos.mpr below
    rw [abs_of_nonpos ceiling, abs_of_nonpos below]
    exact neg_le_neg (Int.le_ceil number)

namespace Double

/-- The rational number that a finite double is. -/
def value? (number : Double) : Option ℚ :=
  match number.shape with
  | .finite mantissa exponent => some (number.signed mantissa * 2 ^ exponent)
  | _ => none

theorem towardZero_withMinus_mul (negative : Bool) (magnitude : ℕ) {factor : ℚ} {whole : ℕ}
    (cut : towardZero (magnitude * factor) = whole) :
    towardZero (withMinus negative magnitude * factor) = withMinus negative whole := by
  cases negative with
  | false => simpa [withMinus] using cut
  | true => simp [withMinus, towardZero_neg, cut]

/-- Cutting off the fraction of a double rounds its value towards zero. -/
theorem truncate?_eq (number : Double) : number.truncate? = number.value?.map towardZero := by
  cases shown : number.shape with
  | nan => simp [truncate?, value?, shown]
  | infinite => simp [truncate?, value?, shown]
  | finite mantissa exponent =>
    rw [truncate?_of_shape shown, value?, shown, Option.map_some, signed_eq]
    refine congrArg some (towardZero_withMinus_mul _ _ ?_).symm
    rcases le_or_gt 0 exponent with upward | downward
    · obtain ⟨places, rfl⟩ := Int.eq_ofNat_of_zero_le upward
      rw [if_pos upward, zpow_natCast]
      exact_mod_cast towardZero_intCast (mantissa * 2 ^ places : ℕ)
    · obtain ⟨places, same⟩ := Int.eq_ofNat_of_zero_le (neg_nonneg.mpr downward.le)
      obtain rfl : exponent = -(places : ℤ) := by omega
      rw [if_neg (not_le.mpr downward), neg_neg, zpow_neg, zpow_natCast, ← div_eq_mul_inv]
      exact_mod_cast towardZero_div mantissa (2 ^ places)

end Double

end MediaImport
