import MediaImport.Proofs.Number.ExactDoubles

/-!
# Words of doubles

What the arithmetic of doubles makes of a number when it is turned into a machine word.  The
number with its fraction cut off is a double, the remainder and the corrections after it are exact,
and so the narrow word is the one that the whole part of the number is congruent to
(`wrapped32_eq`).  The wide word is the nearest one (`cut64_eq`).
-/

namespace MediaImport.Double

variable {number left right : Double} {value first second : Int}

/-! ## Cutting off the fraction -/

theorem truncate?_of_shape {mantissa : Nat} {exponent : Int}
    (finite : number.shape = .finite mantissa exponent) :
    number.truncate? = some (withMinus number.isNegative
      (if 0 ≤ exponent then mantissa * 2 ^ exponent.toNat
        else mantissa / 2 ^ (-exponent).toNat)) := by
  rw [truncate?, finite]
  rfl

theorem truncate?_of_not_isFinite (unbounded : number.isFinite = false) :
    number.truncate? = none := by
  unfold isFinite at unbounded
  unfold truncate?
  split
  · next finite => simp [finite] at unbounded
  · rfl

theorem exists_truncate? (finite : number.isFinite = true) :
    ∃ value, number.truncate? = some value := by
  unfold isFinite at finite
  split at finite
  · next shown => exact ⟨_, truncate?_of_shape shown⟩
  · cases finite

/-- The whole part of a double is a double again. -/
theorem isWhole_whole (cut : number.truncate? = some value) : number.whole.IsWhole value := by
  unfold whole
  cases shown : number.shape with
  | nan => simp [truncate?, shown] at cut
  | infinite => simp [truncate?, shown] at cut
  | finite mantissa exponent =>
    obtain ⟨short, least, -⟩ := bounds_of_shape shown
    rw [truncate?_of_shape shown] at cut
    obtain rfl := Option.some.inj cut
    by_cases upward : 0 ≤ exponent
    · have places : (exponent + 1074).toNat = exponent.toNat + 1074 := by omega
      simp only [if_pos upward, IsWhole, units?, shown, signed_eq, places, pow_add,
        ← Nat.mul_assoc]
      rw [withMinus_mul_two_pow _ _ 1074]
    · have few : mantissa / 2 ^ (-exponent).toNat < 2 ^ 53 :=
        Nat.lt_of_le_of_lt (Nat.div_le_self _ _) short
      have exact := units?_ofScaled number.isNegative 0 1074
        (Nat.mul_one _).symm few (mul_two_pow_lt few 1074 2098 (by decide))
      simp only [if_neg upward]
      rw [IsWhole, ← withMinus_mul_two_pow _ _ 1074]
      exact exact

/-! ## Remainders -/

theorem IsWhole.remainder (whole : left.IsWhole first) (another : right.IsWhole second)
    (present : second ≠ 0) : (left.remainder right).IsWhole (first.tmod second) := by
  have positive : (0 : Int) < 2 ^ 1074 := Int.pow_pos (by decide)
  have divisor : second * 2 ^ 1074 ≠ 0 := Int.mul_ne_zero present (Int.ne_of_gt positive)
  rw [IsWhole, units?_remainder whole another divisor, Int.mul_comm first, Int.mul_comm second,
    Int.mul_tmod_mul_of_pos _ _ positive, Int.mul_comm]

/-- The remainder with its correction is the one that belongs to division rounded down. -/
theorem IsWhole.residue (whole : left.IsWhole first) (another : right.IsWhole second)
    (positive : 0 < second) (small : second.natAbs < 2 ^ 53) :
    (left.residue right).IsWhole (first % second) := by
  have rest := whole.remainder another (Int.ne_of_gt positive)
  have above := Int.lt_tmod_of_pos first positive
  have below := Int.tmod_lt_of_pos first positive
  have congruent : first % second = first.tmod second % second := by
    rw [Int.tmod_def, Int.sub_mul_emod_self_left]
  unfold Double.residue
  simp only [rest.any_isLT, decide_eq_true_eq]
  split
  · next negative =>
    have lifted : first % second = first.tmod second + second := by
      rw [congruent, ← Int.add_emod_right, Int.emod_eq_of_lt (by omega) (by omega)]
    rw [lifted]
    exact rest.add another (by omega)
  · next natural =>
    have kept : first % second = first.tmod second := by
      rw [congruent, Int.emod_eq_of_lt (by omega) below]
    rw [kept]
    exact rest

/-! ## Words -/

theorem clamped_of_truncate? (cut : number.truncate? = some value) (least greatest : Int) :
    number.clamped least greatest = clamp least greatest value := by
  cases shown : number.shape with
  | nan => simp [truncate?, shown] at cut
  | infinite => simp [truncate?, shown] at cut
  | finite mantissa exponent => simp [clamped, shown, cut]

theorem clamp_of_mem {least greatest : Int} (above : least ≤ value) (below : value ≤ greatest) :
    clamp least greatest value = value := by
  unfold clamp
  omega

theorem isWhole_wordSpan : wordSpan.IsWhole 4294967296 :=
  isWhole_ofInt (by decide)

theorem IsWhole.clamped32 (whole : number.IsWhole value) (above : -2147483648 ≤ value)
    (below : value ≤ 2147483647) : number.clamped32 = Int32.ofInt value := by
  rw [Double.clamped32, clamped_of_truncate? whole.truncate?, clamp_of_mem above below]

theorem ofInt_emod (number : Int) : Int32.ofInt (number % 4294967296) = Int32.ofInt number := by
  rw [← Int32.toInt_inj, Int32.toInt_ofInt, Int32.toInt_ofInt]
  exact Int.emod_bmod number 4294967296

theorem ofInt_sub (number : Int) : Int32.ofInt (number - 4294967296) = Int32.ofInt number := by
  rw [← Int32.toInt_inj, Int32.toInt_ofInt, Int32.toInt_ofInt]
  exact Int.sub_bmod_right number 4294967296

/-- The narrow word of a double is congruent to its whole part, and zero if it has none. -/
theorem wrapped32_eq (number : Double) :
    number.wrapped32 = Int32.ofInt (number.truncate?.getD 0) := by
  unfold wrapped32
  cases finite : number.isFinite with
  | false =>
    rw [truncate?_of_not_isFinite finite]
    rfl
  | true =>
    obtain ⟨value, cut⟩ := exists_truncate? finite
    have rest := (isWhole_whole cut).residue isWhole_wordSpan (by decide) (by decide)
    have above := Int.emod_nonneg value (show (4294967296 : Int) ≠ 0 by decide)
    have below := Int.emod_lt_of_pos value (show (0 : Int) < 4294967296 by decide)
    simp only [rest.any_isGE, decide_eq_true_eq, if_true, cut, Option.getD_some]
    split
    · next upper =>
      have lowered := rest.sub isWhole_wordSpan (by omega)
      rw [lowered.clamped32 (by omega) (by omega), ofInt_sub, ofInt_emod]
    · next lower => rw [rest.clamped32 (by omega) (by omega), ofInt_emod]

/-- The wide word of a double is the one nearest to its whole part, and zero if it has none. -/
theorem cut64_eq (number : Double) :
    number.cut64 = Int64.ofInt (clamp (-9223372036854775808) 9223372036854775807
      (number.truncate?.getD 0)) := by
  unfold cut64
  cases finite : number.isFinite with
  | false =>
    rw [truncate?_of_not_isFinite finite]
    rfl
  | true =>
    obtain ⟨value, cut⟩ := exists_truncate? finite
    rw [if_pos rfl, clamped64, clamped_of_truncate? (isWhole_whole cut).truncate?, cut,
      Option.getD_some]

end MediaImport.Double
