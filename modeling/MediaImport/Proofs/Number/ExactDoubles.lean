import MediaImport.Number.Word
import Mathlib.Algebra.Ring.Int.Defs
import Mathlib.Algebra.Ring.Nat

/-!
# Exact arithmetic of doubles

Every finite double is a whole multiple of `2 ^ (-1074)`, and `Double.units?` says of which
integer.  In these units the arithmetic of doubles is that of integers wherever nothing has to be
rounded: a number of no more than 53 bits is its own double, the remainder of a division never has
more bits than the numbers it comes from, and whole numbers of no more than 53 bits have exact sums.
-/

namespace MediaImport.Double

theorem natPow_eq (base power : Nat) : Nat.pow base power = base ^ power := rfl

/-- How many times `2 ^ (-1074)` a double is, if it is finite. -/
def units? (number : Double) : Option Int :=
  match number.shape with
  | .finite mantissa exponent => some (number.signed (mantissa * 2 ^ (exponent + 1074).toNat))
  | _ => none

/-- Attach a sign to a magnitude. -/
def withMinus (negative : Bool) (magnitude : Nat) : Int :=
  if negative then -(magnitude : Int) else magnitude

theorem signed_eq (number : Double) (magnitude : Nat) :
    number.signed magnitude = withMinus number.isNegative magnitude := rfl

@[simp]
theorem natAbs_withMinus (negative : Bool) (magnitude : Nat) :
    (withMinus negative magnitude).natAbs = magnitude := by
  cases negative <;> simp [withMinus]

theorem withMinus_mul (negative : Bool) (magnitude factor : Nat) :
    withMinus negative (magnitude * factor) = withMinus negative magnitude * factor := by
  cases negative <;>
    simp only [withMinus, if_true, Bool.false_eq_true, if_false, Int.natCast_mul, Int.neg_mul]

theorem withMinus_mul_two_pow (negative : Bool) (magnitude power : Nat) :
    withMinus negative (magnitude * 2 ^ power) = withMinus negative magnitude * 2 ^ power := by
  rw [withMinus_mul, Int.natCast_pow]
  rfl

theorem natAbs_mul_two_pow (number : Int) (power : Nat) :
    (number * 2 ^ power).natAbs = number.natAbs * 2 ^ power := by
  rw [Int.natAbs_mul, Int.natAbs_pow]
  rfl

theorem withMinus_natAbs (number : Int) : withMinus (number < 0) number.natAbs = number := by
  unfold withMinus
  split
  · next negative =>
    have := of_decide_eq_true negative
    omega
  · next natural =>
    have := of_decide_eq_false (Bool.eq_false_iff.mpr natural)
    omega

/-- The sign of a multiple is that of the number. -/
theorem eq_withMinus_of_mul {negative : Bool} {number : Int} {magnitude power : Nat}
    (same : number * 2 ^ power = withMinus negative magnitude) :
    number = withMinus negative number.natAbs ∧ magnitude = number.natAbs * 2 ^ power := by
  have magnitudes : magnitude = number.natAbs * 2 ^ power := by
    rw [← natAbs_mul_two_pow, same, natAbs_withMinus]
  refine ⟨?_, magnitudes⟩
  have positive : (0 : Int) < 2 ^ power := Int.pow_pos (by decide)
  refine Int.eq_of_mul_eq_mul_right (Int.ne_of_gt positive) ?_
  rw [same, magnitudes, withMinus_mul_two_pow]

/-- A number of 53 bits on some scale. -/
theorem mul_two_pow_lt {number : Nat} (short : number < 2 ^ 53) (scale bound : Nat)
    (range : 53 + scale ≤ bound) : number * 2 ^ scale < 2 ^ bound := by
  have most : 2 ^ 53 * 2 ^ scale ≤ 2 ^ bound := by
    rw [← Nat.pow_add]
    exact Nat.pow_le_pow_right (by decide) range
  exact Nat.lt_of_lt_of_le (Nat.mul_lt_mul_of_pos_right short (Nat.two_pow_pos _)) most

/-! ## The fields of a double -/

section Fields

variable (negative : Bool)

theorem toNat_bits_ofMagnitude {magnitude : Nat} (small : magnitude < 2 ^ 63) :
    (ofMagnitude negative magnitude).bits.toNat =
      if negative then magnitude + 2 ^ 63 else magnitude := by
  cases negative <;> simp [ofMagnitude] <;> omega

theorem isNegative_ofMagnitude {magnitude : Nat} (small : magnitude < 2 ^ 63) :
    (ofMagnitude negative magnitude).isNegative = negative := by
  have bits := toNat_bits_ofMagnitude negative small
  have sign : (0x8000000000000000 : UInt64).toNat = 2 ^ 63 := rfl
  rw [isNegative, Bool.eq_iff_iff, decide_eq_true_eq, UInt64.le_iff_toNat_le, bits, sign]
  cases negative with
  | false => simpa using small
  | true => simp

/-- The denotation of a magnitude that is given by its fields. -/
theorem shape_ofMagnitude {magnitude : Nat} (small : magnitude < 2 ^ 63) :
    (ofMagnitude negative magnitude).shape =
      if magnitude / 2 ^ 52 = 2047 then
        if magnitude % 2 ^ 52 = 0 then .infinite else .nan
      else if magnitude / 2 ^ 52 = 0 then .finite (magnitude % 2 ^ 52) (-1074)
      else .finite (2 ^ 52 + magnitude % 2 ^ 52) ((magnitude / 2 ^ 52 : Nat) - 1075) := by
  have bits : (ofMagnitude negative magnitude).bits.toNat % 2 ^ 63 = magnitude := by
    rw [toNat_bits_ofMagnitude negative small]
    split <;> omega
  unfold shape
  simp only [natPow_eq, bits]

/-- A mantissa that is too small for its leading bit to be understood. -/
theorem shape_of_subnormal {mantissa : Nat} (small : mantissa < 2 ^ 52) :
    (ofMagnitude negative mantissa).shape = .finite mantissa (-1074) := by
  rw [shape_ofMagnitude negative (by omega), Nat.div_eq_of_lt small, Nat.mod_eq_of_lt small]
  rfl

/-- The leading bit of a mantissa adds one to the scale beside it. -/
theorem shape_of_normal {mantissa scale : Nat} (least : 2 ^ 52 ≤ mantissa)
    (most : mantissa < 2 ^ 53) (bounded : scale ≤ 2045) :
    (ofMagnitude negative (scale * 2 ^ 52 + mantissa)).shape =
      .finite mantissa ((scale : Int) - 1074) := by
  have field : (scale * 2 ^ 52 + mantissa) / 2 ^ 52 = scale + 1 := by omega
  have rest : 2 ^ 52 + (scale * 2 ^ 52 + mantissa) % 2 ^ 52 = mantissa := by omega
  have shifted : ((scale + 1 : Nat) : Int) - 1075 = (scale : Int) - 1074 := by omega
  rw [shape_ofMagnitude negative (by omega), field, rest, if_neg (by omega), if_neg (by omega),
    shifted]

end Fields

/-- A finite double has a mantissa of no more than 53 bits and an exponent within bounds. -/
theorem bounds_of_shape {number : Double} {mantissa : Nat} {exponent : Int}
    (finite : number.shape = .finite mantissa exponent) :
    mantissa < 2 ^ 53 ∧ -1074 ≤ exponent ∧ exponent ≤ 971 := by
  unfold shape at finite
  simp only [natPow_eq] at finite
  have below : number.bits.toNat % 2 ^ 63 < 2 ^ 63 := Nat.mod_lt _ (Nat.two_pow_pos 63)
  generalize number.bits.toNat % 2 ^ 63 = magnitude at finite below
  split at finite
  · split at finite <;> cases finite
  · split at finite
    · cases finite
      omega
    · cases finite
      omega

/-! ## Rounding what needs no rounding -/

theorem shiftRound_of_dvd {mantissa shift : Nat} (exact : 2 ^ shift ∣ mantissa) :
    shiftRound mantissa shift = mantissa / 2 ^ shift := by
  have rest : mantissa % 2 ^ shift = 0 := Nat.mod_eq_zero_of_dvd exact
  have step : (0 == 2 ^ shift) = false := beq_false_of_ne (Nat.ne_of_lt (Nat.two_pow_pos shift))
  simp only [shiftRound, natPow_eq, rest, Nat.mul_zero, step]
  simp

/-- A natural number as it stands in the fields of a double: a mantissa of 53 bits, or of fewer if
its scale is the least one. -/
structure IsPlaced (mantissa scale number : Nat) : Prop where
  same : mantissa * 2 ^ scale = number
  short : mantissa < 2 ^ 53
  leading : 2 ^ 52 ≤ mantissa ∨ scale = 0

section Placing

variable {mantissa length scale : Nat} (least : 2 ^ length ≤ mantissa)
  (most : mantissa < 2 ^ (length + 1))

include least most

/-- A short mantissa is placed with zeros behind it. -/
theorem isPlaced_of_short (room : length + scale - 52 ≤ scale) :
    IsPlaced (mantissa * 2 ^ (scale - (length + scale - 52))) (length + scale - 52)
      (mantissa * 2 ^ scale) where
  same := by rw [Nat.mul_assoc, ← Nat.pow_add, Nat.sub_add_cancel room]
  short := by
    calc mantissa * 2 ^ (scale - (length + scale - 52))
        < 2 ^ (length + 1) * 2 ^ (scale - (length + scale - 52)) :=
          Nat.mul_lt_mul_of_pos_right most (Nat.two_pow_pos _)
      _ = 2 ^ (length + 1 + (scale - (length + scale - 52))) := (Nat.pow_add ..).symm
      _ ≤ 2 ^ 53 := Nat.pow_le_pow_right (by decide) (by omega)
  leading := by
    by_cases bottom : length + scale - 52 = 0
    · exact .inr bottom
    · have joined : length + (scale - (length + scale - 52)) = 52 := by omega
      left
      calc 2 ^ 52 = 2 ^ length * 2 ^ (scale - (length + scale - 52)) := by
            rw [← Nat.pow_add, joined]
        _ ≤ mantissa * 2 ^ (scale - (length + scale - 52)) := Nat.mul_le_mul_right _ least

/-- A long mantissa is placed without the zeros at its end. -/
theorem isPlaced_of_dvd (long : 52 ≤ length) (exact : 2 ^ (length - 52) ∣ mantissa) :
    IsPlaced (mantissa / 2 ^ (length - 52)) (length + scale - 52) (mantissa * 2 ^ scale) where
  same := by
    have split : length + scale - 52 = length - 52 + scale := by omega
    rw [split, Nat.pow_add, ← Nat.mul_assoc, Nat.div_mul_cancel exact]
  short := by
    refine (Nat.div_lt_iff_lt_mul (Nat.two_pow_pos _)).mpr ?_
    rw [← Nat.pow_add]
    exact Nat.lt_of_lt_of_le most (Nat.pow_le_pow_right (by decide) (by omega))
  leading := by
    refine .inl ((Nat.le_div_iff_mul_le (Nat.two_pow_pos _)).mpr ?_)
    rw [← Nat.pow_add]
    exact Nat.le_trans (Nat.pow_le_pow_right (by decide) (by omega)) least

end Placing

/-- A number of no more than 53 bits, zeros behind them aside, has a zero wherever rounding drops
one. -/
theorem two_pow_dvd_of_narrow {mantissa few spare length : Nat}
    (narrow : mantissa = few * 2 ^ spare) (small : few < 2 ^ 53) (least : 2 ^ length ≤ mantissa) :
    2 ^ (length - 52) ∣ mantissa := by
  have below : 2 ^ length < 2 ^ (53 + spare) := by
    calc 2 ^ length ≤ few * 2 ^ spare := narrow ▸ least
      _ < 2 ^ 53 * 2 ^ spare := Nat.mul_lt_mul_of_pos_right small (Nat.two_pow_pos _)
      _ = 2 ^ (53 + spare) := (Nat.pow_add ..).symm
  have enough : length < 53 + spare := (Nat.pow_lt_pow_iff_right (by decide)).mp below
  exact narrow ▸ Nat.dvd_mul_left_of_dvd (Nat.pow_dvd_pow 2 (by omega)) few

/-- Rounding such a number only places it. -/
theorem exists_isPlaced {mantissa few spare : Nat} (scale : Nat) (present : mantissa ≠ 0)
    (narrow : mantissa = few * 2 ^ spare) (small : few < 2 ^ 53) :
    ∃ rounded,
      (if mantissa.log2 + scale - 52 ≤ scale then
          mantissa * 2 ^ (scale - (mantissa.log2 + scale - 52))
        else shiftRound mantissa (mantissa.log2 + scale - 52 - scale)) = rounded ∧
      IsPlaced rounded (mantissa.log2 + scale - 52) (mantissa * 2 ^ scale) := by
  have least : 2 ^ mantissa.log2 ≤ mantissa := Nat.log2_self_le present
  have most : mantissa < 2 ^ (mantissa.log2 + 1) := Nat.lt_log2_self
  refine ⟨_, rfl, ?_⟩
  generalize mantissa.log2 = length at least most
  by_cases room : length + scale - 52 ≤ scale
  · rw [if_pos room]
    exact isPlaced_of_short least most room
  · have places : length + scale - 52 - scale = length - 52 := by omega
    have exact := two_pow_dvd_of_narrow narrow small least
    rw [if_neg room, places, shiftRound_of_dvd exact]
    exact isPlaced_of_dvd least most (by omega) exact

/-- The scale of what is placed within range is in range. -/
theorem IsPlaced.scale_le {mantissa scale number : Nat} (placed : IsPlaced mantissa scale number)
    (bounded : number < 2 ^ 2098) : scale ≤ 2045 := by
  rcases placed.leading with normal | bottom
  · have below : 2 ^ (52 + scale) < 2 ^ 2098 := by
      calc 2 ^ (52 + scale) = 2 ^ 52 * 2 ^ scale := Nat.pow_add ..
        _ ≤ mantissa * 2 ^ scale := Nat.mul_le_mul_right _ normal
        _ < 2 ^ 2098 := placed.same ▸ bounded
    have := (Nat.pow_lt_pow_iff_right (by decide)).mp below
    omega
  · omega

/-- What is placed within range is the value of the double with these fields. -/
theorem IsPlaced.units? {mantissa scale number : Nat} (placed : IsPlaced mantissa scale number)
    (bounded : number < 2 ^ 2098) (negative : Bool) :
    Double.units?
      (if mantissa < 2 ^ 52 then ofMagnitude negative mantissa
        else if 2047 * 2 ^ 52 ≤ scale * 2 ^ 52 + mantissa then infinity negative
        else ofMagnitude negative (scale * 2 ^ 52 + mantissa)) =
      some (withMinus negative number) := by
  have range := placed.scale_le bounded
  have short := placed.short
  by_cases subnormal : mantissa < 2 ^ 52
  · have least : scale = 0 := placed.leading.resolve_left (by omega)
    rw [if_pos subnormal, Double.units?, shape_of_subnormal negative subnormal]
    simp only [signed_eq, isNegative_ofMagnitude negative (by omega : mantissa < 2 ^ 63)]
    rw [← placed.same, least]
    rfl
  · have field : ((scale : Int) - 1074 + 1074).toNat = scale := by omega
    rw [if_neg subnormal, if_neg (by omega), Double.units?,
      shape_of_normal negative (by omega) short range]
    simp only [signed_eq, field,
      isNegative_ofMagnitude negative (by omega : scale * 2 ^ 52 + mantissa < 2 ^ 63), placed.same]

/-- How far apart two exponents are. -/
theorem places_between (upper lower : Nat) :
    ((upper : Int) - 1074 - ((lower : Int) - 1074)).toNat = upper - lower := by
  omega

/-- A number within range that has no more than 53 bits, zeros behind them aside, is its own
double. -/
theorem units?_ofScaled (negative : Bool) {mantissa few : Nat} (spare scale : Nat)
    (narrow : mantissa = few * 2 ^ spare) (small : few < 2 ^ 53)
    (bounded : mantissa * 2 ^ scale < 2 ^ 2098) :
    (ofScaled negative mantissa ((scale : Int) - 1074)).units? =
      some (withMinus negative (mantissa * 2 ^ scale)) := by
  unfold ofScaled
  by_cases absent : mantissa = 0
  · rw [if_pos absent, absent]
    simp [units?, shape_of_subnormal, signed_eq, isNegative_ofMagnitude]
  · obtain ⟨rounded, same, placed⟩ := exists_isPlaced scale absent narrow small
    generalize shifted : mantissa.log2 + scale - 52 = target at same placed
    have exponent : max ((scale : Int) - 1074 + mantissa.log2 - 52) (-1074) =
        (target : Int) - 1074 := by omega
    have order : (target : Int) - 1074 ≤ (scale : Int) - 1074 ↔ target ≤ scale := by omega
    have field : ((target : Int) - 1074 + 1074).toNat = target := by omega
    simp only [if_neg absent, exponent, places_between, order, field, natPow_eq, same]
    exact placed.units? bounded negative

/-! ## Remainders -/

/-- What the units of a finite double say of its denotation. -/
theorem shape_of_units {number : Double} {units : Int} (known : number.units? = some units) :
    ∃ (mantissa scale : Nat), number.shape = .finite mantissa ((scale : Int) - 1074) ∧
      units = withMinus number.isNegative (mantissa * 2 ^ scale) ∧
      mantissa < 2 ^ 53 ∧ scale ≤ 2045 := by
  unfold units? at known
  split at known
  · next mantissa exponent finite =>
    obtain ⟨short, least, most⟩ := bounds_of_shape finite
    refine ⟨mantissa, (exponent + 1074).toNat, ?_, (Option.some.inj known).symm, short, by omega⟩
    rw [finite, Int.toNat_of_nonneg (by omega), Int.add_sub_cancel]
  · cases known

theorem withMinus_mod (negative another : Bool) (dividend divisor : Nat) :
    withMinus negative (dividend % divisor) =
      (withMinus negative dividend).tmod (withMinus another divisor) := by
  have magnitudes : ((dividend % divisor : Nat) : Int) = (dividend : Int).tmod divisor := rfl
  cases negative <;> cases another <;>
    simp only [withMinus, magnitudes, Int.neg_tmod, Int.tmod_neg, if_true, Bool.false_eq_true,
      if_false]

theorem min_exponent (scale other : Nat) :
    min ((scale : Int) - 1074) ((other : Int) - 1074) = ((min scale other : Nat) : Int) - 1074 := by
  omega

/-- Numbers on two scales, both brought to the smaller one. -/
theorem joint_scale (number : Nat) {scale least : Nat} (below : least ≤ scale) :
    number * 2 ^ (scale - least) * 2 ^ least = number * 2 ^ scale := by
  rw [Nat.mul_assoc, ← Nat.pow_add, Nat.sub_add_cancel below]

/-- Numbers that are the same on some scale are the same. -/
theorem eq_of_mul_two_pow {left right power : Nat} (same : left * 2 ^ power = right * 2 ^ power) :
    left = right :=
  Nat.eq_of_mul_eq_mul_right (Nat.two_pow_pos power) same

/-- A remainder is exact: it has no more bits than the numbers it comes from. -/
theorem units?_remainder {left right : Double} {first second : Int}
    (dividend : left.units? = some first) (divisor : right.units? = some second)
    (present : second ≠ 0) : (remainder left right).units? = some (first.tmod second) := by
  obtain ⟨mantissa, scale, shown, rfl, short, range⟩ := shape_of_units dividend
  obtain ⟨other, otherScale, otherShown, rfl, otherShort, -⟩ := shape_of_units divisor
  have nonzero : other ≠ 0 := by
    rintro rfl
    simp [withMinus] at present
  unfold remainder
  simp only [shown, otherShown, if_neg nonzero, min_exponent, places_between, natPow_eq]
  generalize joint : min scale otherScale = least
  have value : mantissa * 2 ^ (scale - least) % (other * 2 ^ (otherScale - least)) * 2 ^ least =
      mantissa * 2 ^ scale % (other * 2 ^ otherScale) := by
    rw [← Nat.mul_mod_mul_right, joint_scale _ (by omega), joint_scale _ (by omega)]
  -- One of the two numbers is on the joint scale already, and bounds the remainder.
  have few : mantissa * 2 ^ (scale - least) % (other * 2 ^ (otherScale - least)) < 2 ^ 53 := by
    rcases Nat.le_total scale otherScale with lower | lower
    · have same : scale - least = 0 := by omega
      rw [same, Nat.pow_zero, Nat.mul_one]
      exact Nat.lt_of_le_of_lt (Nat.mod_le _ _) short
    · have same : otherScale - least = 0 := by omega
      rw [same, Nat.pow_zero, Nat.mul_one]
      exact Nat.lt_trans (Nat.mod_lt _ (Nat.pos_of_ne_zero nonzero)) otherShort
  have bounded : mantissa * 2 ^ scale % (other * 2 ^ otherScale) < 2 ^ 2098 :=
    Nat.lt_of_le_of_lt (Nat.mod_le _ _) (mul_two_pow_lt short scale 2098 (by omega))
  have narrow := (Nat.mul_one (mantissa * 2 ^ (scale - least) %
    (other * 2 ^ (otherScale - least)))).symm
  rw [units?_ofScaled left.isNegative 0 least narrow few (value ▸ bounded), value,
    withMinus_mod]

/-! ## Whole numbers -/

/-- A double is an integer. -/
def IsWhole (number : Double) (value : Int) : Prop :=
  number.units? = some (value * 2 ^ 1074)

variable {number left right : Double} {value first second : Int}

/-- A whole number of no more than 53 bits needs no more of them on any scale. -/
theorem exists_narrow {magnitude scale whole : Nat}
    (same : magnitude * 2 ^ scale = whole * 2 ^ 1074) (small : whole < 2 ^ 53) :
    ∃ few spare, magnitude = few * 2 ^ spare ∧ few < 2 ^ 53 := by
  rcases Nat.le_total scale 1074 with below | above
  · exact ⟨whole, 1074 - scale, eq_of_mul_two_pow (same.trans (joint_scale whole below).symm),
      small⟩
  · have whole_eq : magnitude * 2 ^ (scale - 1074) = whole := by
      exact eq_of_mul_two_pow ((joint_scale magnitude above).trans same)
    refine ⟨magnitude, 0, (Nat.mul_one _).symm, ?_⟩
    calc magnitude ≤ magnitude * 2 ^ (scale - 1074) := Nat.le_mul_of_pos_right _ (Nat.two_pow_pos _)
      _ < 2 ^ 53 := whole_eq ▸ small

/-- A double is the integer that it is rounded from, if that has no more than 53 bits. -/
theorem isWhole_ofScaled {total : Int} (scale : Nat) (same : total * 2 ^ scale = value * 2 ^ 1074)
    (small : value.natAbs < 2 ^ 53) :
    (ofScaled (total < 0) total.natAbs ((scale : Int) - 1074)).IsWhole value := by
  have magnitudes : total.natAbs * 2 ^ scale = value.natAbs * 2 ^ 1074 := by
    have both := congrArg Int.natAbs same
    rwa [natAbs_mul_two_pow, natAbs_mul_two_pow] at both
  obtain ⟨few, spare, narrow, short⟩ := exists_narrow magnitudes small
  have bounded : total.natAbs * 2 ^ scale < 2 ^ 2098 := by
    rw [magnitudes]
    exact mul_two_pow_lt small 1074 2098 (by decide)
  rw [IsWhole, units?_ofScaled _ spare scale narrow short bounded, withMinus_mul_two_pow,
    withMinus_natAbs, same]

theorem isWhole_ofInt (small : value.natAbs < 2 ^ 53) : (ofInt value).IsWhole value :=
  isWhole_ofScaled 1074 rfl small

/-- The denotation of a double that is an integer. -/
theorem IsWhole.denotes (whole : number.IsWhole value) :
    ∃ (mantissa scale magnitude : Nat), number.shape = .finite mantissa ((scale : Int) - 1074) ∧
      value = number.signed magnitude ∧ mantissa * 2 ^ scale = magnitude * 2 ^ 1074 := by
  obtain ⟨mantissa, scale, shown, same, -, -⟩ := shape_of_units whole
  obtain ⟨signed, magnitudes⟩ := eq_withMinus_of_mul same
  exact ⟨mantissa, scale, value.natAbs, shown, signed, magnitudes⟩

theorem IsWhole.isFinite (whole : number.IsWhole value) : number.isFinite = true := by
  obtain ⟨mantissa, scale, magnitude, shown, -⟩ := whole.denotes
  rw [Double.isFinite, shown]

/-- The mantissa of a double that is an integer, on the scale of integers. -/
theorem unscaled {mantissa scale magnitude : Nat}
    (same : mantissa * 2 ^ scale = magnitude * 2 ^ 1074) :
    (0 ≤ (scale : Int) - 1074 ∧ mantissa * 2 ^ ((scale : Int) - 1074).toNat = magnitude) ∨
      (¬0 ≤ (scale : Int) - 1074 ∧ mantissa = magnitude * 2 ^ (-((scale : Int) - 1074)).toNat) := by
  rcases Nat.lt_or_ge scale 1074 with below | above
  · have places : (-((scale : Int) - 1074)).toNat = 1074 - scale := by omega
    rw [places]
    have scaled := joint_scale magnitude (Nat.le_of_lt below)
    exact .inr ⟨by omega, eq_of_mul_two_pow (same.trans scaled.symm)⟩
  · have places : ((scale : Int) - 1074).toNat = scale - 1074 := by omega
    rw [places]
    exact .inl ⟨by omega, eq_of_mul_two_pow ((joint_scale mantissa above).trans same)⟩

/-- Nothing is cut off of an integer. -/
theorem IsWhole.truncate? (whole : number.IsWhole value) : number.truncate? = some value := by
  obtain ⟨mantissa, scale, magnitude, shown, signed, same⟩ := whole.denotes
  simp only [Double.truncate?, shown, natPow_eq, signed]
  rcases unscaled same with ⟨upward, exact⟩ | ⟨downward, exact⟩
  · rw [if_pos upward, exact]
  · rw [if_neg downward, exact, Nat.mul_div_cancel _ (Nat.two_pow_pos _)]

theorem compare_mul_right (left right : Int) {factor : Int} (positive : 0 < factor) :
    compare (left * factor) (right * factor) = compare left right := by
  rcases Int.lt_trichotomy left right with below | same | above
  · rw [Int.compare_eq_lt.mpr below,
      Int.compare_eq_lt.mpr (Int.mul_lt_mul_of_pos_right below positive)]
  · rw [Int.compare_eq_eq.mpr same, Int.compare_eq_eq.mpr (congrArg (· * factor) same)]
  · rw [Int.compare_eq_gt.mpr above,
      Int.compare_eq_gt.mpr (Int.mul_lt_mul_of_pos_right above positive)]

/-- A double that is an integer is compared as that integer. -/
theorem IsWhole.orderInt? (whole : number.IsWhole value) (other : Int) :
    number.orderInt? other = some (compare value other) := by
  obtain ⟨mantissa, scale, magnitude, shown, signed, same⟩ := whole.denotes
  simp only [Double.orderInt?, shown, compareInt, signed, natPow_eq]
  rcases unscaled same with ⟨upward, exact⟩ | ⟨downward, exact⟩
  · rw [if_pos upward, signed_eq, ← withMinus_mul, exact]
    rfl
  · have positive : (0 : Int) < (2 ^ (-((scale : Int) - 1074)).toNat : Nat) :=
      Int.natCast_pos.mpr (Nat.two_pow_pos _)
    rw [if_neg downward, exact, signed_eq, signed_eq, withMinus_mul, compare_mul_right _ _ positive]

theorem IsWhole.any_isLT (whole : number.IsWhole value) (other : Int) :
    (number.orderInt? other).any (·.isLT) = decide (value < other) := by
  rw [whole.orderInt?]
  rcases Int.lt_trichotomy value other with below | same | above
  · rw [Int.compare_eq_lt.mpr below, decide_eq_true below]
    rfl
  · rw [Int.compare_eq_eq.mpr same, decide_eq_false (by omega)]
    rfl
  · rw [Int.compare_eq_gt.mpr above, decide_eq_false (by omega)]
    rfl

theorem IsWhole.any_isGE (whole : number.IsWhole value) (other : Int) :
    (number.orderInt? other).any (·.isGE) = decide (other ≤ value) := by
  have opposite (order : Ordering) : order.isGE = !order.isLT := by cases order <;> rfl
  have below := whole.any_isLT other
  rw [whole.orderInt?, Option.any_some] at below ⊢
  rw [opposite, below, ← decide_not, decide_eq_decide, Int.not_lt]

/-! ## Sums of whole numbers -/

theorem joint_withMinus (negative : Bool) (number : Nat) {scale least : Nat}
    (below : least ≤ scale) :
    withMinus negative (number * 2 ^ (scale - least)) * 2 ^ least =
      withMinus negative (number * 2 ^ scale) := by
  rw [← joint_scale number below, withMinus_mul_two_pow _ _ least]

theorem isWhole_zero (negative : Bool) : (ofMagnitude negative 0).IsWhole 0 := by
  rw [IsWhole, units?, shape_of_subnormal _ (Nat.two_pow_pos 52), Int.zero_mul]
  simp [signed_eq, withMinus]

/-- A whole sum of no more than 53 bits is exact. -/
theorem IsWhole.add (whole : left.IsWhole first) (another : right.IsWhole second)
    (small : (first + second).natAbs < 2 ^ 53) : (left.add right).IsWhole (first + second) := by
  obtain ⟨mantissa, scale, shown, same, -, -⟩ := shape_of_units whole
  obtain ⟨other, otherScale, otherShown, otherSame, -, -⟩ := shape_of_units another
  unfold Double.add
  simp only [shown, otherShown, min_exponent, places_between, signed_eq, natPow_eq]
  generalize joint : min scale otherScale = least
  generalize summed : withMinus left.isNegative (mantissa * 2 ^ (scale - least)) +
    withMinus right.isNegative (other * 2 ^ (otherScale - least)) = total
  have value : total * 2 ^ least = (first + second) * 2 ^ 1074 := by
    rw [← summed, Int.add_mul, Int.add_mul, joint_withMinus _ _ (by omega),
      joint_withMinus _ _ (by omega), same, otherSame]
  split
  · next none =>
    have nothing : first + second = 0 := by
      rw [none, Int.zero_mul] at value
      exact (Int.mul_eq_zero.mp value.symm).resolve_right
        (Int.ne_of_gt (Int.pow_pos (by decide)))
    rw [nothing]
    exact isWhole_zero _
  · exact isWhole_ofScaled least value small

theorem toNat_bits_neg (number : Double) :
    number.neg.bits.toNat % 2 ^ 63 = number.bits.toNat % 2 ^ 63 ∧
      (2 ^ 63 ≤ number.neg.bits.toNat ↔ ¬2 ^ 63 ≤ number.bits.toNat) := by
  have below := number.bits.toNat_lt
  have flipped : number.neg.bits.toNat = number.bits.toNat ^^^ 2 ^ 63 := by
    rw [neg, UInt64.toNat_xor]
    rfl
  have low : number.neg.bits.toNat % 2 ^ 63 = number.bits.toNat % 2 ^ 63 := by
    rw [flipped, Nat.xor_mod_two_pow, Nat.mod_self, Nat.xor_zero]
  have high : number.neg.bits.toNat / 2 ^ 63 = number.bits.toNat / 2 ^ 63 ^^^ 1 := by
    rw [flipped, Nat.xor_div_two_pow, Nat.div_self (Nat.two_pow_pos 63)]
  refine ⟨low, ?_⟩
  have cases : number.bits.toNat / 2 ^ 63 = 0 ∨ number.bits.toNat / 2 ^ 63 = 1 := by omega
  rcases cases with clear | set
  · rw [clear, show 0 ^^^ 1 = 1 from rfl] at high
    omega
  · rw [set, show 1 ^^^ 1 = 0 from rfl] at high
    omega

theorem isNegative_neg (number : Double) : number.neg.isNegative = !number.isNegative := by
  have sign : (0x8000000000000000 : UInt64).toNat = 2 ^ 63 := rfl
  rw [Bool.eq_iff_iff, isNegative, isNegative, Bool.not_eq_true', decide_eq_true_eq,
    decide_eq_false_iff_not, UInt64.le_iff_toNat_le, UInt64.le_iff_toNat_le, sign]
  exact (toNat_bits_neg number).2

theorem shape_neg (number : Double) : number.neg.shape = number.shape := by
  unfold shape
  simp only [natPow_eq, (toNat_bits_neg number).1]

theorem IsWhole.neg (whole : number.IsWhole value) : number.neg.IsWhole (-value) := by
  have opposite (magnitude : Nat) : withMinus (!number.isNegative) magnitude =
      -withMinus number.isNegative magnitude := by
    cases number.isNegative <;> simp [withMinus]
  unfold IsWhole units? at whole ⊢
  rw [shape_neg]
  split at whole
  · rw [signed_eq] at whole ⊢
    rw [isNegative_neg, opposite, Option.some.inj whole, Int.neg_mul]
  · cases whole

theorem IsWhole.sub (whole : left.IsWhole first) (another : right.IsWhole second)
    (small : (first - second).natAbs < 2 ^ 53) : (left.sub right).IsWhole (first - second) := by
  obtain ⟨mantissa, scale, shown, -⟩ := shape_of_units whole
  obtain ⟨other, otherScale, otherShown, -⟩ := shape_of_units another
  have sum := whole.add another.neg small
  rw [Double.sub, isNaN, shown, isNaN, otherShown]
  exact sum

end MediaImport.Double
