import Farsounder.Data.Decimal
import Mathlib.Algebra.Order.Field.Power

namespace Farsounder.Data.Binary64

/-! Rational numbers as IEEE binary64 ones, whose significand has 53 bits.  The
exponent is not bounded here. -/

/-- What a `double` holds exactly. -/
def Held (value : Rat) : Prop :=
  ∃ mantissa exponent : Int, mantissa.natAbs ≤ 2 ^ 53 ∧
    value = mantissa * 2 ^ exponent

/-- The integers that a `double` holds exactly. -/
def HeldByDouble (value : Int) : Prop :=
  ∃ (mantissa : Int) (exponent : Nat), mantissa.natAbs ≤ 2 ^ 53 ∧
    value = mantissa * 2 ^ exponent

/-- The exponent of the leading bit. -/
def leading (value : Rat) : Int :=
  let estimate : Int := value.num.natAbs.log2 - value.den.log2
  if 2 ^ estimate ≤ |value| then estimate else estimate - 1

/-- How far the numbers around a value lie apart. -/
def spacing (value : Rat) : Rat :=
  2 ^ (leading value - 52)

/-- The nearest number that is held; of two, the one with the even
significand. -/
def nearest (value : Rat) : Rat :=
  Decimal.halfEven (value / spacing value) * spacing value

theorem log2_bounds {number : Nat} (nonzero : number ≠ 0) :
    (2 : Rat) ^ (number.log2 : Int) ≤ number ∧
      (number : Rat) < 2 ^ ((number.log2 : Int) + 1) := by
  constructor
  · exact_mod_cast Nat.log2_self_le nonzero
  · exact_mod_cast Nat.lt_log2_self

theorem leading_spec {value : Rat} (nonzero : value ≠ 0) :
    2 ^ leading value ≤ |value| ∧ |value| < 2 ^ (leading value + 1) := by
  have numerator : value.num.natAbs ≠ 0 :=
    Int.natAbs_ne_zero.mpr (Rat.num_ne_zero.mpr nonzero)
  have quotient : |value| = (value.num.natAbs : Rat) / value.den := by
    conv_lhs => rw [← Rat.num_div_den value]
    rw [abs_div, Nat.abs_cast, Nat.cast_natAbs, Int.cast_abs]
  have positive : (0 : Rat) < value.den := by exact_mod_cast value.den_pos
  obtain ⟨low, high⟩ := log2_bounds numerator
  obtain ⟨low', high'⟩ := log2_bounds value.den_nz
  have above :
      |value| < 2 ^ ((value.num.natAbs.log2 : Int) - value.den.log2 + 1) := by
    rw [quotient, div_lt_iff₀ positive]
    refine high.trans_le ?_
    calc (2 : Rat) ^ ((value.num.natAbs.log2 : Int) + 1)
        = 2 ^ ((value.num.natAbs.log2 : Int) - value.den.log2 + 1) *
            2 ^ (value.den.log2 : Int) := by
          rw [← zpow_add₀ two_ne_zero]
          congr 1
          omega
      _ ≤ _ := mul_le_mul_of_nonneg_left low' (by positivity)
  have below :
      2 ^ ((value.num.natAbs.log2 : Int) - value.den.log2 - 1) ≤ |value| := by
    rw [quotient, le_div_iff₀ positive]
    refine le_trans ?_ low
    calc (2 : Rat) ^ ((value.num.natAbs.log2 : Int) - value.den.log2 - 1) *
          value.den
        ≤ 2 ^ ((value.num.natAbs.log2 : Int) - value.den.log2 - 1) *
            2 ^ ((value.den.log2 : Int) + 1) :=
          mul_le_mul_of_nonneg_left high'.le (by positivity)
      _ = 2 ^ (value.num.natAbs.log2 : Int) := by
          rw [← zpow_add₀ two_ne_zero]
          congr 1
          omega
  rw [leading]
  by_cases reached :
    2 ^ ((value.num.natAbs.log2 : Int) - value.den.log2) ≤ |value|
  · rw [if_pos reached]
    exact ⟨reached, above⟩
  · rw [if_neg reached, sub_add_cancel]
    exact ⟨below, not_le.mp reached⟩

theorem spacing_pos (value : Rat) : 0 < spacing value :=
  zpow_pos two_pos _

theorem pow_mul_spacing (value : Rat) (bits : Nat) :
    2 ^ bits * spacing value = 2 ^ (leading value - 52 + bits) := by
  rw [spacing, zpow_add₀ two_ne_zero, zpow_natCast, mul_comm]

theorem held_nearest (value : Rat) : Held (nearest value) := by
  refine ⟨_, _, Decimal.natAbs_halfEven_le ?_, rfl⟩
  have positive := spacing_pos value
  rw [Nat.cast_pow, Nat.cast_ofNat, abs_div, abs_of_pos positive,
    div_le_iff₀ positive]
  by_cases zero : value = 0
  · rw [zero, abs_zero]
    exact (mul_pos (by positivity) (spacing_pos 0)).le
  · rw [pow_mul_spacing]
    refine (leading_spec zero).2.le.trans_eq ?_
    congr 1
    omega

/-- No multiple of the spacing is nearer. -/
theorem nearest_le_multiple (value : Rat) (count : Int) :
    |nearest value - value| ≤ |count * spacing value - value| := by
  have positive := spacing_pos value
  have scaled (number : Rat) : |number * spacing value - value| =
      |number - value / spacing value| * spacing value := by
    rw [← abs_of_pos positive, ← abs_mul, abs_of_pos positive, sub_mul,
      div_mul_cancel₀ _ positive.ne']
  rw [nearest, scaled, scaled]
  exact mul_le_mul_of_nonneg_right (Decimal.abs_halfEven_sub_le _ count)
    positive.le

theorem abs_cast_le {mantissa : Int} (small : mantissa.natAbs ≤ 2 ^ 53) :
    |(mantissa : Rat)| ≤ 2 ^ 53 := by
  rw [← Int.cast_abs, Int.abs_eq_natAbs]
  exact_mod_cast small

/-- What is no multiple of the spacing lies beyond a power of two. -/
theorem Held.multiple_or_small {other : Rat} (held : Held other) (value : Rat) :
    (∃ count : Int, other = count * spacing value) ∨
      |other| ≤ 2 ^ leading value := by
  obtain ⟨mantissa, exponent, small, rfl⟩ := held
  by_cases fine : leading value - 52 ≤ exponent
  · obtain ⟨shift, shifted⟩ := Int.eq_ofNat_of_zero_le (sub_nonneg.mpr fine)
    refine .inl ⟨mantissa * 2 ^ shift, ?_⟩
    have split : exponent = leading value - 52 + (shift : Int) := by omega
    push_cast
    rw [mul_assoc, pow_mul_spacing, ← split]
  · right
    have power : (0 : Rat) < 2 ^ exponent := zpow_pos two_pos exponent
    rw [abs_mul, abs_of_pos power]
    calc |(mantissa : Rat)| * 2 ^ exponent
        ≤ 2 ^ 53 * 2 ^ (leading value - 53) :=
          mul_le_mul (abs_cast_le small)
            (zpow_le_zpow_right₀ one_le_two (by omega)) (by positivity)
            (by positivity)
      _ = 2 ^ leading value := by
          rw [← zpow_natCast, ← zpow_add₀ two_ne_zero]
          congr 1
          norm_num

/-- No number that is held is nearer. -/
theorem nearest_le (value : Rat) {other : Rat} (held : Held other) :
    |nearest value - value| ≤ |other - value| := by
  by_cases zero : value = 0
  · have none := nearest_le_multiple value 0
    rw [zero] at none ⊢
    simp only [Int.cast_zero, zero_mul, sub_zero, abs_zero] at none ⊢
    exact none.trans (abs_nonneg other)
  · cases held.multiple_or_small value with
    | inl multiple =>
        obtain ⟨count, rfl⟩ := multiple
        exact nearest_le_multiple value count
    | inr small =>
        -- The power of two on the value's side is a multiple, and lies between
        -- the two.
        have reached := (leading_spec zero).1
        have power :
            ((2 ^ 52 : Int) : Rat) * spacing value = 2 ^ leading value := by
          rw [Int.cast_pow, Int.cast_ofNat, pow_mul_spacing]
          congr 1
          omega
        have bounds := abs_le.mp small
        rcases le_or_gt 0 value with nonneg | negative
        · rw [abs_of_nonneg nonneg] at reached
          have nearer := nearest_le_multiple value (2 ^ 52)
          rw [power] at nearer
          have between : |2 ^ leading value - value| ≤ |other - value| := by
            rw [abs_of_nonpos (by linarith), abs_of_nonpos (by linarith)]
            linarith
          exact nearer.trans between
        · rw [abs_of_neg negative] at reached
          have nearer := nearest_le_multiple value (-2 ^ 52)
          rw [Int.cast_neg, neg_mul, power] at nearer
          have between : |-2 ^ leading value - value| ≤ |other - value| := by
            rw [abs_of_nonneg (by linarith), abs_of_nonneg (by linarith)]
            linarith
          exact nearer.trans between

theorem nearest_eq_self {value : Rat} : nearest value = value ↔ Held value := by
  constructor
  · intro same
    exact same ▸ held_nearest value
  · intro held
    have none := nearest_le value held
    rw [sub_self, abs_zero] at none
    exact sub_eq_zero.mp (abs_nonpos_iff.mp none)

theorem heldByDouble_of_small {value : Int} (small : value.natAbs ≤ 2 ^ 53) :
    HeldByDouble value :=
  ⟨value, 0, small, by simp⟩

theorem held_intCast {value : Int} : Held (value : Rat) ↔
    HeldByDouble value := by
  constructor
  · rintro ⟨mantissa, exponent, small, same⟩
    cases exponent with
    | ofNat exponent =>
        refine ⟨mantissa, exponent, small, ?_⟩
        rw [Int.ofNat_eq_natCast, zpow_natCast] at same
        exact_mod_cast same
    | negSucc exponent =>
        -- A fraction of the mantissa is no larger than it.
        have whole : value * 2 ^ (exponent + 1) = mantissa := by
          have scaled : (value : Rat) * 2 ^ (exponent + 1) = mantissa := by
            rw [same, zpow_negSucc, inv_mul_cancel_right₀ (by positivity)]
          exact_mod_cast scaled
        apply heldByDouble_of_small
        refine le_trans ?_ small
        rw [← whole, Int.natAbs_mul]
        exact Nat.le_mul_of_pos_right _ (Int.natAbs_pos.mpr (by positivity))
  · rintro ⟨mantissa, exponent, small, rfl⟩
    exact ⟨mantissa, exponent, small, by push_cast; rw [zpow_natCast]⟩

/-! How near the numbers lie. -/

/-- Below `2 ^ 53` the next bits of a fraction are kept. -/
theorem nearest_close (bits : Nat) (value : Rat)
    (small : |value| * 2 ^ bits ≤ 2 ^ 53) :
    |nearest value - value| * 2 ^ bits ≤ 1 / 2 := by
  have positive : (0 : Rat) < 2 ^ bits := by positivity
  have held : Held (Decimal.halfEven (value * 2 ^ bits) / 2 ^ bits) := by
    refine ⟨Decimal.halfEven (value * 2 ^ bits), -bits,
      Decimal.natAbs_halfEven_le ?_, ?_⟩
    · rwa [Nat.cast_pow, Nat.cast_ofNat, abs_mul, abs_of_pos positive]
    · rw [zpow_neg, zpow_natCast, div_eq_mul_inv]
  calc |nearest value - value| * 2 ^ bits
      ≤ |Decimal.halfEven (value * 2 ^ bits) / 2 ^ bits - value| * 2 ^ bits :=
        mul_le_mul_of_nonneg_right (nearest_le value held) positive.le
    _ = |Decimal.halfEven (value * 2 ^ bits) - value * 2 ^ bits| := by
        rw [← abs_of_pos positive, ← abs_mul, abs_of_pos positive, sub_mul,
          div_mul_cancel₀ _ positive.ne']
    _ ≤ 1 / 2 := Decimal.abs_halfEven_sub _

/-- Far from zero there are only multiples of a power of two. -/
theorem Held.multiple_of_large {value : Rat} (held : Held value) (bits : Nat)
    (large : 2 ^ 52 < |value| * 2 ^ bits) :
    ∃ count : Int, value * 2 ^ bits = count := by
  obtain ⟨mantissa, exponent, small, rfl⟩ := held
  have power : (0 : Rat) < 2 ^ exponent := zpow_pos two_pos exponent
  have fine : 0 ≤ exponent + bits := by
    by_contra coarse
    have below : (2 : Rat) ^ exponent * 2 ^ bits ≤ 2 ^ (-1 : Int) := by
      rw [← zpow_natCast, ← zpow_add₀ two_ne_zero]
      exact zpow_le_zpow_right₀ one_le_two (by omega)
    rw [abs_mul, abs_of_pos power, mul_assoc] at large
    have product := mul_le_mul (abs_cast_le small) below (by positivity)
      (by positivity)
    norm_num at large product
    linarith
  obtain ⟨shift, shifted⟩ := Int.eq_ofNat_of_zero_le fine
  refine ⟨mantissa * 2 ^ shift, ?_⟩
  rw [mul_assoc, ← zpow_natCast, ← zpow_add₀ two_ne_zero, shifted]
  push_cast
  rw [zpow_natCast]

end Farsounder.Data.Binary64
