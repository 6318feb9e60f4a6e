import Mathlib.Algebra.Order.Field.Basic
import Mathlib.Data.Rat.Floor
import Mathlib.Tactic.FieldSimp
import Mathlib.Tactic.Linarith
import Mathlib.Tactic.Positivity
import Mathlib.Tactic.Ring
import SearchFilter.Number.Binary64

/-!
# Rounding to double precision

What `ofRatio` gives, as an exact rational.  It is `rounded`, a mantissa times the power of two that
belongs to the size of the quotient (`roundedExponent_eq_log2`), as long as the exponent is in range
(`ceiling?_ofRatio`).  The mantissa is the scaled quotient, rounded to a natural number.

* `shifted` divides by a power of two (`shifted_ratio`).
* `leadingExponent` brackets the quotient between two powers of two (`leadingExponent_bounds`).
* `roundHalfEven` goes up from more than a half, and from a half if that leads to an even number
  (`lt_roundHalfEven_iff`).
* `ceiling?` is the ceiling of the value (`ceiling?_finite`).
-/

namespace SearchFilter.Number

/-! ## Shifting -/

theorem shifted_snd_pos {den : Nat} (hden : 0 < den) (num : Nat) (exponent : Int) :
    0 < (shifted num den exponent).2 := by
  rw [shifted]
  split
  · exact Nat.mul_pos hden (Nat.pow_pos (by decide))
  · exact hden

theorem shifted_natCast (num den scale : Nat) :
    shifted num den (scale : Int) = (num, den * 2 ^ scale) := by
  rw [shifted, if_pos (Int.natCast_nonneg scale), Int.toNat_natCast]
  rfl

theorem shifted_neg_natCast (num den scale : Nat) :
    shifted num den (-(scale : Int)) = (num * 2 ^ scale, den) := by
  rcases Nat.eq_zero_or_pos scale with rfl | hpos
  · simp [shifted]
  · rw [shifted, if_neg (by omega), neg_neg, Int.toNat_natCast]
    rfl

theorem shifted_ratio (num den : Nat) (exponent : Int) :
    ((shifted num den exponent).1 : ℚ) / (shifted num den exponent).2 =
      num / den / 2 ^ exponent := by
  rw [shifted]
  split
  · next hnonneg =>
    obtain ⟨n, rfl⟩ := Int.eq_ofNat_of_zero_le hnonneg
    simp only [Int.toNat_natCast, zpow_natCast, Nat.pow_eq]
    push_cast
    rw [div_div]
  · next hneg =>
    obtain ⟨n, hn⟩ := Int.eq_ofNat_of_zero_le (show 0 ≤ -exponent by omega)
    have hexponent : exponent = -(n : Int) := by omega
    rw [hexponent]
    simp only [neg_neg, Int.toNat_natCast, zpow_neg, zpow_natCast, Nat.pow_eq, div_inv_eq_mul]
    push_cast
    rw [mul_div_right_comm]

/-! ## The size of a quotient -/

theorem leadingExponent_bounds {num den : Nat} (hnum : num ≠ 0) (hden : 0 < den) :
    (2 : ℚ) ^ leadingExponent num den ≤ num / den ∧
      (num / den : ℚ) < 2 ^ (leadingExponent num den + 1) := by
  have hden' : (0 : ℚ) < den := by exact_mod_cast hden
  have htwo : (2 : ℚ) ≠ 0 := by norm_num
  have hnum₁ : (2 : ℚ) ^ Nat.log2 num ≤ num := by exact_mod_cast Nat.log2_self_le hnum
  have hnum₂ : (num : ℚ) < 2 ^ (Nat.log2 num + 1) := by exact_mod_cast Nat.lt_log2_self
  have hden₁ : (2 : ℚ) ^ Nat.log2 den ≤ den := by exact_mod_cast Nat.log2_self_le hden.ne'
  have hden₂ : (den : ℚ) < 2 ^ (Nat.log2 den + 1) := by exact_mod_cast Nat.lt_log2_self
  rw [leadingExponent]
  generalize hguess : (Nat.log2 num : Int) - Nat.log2 den = guess
  have hpowers : (2 : ℚ) ^ guess * 2 ^ Nat.log2 den = 2 ^ Nat.log2 num := by
    rw [← zpow_natCast, ← zpow_natCast, ← zpow_add₀ htwo, ← hguess, sub_add_cancel]
  have hpos : (0 : ℚ) < 2 ^ guess := zpow_pos (by norm_num) guess
  have hleast : (2 : ℚ) ^ (guess - 1) ≤ num / den := by
    rw [zpow_sub_one₀ htwo, le_div_iff₀ hden']
    rw [pow_succ] at hden₂
    nlinarith
  have hgreatest : (num / den : ℚ) < 2 ^ (guess + 1) := by
    rw [zpow_add_one₀ htwo, div_lt_iff₀ hden']
    rw [pow_succ] at hnum₂
    nlinarith
  -- Comparing the shifted quotient with one tells which of the two powers is the greatest below.
  have hsecond : (0 : ℚ) < (shifted num den guess).2 := by
    exact_mod_cast shifted_snd_pos hden num guess
  have hratio := shifted_ratio num den guess
  split
  · next hlt =>
    refine ⟨hleast, ?_⟩
    rw [sub_add_cancel, ← div_lt_one hpos, ← hratio, div_lt_one hsecond]
    exact_mod_cast hlt
  · next hle =>
    refine ⟨?_, hgreatest⟩
    rw [← one_le_div hpos, ← hratio, one_le_div hsecond]
    exact_mod_cast Nat.le_of_not_lt hle

/-- A quotient of at least one has its leading digit where its whole part has it. -/
theorem leadingExponent_eq_log2 {num den : Nat} (hden : 0 < den) (hone : den ≤ num) :
    leadingExponent num den = Nat.log2 (num / den) := by
  have hwhole : num / den ≠ 0 := (Nat.div_pos hone hden).ne'
  have hden' : (0 : ℚ) < den := by exact_mod_cast hden
  obtain ⟨hleast, hgreatest⟩ := leadingExponent_bounds (hden.trans_le hone).ne' hden
  have hlow : (2 : ℚ) ^ (Nat.log2 (num / den) : Int) ≤ num / den := by
    have hpower : 2 ^ Nat.log2 (num / den) ≤ num / den := Nat.log2_self_le hwhole
    rw [Nat.le_div_iff_mul_le hden] at hpower
    rw [le_div_iff₀ hden']
    exact_mod_cast hpower
  have hhigh : (num / den : ℚ) < 2 ^ ((Nat.log2 (num / den) : Int) + 1) := by
    have hpower : num / den < 2 ^ (Nat.log2 (num / den) + 1) := Nat.lt_log2_self
    rw [Nat.div_lt_iff_lt_mul hden] at hpower
    rw [div_lt_iff₀ hden']
    exact_mod_cast hpower
  have hle := hleast.trans_lt hhigh
  have hge := hlow.trans_lt hgreatest
  rw [zpow_lt_zpow_iff_right₀ (by norm_num)] at hle hge
  omega

/-! ## Rounding to a natural number -/

/-- A number is below the result if and only if the quotient is more than a half above it, or a half
above it and the number is odd. -/
theorem lt_roundHalfEven_iff {num den n : Nat} (hden : 0 < den) :
    n < roundHalfEven num den ↔
      (2 * n + 1) * den < 2 * num ∨ ((2 * n + 1) * den = 2 * num ∧ n % 2 = 1) := by
  have hdiv : num / den * den + num % den = num := Nat.div_add_mod' num den
  have hrest : num % den < den := Nat.mod_lt num hden
  have hexpand : (2 * n + 1) * den = 2 * (n * den) + den := by ring
  rw [hexpand, roundHalfEven]
  generalize num / den = whole at *
  generalize num % den = rest at *
  rcases lt_trichotomy n whole with hlt | rfl | hlt
  · have hstep : (n + 1) * den ≤ whole * den := Nat.mul_le_mul_right den hlt
    rw [Nat.succ_mul] at hstep
    split_ifs <;> omega
  · split_ifs <;> omega
  · have hstep : (whole + 1) * den ≤ n * den := Nat.mul_le_mul_right den hlt
    rw [Nat.succ_mul] at hstep
    split_ifs <;> omega

theorem lt_roundHalfEven_iff_of_odd {num den n : Nat} (hden : 0 < den) (hodd : n % 2 = 1) :
    n < roundHalfEven num den ↔ (2 * n + 1) * den ≤ 2 * num := by
  rw [lt_roundHalfEven_iff hden, le_iff_lt_or_eq]
  simp only [hodd, and_true]

theorem roundHalfEven_le {num den bound : Nat} (hden : 0 < den) (h : num ≤ bound * den) :
    roundHalfEven num den ≤ bound := by
  by_contra hlt
  have hexpand : (2 * bound + 1) * den = 2 * (bound * den) + den := by ring
  have hround := (lt_roundHalfEven_iff hden).mp (Nat.lt_of_not_le hlt)
  omega

theorem le_roundHalfEven {num den bound : Nat} (hden : 0 < den) (h : bound * den ≤ num) :
    bound ≤ roundHalfEven num den := by
  cases bound with
  | zero => exact Nat.zero_le _
  | succ n =>
    have hexpand : (2 * n + 1) * den + den = 2 * ((n + 1) * den) := by ring
    exact (lt_roundHalfEven_iff hden).mpr (.inl (by omega))

/-! ## Doubles as rationals -/

/-- The value of a finite number. -/
def binary (mantissa : Nat) (exponent : Int) : ℚ :=
  mantissa * 2 ^ exponent

theorem binary_carry (exponent : Int) :
    binary (Nat.pow 2 52) (exponent + 1) = binary (Nat.pow 2 53) exponent := by
  rw [binary, binary, zpow_add_one₀ (by norm_num)]
  push_cast [Nat.pow_eq]
  ring

/-- The ceiling of a finite number is that of its value. -/
theorem ceiling?_finite (mantissa : Nat) (exponent : Int) :
    (Binary64.finite false mantissa exponent).ceiling? = some ⌈binary mantissa exponent⌉ := by
  have hpos := shifted_snd_pos Nat.one_pos mantissa (-exponent)
  have hratio := shifted_ratio mantissa 1 (-exponent)
  rw [Nat.cast_one, div_one, zpow_neg, div_inv_eq_mul] at hratio
  rw [Binary64.ceiling?, Binary64.magnitude, binary, ← hratio]
  generalize shifted mantissa 1 (-exponent) = quotient at *
  simp only [Bool.false_eq_true, if_false]
  have hden : (0 : ℚ) < quotient.2 := by exact_mod_cast hpos
  congr 1
  rw [eq_comm, Int.ceil_eq_iff]
  have hdiv := Nat.div_add_mod (quotient.1 + (quotient.2 - 1)) quotient.2
  have hmod := Nat.mod_lt (quotient.1 + (quotient.2 - 1)) hpos
  generalize (quotient.1 + (quotient.2 - 1)) / quotient.2 = count at *
  generalize (quotient.1 + (quotient.2 - 1)) % quotient.2 = rest at *
  constructor
  · rw [lt_div_iff₀ hden]
    have hlt : count * quotient.2 < quotient.1 + quotient.2 := by
      rw [Nat.mul_comm]
      omega
    have hlt' : ((count * quotient.2 : Nat) : ℚ) < (quotient.1 + quotient.2 : Nat) := by
      exact_mod_cast hlt
    push_cast at hlt' ⊢
    linarith
  · rw [div_le_iff₀ hden]
    have hle : quotient.1 ≤ count * quotient.2 := by
      rw [Nat.mul_comm]
      omega
    exact_mod_cast hle

/-! ## Rounding a quotient -/

/-- The exponent of the double that a quotient is rounded to, unless the mantissa is carried. -/
def roundedExponent (num den : Nat) : Int :=
  max Binary64.minExponent (leadingExponent num den - 52)

/-- The mantissa that a quotient is rounded to, before it is carried. -/
def roundedMantissa (num den : Nat) : Nat :=
  roundHalfEven (shifted num den (roundedExponent num den)).1
    (shifted num den (roundedExponent num den)).2

theorem ofRatio_of_ne_zero {num : Nat} (hnum : num ≠ 0) (den : Nat) (negative : Bool) :
    Binary64.ofRatio negative num den =
      let carried :=
        if roundedMantissa num den = Nat.pow 2 53 then
          (Nat.pow 2 52, roundedExponent num den + 1)
        else (roundedMantissa num den, roundedExponent num den)
      if Binary64.maxExponent < carried.2 then .infinite negative
      else .finite negative carried.1 carried.2 := by
  rw [Binary64.ofRatio, if_neg hnum]
  rfl

/-- What a quotient is rounded to, unless that is too large for a double. -/
def rounded (num den : Nat) : ℚ :=
  binary (roundedMantissa num den) (roundedExponent num den)

/-- The exponent of the double that a quotient is rounded to. -/
def carriedExponent (num den : Nat) : Int :=
  roundedExponent num den + if roundedMantissa num den = 2 ^ 53 then 1 else 0

/-- Carrying does not change the value, but it may take the exponent past the greatest. -/
theorem ceiling?_ofRatio {num : Nat} (hnum : num ≠ 0) (den : Nat) :
    (Binary64.ofRatio false num den).ceiling? =
      if Binary64.maxExponent < carriedExponent num den then none else some ⌈rounded num den⌉ := by
  rw [ofRatio_of_ne_zero hnum, carriedExponent, rounded]
  by_cases hcarry : roundedMantissa num den = 2 ^ 53
  · simp only [Nat.pow_eq, hcarry, if_true]
    split
    · rfl
    · rw [ceiling?_finite]
      exact congrArg (fun value => some ⌈value⌉) (binary_carry _)
  · simp only [Nat.pow_eq, if_neg hcarry, add_zero]
    split
    · rfl
    · rw [ceiling?_finite]

section Rounded

variable {num den : Nat}

/-- The mantissa does not pass any integer. -/
theorem roundedMantissa_le (hden : 0 < den) {bound : Nat}
    (h : (num / den / 2 ^ roundedExponent num den : ℚ) ≤ bound) :
    roundedMantissa num den ≤ bound := by
  have hpos := shifted_snd_pos hden num (roundedExponent num den)
  rw [← shifted_ratio, div_le_iff₀ (by exact_mod_cast hpos)] at h
  exact roundHalfEven_le hpos (by exact_mod_cast h)

theorem roundedMantissa_le_two_pow (hnum : num ≠ 0) (hden : 0 < den) :
    roundedMantissa num den ≤ 2 ^ 53 := by
  refine roundedMantissa_le hden ?_
  have hlead : leadingExponent num den + 1 ≤ roundedExponent num den + 53 := by
    rw [roundedExponent]
    omega
  rw [div_le_iff₀ (zpow_pos (by norm_num) _)]
  calc (num / den : ℚ) ≤ 2 ^ (leadingExponent num den + 1) :=
        (leadingExponent_bounds hnum hden).2.le
    _ ≤ 2 ^ (roundedExponent num den + 53) := zpow_le_zpow_right₀ (by norm_num) hlead
    _ = (2 ^ 53 : Nat) * 2 ^ roundedExponent num den := by
      rw [zpow_add₀ (by norm_num), mul_comm]
      norm_num

theorem rounded_zero (hden : 0 < den) : rounded 0 den = 0 := by
  have hmantissa : roundedMantissa 0 den ≤ 0 := roundedMantissa_le hden (by simp)
  rw [rounded, Nat.le_zero.mp hmantissa, binary, Nat.cast_zero, zero_mul]

theorem roundedExponent_eq_log2 (hden : 0 < den) (hone : den ≤ num) :
    roundedExponent num den = Nat.log2 (num / den) - 52 := by
  rw [roundedExponent, leadingExponent_eq_log2 hden hone, Binary64.minExponent]
  omega

end Rounded

end SearchFilter.Number
