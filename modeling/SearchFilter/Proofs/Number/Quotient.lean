import SearchFilter.Proofs.Number.Rounding

/-!
# Ceilings of rounded quotients

The quotient of two natural numbers is rounded to double precision before its ceiling is taken.
What the ceiling is depends on the size of the quotient.

* Below one it is at most one (`ceil_rounded_of_lt`).
* Below `2 ^ 53` the doubles next to the quotient are at least as close as the integers, so it is
  the whole part of the quotient or the integer after it: the latter if the quotient `StaysAbove`
  its whole part (`ceil_rounded_of_div_lt`).
* From `2 ^ 53` on the doubles are the multiples of their `spacing`, and it is the nearest of these
  (`ceil_rounded_of_le_div`).  An integer just above the quotient is reached only if it is one of
  them (`roundHalfEven_mul_eq_iff`).
* From the `overflowBound` on there is none (`ceiling?_ofRatio_eq_ite`).
-/

namespace SearchFilter.Number

variable {num den : Nat}

/-! ## Where the integers are doubles -/

/-- Whether a quotient is so far above its whole part that the double it is rounded to is above it
too: by more than half the distance of the doubles there, or by a half if the whole part is odd. -/
def StaysAbove (num den : Nat) : Prop :=
  den < num % den * 2 ^ (53 - Nat.log2 (num / den)) ∨
    (den = 2 * (num % den) ∧ 2 ^ 52 ≤ num / den ∧ num / den % 2 = 1)

instance (num den : Nat) : Decidable (StaysAbove num den) :=
  inferInstanceAs (Decidable (_ ∨ _))

theorem StaysAbove.mod_ne_zero (h : StaysAbove num den) (hden : 0 < den) : num % den ≠ 0 := by
  intro hzero
  rw [StaysAbove, hzero, Nat.zero_mul] at h
  omega

/-- Up to `2 ^ 53` whatever is left over is enough. -/
theorem staysAbove_of_le (hden : 0 < den) (hnum : num ≤ 2 ^ 53) (hwhole : num / den ≠ 0)
    (hrest : num % den ≠ 0) : StaysAbove num den := by
  have hdiv : den * (num / den) + num % den = num := Nat.div_add_mod num den
  have hle : num / den ≤ den * (num / den) := Nat.le_mul_of_pos_left _ hden
  have hlog : Nat.log2 (num / den) < 53 := (Nat.log2_lt hwhole).mpr (by omega)
  have hpower : 2 ^ Nat.log2 (num / den) ≤ num / den := Nat.log2_self_le hwhole
  have hlt : den < 2 ^ (53 - Nat.log2 (num / den)) := by
    have hsplit : 2 ^ (53 - Nat.log2 (num / den)) * 2 ^ Nat.log2 (num / den) = 2 ^ 53 := by
      rw [← pow_add, Nat.sub_add_cancel hlog.le]
    by_contra hnot
    have hmul := Nat.mul_le_mul (Nat.le_of_not_lt hnot) hpower
    omega
  exact .inl (hlt.trans_le (Nat.le_mul_of_pos_left _ (Nat.pos_of_ne_zero hrest)))

/-- Between two integers that are on the grid the ceiling is one of them. -/
theorem ceil_binary_neg {whole mantissa scale : Nat} (hleast : whole * 2 ^ scale ≤ mantissa)
    (hgreatest : mantissa ≤ (whole + 1) * 2 ^ scale) :
    ⌈binary mantissa (-(scale : Int))⌉ =
      (whole + (if whole * 2 ^ scale < mantissa then 1 else 0) : Nat) := by
  have hpos : (0 : ℚ) < 2 ^ scale := by positivity
  rw [binary, zpow_neg, zpow_natCast, ← div_eq_mul_inv, Int.ceil_eq_iff, lt_div_iff₀ hpos,
    div_le_iff₀ hpos]
  split
  · next hlt =>
    constructor
    · push_cast
      rw [add_sub_cancel_right]
      exact_mod_cast hlt
    · exact_mod_cast hgreatest
  · next hnot =>
    have heq : mantissa = whole * 2 ^ scale := Nat.le_antisymm (Nat.le_of_not_lt hnot) hleast
    rw [heq]
    push_cast
    constructor
    · nlinarith
    · simp

/-- Below one the ceiling is at most one. -/
theorem ceil_rounded_of_lt (hlt : num < den) : ⌈rounded num den⌉ ≤ 1 := by
  have hden : 0 < den := by omega
  by_cases hnum : num = 0
  · rw [hnum, rounded_zero hden, Int.ceil_zero]
    decide
  have hone : (num / den : ℚ) < 2 ^ (0 : Int) := by
    rw [zpow_zero, div_lt_one (by exact_mod_cast hden)]
    exact_mod_cast hlt
  have hlead := (leadingExponent_bounds hnum hden).1.trans_lt hone
  rw [zpow_lt_zpow_iff_right₀ (by norm_num)] at hlead
  obtain ⟨scale, hscale⟩ : ∃ scale : Nat, roundedExponent num den = -(scale : Int) :=
    ⟨(-roundedExponent num den).toNat, by rw [roundedExponent, Binary64.minExponent]; omega⟩
  rw [rounded, roundedMantissa, hscale, shifted_neg_natCast]
  have hgreatest : roundHalfEven (num * 2 ^ scale) den ≤ (0 + 1) * 2 ^ scale := by
    refine roundHalfEven_le hden ?_
    rw [zero_add, one_mul, mul_comm]
    exact Nat.mul_le_mul_left _ hlt.le
  rw [ceil_binary_neg (by rw [zero_mul]; exact Nat.zero_le _) hgreatest]
  split <;> decide

/-- The mantissa is above the whole part if and only if the quotient stays above it. -/
theorem lt_roundHalfEven_mul_iff (hden : 0 < den) (hone : den ≤ num)
    (hsmall : num / den < 2 ^ 53) :
    num / den * 2 ^ (52 - Nat.log2 (num / den)) <
        roundHalfEven (num * 2 ^ (52 - Nat.log2 (num / den))) den ↔
      StaysAbove num den := by
  have hwhole : num / den ≠ 0 := (Nat.div_pos hone hden).ne'
  have hlog : Nat.log2 (num / den) < 53 := (Nat.log2_lt hwhole).mpr hsmall
  have hlarge : 52 ≤ Nat.log2 (num / den) ↔ 2 ^ 52 ≤ num / den := Nat.le_log2 hwhole
  have hdiv : num = num / den * den + num % den := (Nat.div_add_mod' num den).symm
  obtain ⟨scale, hscale⟩ : ∃ scale, 52 - Nat.log2 (num / den) = scale := ⟨_, rfl⟩
  have hnext : 53 - Nat.log2 (num / den) = scale + 1 := by omega
  have hleft : (2 * (num / den * 2 ^ scale) + 1) * den =
      2 * (num / den * den * 2 ^ scale) + den := by ring
  have hright : 2 * (num * 2 ^ scale) =
      2 * (num / den * den * 2 ^ scale) + num % den * 2 ^ (scale + 1) := by
    conv_lhs => rw [hdiv]
    ring
  rw [lt_roundHalfEven_iff hden, StaysAbove, hnext, ← hlarge, hscale, hleft, hright,
    Nat.add_lt_add_iff_left, Nat.add_left_cancel_iff]
  -- Halves occur with an odd mantissa only where the grid is that of the integers.
  rcases Nat.eq_zero_or_pos scale with rfl | hpos
  · have hlast : 52 ≤ Nat.log2 (num / den) := by omega
    rw [pow_zero, mul_one, zero_add, pow_one, mul_comm (num % den)]
    simp only [hlast, true_and]
  · have hnot : ¬ 52 ≤ Nat.log2 (num / den) := by omega
    have heven : num / den * 2 ^ scale % 2 = 0 := by
      obtain ⟨n, rfl⟩ := Nat.exists_eq_add_of_le' hpos
      rw [pow_succ, ← mul_assoc, Nat.mul_mod_left]
    simp [heven, hnot]

/-- Below `2 ^ 53` the ceiling is the whole part or the integer after it. -/
theorem ceil_rounded_of_div_lt (hden : 0 < den) (hone : den ≤ num) (hsmall : num / den < 2 ^ 53) :
    ⌈rounded num den⌉ = (num / den + (if StaysAbove num den then 1 else 0) : Nat) := by
  have hwhole : num / den ≠ 0 := (Nat.div_pos hone hden).ne'
  have hlog : Nat.log2 (num / den) < 53 := (Nat.log2_lt hwhole).mpr hsmall
  have hexponent : roundedExponent num den = -((52 - Nat.log2 (num / den) : Nat) : Int) := by
    rw [roundedExponent_eq_log2 hden hone]
    omega
  have habove := lt_roundHalfEven_mul_iff hden hone hsmall
  rw [rounded, roundedMantissa, hexponent, shifted_neg_natCast]
  generalize 52 - Nat.log2 (num / den) = scale at *
  have hleast : num / den * 2 ^ scale ≤ roundHalfEven (num * 2 ^ scale) den := by
    refine le_roundHalfEven hden ?_
    rw [mul_right_comm]
    exact Nat.mul_le_mul_right _ (Nat.div_mul_le_self num den)
  have hgreatest : roundHalfEven (num * 2 ^ scale) den ≤ (num / den + 1) * 2 ^ scale := by
    refine roundHalfEven_le hden ?_
    rw [mul_right_comm, mul_comm (num / den + 1)]
    exact Nat.mul_le_mul_right _ (Nat.lt_mul_div_succ num hden).le
  rw [ceil_binary_neg hleast hgreatest]
  simp only [habove]

/-! ## Where the doubles are integers -/

/-- The distance of the doubles at a quotient of `2 ^ 53` or more. -/
def spacing (num den : Nat) : Nat :=
  2 ^ (Nat.log2 (num / den) - 52)

theorem two_le_spacing (hlarge : 2 ^ 53 ≤ num / den) : 2 ≤ spacing num den := by
  have hlog : 53 ≤ Nat.log2 (num / den) := (Nat.le_log2 (by omega)).mpr hlarge
  calc 2 = 2 ^ 1 := rfl
    _ ≤ spacing num den := Nat.pow_le_pow_right (by decide) (by omega)

theorem spacing_le_div (hwhole : num / den ≠ 0) : spacing num den ≤ num / den :=
  (Nat.pow_le_pow_right (by decide) (Nat.sub_le _ _)).trans (Nat.log2_self_le hwhole)

/-- From `2 ^ 53` on the ceiling is the nearest multiple of the spacing. -/
theorem ceil_rounded_of_le_div (hden : 0 < den) (hlarge : 2 ^ 53 ≤ num / den) :
    ⌈rounded num den⌉ =
      (roundHalfEven num (den * spacing num den) * spacing num den : Nat) := by
  have hwhole : num / den ≠ 0 := (Nat.lt_of_lt_of_le (by decide) hlarge).ne'
  have hlog : 53 ≤ Nat.log2 (num / den) := (Nat.le_log2 hwhole).mpr hlarge
  have hone : den ≤ num := (Nat.div_ne_zero_iff.mp hwhole).2
  have hexponent : roundedExponent num den = ((Nat.log2 (num / den) - 52 : Nat) : Int) := by
    rw [roundedExponent_eq_log2 hden hone]
    omega
  rw [rounded, roundedMantissa, hexponent, shifted_natCast, binary, zpow_natCast, spacing]
  exact_mod_cast Int.ceil_natCast _

/-- The least integer that is not below a quotient is reached if and only if it is a multiple of the
step: then the quotient is less than half a step below it. -/
theorem roundHalfEven_mul_eq_iff {step count : Nat} (hden : 0 < den) (hstep : 2 ≤ step)
    (hcount : num ≤ count * den) (hbefore : count * den < num + den) :
    roundHalfEven num (den * step) * step = count ↔ step ∣ count := by
  refine ⟨fun h => h ▸ Nat.dvd_mul_left _ _, ?_⟩
  rintro ⟨n, rfl⟩
  have hwide : 0 < den * step := Nat.mul_pos hden (by omega)
  have hexpand : step * n * den = n * (den * step) := by ring
  have htwo : 2 * den ≤ den * step := by
    rw [mul_comm 2]
    exact Nat.mul_le_mul_left den hstep
  have hle : roundHalfEven num (den * step) ≤ n := roundHalfEven_le hwide (hexpand ▸ hcount)
  have hge : n ≤ roundHalfEven num (den * step) := by
    cases n with
    | zero => exact Nat.zero_le _
    | succ n =>
      have hhalf : (2 * n + 1) * (den * step) + den * step = 2 * ((n + 1) * (den * step)) := by ring
      exact (lt_roundHalfEven_iff hwide).mpr (.inl (by omega))
  rw [Nat.le_antisymm hle hge, mul_comm]

/-! ## Beyond the doubles -/

/-- From here on rounding goes past the greatest double. -/
def overflowBound : Nat :=
  2 ^ 1024 - 2 ^ 970

theorem overflowBound_eq : overflowBound = (2 ^ 54 - 1) * 2 ^ 970 := by
  rw [overflowBound, show (1024 : Nat) = 54 + 970 from rfl, pow_add, Nat.sub_one_mul]

theorem two_pow_1023_le_overflowBound : 2 ^ 1023 ≤ overflowBound := by
  rw [overflowBound_eq, show (1023 : Nat) = 53 + 970 from rfl, pow_add]
  exact Nat.mul_le_mul_right _ (by decide)

theorem overflowBound_pos : 0 < overflowBound := by
  rw [overflowBound_eq]
  exact Nat.mul_pos (by decide) (pow_pos two_pos _)

/-- Up to `2 ^ 53` no quotient is too large. -/
theorem lt_overflowBound_mul (hden : 0 < den) (hsmall : num / den ≤ 2 ^ 53) :
    num < overflowBound * den := by
  have hbound : 2 ^ 53 + 1 ≤ overflowBound := by
    rw [overflowBound_eq]
    exact le_mul_of_le_of_one_le (by decide) (Nat.pos_of_ne_zero (pow_ne_zero _ two_ne_zero))
  exact ((Nat.div_lt_iff_lt_mul hden).mp (Nat.lt_succ_of_le hsmall)).trans_le
    (Nat.mul_le_mul_right den hbound)

/-- The mantissa is carried from the middle between the last two multiples on. -/
theorem roundedMantissa_eq_iff (hnum : num ≠ 0) (hden : 0 < den) {scale : Nat}
    (hexponent : roundedExponent num den = (scale + 1 : Nat)) :
    roundedMantissa num den = 2 ^ 53 ↔ (2 ^ 54 - 1) * 2 ^ scale * den ≤ num := by
  have hle := roundedMantissa_le_two_pow hnum hden
  have hlast : roundedMantissa num den = 2 ^ 53 ↔ 2 ^ 53 - 1 < roundedMantissa num den := by omega
  have hexpand : (2 * (2 ^ 53 - 1) + 1) * (den * 2 ^ (scale + 1)) =
      2 * ((2 ^ 54 - 1) * 2 ^ scale * den) := by
    rw [pow_succ 2 scale]
    ring
  rw [hlast, roundedMantissa, hexponent, shifted_natCast,
    lt_roundHalfEven_iff_of_odd (Nat.mul_pos hden (Nat.two_pow_pos _)) (by norm_num), hexpand]
  exact Nat.mul_le_mul_left_iff (by decide)

theorem maxExponent_lt_carriedExponent_iff (hnum : num ≠ 0) (hden : 0 < den) :
    Binary64.maxExponent < carriedExponent num den ↔ overflowBound * den ≤ num := by
  have hden' : (0 : ℚ) < den := by exact_mod_cast hden
  obtain ⟨hleast, hgreatest⟩ := leadingExponent_bounds hnum hden
  have hexponent : roundedExponent num den =
    max Binary64.minExponent (leadingExponent num den - 52) := rfl
  rw [Binary64.minExponent] at hexponent
  rw [carriedExponent, Binary64.maxExponent]
  -- Only at the greatest exponent does it depend on the mantissa.
  rcases lt_trichotomy (leadingExponent num den) 1023 with hlt | heq | hlt
  · have hpower : (num / den : ℚ) < (2 ^ 1023 : Nat) := by
      refine hgreatest.trans_le ?_
      rw [Nat.cast_pow, Nat.cast_ofNat, ← zpow_natCast]
      exact zpow_le_zpow_right₀ (by norm_num) (by omega)
    rw [div_lt_iff₀ hden'] at hpower
    have hsmall : num < overflowBound * den :=
      Nat.lt_of_lt_of_le (by exact_mod_cast hpower)
        (Nat.mul_le_mul_right den two_pow_1023_le_overflowBound)
    split_ifs <;> omega
  · have hcarry : roundedMantissa num den = 2 ^ 53 ↔ overflowBound * den ≤ num := by
      rw [overflowBound_eq]
      exact roundedMantissa_eq_iff hnum hden (by omega)
    rw [← hcarry]
    split_ifs <;> omega
  · have hpower : ((2 ^ 1024 : Nat) : ℚ) ≤ num / den := by
      refine le_trans ?_ hleast
      rw [Nat.cast_pow, Nat.cast_ofNat, ← zpow_natCast]
      exact zpow_le_zpow_right₀ (by norm_num) (by omega)
    rw [le_div_iff₀ hden'] at hpower
    have hlarge : overflowBound * den ≤ num :=
      (Nat.mul_le_mul_right den (Nat.sub_le _ _)).trans (by exact_mod_cast hpower)
    split_ifs <;> omega

/-- The ceiling of a rounded quotient, unless the quotient is too large. -/
theorem ceiling?_ofRatio_eq_ite (num : Nat) (hden : 0 < den) :
    (Binary64.ofRatio false num den).ceiling? =
      if overflowBound * den ≤ num then none else some ⌈rounded num den⌉ := by
  by_cases hnum : num = 0
  · have hpos : 0 < overflowBound * den := Nat.mul_pos overflowBound_pos hden
    rw [hnum, if_neg (by omega), rounded_zero hden, Binary64.ofRatio, if_pos rfl, ceiling?_finite,
      binary, Nat.cast_zero, zero_mul]
  · rw [ceiling?_ofRatio hnum]
    simp only [maxExponent_lt_carriedExponent_iff hnum hden]

end SearchFilter.Number
