import SearchFilter.Proofs.Number.Rounding

/-!
# What is near a double is read as that double

Rounding depends on the value alone, not on how it is written (`ofRatio_congr`, `ofDecimal_congr`).
A number that differs from a double by less than seventeen digits can tell is rounded to it
(`ofRatio_of_near`, `ofDecimal_of_near`): there the distance is below a half of the last place of
the mantissa, and below a quarter if the mantissa is a power of two, where the doubles below are
twice as dense.

Doubles have a form in which the mantissa is as long as it can be (`IsCanonical`), and rounding
gives no others (`isProper_ofDecimal`).
-/

namespace SearchFilter.Number

open Binary64 (minExponent maxExponent)

/-! ## Rounding by value -/

section Rounding

variable {num den num' den' n : Nat}

/-- What is below a rounded number, as an iff on the value of the quotient. -/
theorem lt_roundHalfEven_iff_ratio (hden : 0 < den) :
    n < roundHalfEven num den ↔
      (2 * n + 1 : ℚ) < 2 * (num / den) ∨ ((2 * n + 1 : ℚ) = 2 * (num / den) ∧ n % 2 = 1) := by
  have hpos : (0 : ℚ) < den := by exact_mod_cast hden
  rw [lt_roundHalfEven_iff hden, ← mul_div_assoc, lt_div_iff₀ hpos, eq_div_iff hpos.ne']
  exact_mod_cast Iff.rfl

/-- A quotient within a half of a natural number is rounded to it. -/
theorem roundHalfEven_eq (hden : 0 < den) (hbelow : (n : ℚ) - 1 / 2 < num / den)
    (habove : (num / den : ℚ) < n + 1 / 2) : roundHalfEven num den = n := by
  refine eq_of_forall_lt_iff fun k => ?_
  rw [lt_roundHalfEven_iff_ratio hden]
  constructor
  · intro h
    have hle : (2 * k + 1 : ℚ) ≤ 2 * (num / den) := h.elim le_of_lt fun h => h.1.le
    have hlt : (k : ℚ) < n := by linarith
    exact_mod_cast hlt
  · intro h
    have hle : (k + 1 : ℚ) ≤ n := by exact_mod_cast h
    exact .inl (by linarith)

theorem roundHalfEven_congr (hden : 0 < den) (hden' : 0 < den')
    (h : (num / den : ℚ) = num' / den') : roundHalfEven num den = roundHalfEven num' den' :=
  eq_of_forall_lt_iff fun k => by
    rw [lt_roundHalfEven_iff_ratio hden, lt_roundHalfEven_iff_ratio hden', h]

theorem abs_roundHalfEven_sub_le (num : Nat) (hden : 0 < den) :
    |(roundHalfEven num den : ℚ) - num / den| ≤ 1 / 2 := by
  rw [abs_le]
  constructor
  · by_contra hlt
    have hround : roundHalfEven num den < roundHalfEven num den :=
      (lt_roundHalfEven_iff_ratio hden).mpr (.inl (by linarith))
    exact lt_irrefl _ hround
  · rcases Nat.eq_zero_or_pos (roundHalfEven num den) with hzero | hpos
    · rw [hzero]
      have hnonneg : (0 : ℚ) ≤ num / den := by positivity
      push_cast
      linarith
    · obtain ⟨k, hk⟩ := Nat.exists_eq_succ_of_ne_zero hpos.ne'
      have hround := (lt_roundHalfEven_iff_ratio hden).mp (hk ▸ Nat.lt_succ_self k)
      have hle : (2 * k + 1 : ℚ) ≤ 2 * (num / den) := hround.elim le_of_lt fun h => h.1.le
      rw [hk, Nat.cast_succ]
      linarith

theorem leadingExponent_lt_iff (hnum : num ≠ 0) (hden : 0 < den) {exponent : Int} :
    leadingExponent num den < exponent ↔ (num / den : ℚ) < 2 ^ exponent := by
  obtain ⟨hleast, hgreatest⟩ := leadingExponent_bounds hnum hden
  constructor
  · intro h
    exact hgreatest.trans_le (zpow_le_zpow_right₀ (by norm_num) h)
  · intro h
    exact (zpow_lt_zpow_iff_right₀ (by norm_num)).mp (hleast.trans_lt h)

/-- Equal quotients are rounded to the same double. -/
theorem ofRatio_congr (hden : 0 < den) (hden' : 0 < den') (h : (num / den : ℚ) = num' / den')
    (negative : Bool) :
    Binary64.ofRatio negative num den = Binary64.ofRatio negative num' den' := by
  have hpos : (den : ℚ) ≠ 0 := by exact_mod_cast hden.ne'
  have hpos' : (den' : ℚ) ≠ 0 := by exact_mod_cast hden'.ne'
  by_cases hnum : num = 0
  · have hzero : num' = 0 := by
      rw [hnum, Nat.cast_zero, zero_div, eq_comm, div_eq_zero_iff, or_iff_left hpos'] at h
      exact_mod_cast h
    rw [Binary64.ofRatio, if_pos hnum, Binary64.ofRatio, if_pos hzero]
  · have hnum' : num' ≠ 0 := by
      intro hzero
      rw [hzero, Nat.cast_zero, zero_div, div_eq_zero_iff, or_iff_left hpos] at h
      exact hnum (by exact_mod_cast h)
    have hlead : leadingExponent num den = leadingExponent num' den' :=
      eq_of_forall_gt_iff fun exponent => by
        rw [leadingExponent_lt_iff hnum hden, leadingExponent_lt_iff hnum' hden', h]
    have hexponent : roundedExponent num den = roundedExponent num' den' := by
      rw [roundedExponent, roundedExponent, hlead]
    have hmantissa : roundedMantissa num den = roundedMantissa num' den' := by
      refine roundHalfEven_congr (shifted_snd_pos hden _ _) (shifted_snd_pos hden' _ _) ?_
      rw [shifted_ratio, shifted_ratio, h, hexponent]
    rw [ofRatio_of_ne_zero hnum, ofRatio_of_ne_zero hnum', hexponent, hmantissa]

end Rounding

/-! ## Doubles and what is near them -/

/-- A positive double in the form that rounding gives: the mantissa is as long as it can be. -/
structure IsCanonical (mantissa : Nat) (exponent : Int) : Prop where
  pos : 0 < mantissa
  lt : mantissa < 2 ^ 53
  least : minExponent ≤ exponent
  greatest : exponent ≤ maxExponent
  full : 2 ^ 52 ≤ mantissa ∨ exponent = minExponent

/-- A number that differs from a double by less than seventeen digits can tell. -/
def IsNear (value : ℚ) (mantissa : Nat) (exponent : Int) : Prop :=
  |value / 2 ^ exponent - mantissa| ≤ mantissa / (2 * 10 ^ 16)

section Near

variable {mantissa : Nat} {exponent : Int} {value : ℚ} (h : IsCanonical mantissa exponent)
  (hnear : IsNear value mantissa exponent)

include h hnear

theorem IsNear.bounds : (mantissa : ℚ) - 1 / 2 < value / 2 ^ exponent ∧
    value / 2 ^ exponent < mantissa + 1 / 2 ∧
    (mantissa ≤ 2 ^ 52 → (mantissa : ℚ) - 1 / 4 < value / 2 ^ exponent) := by
  rw [IsNear, abs_le] at hnear
  have hlt : (mantissa : ℚ) < 2 ^ 53 := by exact_mod_cast h.lt
  have hhalf : (mantissa / (2 * 10 ^ 16) : ℚ) < 1 / 2 := by
    rw [div_lt_iff₀ (by norm_num)]
    linarith
  refine ⟨by linarith, by linarith, fun hle => ?_⟩
  have hle' : (mantissa : ℚ) ≤ 2 ^ 52 := by exact_mod_cast hle
  have hquarter : (mantissa / (2 * 10 ^ 16) : ℚ) < 1 / 4 := by
    rw [div_lt_iff₀ (by norm_num)]
    linarith
  linarith

theorem IsNear.value_pos : 0 < value := by
  have hpos : (1 : ℚ) ≤ mantissa := by exact_mod_cast h.pos
  have hvalue : 0 < value / 2 ^ exponent := by linarith [(hnear.bounds h).1]
  exact (div_pos_iff_of_pos_right (zpow_pos (by norm_num) exponent)).mp hvalue

end Near

section Quotient

variable {mantissa num den : Nat} {exponent : Int} (h : IsCanonical mantissa exponent)
  (hden : 0 < den)

include hden

/-- The mantissa is what the scaled quotient is near to. -/
theorem roundedMantissa_eq {rounded : Nat}
    (hbelow : (rounded : ℚ) - 1 / 2 < num / den / 2 ^ roundedExponent num den)
    (habove : (num / den / 2 ^ roundedExponent num den : ℚ) < rounded + 1 / 2) :
    roundedMantissa num den = rounded := by
  rw [← shifted_ratio] at hbelow habove
  exact roundHalfEven_eq (shifted_snd_pos hden _ _) hbelow habove

include h

/-- A quotient that is near a double is rounded with the exponent of the double, or with the one
below if the double is a power of two and the quotient is less. -/
theorem roundedExponent_cases (hnear : IsNear (num / den) mantissa exponent) :
    roundedExponent num den = exponent ∨
      mantissa = 2 ^ 52 ∧ (num / den / 2 ^ exponent : ℚ) < 2 ^ 52 ∧
        roundedExponent num den = exponent - 1 := by
  have hpower : (0 : ℚ) < 2 ^ exponent := zpow_pos (by norm_num) exponent
  obtain ⟨hbelow, habove, hquarter⟩ := hnear.bounds h
  have hnum : num ≠ 0 := by
    rintro rfl
    simpa using hnear.value_pos h
  have hlead : ∀ digits : Nat, leadingExponent num den < exponent + digits ↔
      (num / den / 2 ^ exponent : ℚ) < 2 ^ digits := by
    intro digits
    rw [leadingExponent_lt_iff hnum hden, zpow_add₀ (by norm_num), mul_comm, ← div_lt_iff₀ hpower,
      zpow_natCast]
  have hmantissa : (mantissa + 1 : ℚ) ≤ 2 ^ 53 := by exact_mod_cast h.lt
  have hnext : leadingExponent num den < exponent + (53 : Nat) := (hlead 53).mpr (by linarith)
  have hleast := h.least
  rw [roundedExponent]
  by_cases hfull : leadingExponent num den < exponent + (52 : Nat) ∧ exponent ≠ minExponent
  · -- The quotient is below a power of two, and so near to the double that this is the double.
    have hmantissa' := h.full.resolve_right hfull.2
    have hscaled := (hlead 52).mp hfull.1
    have hle : mantissa ≤ 2 ^ 52 := by
      have hlt : (mantissa : ℚ) < (2 ^ 52 + 1 : Nat) := by
        push_cast
        linarith
      exact Nat.le_of_lt_succ (by exact_mod_cast hlt)
    have heq : mantissa = 2 ^ 52 := le_antisymm hle hmantissa'
    have hbefore : ¬ leadingExponent num den < exponent + (51 : Nat) := by
      rw [hlead, not_lt]
      have hquarter := hquarter hle
      rw [heq] at hquarter
      push_cast at hquarter
      linarith
    exact .inr ⟨heq, hscaled, by omega⟩
  · exact .inl (by omega)

/-- A quotient that is near a double is rounded to it. -/
theorem ofRatio_of_near (hnear : IsNear (num / den) mantissa exponent) (negative : Bool) :
    Binary64.ofRatio negative num den = .finite negative mantissa exponent := by
  obtain ⟨hbelow, habove, hquarter⟩ := hnear.bounds h
  have hnum : num ≠ 0 := by
    rintro rfl
    simpa using hnear.value_pos h
  rw [ofRatio_of_ne_zero hnum]
  rcases roundedExponent_cases h hden hnear with hexponent | ⟨rfl, hless, hexponent⟩
  · have hrounded : roundedMantissa num den = mantissa :=
      roundedMantissa_eq hden (hexponent ▸ hbelow) (hexponent ▸ habove)
    simp only [hexponent, hrounded, Nat.pow_eq, h.lt.ne, if_false, not_lt.mpr h.greatest]
  · -- The mantissa is one digit longer, and is carried.
    have hshifted : (num / den / 2 ^ roundedExponent num den : ℚ) =
        2 * (num / den / 2 ^ exponent) := by
      rw [hexponent, zpow_sub_one₀ (by norm_num)]
      field_simp
    have hquarter := hquarter le_rfl
    have hrounded : roundedMantissa num den = 2 ^ 53 := by
      push_cast at hquarter
      refine roundedMantissa_eq hden ?_ ?_
      · rw [hshifted]
        push_cast
        linarith
      · rw [hshifted]
        push_cast
        linarith
    simp only [hexponent, hrounded, Nat.pow_eq, if_true, sub_add_cancel, not_lt.mpr h.greatest,
      if_false]

end Quotient

/-! ## Decimals -/

/-- The value of a decimal. -/
def decimal (digits : Nat) (power : Int) : ℚ :=
  digits * 10 ^ power

/-- The place of the leading digit of a decimal, as `ofDecimal` finds it. -/
def decimalSize (digits : Nat) (power : Int) : Int :=
  (Nat.toDigits 10 digits).length + power

section Decimals

variable {digits digits' : Nat} {power power' : Int}

theorem decimal_bounds (hdigits : digits ≠ 0) (power : Int) :
    (10 : ℚ) ^ (decimalSize digits power - 1) ≤ decimal digits power ∧
      decimal digits power < 10 ^ decimalSize digits power := by
  obtain ⟨length, hlength⟩ := Nat.exists_eq_succ_of_ne_zero
    (Nat.length_toDigits_pos (b := 10) (n := digits)).ne'
  have hpower : (0 : ℚ) < 10 ^ power := zpow_pos (by norm_num) power
  have hlow : 10 ^ length ≤ digits := by
    rcases Nat.eq_zero_or_pos length with rfl | hpos
    · exact Nat.pos_of_ne_zero hdigits
    · by_contra hlt
      have hle := (Nat.length_toDigits_le_iff (b := 10) (by decide) hpos).mpr (Nat.lt_of_not_le hlt)
      omega
  have hhigh : digits < 10 ^ (length + 1) :=
    (Nat.length_toDigits_le_iff (by decide) (Nat.succ_pos length)).mp hlength.le
  rw [decimalSize, decimal, hlength]
  constructor
  · have hexponent : ((length.succ : Nat) + power - 1 : Int) = length + power := by
      push_cast
      ring
    rw [hexponent, zpow_add₀ (by norm_num), zpow_natCast]
    exact mul_le_mul_of_nonneg_right (by exact_mod_cast hlow) hpower.le
  · rw [zpow_add₀ (by norm_num), zpow_natCast]
    exact mul_lt_mul_of_pos_right (by exact_mod_cast hhigh) hpower

theorem decimalSize_congr (hdigits : digits ≠ 0) (hdigits' : digits' ≠ 0)
    (h : decimal digits power = decimal digits' power') :
    decimalSize digits power = decimalSize digits' power' := by
  obtain ⟨hlow, hhigh⟩ := decimal_bounds hdigits power
  obtain ⟨hlow', hhigh'⟩ := decimal_bounds hdigits' power'
  rw [h] at hlow hhigh
  have hle := hlow.trans_lt hhigh'
  have hge := hlow'.trans_lt hhigh
  rw [zpow_lt_zpow_iff_right₀ (by norm_num)] at hle hge
  omega

/-- A decimal in the range of the format is rounded as the quotient that it is. -/
theorem exists_ofDecimal_eq_ofRatio (hdigits : digits ≠ 0) (power : Int) :
    ∃ num den : Nat, 0 < den ∧ (num / den : ℚ) = decimal digits power ∧
      ∀ negative, Binary64.ofDecimal negative digits power =
        if 310 < decimalSize digits power then .infinite negative
        else if decimalSize digits power < -330 then .finite negative 0 minExponent
        else Binary64.ofRatio negative num den := by
  have hguards : ∀ negative, Binary64.ofDecimal negative digits power =
      if 310 < decimalSize digits power then .infinite negative
      else if decimalSize digits power < -330 then .finite negative 0 minExponent
      else if 0 ≤ power then .ofRatio negative (digits * Nat.pow 10 power.toNat) 1
      else .ofRatio negative digits (Nat.pow 10 (-power).toNat) := by
    intro negative
    rw [Binary64.ofDecimal, if_neg hdigits]
    rfl
  rcases Int.le_total 0 power with hnonneg | hneg
  · obtain ⟨k, rfl⟩ := Int.eq_ofNat_of_zero_le hnonneg
    refine ⟨digits * 10 ^ k, 1, Nat.one_pos, ?_, fun negative => ?_⟩
    · rw [decimal, zpow_natCast]
      push_cast
      rw [div_one]
    · rw [hguards, if_pos hnonneg, Int.toNat_natCast]
      rfl
  · obtain ⟨k, hk⟩ := Int.eq_ofNat_of_zero_le (Int.neg_nonneg_of_nonpos hneg)
    obtain rfl : power = -(k : Int) := by omega
    refine ⟨digits, 10 ^ k, Nat.pow_pos (by decide), ?_, fun negative => ?_⟩
    · rw [decimal, zpow_neg, zpow_natCast]
      push_cast
      rfl
    · rw [hguards]
      rcases Nat.eq_zero_or_pos k with rfl | hpos
      · simp
      · rw [if_neg (show ¬ (0 : Int) ≤ -(k : Int) by omega), neg_neg, Int.toNat_natCast]
        rfl

/-- Equal decimals are rounded to the same double. -/
theorem ofDecimal_congr (h : decimal digits power = decimal digits' power') (negative : Bool) :
    Binary64.ofDecimal negative digits power = Binary64.ofDecimal negative digits' power' := by
  have hzero : ∀ digits power, digits = 0 ↔ decimal digits power = 0 := by
    intro digits power
    rw [decimal, mul_eq_zero, or_iff_left (zpow_ne_zero _ (by norm_num)), Nat.cast_eq_zero]
  by_cases hdigits : digits = 0
  · have hdigits' : digits' = 0 := by rwa [hzero _ power', ← h, ← hzero]
    rw [Binary64.ofDecimal, if_pos hdigits, Binary64.ofDecimal, if_pos hdigits']
  · have hdigits' : digits' ≠ 0 := by rwa [Ne, hzero _ power', ← h, ← hzero]
    obtain ⟨num, den, hden, hvalue, hround⟩ := exists_ofDecimal_eq_ofRatio hdigits power
    obtain ⟨num', den', hden', hvalue', hround'⟩ := exists_ofDecimal_eq_ofRatio hdigits' power'
    rw [hround, hround', decimalSize_congr hdigits hdigits' h,
      ofRatio_congr hden hden' (hvalue.trans (h.trans hvalue'.symm))]

theorem two_pow_le_ten_pow_309 : 2 ^ 1024 ≤ 10 ^ 309 := by decide +kernel

theorem two_pow_le_ten_pow_330 : 2 ^ 1075 ≤ 10 ^ 330 := by decide +kernel

variable {mantissa : Nat} {exponent : Int}

/-- What is near a double lies between `2 ^ (-1075)` and `2 ^ 1024`, which is well inside what
`ofDecimal` computes. -/
theorem decimalSize_of_near (h : IsCanonical mantissa exponent) (hdigits : digits ≠ 0)
    (hnear : IsNear (decimal digits power) mantissa exponent) :
    -330 < decimalSize digits power ∧ decimalSize digits power ≤ 309 := by
  have hpower : (0 : ℚ) < 2 ^ exponent := zpow_pos (by norm_num) exponent
  obtain ⟨hbelow, habove, _⟩ := hnear.bounds h
  obtain ⟨hlow, hhigh⟩ := decimal_bounds hdigits power
  have hlarge : decimal digits power < 10 ^ (309 : Int) := by
    have hmantissa : (mantissa + 1 : ℚ) ≤ 2 ^ 53 := by exact_mod_cast h.lt
    have hexponent : exponent + 53 ≤ 1024 := by
      have hgreatest := h.greatest
      rw [maxExponent] at hgreatest
      omega
    calc decimal digits power < 2 ^ 53 * 2 ^ exponent := by
          rw [← div_lt_iff₀ hpower]
          linarith
      _ = 2 ^ (exponent + 53) := by rw [zpow_add₀ (by norm_num), mul_comm]; rfl
      _ ≤ 2 ^ (1024 : Int) := zpow_le_zpow_right₀ (by norm_num) hexponent
      _ ≤ 10 ^ (309 : Int) := by exact_mod_cast two_pow_le_ten_pow_309
  have hsmall : (10 : ℚ) ^ (-330 : Int) < decimal digits power := by
    have hmantissa : (1 : ℚ) ≤ mantissa := by exact_mod_cast h.pos
    have hexponent : -1075 ≤ exponent - 1 := by
      have hleast := h.least
      rw [minExponent] at hleast
      omega
    calc (10 : ℚ) ^ (-330 : Int) ≤ 2 ^ (-1075 : Int) := by
          rw [zpow_neg, zpow_neg]
          exact inv_anti₀ (zpow_pos (by norm_num) _) (by exact_mod_cast two_pow_le_ten_pow_330)
      _ ≤ 2 ^ (exponent - 1) := zpow_le_zpow_right₀ (by norm_num) hexponent
      _ = 1 / 2 * 2 ^ exponent := by rw [zpow_sub_one₀ (by norm_num)]; ring
      _ < decimal digits power := by
          rw [← lt_div_iff₀ hpower]
          linarith
  have hupper := hlow.trans_lt hlarge
  have hlower := hsmall.trans hhigh
  rw [zpow_lt_zpow_iff_right₀ (by norm_num)] at hupper hlower
  omega

/-- A decimal that is near a double is read as that double. -/
theorem ofDecimal_of_near (h : IsCanonical mantissa exponent)
    (hnear : IsNear (decimal digits power) mantissa exponent) (negative : Bool) :
    Binary64.ofDecimal negative digits power = .finite negative mantissa exponent := by
  have hdigits : digits ≠ 0 := by
    rintro rfl
    simpa [decimal] using hnear.value_pos h
  obtain ⟨hlower, hupper⟩ := decimalSize_of_near h hdigits hnear
  obtain ⟨num, den, hden, hvalue, hround⟩ := exists_ofDecimal_eq_ofRatio hdigits power
  rw [hround, if_neg (by omega), if_neg (by omega)]
  exact ofRatio_of_near h hden (hvalue ▸ hnear) negative

end Decimals

/-! ## Signs -/

/-- The sign of a decimal is that of the double. -/
theorem ofDecimal_of_positive {digits mantissa : Nat} {power exponent : Int}
    (h : Binary64.ofDecimal false digits power = .finite false mantissa exponent)
    (negative : Bool) :
    Binary64.ofDecimal negative digits power = .finite negative mantissa exponent := by
  have hratio : ∀ num den, Binary64.ofRatio false num den = .finite false mantissa exponent →
      Binary64.ofRatio negative num den = .finite negative mantissa exponent := by
    intro num den h
    by_cases hnum : num = 0
    · rw [Binary64.ofRatio, if_pos hnum] at h ⊢
      cases h
      rfl
    · obtain ⟨carried, hround⟩ : ∃ carried : Nat × Int, ∀ negative,
          Binary64.ofRatio negative num den =
            if maxExponent < carried.2 then .infinite negative
            else .finite negative carried.1 carried.2 :=
        ⟨_, ofRatio_of_ne_zero hnum den⟩
      rw [hround] at h ⊢
      split_ifs at h ⊢
      cases h
      rfl
  by_cases hdigits : digits = 0
  · rw [Binary64.ofDecimal, if_pos hdigits] at h ⊢
    cases h
    rfl
  · obtain ⟨num, den, _, _, hround⟩ := exists_ofDecimal_eq_ofRatio hdigits power
    rw [hround] at h ⊢
    split_ifs at h ⊢
    · cases h
      rfl
    · exact hratio num den h

/-! ## What rounding gives -/

/-- Whether the mantissa is as long as the format allows. -/
def Binary64.isProper : Binary64 → Bool
  | finite _ mantissa exponent =>
    mantissa < 2 ^ 53 && minExponent ≤ exponent && exponent ≤ maxExponent &&
      (2 ^ 52 ≤ mantissa || exponent == minExponent)
  | _ => true

theorem isProper_finite {negative : Bool} {mantissa : Nat} {exponent : Int} :
    (Binary64.finite negative mantissa exponent).isProper = true ↔
      mantissa < 2 ^ 53 ∧ minExponent ≤ exponent ∧ exponent ≤ maxExponent ∧
        (2 ^ 52 ≤ mantissa ∨ exponent = minExponent) := by
  simp only [Binary64.isProper, Bool.and_eq_true, Bool.or_eq_true, decide_eq_true_eq, beq_iff_eq,
    and_assoc]

theorem isCanonical_of_isProper {negative : Bool} {mantissa : Nat} {exponent : Int}
    (h : (Binary64.finite negative mantissa exponent).isProper = true) (hpos : 0 < mantissa) :
    IsCanonical mantissa exponent :=
  have ⟨hlt, hleast, hgreatest, hfull⟩ := isProper_finite.mp h
  ⟨hpos, hlt, hleast, hgreatest, hfull⟩

theorem isProper_ofRatio {den : Nat} (hden : 0 < den) (negative : Bool) (num : Nat) :
    (Binary64.ofRatio negative num den).isProper = true := by
  by_cases hnum : num = 0
  · rw [Binary64.ofRatio, if_pos hnum]
    rfl
  · have hleast : minExponent ≤ roundedExponent num den := le_max_left _ _
    have hmantissa := roundedMantissa_le_two_pow hnum hden
    have hfull : 2 ^ 52 ≤ roundedMantissa num den ∨ roundedExponent num den = minExponent := by
      refine (max_choice _ _).symm.imp (fun hlead => ?_) id
      have hpos := shifted_snd_pos hden num (roundedExponent num den)
      refine le_roundHalfEven hpos ?_
      have hvalue : (2 ^ 52 : ℚ) ≤ num / den / 2 ^ roundedExponent num den := by
        rw [le_div_iff₀ (zpow_pos (by norm_num) _), ← zpow_natCast, ← zpow_add₀ (by norm_num),
          roundedExponent, hlead]
        refine le_trans (le_of_eq ?_) (leadingExponent_bounds hnum hden).1
        congr 1
        push_cast
        ring
      rw [← shifted_ratio, le_div_iff₀ (by exact_mod_cast hpos)] at hvalue
      exact_mod_cast hvalue
    rw [ofRatio_of_ne_zero hnum]
    by_cases hcarry : roundedMantissa num den = 2 ^ 53
    · simp only [Nat.pow_eq, hcarry, if_true]
      split_ifs with hrange
      · rfl
      · exact isProper_finite.mpr ⟨by decide, by omega, by omega, .inl le_rfl⟩
    · simp only [Nat.pow_eq, hcarry, if_false]
      split_ifs with hrange
      · rfl
      · exact isProper_finite.mpr ⟨by omega, hleast, by omega, hfull⟩

/-- A double that has been read is proper. -/
theorem isProper_ofDecimal (negative : Bool) (digits : Nat) (power : Int) :
    (Binary64.ofDecimal negative digits power).isProper = true := by
  by_cases hdigits : digits = 0
  · rw [Binary64.ofDecimal, if_pos hdigits]
    rfl
  · obtain ⟨num, den, hden, _, hround⟩ := exists_ofDecimal_eq_ofRatio hdigits power
    rw [hround]
    split_ifs
    · rfl
    · rfl
    · exact isProper_ofRatio hden negative num

end SearchFilter.Number
