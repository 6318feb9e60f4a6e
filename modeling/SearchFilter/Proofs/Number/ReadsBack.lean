import SearchFilter.Proofs.Number.Nearness
import SearchFilter.Proofs.Number.Shortest

/-!
# The digits of a double read back

The digits that are written for a double are those of a decimal that is read as the same double
(`exists_shortestDigits_reads`): either that has been tried, or they are seventeen, and these are
always near enough (`isNear_roundHalfEven`).  Any other way to write the same decimal is read as the
double as well (`ofDecimal_of_value_eq`).
-/

namespace SearchFilter.Number

/-! ## The shortest digits -/

theorem roundHalfEven_eq_or (num den : Nat) :
    roundHalfEven num den = num / den ∨ roundHalfEven num den = num / den + 1 := by
  rw [roundHalfEven]
  split_ifs <;> simp

/-- A neighbour reads back. -/
theorem ofDecimal_of_neighbour? {x : Binary64} {num den n : Nat} {power : Int}
    (h : neighbour? x num den power = some n) : Binary64.ofDecimal false n power = x := by
  rw [neighbour?] at h
  dsimp only at h
  split at h
  · next hbelow hnext =>
    cases h
    rcases roundHalfEven_eq_or (decimalShifted num den power).1
      (decimalShifted num den power).2 with hround | hround
    · exact hround ▸ beq_iff_eq.mp hbelow
    · exact hround ▸ beq_iff_eq.mp hnext
  · next hbelow _ =>
    cases h
    exact beq_iff_eq.mp hbelow
  · next hnext =>
    cases h
    exact beq_iff_eq.mp hnext
  · cases h

theorem decimalShifted_ratio (num den : Nat) (power : Int) :
    ((decimalShifted num den power).1 : ℚ) / (decimalShifted num den power).2 =
      num / den / 10 ^ power := by
  rw [decimalShifted]
  split
  · next hnonneg =>
    obtain ⟨n, rfl⟩ := Int.eq_ofNat_of_zero_le hnonneg
    simp only [Int.toNat_natCast, zpow_natCast, Nat.pow_eq]
    push_cast
    rw [div_div]
  · next hneg =>
    obtain ⟨n, hn⟩ := Int.eq_ofNat_of_zero_le (show 0 ≤ -power by omega)
    obtain rfl : power = -(n : Int) := by omega
    simp only [neg_neg, Int.toNat_natCast, zpow_neg, zpow_natCast, Nat.pow_eq, div_inv_eq_mul]
    push_cast
    rw [mul_div_right_comm]

/-- The value of a double as a quotient. -/
theorem magnitude_ratio (mantissa : Nat) (exponent : Int) :
    ((Binary64.magnitude mantissa exponent).1 : ℚ) / (Binary64.magnitude mantissa exponent).2 =
      binary mantissa exponent := by
  rw [Binary64.magnitude, shifted_ratio, Nat.cast_one, div_one, zpow_neg, div_inv_eq_mul, binary]

variable {mantissa : Nat} {exponent : Int}

/-- On a grid of seventeen digits, the nearest decimal is near enough. -/
theorem isNear_roundHalfEven {num den : Nat} (hden : 0 < den)
    (hvalue : (num / den : ℚ) = binary mantissa exponent) {power : Int}
    (hgrid : (10 : ℚ) ^ (power + 16) ≤ num / den) :
    IsNear (decimal (roundHalfEven (decimalShifted num den power).1
      (decimalShifted num den power).2) power) mantissa exponent := by
  have hpower : (0 : ℚ) < 2 ^ exponent := zpow_pos (by norm_num) exponent
  have hten : (0 : ℚ) < 10 ^ power := zpow_pos (by norm_num) power
  have hround := abs_roundHalfEven_sub_le (decimalShifted num den power).1
    (@decimalShifted_snd_pos num den hden power)
  rw [decimalShifted_ratio] at hround
  generalize roundHalfEven (decimalShifted num den power).1
    (decimalShifted num den power).2 = n at hround ⊢
  have hdistance : |decimal n power - num / den| ≤ num / den / (2 * 10 ^ 16) := by
    have hscaled : decimal n power - num / den = (n - num / den / 10 ^ power) * 10 ^ power := by
      rw [decimal, sub_mul, div_mul_cancel₀ _ hten.ne']
    rw [hscaled, abs_mul, abs_of_pos hten, le_div_iff₀ (by norm_num)]
    rw [zpow_add₀ (by norm_num)] at hgrid
    calc |(n : ℚ) - num / den / 10 ^ power| * 10 ^ power * (2 * 10 ^ 16)
        ≤ 1 / 2 * 10 ^ power * (2 * 10 ^ 16) := by gcongr
      _ = 10 ^ power * 10 ^ (16 : Int) := by ring
      _ ≤ num / den := hgrid
  have hquotient : decimal n power / 2 ^ exponent - mantissa =
      (decimal n power - num / den) / 2 ^ exponent := by
    rw [hvalue, binary, sub_div, mul_div_cancel_right₀ _ hpower.ne']
  rw [IsNear, hquotient, abs_div, abs_of_pos hpower, div_le_iff₀ hpower]
  calc |decimal n power - num / den| ≤ num / den / (2 * 10 ^ 16) := hdistance
    _ = mantissa / (2 * 10 ^ 16) * 2 ^ exponent := by
      rw [hvalue, binary]
      ring

/-- A quotient is at least the power of ten just below its decimal point. -/
theorem ten_zpow_decimalPoint_le {num den : Nat} (hden : 0 < den)
    (h : ∀ n, 1074 ≤ 3 * n → den ≤ num * Nat.pow 10 n) :
    (10 : ℚ) ^ (decimalPoint num den - 1) ≤ num / den := by
  obtain ⟨length, scale, hpoint, hlength⟩ := exists_decimalPoint_eq hden h
  have hden' : (0 : ℚ) < den := by exact_mod_cast hden
  have hexponent : decimalPoint num den - 1 = (length : Int) - scale := by omega
  rw [Nat.pow_eq, Nat.pow_eq] at hlength
  rw [hexponent, le_div_iff₀ hden', zpow_sub₀ (by norm_num), div_mul_eq_mul_div,
    div_le_iff₀ (zpow_pos (by norm_num) _), mul_comm]
  exact_mod_cast hlength

/-- The shortest digits of a double read back. -/
theorem exists_shortestDigits_reads (h : IsCanonical mantissa exponent) :
    ∃ n power, shortestDigits mantissa exponent = .ofScaled n power ∧
      Binary64.ofDecimal false n power = .finite false mantissa exponent := by
  have hden : 0 < (Binary64.magnitude mantissa exponent).2 := shifted_snd_pos Nat.one_pos _ _
  have hpoint := ten_zpow_decimalPoint_le hden (magnitude_snd_le h.pos.ne' h.least)
  rw [shortestDigits]
  rcases firstGrid_cases (.finite false mantissa exponent)
    (Binary64.magnitude mantissa exponent).1 (Binary64.magnitude mantissa exponent).2
    (decimalPoint (Binary64.magnitude mantissa exponent).1
      (Binary64.magnitude mantissa exponent).2) 16 1 with ⟨power, n, hn, hgrid⟩ | hgrid
  · exact ⟨n, power, hgrid, ofDecimal_of_neighbour? hn⟩
  · refine ⟨_, _, hgrid, ofDecimal_of_near h (isNear_roundHalfEven hden
      (magnitude_ratio mantissa exponent) ?_) _⟩
    rwa [show ∀ point : Int, point - (1 + 16 : Nat) + 16 = point - 1 by omega]

/-! ## Rows of digits -/

/-- The value of a row of digits with its decimal point. -/
def Digits.value (row : Digits) : ℚ :=
  decimal (valueOf row.digits) (row.point - row.digits.length)

theorem valueOf_append_zeros (digits : List Char) (count : Nat) :
    valueOf (digits ++ List.replicate count '0') = valueOf digits * 10 ^ count := by
  induction count generalizing digits with
  | zero => simp
  | succ count ih =>
    have hzero : valueOf (digits ++ ['0']) = valueOf digits * 10 := by
      rw [valueOf, List.foldl_append]
      rfl
    rw [List.replicate_succ, List.append_cons, ih, hzero, pow_succ']
    ring

theorem valueOf_zeros_append (count : Nat) (digits : List Char) :
    valueOf (List.replicate count '0' ++ digits) = valueOf digits := by
  induction count with
  | zero => rfl
  | succ count ih => exact ih

theorem valueOf_padded (width n : Nat) : valueOf (padded width n).toList = n := by
  rw [padded, String.toList_ofList, valueOf_zeros_append, valueOf_toDigits]

theorem decimal_mul_ten_pow (n count : Nat) (power : Int) :
    decimal (n * 10 ^ count) power = decimal n (power + count) := by
  rw [decimal, decimal, zpow_add₀ (by norm_num), zpow_natCast]
  push_cast
  ring

/-- Zeros at the end add nothing to the value. -/
theorem value_ofScaled (n : Nat) (power : Int) :
    (Digits.ofScaled n power).value = decimal n power := by
  obtain ⟨zeros, hdigits, hzeros⟩ := Text.exists_dropTrailing (· == '0') (Nat.toDigits 10 n)
  obtain ⟨count, rfl⟩ : ∃ count, zeros = List.replicate count '0' :=
    ⟨zeros.length, List.eq_replicate_of_mem fun c hc => beq_iff_eq.mp (hzeros c hc)⟩
  have hvalue := valueOf_toDigits n
  rw [hdigits, valueOf_append_zeros] at hvalue
  have hlength := congrArg List.length hdigits
  rw [List.length_append, List.length_replicate] at hlength
  calc (Digits.ofScaled n power).value
      = decimal (valueOf (Text.dropTrailing (· == '0') (Nat.toDigits 10 n)))
          ((Nat.toDigits 10 n).length + power -
            (Text.dropTrailing (· == '0') (Nat.toDigits 10 n)).length) := rfl
    _ = decimal (valueOf (Text.dropTrailing (· == '0') (Nat.toDigits 10 n)))
          (power + count) := by
      rw [hlength]
      push_cast
      congr 1
      ring
    _ = decimal n power := by rw [← decimal_mul_ten_pow, hvalue]

/-- What has the value of the shortest digits of a double is read as that double. -/
theorem ofDecimal_of_value_eq {mantissa digits : Nat} {exponent power : Int}
    (h : IsCanonical mantissa exponent)
    (hvalue : decimal digits power = (shortestDigits mantissa exponent).value) (negative : Bool) :
    Binary64.ofDecimal negative digits power = .finite negative mantissa exponent := by
  obtain ⟨n, power', hshortest, hreads⟩ := exists_shortestDigits_reads h
  rw [hshortest, value_ofScaled] at hvalue
  rw [ofDecimal_congr hvalue]
  exact ofDecimal_of_positive hreads negative

end SearchFilter.Number
