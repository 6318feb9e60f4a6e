import SearchFilter.Number.Shortest
import SearchFilter.Proofs.Number.Digits
import SearchFilter.Proofs.Number.Rounding

/-!
# The digits of a double

Every positive double of the format is written with at least one digit, and the first one is not a
zero (`isSignificant_shortestDigits`).  A neighbour that reads back is not zero, since zero reads
back as another number; and on the grid of seventeen digits the value is above one.
-/

namespace SearchFilter.Number

open SearchFilter.Text

namespace Binary64

/-- Whether a number belongs to the format. -/
def inFormat : Binary64 → Bool
  | finite _ mantissa exponent =>
    mantissa < 2 ^ 53 && minExponent ≤ exponent && exponent ≤ maxExponent
  | _ => true

end Binary64

/-- A row of digits without a zero in front. -/
structure IsSignificant (digits : List Char) : Prop where
  ne_nil : digits ≠ []
  isAsciiDigit : ∀ c ∈ digits, isAsciiDigit c = true
  head?_ne : digits.head? ≠ some '0'

theorem isSignificant_toDigits {n : Nat} (h : 0 < n) : IsSignificant (Nat.toDigits 10 n) :=
  ⟨Nat.toDigits_ne_nil, fun _ => isAsciiDigit_of_mem_toDigits, head?_toDigits_ne h⟩

/-- Zeros at the end can be left out. -/
theorem IsSignificant.dropTrailing {digits : List Char} (h : IsSignificant digits) :
    IsSignificant (dropTrailing (· == '0') digits) := by
  obtain ⟨after, hafter, hzeros⟩ := exists_dropTrailing (· == '0') digits
  have hne : Text.dropTrailing (· == '0') digits ≠ [] := by
    intro hempty
    rw [hempty, List.nil_append] at hafter
    obtain ⟨c, cs, rfl⟩ := List.exists_cons_of_ne_nil h.ne_nil
    have hc := hzeros c (hafter ▸ List.mem_cons_self)
    exact h.head?_ne (by rw [List.head?_cons, beq_iff_eq.mp hc])
  refine ⟨hne, fun c hc => h.isAsciiDigit c ?_, ?_⟩
  · rw [hafter]
    exact List.mem_append_left _ hc
  · rw [← List.head?_append_of_ne_nil _ hne, ← hafter]
    exact h.head?_ne

/-! ## Grids -/

theorem div_le_roundHalfEven (num den : Nat) : num / den ≤ roundHalfEven num den := by
  rw [roundHalfEven]
  split_ifs <;> omega

theorem ofDecimal_zero (power : Int) :
    Binary64.ofDecimal false 0 power = .finite false 0 Binary64.minExponent := by
  rw [Binary64.ofDecimal, if_pos rfl]

variable {x : Binary64} {num den : Nat} {point : Int}

/-- Zero is not a neighbour of a number that it does not read back as. -/
theorem neighbour?_pos (hx : x ≠ .finite false 0 Binary64.minExponent) {power : Int} {n : Nat}
    (h : neighbour? x num den power = some n) : 0 < n := by
  have hpos : ∀ k, (Binary64.ofDecimal false k power == x) = true → 0 < k := by
    intro k hk
    refine Nat.pos_of_ne_zero fun hzero => hx ?_
    rw [← beq_iff_eq.mp hk, hzero, ofDecimal_zero]
  rw [neighbour?] at h
  dsimp only at h
  split at h
  · next hbelow _ =>
    cases h
    exact (hpos _ hbelow).trans_le (div_le_roundHalfEven _ _)
  · next hbelow _ =>
    cases h
    exact hpos _ hbelow
  · next hnext =>
    cases h
    exact Nat.succ_pos _
  · cases h

variable (x num den point) in
/-- The digits are those of a neighbour on some grid, or of the nearest number on the last one. -/
theorem firstGrid_cases (tries count : Nat) :
    (∃ power n, neighbour? x num den power = some n ∧
        firstGrid x num den point tries count = .ofScaled n power) ∨
      firstGrid x num den point tries count =
        .ofScaled (roundHalfEven (decimalShifted num den (point - (count + tries : Nat))).1
          (decimalShifted num den (point - (count + tries : Nat))).2)
          (point - (count + tries : Nat)) := by
  induction tries generalizing count with
  | zero => exact .inr rfl
  | succ tries ih =>
    rw [firstGrid]
    split
    · next n hn => exact .inl ⟨_, n, hn, rfl⟩
    · rw [show count + (tries + 1) = count + 1 + tries by omega]
      exact ih (count + 1)

/-- The row comes from a positive number, if the value is at least one on the last grid. -/
theorem exists_firstGrid_eq (hx : x ≠ .finite false 0 Binary64.minExponent) (tries count : Nat)
    (hlast : 0 < (decimalShifted num den (point - (count + tries : Nat))).1 /
      (decimalShifted num den (point - (count + tries : Nat))).2) :
    ∃ n power, 0 < n ∧ firstGrid x num den point tries count = .ofScaled n power := by
  rcases firstGrid_cases x num den point tries count with ⟨power, n, hn, hgrid⟩ | hgrid
  · exact ⟨n, power, neighbour?_pos hx hn, hgrid⟩
  · exact ⟨_, _, hlast.trans_le (div_le_roundHalfEven _ _), hgrid⟩

/-! ## The last grid -/

theorem decimalShifted_snd_pos (hden : 0 < den) (power : Int) :
    0 < (decimalShifted num den power).2 := by
  rw [decimalShifted]
  split
  · exact Nat.mul_pos hden (Nat.pow_pos (by decide))
  · exact hden

/-- A quotient that is at least a power of ten is at least one on every finer grid. -/
theorem decimalShifted_snd_le {length scale : Nat}
    (h : den * Nat.pow 10 length ≤ num * Nat.pow 10 scale) (finer : Nat) :
    (decimalShifted num den (length - scale - finer)).2 ≤
      (decimalShifted num den (length - scale - finer)).1 := by
  rw [Nat.pow_eq, Nat.pow_eq] at h
  rw [decimalShifted]
  split
  · next hnonneg =>
    obtain ⟨power, hpower⟩ := Int.eq_ofNat_of_zero_le hnonneg
    rw [hpower]
    simp only [Int.toNat_natCast, Nat.pow_eq]
    have hlength : length = finer + power + scale := by omega
    rw [hlength, Nat.pow_add, ← Nat.mul_assoc] at h
    have hle := Nat.le_of_mul_le_mul_right h (Nat.pow_pos (by decide))
    refine (Nat.mul_le_mul_left den (Nat.pow_le_pow_right (by decide) ?_)).trans hle
    omega
  · next hneg =>
    obtain ⟨power, hpower⟩ := Int.eq_ofNat_of_zero_le
      (show (0 : Int) ≤ -(length - scale - finer) by omega)
    rw [hpower]
    simp only [Int.toNat_natCast, Nat.pow_eq]
    have hscale : scale + finer = power + length := by omega
    have hle : den * 10 ^ length ≤ num * 10 ^ power * 10 ^ length := by
      rw [Nat.mul_assoc, ← Nat.pow_add, ← hscale]
      exact h.trans (Nat.mul_le_mul_left num (Nat.pow_le_pow_right (by decide) (by omega)))
    exact Nat.le_of_mul_le_mul_right hle (Nat.pow_pos (by decide))

theorem exists_length_toDigits_eq (hden : 0 < den) {scale : Nat}
    (hlarge : den ≤ num * Nat.pow 10 scale) :
    ∃ length, (Nat.toDigits 10 (num * Nat.pow 10 scale / den)).length = length + 1 ∧
      den * Nat.pow 10 length ≤ num * Nat.pow 10 scale := by
  generalize num * Nat.pow 10 scale = scaled at hlarge ⊢
  have hpos : 0 < scaled / den := Nat.div_pos hlarge hden
  obtain ⟨length, hlength⟩ := Nat.exists_eq_succ_of_ne_zero
    (Nat.length_toDigits_pos (b := 10) (n := scaled / den)).ne'
  refine ⟨length, hlength, ?_⟩
  rw [Nat.pow_eq, Nat.mul_comm den, ← Nat.le_div_iff_mul_le hden]
  rcases Nat.eq_zero_or_pos length with rfl | hlonger
  · exact hpos
  · by_contra hlt
    have hle := (Nat.length_toDigits_le_iff (by decide) hlonger).mpr (Nat.lt_of_not_le hlt)
    omega

/-- A quotient is at least the power of ten whose exponent is one below its decimal point. -/
theorem exists_decimalPoint_eq (hden : 0 < den)
    (h : ∀ n, 1074 ≤ 3 * n → den ≤ num * Nat.pow 10 n) :
    ∃ length scale : Nat, decimalPoint num den = (length + 1 : Int) - scale ∧
      den * Nat.pow 10 length ≤ num * Nat.pow 10 scale := by
  obtain ⟨length, hlength, hle⟩ := exists_length_toDigits_eq hden (h 400 (by decide))
  refine ⟨length, _, ?_, hle⟩
  rw [decimalPoint, hlength]
  rfl

/-- On a grid of seventeen digits a quotient is at least one. -/
theorem decimalShifted_pos (hden : 0 < den)
    (h : ∀ n, 1074 ≤ 3 * n → den ≤ num * Nat.pow 10 n) :
    0 < (decimalShifted num den (decimalPoint num den - 17)).1 /
      (decimalShifted num den (decimalPoint num den - 17)).2 := by
  obtain ⟨length, scale, hpoint, hlength⟩ := exists_decimalPoint_eq hden h
  have hpower : decimalPoint num den - 17 = (length : Int) - scale - (16 : Nat) := by omega
  rw [hpower]
  exact Nat.div_pos (decimalShifted_snd_le hlength 16) (decimalShifted_snd_pos hden _)

/-! ## Doubles -/

theorem two_pow_le_ten_pow {k n : Nat} (h : k ≤ 3 * n) : Nat.pow 2 k ≤ Nat.pow 10 n := by
  calc 2 ^ k ≤ 2 ^ (3 * n) := Nat.pow_le_pow_right (by decide) h
    _ = 8 ^ n := Nat.pow_mul 2 3 n
    _ ≤ 10 ^ n := Nat.pow_le_pow_left (by decide) n

/-- A positive number of the format is not too small for its decimal point to be found. -/
theorem magnitude_snd_le {mantissa : Nat} {exponent : Int} (hmantissa : mantissa ≠ 0)
    (hexponent : Binary64.minExponent ≤ exponent) (n : Nat) (hn : 1074 ≤ 3 * n) :
    (Binary64.magnitude mantissa exponent).2 ≤
      (Binary64.magnitude mantissa exponent).1 * Nat.pow 10 n := by
  have hpos : 0 < mantissa := Nat.pos_of_ne_zero hmantissa
  rw [Binary64.magnitude, shifted]
  split
  · rw [Binary64.minExponent] at hexponent
    dsimp only
    rw [Nat.one_mul]
    exact (two_pow_le_ten_pow (by omega)).trans (Nat.le_mul_of_pos_left _ hpos)
  · exact Nat.mul_pos (Nat.mul_pos hpos (Nat.pow_pos (by decide))) (Nat.pow_pos (by decide))

/-- The digits of a positive number of the format. -/
theorem isSignificant_shortestDigits {mantissa : Nat} {exponent : Int} (hmantissa : mantissa ≠ 0)
    (hexponent : Binary64.minExponent ≤ exponent) :
    IsSignificant (shortestDigits mantissa exponent).digits := by
  have hden : 0 < (Binary64.magnitude mantissa exponent).2 :=
    shifted_snd_pos Nat.one_pos _ _
  have hx : Binary64.finite false mantissa exponent ≠ .finite false 0 Binary64.minExponent :=
    fun heq => hmantissa (Binary64.finite.inj heq).2.1
  have hlast := decimalShifted_pos hden (magnitude_snd_le hmantissa hexponent)
  obtain ⟨n, power, hpos, hrow⟩ := exists_firstGrid_eq hx 16 1 hlast
  rw [shortestDigits, hrow]
  exact (isSignificant_toDigits hpos).dropTrailing

end SearchFilter.Number
