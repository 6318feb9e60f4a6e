import SearchFilter.Json.Printer
import SearchFilter.Proofs.Json.Numbers
import SearchFilter.Proofs.Number.ReadsBack

/-!
# Reading doubles in JSON

The text of a double has a fraction or an exponent, so it is read as a double again and not as an
integer, and what follows is left: `exists_readScalar_double`.  Doubles are written by name only if
they are not finite.

What is read is the decimal whose digits have been written (`IsFractional`, `denotes_layout`), so a
double is read as itself: `readScalar_double_of_isProper`.
-/

namespace SearchFilter.Json

open SearchFilter.Number SearchFilter.Text

/-! ## Texts with a fraction or an exponent -/

/-- The text of a magnitude with a fraction or an exponent, and the decimal that it denotes. -/
inductive IsFractional : List Char → Nat → Int → Prop
  | positional {whole fraction : List Char} (hwhole : IsWhole whole) (hfraction : IsRow fraction) :
      IsFractional (whole ++ '.' :: fraction) (valueOf (whole ++ fraction)) (-fraction.length)
  | scientific {whole fraction digits : List Char} (hwhole : IsWhole whole)
      (hfraction : ∀ c ∈ fraction, isAsciiDigit c = true) (below : Bool) (hdigits : IsRow digits) :
      IsFractional (whole ++ (fractionText fraction ++ 'e' :: exponentSign below :: digits))
        (valueOf (whole ++ fraction))
        ((if below then -(valueOf digits : Int) else valueOf digits) - fraction.length)

/-- A magnitude with a fraction or an exponent is read as the decimal that it denotes. -/
theorem IsFractional.readScalar {cs : List Char} {number : Nat} {power : Int}
    (h : IsFractional cs number power) (negative : Bool) {rest : List Char}
    (hrest : EndsNumber rest) :
    readScalar ((signText negative).toList ++ (cs ++ rest)) =
      .ok (.float (.ofDecimal negative number power), rest) := by
  cases h with
  | @positional whole fraction hwhole hfraction =>
    rw [List.append_assoc, readScalar_signText negative hwhole.toIsRow, List.cons_append,
      readMagnitude_fraction negative hwhole hfraction hrest]
  | @scientific whole fraction digits hwhole hfraction below hdigits =>
    rw [List.append_assoc, readScalar_signText negative hwhole.toIsRow, List.append_assoc,
      List.cons_append, List.cons_append,
      readMagnitude_scientific negative hwhole hfraction below hdigits hrest.endsDigits]

/-! ## The layout of a row of digits -/

theorem isRow_zeros_append {digits : List Char} (count : Nat) (h : IsRow digits) :
    IsRow (List.replicate count '0' ++ digits) := by
  refine ⟨by simp [h.ne_nil], fun c hc => ?_⟩
  rcases List.mem_append.mp hc with hzero | hdigit
  · rw [List.eq_of_mem_replicate hzero]
    rfl
  · exact h.isAsciiDigit c hdigit

theorem isRow_toDigits (n : Nat) : IsRow (Nat.toDigits 10 n) :=
  (isWhole_toDigits n).toIsRow

variable {digits : List Char}

theorem isRow_padded (width n : Nat) : IsRow (padded width n).toList := by
  rw [padded, String.toList_ofList]
  exact isRow_zeros_append _ (isRow_toDigits n)

/-- What begins with the first of significant digits may come first in a number. -/
theorem isWhole_of_head? (h : IsSignificant digits) {whole : List Char} (hne : whole ≠ [])
    (hdigits : ∀ c ∈ whole, isAsciiDigit c = true) (hhead : whole.head? = digits.head?) :
    IsWhole whole :=
  ⟨⟨hne, hdigits⟩, .inr (hhead ▸ h.head?_ne)⟩

/-- A text with a fraction or an exponent that denotes the value of a row of digits. -/
def Denotes (cs : List Char) (row : Digits) : Prop :=
  ∃ number power, IsFractional cs number power ∧ decimal number power = row.value

theorem denotes_positional {row : Digits} (h : IsSignificant row.digits) :
    Denotes (positional row) row := by
  have hrow : IsRow row.digits := ⟨h.ne_nil, h.isAsciiDigit⟩
  rw [positional]
  split_ifs with hbefore hafter
  · have hvalue : decimal (valueOf (List.replicate 1 '0' ++
        (List.replicate (-row.point).toNat '0' ++ row.digits)))
        (-(List.replicate (-row.point).toNat '0' ++ row.digits).length) = row.value := by
      rw [valueOf_zeros_append, valueOf_zeros_append, List.length_append, List.length_replicate,
        Digits.value]
      congr 1
      omega
    exact ⟨_, _, .positional (isWhole_toDigits 0) (isRow_zeros_append _ hrow), hvalue⟩
  · have hzero : IsRow ['0'] := isRow_toDigits 0
    refine ⟨_, _, .positional ?_ hzero, ?_⟩
    · refine isWhole_of_head? h (by simp [h.ne_nil]) (fun c hc => ?_)
        (List.head?_append_of_ne_nil _ h.ne_nil)
      rcases List.mem_append.mp hc with hdigit | hzero
      · exact h.isAsciiDigit c hdigit
      · rw [List.eq_of_mem_replicate hzero]
        rfl
    · rw [List.append_assoc, show ['0'] = List.replicate 1 '0' from rfl,
        List.replicate_append_replicate, valueOf_append_zeros, decimal_mul_ten_pow,
        List.length_replicate, Digits.value]
      congr 1
      omega
  · -- The point stands inside the row.
    have hpoint : row.point.toNat < row.digits.length := by omega
    have hpoint' : row.point.toNat ≠ 0 := by omega
    have hvalue : decimal
        (valueOf (row.digits.take row.point.toNat ++ row.digits.drop row.point.toNat))
        (-(row.digits.drop row.point.toNat).length) = row.value := by
      rw [List.take_append_drop, List.length_drop, Digits.value]
      congr 1
      omega
    rw [List.append_assoc]
    refine ⟨_, _, .positional (isWhole_of_head? h ?_ ?_ ?_) ⟨?_, ?_⟩, hvalue⟩
    · simp [h.ne_nil, hpoint']
    · exact fun c hc => h.isAsciiDigit c (List.mem_of_mem_take hc)
    · rw [List.head?_take, if_neg hpoint']
    · simp [hpoint]
    · exact fun c hc => h.isAsciiDigit c (List.mem_of_mem_drop hc)

theorem denotes_scientific {row : Digits} (h : IsSignificant row.digits) :
    Denotes (scientific row) row := by
  obtain ⟨digits, point⟩ := row
  obtain ⟨first, rest, rfl⟩ := List.exists_cons_of_ne_nil h.ne_nil
  have hfirst : IsWhole [first] := by
    refine isWhole_of_head? h (List.cons_ne_nil _ _) (fun c hc => ?_) rfl
    rw [List.mem_singleton.mp hc]
    exact h.isAsciiDigit first List.mem_cons_self
  have hrest : ∀ c ∈ rest, isAsciiDigit c = true :=
    fun c hc => h.isAsciiDigit c (List.mem_cons_of_mem _ hc)
  have hpadded := isRow_padded 2 (point - 1).natAbs
  have htext := IsFractional.scientific hfirst hrest (decide (point - 1 < 0)) hpadded
  rw [valueOf_padded] at htext
  have hvalue : decimal (valueOf ([first] ++ rest))
      ((if decide (point - 1 < 0) then -((point - 1).natAbs : Int) else (point - 1).natAbs) -
        rest.length) = Digits.value ⟨first :: rest, point⟩ := by
    rw [Digits.value, List.singleton_append, List.length_cons]
    congr 1
    simp only [decide_eq_true_eq]
    split <;> omega
  refine ⟨_, _, ?_, hvalue⟩
  rw [scientific]
  cases rest with
  | nil => simpa [fractionText, exponentSign] using htext
  | cons second rest => simpa [fractionText, exponentSign] using htext

theorem denotes_layout {row : Digits} (h : IsSignificant row.digits) :
    Denotes (layout row) row := by
  rw [layout]
  split
  · exact denotes_positional h
  · exact denotes_scientific h

/-! ## Doubles -/

/-- The text of a finite double denotes its digits. -/
theorem exists_double_eq (negative : Bool) (mantissa : Nat) {exponent : Int}
    (hexponent : Binary64.minExponent ≤ exponent) :
    ∃ cs number power,
      (double (.finite negative mantissa exponent)).toList = (signText negative).toList ++ cs ∧
      IsFractional cs number power ∧
      (mantissa = 0 → number = 0) ∧
      (mantissa ≠ 0 → decimal number power = (shortestDigits mantissa exponent).value) := by
  show ∃ cs number power, (Binary64.text _).toList = _ ∧ _
  rw [Binary64.text, String.toList_append]
  split
  · next hzero =>
    exact ⟨['0', '.', '0'], 0, -1, rfl, .positional (isWhole_toDigits 0) (isRow_toDigits 0),
      fun _ => rfl, fun hne => absurd hzero hne⟩
  · next hmantissa =>
    obtain ⟨number, power, hfractional, hvalue⟩ :=
      denotes_layout (isSignificant_shortestDigits hmantissa hexponent)
    exact ⟨_, number, power, by rw [String.toList_ofList], hfractional,
      fun hzero => absurd hzero hmantissa, fun _ => hvalue⟩

/-- A double is read as a double, whatever follows that does not continue it. -/
theorem exists_readScalar_double {x : Binary64} (h : x.inFormat = true) :
    ∃ y, ∀ rest, EndsNumber rest →
      readScalar ((double x).toList ++ rest) = .ok (.float y, rest) := by
  cases x with
  | nan => exact ⟨.nan, fun _ _ => rfl⟩
  | infinite negative =>
    cases negative with
    | false => exact ⟨.infinite false, fun _ _ => rfl⟩
    | true => exact ⟨.infinite true, fun _ _ => rfl⟩
  | finite negative mantissa exponent =>
    simp only [Binary64.inFormat, Bool.and_eq_true, decide_eq_true_eq] at h
    obtain ⟨cs, number, power, htext, hfractional, _⟩ := exists_double_eq negative mantissa h.1.2
    refine ⟨.ofDecimal negative number power, fun rest hrest => ?_⟩
    rw [htext, List.append_assoc, hfractional.readScalar negative hrest]

/-- A double in the form that rounding gives is read as itself. -/
theorem readScalar_double_of_isProper {x : Binary64} (h : x.isProper = true) {rest : List Char}
    (hrest : EndsNumber rest) :
    readScalar ((double x).toList ++ rest) = .ok (.float x, rest) := by
  cases x with
  | nan => rfl
  | infinite negative => cases negative <;> rfl
  | finite negative mantissa exponent =>
    have hproper := isProper_finite.mp h
    obtain ⟨cs, number, power, htext, hfractional, hzero, hvalue⟩ :=
      exists_double_eq negative mantissa hproper.2.1
    rw [htext, List.append_assoc, hfractional.readScalar negative hrest]
    rcases Nat.eq_zero_or_pos mantissa with rfl | hpos
    · -- Zero is written with the least exponent.
      obtain rfl : exponent = Binary64.minExponent := hproper.2.2.2.resolve_left (by decide)
      rw [hzero rfl, Binary64.ofDecimal, if_pos rfl]
    · rw [ofDecimal_of_value_eq (isCanonical_of_isProper h hpos) (hvalue hpos.ne')]

end SearchFilter.Json
