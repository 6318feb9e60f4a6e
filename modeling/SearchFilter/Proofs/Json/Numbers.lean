import SearchFilter.Json.Reader
import SearchFilter.Proofs.Number.Digits

/-!
# Reading numbers in JSON

A number has a row of digits, perhaps a fraction and perhaps an exponent.  `readScalar` reads one
that is followed by something that cannot continue it: `EndsNumber`.  What follows is left as it
is.

* A row of digits alone is read as an integer (`readMagnitude_integer`).
* With a fraction or an exponent it is read as a double (`readMagnitude_fraction`,
  `readMagnitude_scientific`).
* A minus sign in front makes the number negative, and no name is taken for a number
  (`readScalar_of_digit`, `readScalar_of_minus`).
-/

namespace SearchFilter.Json

open SearchFilter.Number SearchFilter.Text

/-! ## What follows a number -/

/-- No digit comes first. -/
def EndsDigits (rest : List Char) : Prop :=
  ∀ c ∈ rest.head?, isAsciiDigit c = false

/-- What comes first cannot continue a number. -/
def EndsNumber (rest : List Char) : Prop :=
  ∀ c ∈ rest.head?, isAsciiDigit c = false ∧ c ≠ '.' ∧ c ≠ 'e' ∧ c ≠ 'E'

theorem EndsNumber.endsDigits {rest : List Char} (h : EndsNumber rest) : EndsDigits rest :=
  fun c hc => (h c hc).1

theorem endsDigits_cons {c : Char} (h : isAsciiDigit c = false) (rest : List Char) :
    EndsDigits (c :: rest) := by
  rintro _ ⟨⟩
  exact h

/-! ## Rows of digits -/

/-- A row of digits. -/
structure IsRow (digits : List Char) : Prop where
  ne_nil : digits ≠ []
  isAsciiDigit : ∀ c ∈ digits, isAsciiDigit c = true

/-- A row of digits that may come first in a number: no zero in front of other digits. -/
structure IsWhole (digits : List Char) : Prop extends IsRow digits where
  head?_ne : digits = ['0'] ∨ digits.head? ≠ some '0'

variable {digits whole fraction rest : List Char}

theorem takeWhile_digits (hdigits : ∀ c ∈ digits, isAsciiDigit c = true)
    (hrest : EndsDigits rest) :
    (digits ++ rest).takeWhile isAsciiDigit = digits ∧
      (digits ++ rest).dropWhile isAsciiDigit = rest := by
  rw [List.takeWhile_append_of_pos hdigits, List.dropWhile_append_of_pos hdigits]
  cases rest with
  | nil => simp
  | cons c cs => simp [hrest c rfl]

/-! ## Fractions and exponents -/

variable {isMark : Char → Bool}

theorem digitsAfter_mark {mark : Char} (hmark : isMark mark = true) (hdigits : IsRow digits)
    (hrest : EndsDigits rest) :
    digitsAfter isMark (mark :: (digits ++ rest)) = some (digits, rest) := by
  obtain ⟨htake, hdrop⟩ := takeWhile_digits hdigits.isAsciiDigit hrest
  rw [digitsAfter]
  simp only [htake, hdrop, hmark, List.isEmpty_eq_false_iff.mpr hdigits.ne_nil, Bool.not_false,
    Bool.and_true, if_true]

theorem digitsAfter_eq_none (h : ∀ c ∈ rest.head?, isMark c = false) :
    digitsAfter isMark rest = none := by
  cases rest with
  | nil => rfl
  | cons c cs => simp [digitsAfter, h c rfl]

theorem readExponent_eq_none (h : ∀ c ∈ rest.head?, c ≠ 'e' ∧ c ≠ 'E') :
    readExponent rest = none := by
  have hmark : ∀ c ∈ rest.head?, (c == 'e' || c == 'E') = false := by simpa using h
  rw [readExponent.eq_def]
  split
  · simp only [hmark _ rfl]
    rfl
  · simp only [hmark _ rfl]
    rfl
  · show (digitsAfter (fun c => c == 'e' || c == 'E') rest).map _ = none
    rw [digitsAfter_eq_none hmark]
    rfl

/-- The sign of an exponent. -/
def exponentSign (negative : Bool) : Char :=
  if negative then '-' else '+'

theorem readExponent_sign (negative : Bool) (hdigits : IsRow digits) (hrest : EndsDigits rest) :
    readExponent ('e' :: exponentSign negative :: (digits ++ rest)) =
      some (if negative then -(valueOf digits : Int) else valueOf digits, rest) := by
  cases negative with
  | false =>
    show (digitsAfter (· == '+') ('+' :: (digits ++ rest))).map _ = _
    rw [digitsAfter_mark rfl hdigits hrest]
    rfl
  | true =>
    show (digitsAfter (· == '-') ('-' :: (digits ++ rest))).map _ = _
    rw [digitsAfter_mark rfl hdigits hrest]
    rfl

/-! ## Magnitudes -/

/-- A number by its parts. -/
theorem readMagnitude_parts (negative : Bool) (hwhole : IsWhole whole) (hrest : EndsDigits rest)
    {exponent : Option (Int × List Char)} {after : List Char}
    (hfraction : (digitsAfter (· == '.') rest).getD ([], rest) = (fraction, after))
    (hexponent : readExponent after = exponent) :
    readMagnitude negative (whole ++ rest) =
      if fraction.isEmpty && exponent.isNone then
        if whole.length > digitLimit then .error (.numeralTooLong whole.length)
        else .ok (.int (if negative then -(valueOf whole : Int) else valueOf whole), rest)
      else
        .ok (.float (.ofDecimal negative (valueOf (whole ++ fraction))
          ((exponent.getD (0, after)).1 - fraction.length)), (exponent.getD (0, after)).2) := by
  have hempty := List.isEmpty_eq_false_iff.mpr hwhole.ne_nil
  rcases hwhole.head?_ne with rfl | hne
  · rw [readMagnitude.eq_def]
    simp only [List.singleton_append, List.length_singleton, List.drop_one, List.tail_cons,
      hfraction, hexponent, hempty, Bool.false_eq_true, if_false]
  · have htake := (takeWhile_digits hwhole.isAsciiDigit hrest).1
    rw [readMagnitude.eq_def]
    split
    · next tail heq =>
      rw [← List.head?_append_of_ne_nil _ hwhole.ne_nil, heq] at hne
      exact absurd rfl hne
    · simp only [htake, List.drop_left, hfraction, hexponent, hempty, Bool.false_eq_true, if_false]

theorem readMagnitude_integer (negative : Bool) (hwhole : IsWhole whole)
    (hlength : whole.length ≤ digitLimit) (hrest : EndsNumber rest) :
    readMagnitude negative (whole ++ rest) =
      .ok (.int (if negative then -(valueOf whole : Int) else valueOf whole), rest) := by
  have hfraction : (digitsAfter (· == '.') rest).getD ([], rest) = ([], rest) := by
    rw [digitsAfter_eq_none fun c hc => by simpa using (hrest c hc).2.1]
    rfl
  rw [readMagnitude_parts negative hwhole hrest.endsDigits hfraction
    (readExponent_eq_none fun c hc => (hrest c hc).2.2)]
  simp [Nat.not_lt.mpr hlength]

theorem readMagnitude_fraction (negative : Bool) (hwhole : IsWhole whole)
    (hfraction : IsRow fraction) (hrest : EndsNumber rest) :
    readMagnitude negative (whole ++ '.' :: (fraction ++ rest)) =
      .ok (.float (.ofDecimal negative (valueOf (whole ++ fraction)) (-fraction.length)),
        rest) := by
  rw [readMagnitude_parts negative hwhole (endsDigits_cons (by decide) _)
    (by rw [digitsAfter_mark rfl hfraction hrest.endsDigits]; rfl)
    (readExponent_eq_none fun c hc => (hrest c hc).2.2)]
  simp [hfraction.ne_nil]

/-- The fraction of a number in scientific notation, which may be missing. -/
def fractionText (fraction : List Char) : List Char :=
  if fraction.isEmpty then [] else '.' :: fraction

theorem readMagnitude_scientific (negative : Bool) (hwhole : IsWhole whole)
    (hfraction : ∀ c ∈ fraction, isAsciiDigit c = true) (below : Bool) (hdigits : IsRow digits)
    (hrest : EndsDigits rest) :
    readMagnitude negative
        (whole ++ (fractionText fraction ++ 'e' :: exponentSign below :: (digits ++ rest))) =
      .ok (.float (.ofDecimal negative (valueOf (whole ++ fraction))
        ((if below then -(valueOf digits : Int) else valueOf digits) - fraction.length)),
        rest) := by
  have he : EndsDigits ('e' :: exponentSign below :: (digits ++ rest)) :=
    endsDigits_cons (by decide) _
  by_cases hne : fraction = []
  · subst hne
    rw [fractionText, List.isEmpty_nil, if_pos rfl, List.nil_append,
      readMagnitude_parts negative hwhole he
        (by rw [digitsAfter_eq_none (by rintro _ ⟨⟩; rfl)]; rfl)
        (readExponent_sign below hdigits hrest)]
    simp
  · rw [fractionText, List.isEmpty_eq_false_iff.mpr hne, if_neg (by simp), List.cons_append,
      readMagnitude_parts negative hwhole (endsDigits_cons (by decide) _)
        (by rw [digitsAfter_mark rfl ⟨hne, hfraction⟩ he]; rfl)
        (readExponent_sign below hdigits hrest)]
    simp

/-! ## Scalars -/

/-- No name begins with a digit, and only one with a minus sign. -/
theorem find?_names_eq_none {c : Char} (h : isAsciiDigit c = true) (cs : List Char) :
    names.find? (fun entry => entry.1.isPrefixOf (c :: cs)) = none ∧
      names.find? (fun entry => entry.1.isPrefixOf ('-' :: c :: cs)) = none := by
  have hne : ∀ letter : Char, isAsciiDigit letter = false → (letter == c) = false := by
    intro letter hletter
    rw [beq_eq_false_iff_ne]
    rintro rfl
    exact absurd h (by simp [hletter])
  constructor
  · simp [names, List.isPrefixOf, hne 'n' rfl, hne 't' rfl, hne 'f' rfl, hne 'N' rfl, hne 'I' rfl,
      hne '-' rfl]
  · simp [names, List.isPrefixOf, hne 'I' rfl]

theorem readScalar_of_digit {c : Char} (h : isAsciiDigit c = true) (cs : List Char) :
    readScalar (c :: cs) = readMagnitude false (c :: cs) := by
  have hminus : c ≠ '-' := by
    rintro rfl
    cases h
  rw [readScalar, (find?_names_eq_none h cs).1]
  exact fun _ heq => hminus (List.cons.inj heq).1

theorem readScalar_of_minus {c : Char} (h : isAsciiDigit c = true) (cs : List Char) :
    readScalar ('-' :: c :: cs) = readMagnitude true (c :: cs) := by
  rw [readScalar, (find?_names_eq_none h cs).2]

theorem readScalar_signText (negative : Bool) (hwhole : IsRow whole) (rest : List Char) :
    readScalar ((signText negative).toList ++ (whole ++ rest)) =
      readMagnitude negative (whole ++ rest) := by
  obtain ⟨c, cs, rfl⟩ := List.exists_cons_of_ne_nil hwhole.ne_nil
  have hc := hwhole.isAsciiDigit c List.mem_cons_self
  cases negative with
  | false => exact readScalar_of_digit hc _
  | true => exact readScalar_of_minus hc _

/-! ## Integers -/

theorem isWhole_toDigits (n : Nat) : IsWhole (Nat.toDigits 10 n) where
  ne_nil := Nat.toDigits_ne_nil
  isAsciiDigit _ := isAsciiDigit_of_mem_toDigits
  head?_ne := by
    rcases Nat.eq_zero_or_pos n with rfl | hpos
    · exact .inl (by decide)
    · exact .inr (head?_toDigits_ne hpos)

theorem toList_signedNumeral (n : Int) :
    (signedNumeral n).toList = (signText (n < 0)).toList ++ Nat.toDigits 10 n.natAbs := by
  cases n with
  | ofNat n => simp [signedNumeral, numeral, signText]
  | negSucc n => simp [signedNumeral, numeral, signText]

/-- An integer is read as it was written. -/
theorem readScalar_writtenNumeral {n : Int} {text : String} (h : writtenNumeral n = .ok text)
    (hrest : EndsNumber rest) : readScalar (text.toList ++ rest) = .ok (.int n, rest) := by
  rw [writtenNumeral] at h
  split at h
  · next hlength =>
    cases h
    rw [numeral, String.length_ofList] at hlength
    rw [toList_signedNumeral, List.append_assoc,
      readScalar_signText _ (isWhole_toDigits _).toIsRow,
      readMagnitude_integer _ (isWhole_toDigits _) hlength hrest, valueOf_toDigits]
    congr 3
    simp only [decide_eq_true_eq]
    split <;> omega
  · cases h

end SearchFilter.Json
