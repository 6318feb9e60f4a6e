import Mathlib.Data.List.Basic
import Mathlib.Tactic.IntervalCases
import SearchFilter.Number.Numeral
import SearchFilter.Proofs.Text.Blank

/-!
# Which numerals can be read

`isIntegerLike` recognises numerals after trimming all blanks, `readInteger` reads them with the
blanks still around them.  The two do not agree on every text.

* `readInteger_isOk_iff` says on which of the recognised texts the reading succeeds: `Readable`
  texts have no information separators, and not too many digits.
* `eq_of_readInteger_eq_ok` says which number is read: that of the digits, with the sign.
* What can be written is what is short enough (`exists_writtenNumeral_iff`,
  `length_numeral_le_iff`), and what was read is (`length_numeral_of_readInteger`).
-/

namespace SearchFilter.Number

open SearchFilter.Text

/-! ## Digits -/

theorem digitValue?_eq_some {c : Char} {value : Nat} (h : digitValue? c = some value) :
    ∃ row ∈ zeros, c.toNat = row + value ∧ value < 10 := by
  obtain ⟨row, hfind, rfl⟩ := Option.map_eq_some_iff.mp h
  have hrow := List.find?_some hfind
  simp only [Bool.and_eq_true, decide_eq_true_eq] at hrow
  exact ⟨row, List.mem_of_find?_eq_some hfind, by omega, by omega⟩

theorem valueOf_lt (digits : List Char) : valueOf digits < 10 ^ digits.length := by
  -- The fold may start at any value, which the induction needs.
  have hfold : ∀ start, digits.foldl (fun value c => value * 10 + (digitValue? c).getD 0) start <
      (start + 1) * 10 ^ digits.length := by
    induction digits with
    | nil => simp
    | cons c cs ih =>
      intro start
      have hdigit : (digitValue? c).getD 0 < 10 := by
        cases hc : digitValue? c with
        | none => decide
        | some value =>
          obtain ⟨_, _, _, hvalue⟩ := digitValue?_eq_some hc
          exact hvalue
      calc List.foldl _ (start * 10 + (digitValue? c).getD 0) cs
          < (start * 10 + (digitValue? c).getD 0 + 1) * 10 ^ cs.length := ih _
        _ ≤ ((start + 1) * 10) * 10 ^ cs.length := Nat.mul_le_mul_right _ (by omega)
        _ = (start + 1) * 10 ^ (c :: cs).length := by
          rw [List.length_cons, Nat.pow_succ, Nat.mul_assoc, Nat.mul_comm 10]
  simpa [valueOf] using hfold 0

/-- The numbers that are short enough to be written. -/
theorem length_numeral_le_iff {n : Nat} :
    (numeral n).length ≤ digitLimit ↔ n < 10 ^ digitLimit := by
  rw [numeral, String.length_ofList, Nat.length_toDigits_le_iff (by decide) (by decide)]

/-- An integer has a numeral if it is not too long. -/
theorem exists_writtenNumeral_iff {n : Int} :
    (∃ text, writtenNumeral n = .ok text) ↔ (numeral n.natAbs).length ≤ digitLimit := by
  rw [writtenNumeral]
  split_ifs with hshort
  · exact iff_of_true ⟨_, rfl⟩ hshort
  · refine iff_of_false ?_ hshort
    rintro ⟨_, ⟨⟩⟩

/-- An integer that was read is not too long to be written. -/
theorem length_numeral_of_readInteger {text : String} {n : Int} (h : readInteger text = .ok n) :
    (numeral n.natAbs).length ≤ digitLimit := by
  rw [readInteger] at h
  generalize hdigits : List.filter isAsciiDigit _ = digits at h
  have hn : digits.length ≤ digitLimit ∧ n.natAbs = valueOf digits := by
    split_ifs at h with _ hlong _ hsign
    · cases h
      exact ⟨Nat.le_of_not_lt hlong, by simp⟩
    · cases h
      exact ⟨Nat.le_of_not_lt hlong, rfl⟩
  have hsmall : valueOf digits < 10 ^ digitLimit :=
    Nat.lt_of_lt_of_le (valueOf_lt digits) (Nat.pow_le_pow_right (by decide) hn.1)
  rw [hn.2]
  exact length_numeral_le_iff.mpr hsmall

/-! ## The characters of a numeral -/

/-- The information separators, which are blanks but no margin of a numeral. -/
def isSeparator (c : Char) : Bool :=
  28 ≤ c.toNat && c.toNat ≤ 31

theorem isBlank_of_isDigit {c : Char} (h : isDigit c = true) : isBlank c = false := by
  obtain ⟨value, hvalue⟩ := Option.isSome_iff_exists.mp h
  obtain ⟨row, hrow, hc, hlt⟩ := digitValue?_eq_some hvalue
  have hrows : ∀ row ∈ zeros, row = 0x30 ∨ (0x660 ≤ row ∧ row ≤ 0x1090) ∨
      (0x17E0 ≤ row ∧ row ≤ 0x1C50) ∨ 0xA620 ≤ row := by
    decide
  have := hrows row hrow
  simp only [isBlank, Bool.or_eq_false_iff, Bool.and_eq_false_iff, decide_eq_false_iff_not,
    beq_eq_false_iff_ne]
  omega

/-- A digit of any script is read as one of the ten ASCII digits. -/
theorem isAsciiDigit_plain {c : Char} (h : isDigit c = true) : isAsciiDigit (plain c) = true := by
  have hblank := isBlank_of_isDigit h
  obtain ⟨value, hvalue⟩ := Option.isSome_iff_exists.mp h
  obtain ⟨row, hrow, hc, hlt⟩ := digitValue?_eq_some hvalue
  rw [plain]
  split
  · next hascii =>
    have hrows : ∀ row ∈ zeros, row = 0x30 ∨ 128 ≤ row := by decide
    have hrow' : row = 0x30 := by
      rcases hrows row hrow with hrow' | hrow'
      · exact hrow'
      · omega
    have hvalue' : c = Char.ofNat (48 + value) := by
      rw [← Char.ofNat_toNat c, hc, hrow']
    rw [hvalue']
    interval_cases value <;> rfl
  · rw [hblank, hvalue]
    simp only [Bool.false_eq_true, if_false]
    interval_cases value <;> rfl

/-- The blanks of ASCII. -/
def asciiBlanks : List Char :=
  [9, 10, 11, 12, 13, 28, 29, 30, 31, 32].map Char.ofNat

/-- A blank of ASCII is read as it is, any other blank as the space. -/
theorem plain_of_isBlank {c : Char} (h : isBlank c = true) :
    (plain c = c ∧ c ∈ asciiBlanks) ∨ (plain c = ' ' ∧ isSeparator c = false) := by
  rw [plain]
  split
  · next hascii =>
    have hc : c = Char.ofNat c.toNat := (Char.ofNat_toNat c).symm
    simp only [isBlank, Bool.or_eq_true, Bool.and_eq_true, decide_eq_true_eq, beq_iff_eq] at h
    have hn : (9 ≤ c.toNat ∧ c.toNat ≤ 13) ∨ (28 ≤ c.toNat ∧ c.toNat ≤ 32) := by omega
    refine .inl ⟨rfl, hc ▸ List.mem_map_of_mem ?_⟩
    generalize c.toNat = n at hn
    rcases hn with ⟨hleast, hgreatest⟩ | ⟨hleast, hgreatest⟩ <;> interval_cases n <;> decide
  · next hascii =>
    refine .inr ⟨rfl, ?_⟩
    simp only [isSeparator, Bool.and_eq_false_iff, decide_eq_false_iff_not]
    omega

/-- A blank is read as a margin, unless it is a separator. -/
theorem isMargin_plain {c : Char} (h : isBlank c = true) :
    isMargin (plain c) = !isSeparator c := by
  rcases plain_of_isBlank h with ⟨hplain, hmem⟩ | ⟨hplain, hseparator⟩
  · rw [hplain]
    have hall : asciiBlanks.all (fun c => isMargin c == !isSeparator c) = true := by decide
    exact eq_of_beq (List.all_eq_true.mp hall c hmem)
  · rw [hplain, hseparator]
    rfl

theorem isNumeralChar_plain_of_isBlank {c : Char} (h : isBlank c = true) :
    isNumeralChar (plain c) = false := by
  rcases plain_of_isBlank h with ⟨hplain, hmem⟩ | ⟨hplain, _⟩
  · rw [hplain]
    have hall : asciiBlanks.all (fun c => !isNumeralChar c) = true := by decide
    simpa using List.all_eq_true.mp hall c hmem
  · rw [hplain]
    rfl

/-! ## Margins and signs -/

theorem takeSign_of_ne {c : Char} (hminus : c ≠ '-') (hplus : c ≠ '+') (cs : List Char) :
    takeSign (c :: cs) = (false, c :: cs) := by
  rw [takeSign]
  · intro _ h
    exact hminus (List.cons.inj h).1
  · intro _ h
    exact hplus (List.cons.inj h).1

theorem not_isMargin_of_isAsciiDigit {c : Char} (h : isAsciiDigit c = true) :
    isMargin c = false ∧ c ≠ '-' ∧ c ≠ '+' := by
  simp only [isAsciiDigit, Bool.and_eq_true, decide_eq_true_eq] at h
  have hleast : 48 ≤ c.toNat := UInt32.le_iff_toNat_le.mp h.1
  have hspace : c ≠ ' ' := by
    rintro rfl
    exact absurd h.1 (by decide)
  refine ⟨?_, ?_, ?_⟩
  · simp only [isMargin, Bool.or_eq_false_iff, beq_eq_false_iff_ne, Bool.and_eq_false_iff,
      decide_eq_false_iff_not]
    exact ⟨hspace, by omega⟩
  · rintro rfl
    exact absurd h.1 (by decide)
  · rintro rfl
    exact absurd h.1 (by decide)

/-- Among blanks, reading stops at the first separator. -/
theorem exists_dropWhile_of_separator {before : List Char} (rest : List Char)
    (hbefore : ∀ c ∈ before, isBlank c = true) (hseparator : ∃ c ∈ before, isSeparator c = true) :
    ∃ c cs, ((before ++ rest).map plain).dropWhile isMargin = c :: cs ∧ c ∈ asciiBlanks := by
  induction before with
  | nil => exact absurd hseparator (by simp)
  | cons c cs ih =>
    have hblank := hbefore c List.mem_cons_self
    have hmargin := isMargin_plain hblank
    rw [List.cons_append, List.map_cons]
    cases hc : isSeparator c with
    | true =>
      rw [List.dropWhile_cons_of_neg (by simp [hmargin, hc])]
      rcases plain_of_isBlank hblank with ⟨hplain, hmem⟩ | ⟨_, hnot⟩
      · refine ⟨plain c, _, rfl, ?_⟩
        rw [hplain]
        exact hmem
      · exact absurd hc (by simp [hnot])
    | false =>
      rw [List.dropWhile_cons_of_pos (by simp [hmargin, hc])]
      refine ih (fun d hd => hbefore d (List.mem_cons_of_mem _ hd)) ?_
      obtain ⟨d, hd, hsep⟩ := hseparator
      rcases List.mem_cons.mp hd with rfl | hd
      · exact absurd hsep (by simp [hc])
      · exact ⟨d, hd, hsep⟩

/-! ## The parts of an integer text -/

theorem isSeparator_of_isDigit {c : Char} (h : isDigit c = true) : isSeparator c = false := by
  have hblank := isBlank_of_isDigit h
  simp only [isBlank, Bool.or_eq_false_iff, Bool.and_eq_false_iff,
    decide_eq_false_iff_not] at hblank
  simp only [isSeparator, Bool.and_eq_false_iff, decide_eq_false_iff_not]
  omega

/-- An integer text: blanks, perhaps a minus sign, digits, and blanks. -/
structure IntegerParts (cs before sign digits after : List Char) : Prop where
  joined : cs = before ++ (sign ++ (digits ++ after))
  isBlank_before : ∀ c ∈ before, isBlank c = true
  sign_eq : sign = [] ∨ sign = ['-']
  digits_ne_nil : digits ≠ []
  isDigit_digits : ∀ c ∈ digits, isDigit c = true
  isBlank_after : ∀ c ∈ after, isBlank c = true

/-- Texts that are recognised as integers have these parts. -/
theorem exists_integerParts {text : String} (h : isIntegerLike text = true) :
    ∃ before sign digits after, IntegerParts text.toList before sign digits after := by
  obtain ⟨before, after, htext, hbefore, hafter⟩ := exists_trim text.toList
  rw [isIntegerLike] at h
  generalize trim text.toList = inner at h htext
  have hinner : ∃ sign digits, inner = sign ++ digits ∧ (sign = [] ∨ sign = ['-']) ∧
      digits ≠ [] ∧ ∀ c ∈ digits, isDigit c = true := by
    split at h
    · next cs =>
      simp only [Bool.and_eq_true, Bool.not_eq_true', List.isEmpty_eq_false_iff,
        List.all_eq_true] at h
      exact ⟨['-'], cs, rfl, .inr rfl, h⟩
    · simp only [Bool.and_eq_true, Bool.not_eq_true', List.isEmpty_eq_false_iff,
        List.all_eq_true] at h
      exact ⟨[], inner, rfl, .inl rfl, h⟩
  obtain ⟨sign, digits, rfl, hsign, hne, hdigits⟩ := hinner
  exact ⟨before, sign, digits, after, by rw [htext, List.append_assoc], hbefore, hsign, hne,
    hdigits, hafter⟩

/-- Sign and digits have no blank among them. -/
theorem IntegerParts.not_isBlank {cs before sign digits after : List Char}
    (hparts : IntegerParts cs before sign digits after) : ∀ c ∈ sign ++ digits, isBlank c = false := by
  have hsign : ∀ c ∈ sign, isBlank c = false := by
    rcases hparts.sign_eq with rfl | rfl <;> simp [isBlank]
  exact List.forall_mem_append.mpr
    ⟨hsign, fun c hc => isBlank_of_isDigit (hparts.isDigit_digits c hc)⟩

/-- Texts with these parts are recognised as integers. -/
theorem IntegerParts.isIntegerLike {text : String} {before sign digits after : List Char}
    (hparts : IntegerParts text.toList before sign digits after) : isIntegerLike text = true := by
  have htrim : trim text.toList = sign ++ digits := by
    rw [hparts.joined, ← List.append_assoc sign]
    exact trim_append hparts.isBlank_before hparts.isBlank_after
      (fun c hc => hparts.not_isBlank c (List.mem_of_mem_head? hc))
      fun c hc => hparts.not_isBlank c (List.mem_of_getLast? hc)
  have hdigits : (!digits.isEmpty && digits.all isDigit) = true := by
    simpa [hparts.digits_ne_nil] using hparts.isDigit_digits
  rw [Number.isIntegerLike, htrim]
  rcases hparts.sign_eq with rfl | rfl
  · rw [List.nil_append]
    split
    · exact absurd (hparts.isDigit_digits '-' List.mem_cons_self) (by decide)
    · exact hdigits
  · exact hdigits

/-- An integer text is one word. -/
theorem exists_words_of_isIntegerLike {text : String} (h : isIntegerLike text = true) :
    ∃ word, words text = [word] := by
  obtain ⟨before, sign, digits, after, hparts⟩ := exists_integerParts h
  have hafter : wordsOf after = [] := by
    have hnone := wordsOf_append_of_blank hparts.isBlank_after []
    rwa [List.append_nil] at hnone
  refine ⟨String.ofList (sign ++ digits), ?_⟩
  rw [words, hparts.joined, wordsOf_append_of_blank hparts.isBlank_before, ← List.append_assoc,
    wordsOf_append_of_not_blank (List.append_ne_nil_of_right_ne_nil _ hparts.digits_ne_nil)
      hparts.not_isBlank fun c hc => hparts.isBlank_after c (List.mem_of_mem_head? hc), hafter]
  rfl

section Parts

variable {cs before sign digits after : List Char}
  (hparts : IntegerParts cs before sign digits after)

include hparts

theorem filter_isDigit_parts : cs.filter isDigit = digits := by
  have hnone : ∀ blanks : List Char, (∀ c ∈ blanks, isBlank c = true) →
      blanks.filter isDigit = [] := by
    intro blanks hblanks
    rw [List.filter_eq_nil_iff]
    intro c hc hdigit
    exact absurd (hblanks c hc) (by simp [isBlank_of_isDigit hdigit])
  have hsign : sign.filter isDigit = [] := by
    rcases hparts.sign_eq with rfl | rfl <;> decide
  rw [hparts.joined, List.filter_append, List.filter_append, List.filter_append,
    hnone before hparts.isBlank_before, hsign, hnone after hparts.isBlank_after,
    List.filter_eq_self.mpr hparts.isDigit_digits, List.append_nil]
  rfl

/-- Only the blanks of an integer text can be separators. -/
theorem forall_not_isSeparator_parts :
    (∀ c ∈ cs, isSeparator c = false) ↔
      (∀ c ∈ before, isSeparator c = false) ∧ ∀ c ∈ after, isSeparator c = false := by
  have hsign : ∀ c ∈ sign, isSeparator c = false := by
    rcases hparts.sign_eq with rfl | rfl <;> simp [isSeparator]
  have hdigits : ∀ c ∈ digits, isSeparator c = false :=
    fun c hc => isSeparator_of_isDigit (hparts.isDigit_digits c hc)
  rw [hparts.joined]
  simp only [List.forall_mem_append]
  exact ⟨fun h => ⟨h.1, h.2.2.2⟩, fun h => ⟨h.1, hsign, hdigits, h.2⟩⟩

/-- Without separators in front, the reading comes to the sign and the digits. -/
theorem takeSign_parts (hseparator : ∀ c ∈ before, isSeparator c = false) :
    takeSign ((cs.map plain).dropWhile isMargin) =
      (!sign.isEmpty, digits.map plain ++ after.map plain) := by
  have hmargin : ∀ c ∈ before.map plain, isMargin c = true := by
    intro c hc
    obtain ⟨d, hd, rfl⟩ := List.mem_map.mp hc
    rw [isMargin_plain (hparts.isBlank_before d hd), hseparator d hd]
    rfl
  obtain ⟨d, ds, hcons⟩ := List.exists_cons_of_ne_nil hparts.digits_ne_nil
  have hd : isAsciiDigit (plain d) = true :=
    isAsciiDigit_plain (hparts.isDigit_digits d (hcons ▸ List.mem_cons_self))
  rw [hparts.joined, hcons, List.map_append, List.dropWhile_append_of_pos hmargin]
  rcases hparts.sign_eq with rfl | rfl
  · obtain ⟨hnot, hminus, hplus⟩ := not_isMargin_of_isAsciiDigit hd
    rw [List.nil_append, List.cons_append, List.map_cons,
      List.dropWhile_cons_of_neg (by simp [hnot]), takeSign_of_ne hminus hplus]
    simp
  · rw [List.map_append]
    show takeSign (List.dropWhile isMargin ('-' :: _)) = _
    rw [List.dropWhile_cons_of_neg (by decide)]
    simp [takeSign]

theorem isAsciiDigit_of_mem_row : ∀ c ∈ digits.map plain, isAsciiDigit c = true := by
  rw [List.forall_mem_map]
  exact fun c hc => isAsciiDigit_plain (hparts.isDigit_digits c hc)

theorem not_isNumeralChar_of_mem_rest : ∀ c ∈ after.map plain, isNumeralChar c = false := by
  rw [List.forall_mem_map]
  exact fun c hc => isNumeralChar_plain_of_isBlank (hparts.isBlank_after c hc)

end Parts

/-! ## Reading an integer text -/

/-- Integer texts that can be read: without separators, and with as many digits as are allowed. -/
def Readable (text : String) : Prop :=
  (∀ c ∈ text.toList, isSeparator c = false) ∧ (text.toList.filter isDigit).length ≤ digitLimit

/-- A separator before the digits is no margin, so no digit is found. -/
theorem readInteger_of_separator {text : String} {before rest : List Char}
    (htext : text.toList = before ++ rest) (hbefore : ∀ c ∈ before, isBlank c = true)
    (hseparator : ∃ c ∈ before, isSeparator c = true) : (readInteger text).isOk = false := by
  obtain ⟨c, cs, hdrop, hc⟩ := exists_dropWhile_of_separator rest hbefore hseparator
  have hall : asciiBlanks.all (fun c => c != '-' && c != '+' && !isNumeralChar c) = true := by
    decide
  have hplain := List.all_eq_true.mp hall c hc
  simp only [Bool.and_eq_true, bne_iff_ne, Bool.not_eq_true'] at hplain
  obtain ⟨⟨hminus, hplus⟩, hnumeral⟩ := hplain
  have hempty : wellGrouped [] = false := rfl
  rw [readInteger, htext, hdrop, takeSign_of_ne hminus hplus,
    List.takeWhile_cons_of_neg (by simp [hnumeral]), hempty]
  rfl

theorem isNumeralChar_of_isAsciiDigit {c : Char} (h : isAsciiDigit c = true) :
    isNumeralChar c = true := by
  rw [isNumeralChar, h, Bool.true_or]

/-- A row of digits is found again before what is no numeral. -/
theorem takeWhile_row {row rest : List Char} (hrow : ∀ c ∈ row, isAsciiDigit c = true)
    (hrest : ∀ c ∈ rest, isNumeralChar c = false) :
    (row ++ rest).takeWhile isNumeralChar = row ∧
      (row ++ rest).dropWhile isNumeralChar = rest := by
  have hnumeral : ∀ c ∈ row, isNumeralChar c = true :=
    fun c hc => isNumeralChar_of_isAsciiDigit (hrow c hc)
  rw [List.takeWhile_append_of_pos hnumeral, List.dropWhile_append_of_pos hnumeral]
  cases rest with
  | nil => simp
  | cons c cs => simp [hrest c List.mem_cons_self]

/-- Without underscores there is one group of digits. -/
theorem wellGrouped_row {row : List Char} (hne : row ≠ [])
    (hrow : ∀ c ∈ row, isAsciiDigit c = true) : wellGrouped row = true := by
  have hplain : ∀ c ∈ row, (c == '_') = false := by
    intro c hc
    rw [beq_eq_false_iff_ne]
    rintro rfl
    exact absurd (hrow _ hc) (by decide)
  rw [wellGrouped, pieces_of_forall_not hplain]
  simpa using hne

section Digits

variable {text : String} {negative : Bool} {row rest : List Char}
  (hsigned : takeSign ((text.toList.map plain).dropWhile isMargin) = (negative, row ++ rest))
  (hne : row ≠ []) (hrow : ∀ c ∈ row, isAsciiDigit c = true)
  (hrest : ∀ c ∈ rest, isNumeralChar c = false)

include hsigned hne hrow hrest

/-- Digits after the margin and the sign are read as an integer, if they are not too many and only
margin follows. -/
theorem readInteger_eq_of_digits :
    readInteger text =
      if digitLimit < row.length then .error (.numeralTooLong row.length)
      else if rest.all isMargin then .ok (if negative then -(valueOf row : Int) else valueOf row)
      else .error (.notAnInteger text) := by
  obtain ⟨htake, hdrop⟩ := takeWhile_row hrow hrest
  have hgroups := wellGrouped_row hne hrow
  rw [readInteger, hsigned]
  simp only [htake, hdrop, hgroups, List.filter_eq_self.mpr hrow]
  cases rest.all isMargin <;> cases negative <;> simp

theorem readInteger_of_digits :
    (readInteger text).isOk = true ↔
      row.length ≤ digitLimit ∧ ∀ c ∈ rest, isMargin c = true := by
  rw [readInteger_eq_of_digits hsigned hne hrow hrest, ← List.all_eq_true]
  by_cases hlong : digitLimit < row.length
  · rw [if_pos hlong]
    simp [Except.isOk, Except.toBool, Nat.not_le.mpr hlong]
  · rw [if_neg hlong]
    cases rest.all isMargin <;> simp [Except.isOk, Except.toBool, Nat.not_lt.mp hlong]

end Digits

/-- Of the texts that are recognised as integers, those can be read that are readable. -/
theorem readInteger_isOk_iff {text : String} (h : isIntegerLike text = true) :
    (readInteger text).isOk = true ↔ Readable text := by
  obtain ⟨before, sign, digits, after, hparts⟩ := exists_integerParts h
  rw [Readable, forall_not_isSeparator_parts hparts, filter_isDigit_parts hparts]
  -- A separator in front hides the digits; behind them it is only met when they have been read.
  by_cases hseparator : ∃ c ∈ before, isSeparator c = true
  · rw [readInteger_of_separator hparts.joined hparts.isBlank_before hseparator]
    obtain ⟨c, hc, hsep⟩ := hseparator
    refine ⟨fun hfalse => absurd hfalse (by decide), fun hreadable => ?_⟩
    exact absurd hsep (by simp [hreadable.1.1 c hc])
  · have hbefore : ∀ c ∈ before, isSeparator c = false := by simpa using hseparator
    have hmargin : (∀ c ∈ after.map plain, isMargin c = true) ↔
        ∀ c ∈ after, isSeparator c = false := by
      rw [List.forall_mem_map]
      refine forall₂_congr fun c hc => ?_
      rw [isMargin_plain (hparts.isBlank_after c hc), Bool.not_eq_true']
    rw [readInteger_of_digits (takeSign_parts hparts hbefore)
        (by simpa using hparts.digits_ne_nil) (isAsciiDigit_of_mem_row hparts)
        (not_isNumeralChar_of_mem_rest hparts),
      hmargin, List.length_map, and_comm, and_iff_right hbefore]

/-! ## The number that is read -/

/-- A digit of any script keeps its value when it is read as an ASCII digit. -/
theorem digitValue?_plain {c : Char} (h : isDigit c = true) :
    digitValue? (plain c) = digitValue? c := by
  have hblank := isBlank_of_isDigit h
  obtain ⟨value, hvalue⟩ := Option.isSome_iff_exists.mp h
  rw [plain]
  split
  · rfl
  · obtain ⟨_, _, _, hlt⟩ := digitValue?_eq_some hvalue
    rw [hblank, hvalue]
    simp only [Bool.false_eq_true, if_false]
    interval_cases value <;> rfl

theorem valueOf_map_plain {digits : List Char} (h : ∀ c ∈ digits, isDigit c = true) :
    valueOf (digits.map plain) = valueOf digits := by
  rw [valueOf, valueOf, List.foldl_map]
  refine List.foldl_ext _ _ 0 fun value c hc => ?_
  rw [digitValue?_plain (h c hc)]

/-- What is read of an integer text is the value of its digits, with its sign. -/
theorem eq_of_readInteger_eq_ok {text : String} {before sign digits after : List Char}
    (hparts : IntegerParts text.toList before sign digits after) {n : Int}
    (h : readInteger text = .ok n) :
    n = if sign.isEmpty then (valueOf digits : Int) else -valueOf digits := by
  have hbefore : ∀ c ∈ before, isSeparator c = false := by
    by_contra hsome
    have hfails :=
      readInteger_of_separator hparts.joined hparts.isBlank_before (by simpa using hsome)
    rw [h] at hfails
    cases hfails
  rw [readInteger_eq_of_digits (takeSign_parts hparts hbefore)
    (by simpa using hparts.digits_ne_nil) (isAsciiDigit_of_mem_row hparts)
    (not_isNumeralChar_of_mem_rest hparts), valueOf_map_plain hparts.isDigit_digits] at h
  split at h
  · cases h
  · split at h
    · cases sign <;> cases h <;> rfl
    · cases h

end SearchFilter.Number
