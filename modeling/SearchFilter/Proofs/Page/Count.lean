import SearchFilter.Page
import SearchFilter.Proofs.Number.Quotient

/-!
# The number of pages

The number of pages is computed in double precision, while the entries fill `exactCount` pages.

* By the number of full pages there are three cases: `pageCount_of_lt`, `pageCount_of_div_lt` and
  `pageCount_of_le_div`.
* `CountsExactly` says when the number of pages is exact (`pageCount_eq_ok_iff`).  Up to `2 ^ 53`
  entries it always is, whatever the size of a page (`pageCount_eq`).

The main result is `totalPages_isLeast_iff`: a page of results tells the least number of pages that
hold all entries (`IsCounted`), and where the pages end (`IsBounded`), exactly in these cases.
-/

namespace SearchFilter.Page

open SearchFilter.Number

/-- The number of pages that a number of entries fills, at least one. -/
def exactCount (total perPage : Nat) : Nat :=
  max 1 ⌈(total / perPage : ℚ)⌉₊

variable {total perPage : Nat}

/-! ## Places -/

theorem one_le_exactCount (total perPage : Nat) : 1 ≤ exactCount total perPage :=
  le_max_left _ _

/-- All entries are on the pages. -/
theorem le_mul_exactCount (total : Nat) (hperPage : 0 < perPage) :
    total ≤ perPage * exactCount total perPage := by
  have hperPage' : (0 : ℚ) < perPage := by exact_mod_cast hperPage
  have hceil : (total / perPage : ℚ) ≤ exactCount total perPage :=
    (Nat.le_ceil _).trans (by exact_mod_cast le_max_right _ _)
  rw [div_le_iff₀ hperPage', mul_comm] at hceil
  exact_mod_cast hceil

/-- Before the last page there are more entries than the pages so far hold. -/
theorem mul_lt_of_lt_exactCount (hperPage : 0 < perPage) {number : Nat} (hnumber : 1 ≤ number)
    (h : number < exactCount total perPage) : perPage * number < total := by
  have hperPage' : (0 : ℚ) < perPage := by exact_mod_cast hperPage
  have hceil : number < ⌈(total / perPage : ℚ)⌉₊ := by
    rcases lt_max_iff.mp h with hone | hceil
    · omega
    · exact hceil
  rw [Nat.lt_ceil, lt_div_iff₀ hperPage', mul_comm] at hceil
  exact_mod_cast hceil

/-- No fewer pages hold all entries. -/
theorem isLeast_exactCount (total : Nat) (hperPage : 0 < perPage) :
    IsLeast {n : Int | 1 ≤ n ∧ (total : Int) ≤ n * perPage} (exactCount total perPage : Nat) := by
  refine ⟨⟨by exact_mod_cast one_le_exactCount total perPage, ?_⟩, ?_⟩
  · rw [mul_comm]
    exact_mod_cast le_mul_exactCount total hperPage
  · rintro n ⟨hn, hle⟩
    lift n to Nat using by omega
    have hle' : total ≤ perPage * n := by
      rw [mul_comm]
      exact_mod_cast hle
    by_contra hlt
    have hbefore : perPage * n < total :=
      mul_lt_of_lt_exactCount hperPage (by omega) (by omega)
    omega

/-- Some entries are on the last page. -/
theorem mul_exactCount_lt (htotal : 0 < total) (hperPage : 0 < perPage) :
    perPage * exactCount total perPage < total + perPage := by
  rcases Nat.eq_or_lt_of_le (one_le_exactCount total perPage) with hone | hmore
  · rw [← hone]
    omega
  · obtain ⟨number, hnumber⟩ := Nat.exists_eq_add_of_le' hmore.le
    have hlt : perPage * number < total :=
      mul_lt_of_lt_exactCount hperPage (by omega) (by omega)
    rw [hnumber, Nat.mul_succ]
    omega

theorem exactCount_of_le (hperPage : 0 < perPage) (h : total ≤ perPage) :
    exactCount total perPage = 1 := by
  refine Nat.le_antisymm (Nat.le_of_not_lt fun hlt => ?_) (one_le_exactCount total perPage)
  have := mul_lt_of_lt_exactCount hperPage le_rfl hlt
  omega

/-- The full pages, and one more for what is left over. -/
theorem exactCount_eq (hperPage : 0 < perPage) (h : perPage ≤ total) :
    exactCount total perPage = total / perPage + if total % perPage = 0 then 0 else 1 := by
  have hle := le_mul_exactCount total hperPage
  have hlt := mul_exactCount_lt (hperPage.trans_le h) hperPage
  have hdiv := Nat.div_add_mod total perPage
  have hrest := Nat.mod_lt total hperPage
  generalize exactCount total perPage = count at *
  generalize total / perPage = whole at *
  generalize total % perPage = rest at *
  have hcompare : ∀ a b : Nat, perPage * a < perPage * b + perPage → a ≤ b := fun a b hab =>
    Nat.le_of_lt_succ (Nat.lt_of_mul_lt_mul_left (Nat.mul_succ perPage b ▸ hab))
  split_ifs with hzero
  · rw [add_zero]
    exact Nat.le_antisymm (hcompare _ _ (by omega)) (hcompare _ _ (by omega))
  · refine Nat.le_antisymm (hcompare _ _ ?_) (hcompare _ _ ?_) <;> rw [Nat.mul_succ] <;> omega

/-! ## Counting in double precision -/

/-- The number of pages is the ceiling of the rounded quotient, unless that is too large. -/
theorem pageCount_natCast (total : Nat) (hperPage : 0 < perPage) :
    pageCount total perPage =
      if overflowBound * perPage ≤ total then .error .quotientTooLarge
      else .ok (max 1 ⌈rounded total perPage⌉) := by
  have hquotient : Binary64.ofQuotient total perPage = Binary64.ofRatio false total perPage := by
    rw [Binary64.ofQuotient, decide_eq_false (by omega), Int.natAbs_natCast]
  rw [pageCount, if_neg (by omega), Int.toNat_natCast, hquotient,
    ceiling?_ofRatio_eq_ite total hperPage]
  split_ifs <;> rfl

theorem pageCount_of_lt (h : total < perPage) : pageCount total perPage = .ok 1 := by
  have hperPage : 0 < perPage := by omega
  have hbound := lt_overflowBound_mul hperPage (by rw [Nat.div_eq_of_lt h]; decide)
  rw [pageCount_natCast total hperPage, if_neg (Nat.not_le.mpr hbound),
    max_eq_left (ceil_rounded_of_lt h)]

/-- Below `2 ^ 53` full pages these are counted, and one more if the quotient stays above. -/
theorem pageCount_of_div_lt (hperPage : 0 < perPage) (hfull : perPage ≤ total)
    (hsmall : total / perPage < 2 ^ 53) :
    pageCount total perPage =
      .ok (total / perPage + (if StaysAbove total perPage then 1 else 0) : Nat) := by
  have hbound := lt_overflowBound_mul hperPage hsmall.le
  have hpos : 0 < total / perPage := Nat.div_pos hfull hperPage
  rw [pageCount_natCast total hperPage, if_neg (Nat.not_le.mpr hbound),
    ceil_rounded_of_div_lt hperPage hfull hsmall, max_eq_right (by omega)]

/-- With more of them the count is a multiple of the spacing. -/
theorem pageCount_of_le_div (hperPage : 0 < perPage) (hlarge : 2 ^ 53 ≤ total / perPage)
    (hbound : total < overflowBound * perPage) :
    pageCount total perPage =
      .ok (roundHalfEven total (perPage * spacing total perPage) *
        spacing total perPage : Nat) := by
  have hwhole : total / perPage ≠ 0 := by omega
  have hone : 1 * (perPage * spacing total perPage) ≤ total := by
    rw [one_mul]
    exact (Nat.mul_le_mul_left perPage (spacing_le_div hwhole)).trans (Nat.mul_div_le total perPage)
  have hspacing : 0 < spacing total perPage := Nat.two_pow_pos _
  have hpos := Nat.mul_pos (le_roundHalfEven (Nat.mul_pos hperPage hspacing) hone) hspacing
  rw [pageCount_natCast total hperPage, if_neg (Nat.not_le.mpr hbound),
    ceil_rounded_of_le_div hperPage hlarge, max_eq_right (by omega)]

/-- When the number of pages is counted exactly.  Below `2 ^ 53` full pages, what is left over must
keep the rounded quotient above the number of full pages.  From there on the number of pages must
itself be a double. -/
def CountsExactly (total perPage : Nat) : Prop :=
  if total / perPage < 2 ^ 53 then
    total / perPage = 0 ∨ total % perPage = 0 ∨ StaysAbove total perPage
  else
    spacing total perPage ∣ exactCount total perPage ∧ total < overflowBound * perPage

instance (total perPage : Nat) : Decidable (CountsExactly total perPage) :=
  inferInstanceAs (Decidable (if total / perPage < 2 ^ 53 then _ else _))

theorem pageCount_eq_ok_iff (hperPage : 0 < perPage) :
    pageCount total perPage = .ok (exactCount total perPage : Nat) ↔
      CountsExactly total perPage := by
  rw [CountsExactly]
  rcases Nat.lt_or_ge total perPage with hnone | hfull
  · have hwhole : total / perPage = 0 := Nat.div_eq_of_lt hnone
    rw [pageCount_of_lt hnone, exactCount_of_le hperPage hnone.le, hwhole]
    simp
  have hpos : 0 < total / perPage := Nat.div_pos hfull hperPage
  split
  · next hsmall =>
    rw [pageCount_of_div_lt hperPage hfull hsmall, exactCount_eq hperPage hfull, Except.ok.injEq,
      Nat.cast_inj, Nat.add_left_cancel_iff]
    by_cases hstays : StaysAbove total perPage
    · simp [hstays, hstays.mod_ne_zero hperPage]
    · simp [hstays, hpos.ne']
  · next hlarge =>
    by_cases hbound : total < overflowBound * perPage
    · rw [pageCount_of_le_div hperPage (Nat.le_of_not_lt hlarge) hbound, Except.ok.injEq,
        Nat.cast_inj, roundHalfEven_mul_eq_iff hperPage (two_le_spacing (Nat.le_of_not_lt hlarge))]
      · simp [hbound]
      · rw [mul_comm]
        exact le_mul_exactCount total hperPage
      · rw [mul_comm]
        exact mul_exactCount_lt (by omega) hperPage
    · rw [pageCount_natCast total hperPage, if_pos (Nat.le_of_not_lt hbound)]
      simp [hbound]

/-- With up to `2 ^ 53` entries the doubles are close enough. -/
theorem countsExactly_of_le (htotal : total ≤ 2 ^ 53) (hperPage : 0 < perPage) :
    CountsExactly total perPage := by
  have hdiv : perPage * (total / perPage) + total % perPage = total := Nat.div_add_mod total perPage
  rw [CountsExactly]
  split
  · next hsmall =>
    by_cases hwhole : total / perPage = 0
    · exact .inl hwhole
    by_cases hzero : total % perPage = 0
    · exact .inr (.inl hzero)
    exact .inr (.inr (staysAbove_of_le hperPage htotal hwhole hzero))
  · next hlarge =>
    have hmul := Nat.mul_le_mul_left perPage (Nat.le_of_not_lt hlarge)
    obtain rfl : perPage = 1 := by omega
    obtain rfl : total = 2 ^ 53 := by omega
    rw [exactCount_eq hperPage (by decide)]
    exact ⟨by decide +kernel, lt_overflowBound_mul hperPage (by decide)⟩

/-- Up to `2 ^ 53` entries the number of pages is exact. -/
theorem pageCount_eq (htotal : total ≤ 2 ^ 53) (hperPage : 0 < perPage) :
    pageCount total perPage = .ok (exactCount total perPage : Nat) :=
  (pageCount_eq_ok_iff hperPage).mpr (countsExactly_of_le htotal hperPage)

/-! ## The pages of a page of results -/

/-- The number of pages is told, and it is the least that holds all entries. -/
def IsCounted (page : Page) : Prop :=
  ∃ count, page.totalPages = .ok count ∧
    IsLeast {n : Int | 1 ≤ n ∧ page.totalEntries ≤ n * page.perPage} count

/-- It is told of every page whether it lies after the last: if all entries are on the pages before
it, and it is not the first. -/
def IsBounded (page : Page) : Prop :=
  ∀ number : Int, ({ page with currentPage := number } : Page).isOutOfBounds =
    .ok (decide (page.totalEntries ≤ (number - 1) * page.perPage ∧ number ≠ 1))

/-- The pages after the last page start at the end of the entries, or later. -/
theorem lt_iff_of_isLeast {entries size count number : Int} (hentries : 0 ≤ entries)
    (hsize : 1 ≤ size) (hleast : IsLeast {n : Int | 1 ≤ n ∧ entries ≤ n * size} count) :
    count < number ↔ entries ≤ (number - 1) * size ∧ number ≠ 1 := by
  obtain ⟨⟨hone, hle⟩, hlower⟩ := hleast
  constructor
  · intro hlt
    refine ⟨hle.trans (mul_le_mul_of_nonneg_right (by omega) (by omega)), by omega⟩
  · rintro ⟨hend, hnumber⟩
    have hpos : 0 ≤ number - 1 := by
      by_contra hneg
      have hbefore : (number - 1) * size ≤ -1 * size :=
        mul_le_mul_of_nonneg_right (by omega) (by omega)
      omega
    have := hlower ⟨by omega, hend⟩
    omega

theorem isOutOfBounds_of_totalPages {page : Page} {count : Int} (h : page.totalPages = .ok count)
    (number : Int) :
    ({ page with currentPage := number } : Page).isOutOfBounds = .ok (decide (count < number)) := by
  show page.totalPages.map (fun total => decide (total < number)) = _
  rw [h]
  rfl

section Counted

variable (page : Page) (htotal : 0 ≤ page.totalEntries) (hperPage : 1 ≤ page.perPage)

include htotal hperPage

theorem isLeast_exactCount_toNat :
    IsLeast {n : Int | 1 ≤ n ∧ page.totalEntries ≤ n * page.perPage}
      (exactCount page.totalEntries.toNat page.perPage.toNat : Nat) := by
  have hleast := isLeast_exactCount page.totalEntries.toNat (by omega : 0 < page.perPage.toNat)
  rwa [Int.toNat_of_nonneg htotal, Int.toNat_of_nonneg (by omega)] at hleast

theorem totalPages_eq :
    page.totalPages = pageCount page.totalEntries.toNat page.perPage.toNat := by
  rw [totalPages, Int.toNat_of_nonneg htotal, Int.toNat_of_nonneg (by omega)]

theorem totalPages_eq_ite :
    page.totalPages =
      if overflowBound * page.perPage ≤ page.totalEntries then .error .quotientTooLarge
      else .ok (max 1 ⌈rounded page.totalEntries.toNat page.perPage.toNat⌉) := by
  have hbound : overflowBound * page.perPage ≤ page.totalEntries ↔
      overflowBound * page.perPage.toNat ≤ page.totalEntries.toNat := by
    rw [← Int.ofNat_le]
    push_cast
    rw [Int.toNat_of_nonneg htotal, Int.toNat_of_nonneg (by omega)]
  rw [totalPages_eq page htotal hperPage, pageCount_natCast _ (by omega)]
  simp only [hbound]

theorem isCounted_iff :
    IsCounted page ↔ CountsExactly page.totalEntries.toNat page.perPage.toNat := by
  have hleast := isLeast_exactCount_toNat page htotal hperPage
  rw [← pageCount_eq_ok_iff (by omega), ← totalPages_eq page htotal hperPage]
  constructor
  · rintro ⟨count, hcount, hleast'⟩
    rw [hcount, hleast'.unique hleast]
  · intro h
    exact ⟨_, h, hleast⟩

/-- Where the pages end is known of every page only if their number is exact. -/
theorem isBounded_iff : IsBounded page ↔ IsCounted page := by
  have hleast := isLeast_exactCount_toNat page htotal hperPage
  constructor
  · intro h
    cases hpages : page.totalPages with
    | error failure =>
      have hfirst := h 1
      rw [isOutOfBounds, totalPages] at hfirst
      rw [totalPages] at hpages
      rw [hpages] at hfirst
      exact absurd hfirst (by simp [Except.map])
    | ok count =>
      -- Two numbers with the same numbers above them are equal.
      have hsame : ∀ number : Int, count < number ↔
          (exactCount page.totalEntries.toNat page.perPage.toNat : Nat) < number := by
        intro number
        have hnumber := h number
        rw [isOutOfBounds_of_totalPages hpages, Except.ok.injEq, decide_eq_decide] at hnumber
        rw [hnumber, lt_iff_of_isLeast htotal hperPage hleast]
      refine ⟨count, hpages, ?_⟩
      rwa [show count = _ from eq_of_forall_gt_iff hsame]
  · rintro ⟨count, hcount, hleast'⟩ number
    rw [isOutOfBounds_of_totalPages hcount]
    simp only [lt_iff_of_isLeast htotal hperPage hleast']

end Counted

/-- The number of pages is the least that holds all entries exactly when double precision allows it,
and exactly then it is known of every page whether it lies after the last.  Up to `2 ^ 53` entries
that is so.  There is no number of pages only if the quotient is past the greatest double. -/
theorem totalPages_isLeast_iff (page : Page) (htotal : 0 ≤ page.totalEntries)
    (hperPage : 1 ≤ page.perPage) :
    (IsCounted page ↔ CountsExactly page.totalEntries.toNat page.perPage.toNat) ∧
      (IsBounded page ↔ IsCounted page) ∧
      (page.totalEntries ≤ 2 ^ 53 → IsCounted page) ∧
      (page.totalPages = .error .quotientTooLarge ↔
        overflowBound * page.perPage ≤ page.totalEntries) ∧
      ((∃ count, page.totalPages = .ok count) ↔
        page.totalEntries < overflowBound * page.perPage) := by
  have hcounted := isCounted_iff page htotal hperPage
  have hsmall : page.totalEntries ≤ 2 ^ 53 → IsCounted page := fun hle =>
    hcounted.mpr (countsExactly_of_le (by omega) (by omega))
  have hpages := totalPages_eq_ite page htotal hperPage
  refine ⟨hcounted, isBounded_iff page htotal hperPage, hsmall, ?_⟩
  rw [← Int.not_le]
  by_cases hlarge : overflowBound * page.perPage ≤ page.totalEntries
  · rw [if_pos hlarge] at hpages
    refine ⟨iff_of_true hpages hlarge, iff_of_false ?_ (not_not.mpr hlarge)⟩
    rintro ⟨count, hcount⟩
    rw [hpages] at hcount
    cases hcount
  · rw [if_neg hlarge] at hpages
    refine ⟨iff_of_false ?_ hlarge, iff_of_true ⟨_, hpages⟩ hlarge⟩
    rw [hpages]
    exact nofun

/-- Three entries beyond `2 ^ 52` pages of four are enough to be counted as one more page. -/
theorem totalPages_isLeast_iff_quarters :
    let page : Page := ⟨.list [], 2 ^ 54 + 3, 4, 1, .null⟩
    0 ≤ page.totalEntries ∧ 1 ≤ page.perPage ∧ IsCounted page ∧ IsBounded page := by
  intro page
  have htotal : 0 ≤ page.totalEntries := by decide
  have hperPage : 1 ≤ page.perPage := by decide
  obtain ⟨hcounted, hbounded, _⟩ := totalPages_isLeast_iff page htotal hperPage
  have hexact : CountsExactly (2 ^ 54 + 3) 4 := by decide +kernel
  exact ⟨htotal, hperPage, hcounted.mpr hexact, hbounded.mpr (hcounted.mpr hexact)⟩

/-- One entry beyond `2 ^ 53` pages of one entry is not counted, so the page that holds it is taken
for one after the last. -/
theorem not_isCounted_of_odd_total :
    let page : Page := ⟨.list [], 2 ^ 53 + 1, 1, 2 ^ 53 + 1, .null⟩
    ¬ IsCounted page ∧ page.isOutOfBounds = .ok true ∧ page.offset < page.totalEntries := by
  intro page
  have hpages : page.totalPages = .ok (2 ^ 53) := by decide +kernel
  refine ⟨?_, by decide +kernel, by decide⟩
  rintro ⟨count, hcount, ⟨_, hall⟩, _⟩
  obtain rfl : 2 ^ 53 = count := Except.ok.inj (hpages.symm.trans hcount)
  exact absurd hall (by decide)

end SearchFilter.Page
