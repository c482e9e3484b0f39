import Atlas.Audit.Filtering

/-!
# Atlas.Audit.PageNumbers

What `AuditEventRepository.query` computes from the numbers of a request.

`AuditQueryParams` turns `page` and `limit` into numbers and checks neither, so
any double may arrive.  The results here are about doubles, rounded as the
machine does; where nothing needs to be rounded they are those of `query`.
-/

namespace Atlas

open StoreKit

/-! ## The numbers of a page -/

namespace AuditEventRepository

open Js (Double)

/-- `page`, `limit` and `skip` of `query`. -/
structure PageNumbers where
  page : Double
  limit : Double
  skip : Double

/-- The first three lines of `query`. -/
def pageNumbers (page limit : Option Double) : PageNumbers :=
  let page := page.getD 1
  let limit := (limit.getD (.literal 50 (by decide))).min (.literal 200 (by decide))
  { page, limit, skip := page.pred.mul limit }

/-- `totalPages` of `buildPaginationMeta`. -/
def totalPages (limit : Double) (total : Double.Count) : Double := (Double.quotient total limit).ceil

/-- There are as many pages as the rows fill. -/
def FillsPages (n t : Int) (total : Nat) : Prop := 0 < total → (t - 1) * n < total ∧ total ≤ t * n

/-- The page starts at a row and has between 1 and 200 rows, and there are as
many pages as the rows fill. -/
structure PagingSafe (numbers : PageNumbers) (total : Double.Count) : Prop where
  skip : ∃ k : Nat, numbers.skip.number = k
  take : ∃ n : Nat, (1 ≤ n ∧ n ≤ 200) ∧ numbers.limit.number = n ∧
    ∃ t : Int, (totalPages numbers.limit total).number = .of t ∧ FillsPages n t total.rows

/-! ## Limits -/

/-- The rows a request asks for on a page. -/
def PageSize (limit : Option Double) (n : Nat) : Prop :=
  match limit with
  | none => n = 50
  | some limit =>
    match limit.number with
    | .posInfinity => n = 200
    | .of q => (200 ≤ q ∧ n = 200) ∨ (q = n ∧ 1 ≤ n ∧ n ≤ 200)
    | _ => False

theorem min_ofNat_eq_iff (q : Rat) (n : Nat) :
    (1 ≤ n ∧ n ≤ 200) ∧ (Js.Number.of q).min 200 = n ↔
      200 ≤ q ∧ n = 200 ∨ q = n ∧ 1 ≤ n ∧ n ≤ 200 := by
  have hmin : (Js.Number.of q).min 200 = .of (if q ≤ 200 then q else 200) := rfl
  have htwo : (200 : Rat) = n ↔ n = 200 := by
    constructor
    · intro h
      exact_mod_cast h.symm
    · rintro rfl
      rfl
  rw [hmin, Js.Number.natCast_eq, Js.Number.of.injEq]
  by_cases hq : q ≤ 200
  · rw [if_pos hq]
    constructor
    · rintro ⟨hn, h⟩
      exact .inr ⟨h, hn⟩
    · rintro (⟨hle, rfl⟩ | ⟨h, hn⟩)
      · exact ⟨by omega, le_antisymm hq hle⟩
      · exact ⟨hn, h⟩
  · rw [if_neg hq, htwo]
    constructor
    · rintro ⟨-, h⟩
      exact .inl ⟨(not_le.mp hq).le, h⟩
    · rintro (⟨-, h⟩ | ⟨h, -, hn⟩)
      · exact ⟨by omega, h⟩
      · have hcast : (n : Rat) ≤ 200 := by exact_mod_cast hn
        exact absurd (le_of_eq_of_le h hcast) hq

/-- The limit is a number of rows in range exactly where the request asks for
one. -/
theorem limit_number_iff (page limit : Option Double) (n : Nat) :
    (1 ≤ n ∧ n ≤ 200) ∧ (pageNumbers page limit).limit.number = n ↔ PageSize limit n := by
  have hof : ∀ m : Nat, (m : Js.Number) = n ↔ n = m := by
    intro m
    rw [Js.Number.natCast_eq, Js.Number.natCast_eq, Js.Number.of.injEq, Nat.cast_inj]
    exact eq_comm
  cases limit with
  | none =>
      have hnumber : (pageNumbers page none).limit.number = (50 : Nat) :=
        Js.Number.min_natCast 50 200
      rw [hnumber, hof, PageSize]
      omega
  | some limit =>
      have hnumber : (pageNumbers page (some limit)).limit.number = limit.number.min 200 := rfl
      rw [hnumber, PageSize]
      cases hlimit : limit.number with
      | nan => exact iff_of_false (fun h => by cases h.2) id
      | negInfinity => exact iff_of_false (fun h => by cases h.2) id
      | posInfinity =>
          have hmin : Js.Number.posInfinity.min 200 = ((200 : Nat) : Js.Number) := rfl
          rw [hmin, hof]
          simp only
          omega
      | of q => exact min_ofNat_eq_iff q n

/-! ## Offsets -/

/-- The page starts at a row: it is a first or later page, its rows end before
the numbers do, and the rows before it are near enough to a whole number. -/
def StartsAtRow (page : Option Double) (n : Nat) : Prop :=
  match page with
  | none => True
  | some page =>
    match page.number with
    | .of p => 1 ≤ p ∧ n * p < Binary64.overflow ∧ Binary64.NearWhole ((p - 1) * n)
    | _ => False

/-- The rows before a page, in whole numbers or not. -/
theorem nearWhole_round_iff {p : Rat} (hp : Binary64.Representable p) (hone : 1 ≤ p) (n : Nat) :
    Binary64.NearWhole (Binary64.round (p - 1) * n) ↔ Binary64.NearWhole ((p - 1) * n) := by
  by_cases hfine : Binary64.exponent p ≤ 0
  · rw [Binary64.round_sub_one hp hone hfine]
  · have hwhole : ∀ k : Int, Binary64.NearWhole ((k : Rat) * n) := fun k => by
      have h := Binary64.nearWhole_intCast (k * n)
      push_cast at h
      exact h
    obtain ⟨m, hm⟩ := hp.multiple
    obtain ⟨k, hk⟩ := Binary64.multiple_intCast (not_le.mp hfine).le m
    have hpred : p - 1 = ((k - 1 : Int) : Rat) := by
      push_cast
      rw [← hk, ← Binary64.spacing, ← hm]
    obtain ⟨j, hj⟩ := (Binary64.whole_round_iff (p - 1)).mpr (hpred ▸ Binary64.nearWhole_intCast _)
    rw [hj, hpred]
    exact iff_of_true (hwhole j) (hwhole (k - 1))

/-- The rows before a page are counted as those up to its end are. -/
theorem offset_fits_iff {p : Rat} (hp : Binary64.Representable p) (hone : 1 ≤ p) {n : Nat}
    (hn : n ≤ 200) :
    |Binary64.round (p - 1) * n| < Binary64.overflow ↔ n * p < Binary64.overflow := by
  have hzero : (0 : Rat) ≤ n := Nat.cast_nonneg n
  have hcast : (n : Rat) ≤ 200 := by exact_mod_cast hn
  have hround : 0 ≤ Binary64.round (p - 1) := Binary64.round_nonneg (by grind)
  rw [abs_of_nonneg (mul_nonneg hround hzero)]
  by_cases hlarge : 2 ^ 55 ≤ p
  · rw [Binary64.round_sub_one_large hp hlarge, mul_comm]
  · have hle := Binary64.round_sub_one_le hp hone
    have hmax : (200 : Rat) * 2 ^ 55 < Binary64.overflow := by decide +kernel
    have hup : n * p ≤ 200 * 2 ^ 55 :=
      mul_le_mul hcast (not_le.mp hlarge).le (by grind) (by grind)
    have hdown : Binary64.round (p - 1) * n ≤ n * p := by
      rw [mul_comm]
      exact mul_le_mul_of_nonneg_left hle hzero
    exact iff_of_true (lt_of_le_of_lt (le_trans hdown hup) hmax) (lt_of_le_of_lt hup hmax)

/-- The offset of a finite page is a number of rows from page one on, where it does not
overflow and the product is near a whole number. -/
theorem offset_iff {p : Rat} (hp : Binary64.Representable p) {n : Nat} (hn : 1 ≤ n ∧ n ≤ 200) :
    (∃ k : Nat, (Js.Number.of (Binary64.round (p - 1) * n)).rounded = k) ↔
      1 ≤ p ∧ n * p < Binary64.overflow ∧ Binary64.NearWhole ((p - 1) * n) := by
  have hone : (1 : Rat) ≤ n := by exact_mod_cast hn.1
  by_cases hpage : 1 ≤ p
  · rw [← offset_fits_iff hp hpage hn.2, ← nearWhole_round_iff hp hpage, ← Binary64.whole_round_iff]
    have hround : 0 ≤ Binary64.round (p - 1) := Binary64.round_nonneg (by grind)
    have hoffset : 0 ≤ Binary64.round (Binary64.round (p - 1) * n) :=
      Binary64.round_nonneg (mul_nonneg hround (by grind))
    constructor
    · rintro ⟨k, hk⟩
      obtain ⟨hfits, hk⟩ := Js.Number.rounded_eq_of_iff.mp hk
      exact ⟨hpage, hfits, k, by exact_mod_cast hk⟩
    · rintro ⟨-, hfits, k, hk⟩
      rw [hk] at hoffset
      obtain ⟨j, rfl⟩ := Int.eq_ofNat_of_zero_le (by exact_mod_cast hoffset : 0 ≤ k)
      exact ⟨j, Js.Number.rounded_eq_of_iff.mpr ⟨hfits, by exact_mod_cast hk⟩⟩
  · -- a page below one is below it by more than rounding takes away
    refine iff_of_false ?_ fun h => hpage h.1
    rintro ⟨k, hk⟩
    obtain ⟨-, hk⟩ := Js.Number.rounded_eq_of_iff.mp hk
    have hpred := Binary64.round_le_neg (hp.sub_one_le (not_le.mp hpage))
    have htick := Binary64.tick_pos
    have hmul : Binary64.round (p - 1) * n ≤ Binary64.round (p - 1) := by
      have h := mul_le_mul_of_nonpos_left hone (by grind : Binary64.round (p - 1) ≤ 0)
      rwa [mul_one] at h
    have hneg := Binary64.round_le_neg (le_trans hmul hpred)
    have hk' : (0 : Rat) ≤ k := Nat.cast_nonneg k
    rw [hk] at hneg
    grind

/-- **The offset is a number of rows exactly where the page starts at one.** -/
theorem skip_number_iff (page limit : Option Double) {n : Nat} (hn : 1 ≤ n ∧ n ≤ 200)
    (hlimit : (pageNumbers page limit).limit.number = n) :
    (∃ k : Nat, (pageNumbers page limit).skip.number = k) ↔ StartsAtRow page n := by
  have hskip : (pageNumbers page limit).skip.number =
      ((pageNumbers page limit).page.pred.number.mul n).rounded := by
    rw [← hlimit]
    rfl
  have hinfinite : ∀ q r : Rat, (Js.Number.infinity q).rounded ≠ .of r := fun q r => by
    rw [Js.Number.rounded_infinity]
    exact Js.Number.infinity_ne_of q r
  rw [hskip]
  cases page with
  | none =>
      have hone : Binary64.Representable 1 := (Double.literal 1 (by decide)).stored 1 rfl
      have hpred : (pageNumbers none limit).page.pred.number = .of (Binary64.round (1 - 1)) :=
        Js.Number.rounded_of hone.abs_sub_one_lt
      have hcast : (n : Rat) ≤ 200 := by exact_mod_cast hn.2
      have hmax : (200 : Rat) < Binary64.overflow := by decide +kernel
      have hnear : Binary64.NearWhole ((1 - 1) * n) := by
        rw [sub_self, zero_mul]
        exact Binary64.nearWhole_intCast 0
      rw [hpred]
      refine iff_of_true ((offset_iff hone hn).mpr ⟨le_refl 1, ?_, hnear⟩) trivial
      rw [mul_one]
      exact lt_of_le_of_lt hcast hmax
  | some page =>
      have hpred : (pageNumbers (some page) limit).page.pred.number = page.number.pred.rounded := rfl
      rw [hpred, StartsAtRow]
      cases hpage : page.number with
      | nan => exact iff_of_false (by rintro ⟨k, hk⟩; cases hk) id
      | posInfinity => exact iff_of_false (by rintro ⟨k, hk⟩; exact hinfinite _ _ hk) id
      | negInfinity => exact iff_of_false (by rintro ⟨k, hk⟩; exact hinfinite _ _ hk) id
      | of p =>
          have hstored := page.stored p hpage
          have hround : (Js.Number.of p).pred.rounded = .of (Binary64.round (p - 1)) :=
            Js.Number.rounded_of hstored.abs_sub_one_lt
          rw [hround]
          exact offset_iff hstored hn

/-! ## Pages -/

/-- Rounding the number of pages does not take it past a whole number. -/
def KeepsCeiling (n total : Nat) : Prop :=
  total < 2 ^ 53 ∨ ⌈Binary64.round (total / n : Rat)⌉ = ⌈(total / n : Rat)⌉

theorem keepsCeiling_iff {n : Nat} (hn : 1 ≤ n ∧ n ≤ 200) (total : Nat) :
    KeepsCeiling n total ↔ ⌈Binary64.round (total / n : Rat)⌉ = ⌈(total / n : Rat)⌉ := by
  constructor
  · rintro (hsmall | hkeeps)
    · exact Binary64.ceil_round_div hsmall hn.1 (by omega)
    · exact hkeeps
  · exact .inr

/-- The pages the rows fill are the ceiling of the quotient. -/
theorem fillsPages_iff {n : Nat} (hn : 1 ≤ n) (t : Int) (total : Nat) :
    FillsPages n t total ↔ (0 < total → ⌈(total / n : Rat)⌉ = t) := by
  have hpos : (0 : Rat) < n := by exact_mod_cast hn
  refine imp_congr_right fun _ => ?_
  rw [Int.ceil_eq_iff, lt_div_iff₀ hpos, div_le_iff₀ hpos]
  exact and_congr (by exact_mod_cast Iff.rfl) (by exact_mod_cast Iff.rfl)

theorem div_natCast {n : Nat} (hn : 1 ≤ n) (total : Nat) :
    (total : Js.Number).div n = .of (total / n) := by
  have hne : (n : Rat) ≠ 0 := by exact_mod_cast (by omega : n ≠ 0)
  exact if_neg hne

theorem totalPages_number (limit : Double) (total : Double.Count) {n : Nat} (hn : 1 ≤ n)
    (hlimit : limit.number = n) : (totalPages limit total).number =
      .of (⌈Binary64.round (total.rows / n : Rat)⌉ : Int) := by
  have hone : (1 : Rat) ≤ n := by exact_mod_cast hn
  have hzero : (0 : Rat) ≤ total.rows := Nat.cast_nonneg _
  have hfits : |(total.rows / n : Rat)| < Binary64.overflow := by
    rw [abs_of_nonneg (div_nonneg hzero (by grind))]
    refine lt_of_le_of_lt (div_le_self hzero hone) ?_
    have habs := total.stored.lt_overflow
    rwa [abs_of_nonneg hzero] at habs
  rw [totalPages, Double.ceil_number, Double.quotient_number, hlimit, div_natCast hn,
    Js.Number.rounded_of hfits, Js.Number.ceil, Js.Number.ratCeil_eq]

/-- **The pages are as many as the rows fill exactly where the quotient keeps its
ceiling.** -/
theorem totalPages_iff (limit : Double) (total : Double.Count) {n : Nat} (hn : 1 ≤ n ∧ n ≤ 200)
    (hlimit : limit.number = n) :
    (∃ t : Int, (totalPages limit total).number = .of t ∧ FillsPages n t total.rows) ↔
      KeepsCeiling n total.rows := by
  rw [keepsCeiling_iff hn, totalPages_number limit total hn.1 hlimit]
  constructor
  · rintro ⟨t, ht, hfills⟩
    have ht' : ⌈Binary64.round (total.rows / n : Rat)⌉ = t := by
      exact_mod_cast Js.Number.of.inj ht
    rw [fillsPages_iff hn.1] at hfills
    by_cases hrows : 0 < total.rows
    · rw [ht', hfills hrows]
    · have hempty : total.rows = 0 := by omega
      rw [hempty, Nat.cast_zero, zero_div, Binary64.round_zero]
  · intro hkeeps
    exact ⟨_, rfl, (fillsPages_iff hn.1 _ _).mpr fun _ => hkeeps.symm⟩

/-- **The paging arithmetic is safe exactly for a limit that asks for rows, a
page that starts at one, and a total whose pages survive rounding.** -/
theorem paging_safe_iff (page limit : Option Double) (total : Double.Count) :
    PagingSafe (pageNumbers page limit) total ↔
      ∃ n, PageSize limit n ∧ StartsAtRow page n ∧ KeepsCeiling n total.rows := by
  constructor
  · rintro ⟨hskip, n, hn, hlimit, hpages⟩
    exact ⟨n, (limit_number_iff page limit n).mp ⟨hn, hlimit⟩,
      (skip_number_iff page limit hn hlimit).mp hskip, (totalPages_iff _ total hn hlimit).mp hpages⟩
  · rintro ⟨n, hsize, hstarts, hkeeps⟩
    obtain ⟨hn, hlimit⟩ := (limit_number_iff page limit n).mpr hsize
    exact ⟨(skip_number_iff page limit hn hlimit).mpr hstarts, n, hn, hlimit,
      (totalPages_iff _ total hn hlimit).mpr hkeeps⟩

/-- Page 0 is not safe, since pages are counted from one. -/
theorem zeroth_page_unsafe :
    ¬ PagingSafe (pageNumbers (some (.literal 0 (by decide))) none) ⟨1, 1, 0, by decide +kernel⟩ := by
  rintro ⟨⟨k, hk⟩, -⟩
  have hskip : (pageNumbers (some (.literal 0 (by decide))) none).skip.number = .of (-50) := by
    decide +kernel
  rw [hskip] at hk
  have hneg := Js.Number.of.inj hk
  have hk' : (0 : Rat) ≤ k := Nat.cast_nonneg k
  grind

/-- The numbers of `query`, given those of a request. -/
theorem numbers_eq (page limit : Option Double) :
    skipOf ⟨page.map Double.number, limit.map Double.number⟩ = (pageNumbers page limit).skip.number ∧
      limitOf ⟨page.map Double.number, limit.map Double.number⟩ =
        (pageNumbers page limit).limit.number := by
  cases page <;> cases limit <;> exact ⟨rfl, rfl⟩

theorem totalPages_eq (limit : Double) (total : Double.Count) (page : Js.Number) :
    (buildPaginationMeta .binary64 page limit.number total.rows).totalPages =
      (totalPages limit total).number := rfl

/-- Where nothing needs to be rounded the numbers are exact. -/
theorem numbers_exact (page limit : Option Double) (total : Double.Count) {p n : Nat}
    (hpage : (pageNumbers page limit).page.number = (p + 1 : Nat)) (hp : p < 2 ^ 53)
    (hlimit : (pageNumbers page limit).limit.number = n) (hn : 1 ≤ n ∧ n ≤ 200)
    (hskip : p * n < 2 ^ 53) (htotal : total.rows < 2 ^ 53) :
    (pageNumbers page limit).skip.number =
        (pageNumbers page limit).page.number.pred.mul (pageNumbers page limit).limit.number ∧
      (totalPages (pageNumbers page limit).limit total).number =
        ((total.rows : Js.Number).div (pageNumbers page limit).limit.number).ceil := by
  constructor
  · have hnumber : (pageNumbers page limit).skip.number =
        ((pageNumbers page limit).page.number.pred.rounded.mul
          (pageNumbers page limit).limit.number).rounded := rfl
    rw [hnumber, hpage, hlimit, Js.Number.pred_natCast, Double.rounded_natCast hp,
      Js.Number.mul_natCast, Double.rounded_natCast hskip]
  · rw [totalPages_number _ total hn.1 hlimit, hlimit, div_natCast hn.1,
      Js.Number.ceil, Js.Number.ratCeil_eq,
      (keepsCeiling_iff hn total.rows).mp (.inl htotal)]

/-- A safe page whose rows the server can number is not refused. -/
theorem accepted_of_safe {numbers : PageNumbers} {total : Double.Count} {k : Nat}
    (h : PagingSafe numbers total) (hk : numbers.skip.number = k) (hend : k < bigintEnd) :
    Typeorm.PageAccepted numbers.skip.number numbers.limit.number := by
  obtain ⟨-, n, hn, hlimit, -⟩ := h
  rw [hk, hlimit]
  have hlimitEnd : n < bigintEnd := by
    rw [bigintEnd]
    omega
  refine ⟨Typeorm.checkNumbers_natCast k n, .inr ⟨k, ?_⟩, .inr ⟨n, ?_⟩⟩
  · rw [Typeorm.clause_natCast, if_pos hend]
  · rw [Typeorm.clause_natCast, if_pos hlimitEnd]

end AuditEventRepository

end Atlas
