import Atlas.Lib.Binary64

/-!
# Atlas.Lib.Rounding

Rounding to binary64 keeps the order, the sign and most of the value.

Between two powers of two the spacing is one and the same, so `nearest` decides
(`nearest_mono`); where the power of two lies between the arguments, it is a
double that neither of them is rounded past.
-/

namespace StoreKit.Binary64

/-! ## Signs -/

/-- Ties go to even on both sides of zero. -/
theorem nearest_neg (x : ℚ) : nearest (-x) = -nearest x := by
  by_cases hx : x = ⌊x⌋
  · rw [hx, ← Int.cast_neg, nearest_intCast, nearest_intCast]
  · have hlow := Int.floor_le x
    have hhigh := Int.lt_floor_add_one x
    have hlt : (⌊x⌋ : ℚ) < x := lt_of_le_of_ne hlow (Ne.symm hx)
    have hfloor : ⌊-x⌋ = -⌊x⌋ - 1 := by
      rw [Int.floor_eq_iff]
      push_cast
      constructor <;> grind
    unfold nearest
    rw [hfloor]
    push_cast
    split_ifs <;> first | omega | grind

/-- The exponent does not see the sign. -/
theorem exponent_neg (q : ℚ) : exponent (-q) = exponent q := by
  rw [exponent, exponent, abs_neg]

theorem spacing_neg (q : ℚ) : spacing (-q) = spacing q := by
  rw [spacing, spacing, exponent_neg]

/-- Rounding does not see the sign. -/
theorem round_neg (q : ℚ) : round (-q) = -round q := by
  rw [round, round, spacing_neg, neg_div, nearest_neg]
  push_cast
  exact neg_mul _ _

/-! ## Order -/

/-- Rounding does not go past a multiple of the spacing. -/
theorem round_le_multiple {q : ℚ} {m : ℤ} (h : q ≤ m * spacing q) : round q ≤ m * spacing q := by
  have hpos := spacing_pos q
  have hquotient : q / spacing q ≤ m := by rwa [div_le_iff₀ hpos]
  have hnearest : (nearest (q / spacing q) : ℚ) ≤ m := by exact_mod_cast nearest_le hquotient
  exact mul_le_mul_of_nonneg_right hnearest hpos.le

/-- A multiple of the unit below a number stays below it. -/
theorem multiple_le_round {q : ℚ} {m : ℤ} (h : m * spacing q ≤ q) : m * spacing q ≤ round q := by
  have hpos := spacing_pos q
  have hquotient : (m : ℚ) ≤ q / spacing q := by rwa [le_div_iff₀ hpos]
  have hnearest : (m : ℚ) ≤ nearest (q / spacing q) := by exact_mod_cast le_nearest hquotient
  exact mul_le_mul_of_nonneg_right hnearest hpos.le

/-- The larger of two numbers of different spacing has a power of two below it
that the smaller one is not rounded past. -/
theorem round_mono_of_lt {p q : ℚ} (hp : 0 < p) (hpq : p ≤ q) (h : exponent p < exponent q) :
    round p ≤ round q := by
  have hq : 0 < q := lt_of_lt_of_le hp hpq
  have hmultiple : ∀ e ≤ exponent q + 52, ∃ m : ℤ, (2 : ℚ) ^ (exponent q + 52) = m * 2 ^ e := by
    intro e he
    obtain ⟨m, hm⟩ := multiple_of_le (m := 1) he
    rw [Int.cast_one, one_mul] at hm
    exact ⟨m, hm⟩
  have hbelow : p ≤ 2 ^ (exponent q + 52) := by
    have habs := abs_lt_mul_spacing p
    rw [abs_of_pos hp, spacing, ← zpow_natCast, ← two_zpow_add] at habs
    exact le_trans habs.le (two_zpow_le (by push_cast; omega))
  have habove : (2 : ℚ) ^ (exponent q + 52) ≤ q := by
    have hlow := le_exponent p
    have hmax : exponent q = max (Int.log 2 q - 52) (-1074) := by rw [exponent, abs_of_pos hq]
    have hlog : exponent q + 52 = Int.log 2 q := by omega
    have hle := Int.zpow_log_le_self (R := ℚ) (b := 2) (by decide) hq
    rw [hlog]
    exact_mod_cast hle
  obtain ⟨m, hm⟩ := hmultiple (exponent p) (by omega)
  obtain ⟨k, hk⟩ := hmultiple (exponent q) (by omega)
  calc round p ≤ m * spacing p := round_le_multiple (le_of_le_of_eq hbelow hm)
    _ = k * spacing q := hm.symm.trans hk
    _ ≤ round q := multiple_le_round (le_of_eq_of_le hk.symm habove)

/-- Rounding is monotone on positive numbers. -/
theorem round_mono_of_pos {p q : ℚ} (hp : 0 < p) (hpq : p ≤ q) : round p ≤ round q := by
  rcases (exponent_mono hp hpq).lt_or_eq with hlt | heq
  · exact round_mono_of_lt hp hpq hlt
  · have hsame : spacing p = spacing q := by rw [spacing, spacing, heq]
    have hpos := spacing_pos q
    have hnearest : (nearest (p / spacing q) : ℚ) ≤ nearest (q / spacing q) := by
      exact_mod_cast nearest_mono (div_le_div_of_nonneg_right hpq hpos.le)
    rw [round, round, hsame]
    exact mul_le_mul_of_nonneg_right hnearest hpos.le

/-- **Rounding keeps the order.** -/
theorem round_mono {p q : ℚ} (h : p ≤ q) : round p ≤ round q := by
  rcases lt_trichotomy p 0 with hp | rfl | hp
  · by_cases hq : q < 0
    · have hneg := round_mono_of_pos (neg_pos.mpr hq) (neg_le_neg h)
      rw [round_neg, round_neg] at hneg
      exact neg_le_neg_iff.mp hneg
    · have hneg := round_nonneg (neg_nonneg.mpr hp.le)
      rw [round_neg] at hneg
      exact le_trans (neg_nonneg.mp hneg) (round_nonneg (not_lt.mp hq))
  · rw [round_zero]
    exact round_nonneg h
  · exact round_mono_of_pos hp h

/-! ## Error -/

/-- A number that has all its 53 places, or is zero. -/
def Normal (q : ℚ) : Prop := q = 0 ∨ leastNormal ≤ |q|

/-- **Rounding moves a number by a part in 2 ^ 53 of it at most.** -/
theorem abs_round_sub_le_abs {q : ℚ} (h : Normal q) : |round q - q| ≤ |q| / 2 ^ 53 := by
  rcases h with rfl | hnormal
  · simp
  · have hspacing : spacing |q| * 2 ^ 52 ≤ |q| := spacing_mul_le hnormal
    have hsame : spacing |q| = spacing q := by rw [spacing, spacing, exponent, exponent, abs_abs]
    rw [hsame] at hspacing
    refine le_trans (abs_round_sub_le q) ?_
    rw [le_div_iff₀ (by norm_num)]
    grind

end StoreKit.Binary64
