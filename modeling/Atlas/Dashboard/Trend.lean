import Atlas.Dashboard.Handlers
import Atlas.Lib.Rounding

/-!
# Atlas.Dashboard.Trend

The trends of the dashboard, as a calculation on doubles.

Between counts of up to 53 bits the difference is exact, so a trend is `shown`
of the exact quotient: four roundings, and `Math.round` to a tenth.
-/

namespace Atlas

open StoreKit

namespace GetDashboardMetricsHandler

/-- `Math.round(x)`. -/
def mathRound (x : ℚ) : ℚ := ⌊x + 1 / 2⌋

/-- A quotient as a percentage with one decimal. -/
def shown (quotient : ℚ) : ℚ :=
  let raw := Binary64.round (Binary64.round quotient * 100)
  Binary64.round (mathRound (Binary64.round (raw * 10)) / 10)

/-- `percentChange`, of counts that are too small to overflow. -/
def percentChange (current previous : Nat) : Js.Number :=
  let current := Binary64.round current
  let previous := Binary64.round previous
  let denominator := max previous 1
  .of (shown (Binary64.round (current - previous) / denominator))

/-- What `percentChange` is about. -/
def relativeChange (current previous : Nat) : ℚ := ((current : ℚ) - previous) / max (previous : ℚ) 1

example : percentChange 3 2 = .of 50 := by decide +kernel

example : percentChange 1 0 = .of 100 ∧ percentChange 0 7 = .of (-100) := by decide +kernel

/-! ## Counts -/

/-- Counts below 2 ^ 53 are doubles. -/
theorem round_natCast {n : Nat} (h : n < 2 ^ 53) : Binary64.round n = n := by
  have hrepresentable : Binary64.Representable ((n : ℤ) : ℚ) :=
    Binary64.representable_intCast (by rw [abs_of_nonneg (Int.natCast_nonneg n)]; exact_mod_cast h)
  rw [Int.cast_natCast] at hrepresentable
  exact Binary64.round_of_representable hrepresentable

/-- The difference of two counts is a double. -/
theorem round_sub_natCast {n k : Nat} (hn : n < 2 ^ 53) (hk : k < 2 ^ 53) :
    Binary64.round ((n : ℚ) - k) = n - k := by
  have hbound : |(n : ℤ) - k| < 2 ^ 53 := by
    rw [abs_lt]
    constructor <;> omega
  have hrepresentable := Binary64.representable_intCast hbound
  push_cast at hrepresentable
  exact Binary64.round_of_representable hrepresentable

/-- The difference of two counts is exact. -/
theorem percentChange_eq {current previous : Nat} (hcurrent : current < 2 ^ 53)
    (hprevious : previous < 2 ^ 53) :
    percentChange current previous = .of (shown (relativeChange current previous)) := by
  unfold percentChange
  simp only [round_natCast hcurrent, round_natCast hprevious,
    round_sub_natCast hcurrent hprevious]
  rfl

/-- The relative change rises with the current count and falls with the previous
one. -/
theorem relativeChange_mono {current current' previous previous' : Nat}
    (hcurrent : current ≤ current') (hprevious : previous' ≤ previous) :
    relativeChange current previous ≤ relativeChange current' previous' := by
  have hone : (0 : ℚ) < 1 := one_pos
  have hd : (0 : ℚ) < max (previous : ℚ) 1 := lt_of_lt_of_le hone (le_max_right _ _)
  have hd' : (0 : ℚ) < max (previous' : ℚ) 1 := lt_of_lt_of_le hone (le_max_right _ _)
  have hc : (current : ℚ) ≤ current' := by exact_mod_cast hcurrent
  have hc0 : (0 : ℚ) ≤ current := by exact_mod_cast Nat.zero_le current
  have hp : (previous' : ℚ) ≤ previous := by exact_mod_cast hprevious
  have hp0 : (0 : ℚ) ≤ previous' := by exact_mod_cast Nat.zero_le previous'
  have hmax : max (previous' : ℚ) 1 ≤ max (previous : ℚ) 1 := max_le_max_right 1 hp
  unfold relativeChange
  rw [sub_div, sub_div]
  have hgrows : (current : ℚ) / max (previous : ℚ) 1 ≤ current' / max (previous' : ℚ) 1 :=
    div_le_div₀ (le_trans hc0 hc) hc hd' hmax
  -- a count over the greater of itself and one is itself up to one, and one from there on
  have hshrinks : (previous' : ℚ) / max (previous' : ℚ) 1 ≤ previous / max (previous : ℚ) 1 := by
    rw [div_le_div_iff₀ hd' hd]
    rcases Nat.eq_zero_or_pos previous' with hzero | hpos
    · rw [hzero, Nat.cast_zero, zero_mul]
      exact mul_nonneg (le_trans hp0 hp) (le_trans one_pos.le (le_max_right _ _))
    · have hone' : (1 : ℚ) ≤ previous' := by exact_mod_cast hpos
      rw [max_eq_left hone', max_eq_left (le_trans hone' hp), mul_comm]
  linarith

/-- No count falls by more than the whole. -/
theorem neg_one_le_relativeChange (current previous : Nat) :
    -1 ≤ relativeChange current previous := by
  have hd : (0 : ℚ) < max (previous : ℚ) 1 := lt_of_lt_of_le one_pos (le_max_right _ _)
  have hc : (0 : ℚ) ≤ current := by exact_mod_cast Nat.zero_le current
  have hp : (previous : ℚ) ≤ max (previous : ℚ) 1 := le_max_left _ _
  rw [relativeChange, le_div_iff₀ hd]
  linarith

/-! ## Order -/

/-- `Math.round` is monotone. -/
theorem mathRound_mono {x y : ℚ} (h : x ≤ y) : mathRound x ≤ mathRound y := by
  have hfloor : ⌊x + 1 / 2⌋ ≤ ⌊y + 1 / 2⌋ := Int.floor_le_floor (by linarith)
  rw [mathRound, mathRound]
  exact_mod_cast hfloor

/-- What is shown rises with the relative change. -/
theorem shown_mono {x y : ℚ} (h : x ≤ y) : shown x ≤ shown y := by
  have hquotient := Binary64.round_mono h
  have hhundred : (0 : ℚ) ≤ 100 := by norm_num
  have hraw := Binary64.round_mono (mul_le_mul_of_nonneg_right hquotient hhundred)
  have htenths := Binary64.round_mono (mul_le_mul_of_nonneg_right hraw (by norm_num : (0 : ℚ) ≤ 10))
  exact Binary64.round_mono (div_le_div_of_nonneg_right (mathRound_mono htenths)
    (by norm_num : (0 : ℚ) ≤ 10))

theorem shown_zero : shown 0 = 0 := by decide +kernel

theorem shown_neg_one : shown (-1) = -100 := by decide +kernel

/-- **A trend goes with the counts**: it does not fall as the current one grows or
rise as the previous one does, it is never below -100, and it never has the sign
opposite to that of the difference.  It may be 0 where the counts differ: one
decimal is all that is left of it. -/
theorem percentChange_ordered {current current' previous previous' : Nat}
    (hcurrent : current ≤ current') (hprevious : previous' ≤ previous)
    (hlarge : current' < 2 ^ 53) (hlarge' : previous < 2 ^ 53) :
    ∃ trend trend', percentChange current previous = .of trend ∧
      percentChange current' previous' = .of trend' ∧ trend ≤ trend' ∧ -100 ≤ trend ∧
      (current ≤ previous → trend ≤ 0) ∧ (previous ≤ current → 0 ≤ trend) := by
  have hd : (0 : ℚ) < max (previous : ℚ) 1 := lt_of_lt_of_le one_pos (le_max_right _ _)
  refine ⟨_, _, percentChange_eq (lt_of_le_of_lt hcurrent hlarge) hlarge',
    percentChange_eq hlarge (lt_of_le_of_lt hprevious hlarge'),
    shown_mono (relativeChange_mono hcurrent hprevious), ?_, fun hle => ?_, fun hle => ?_⟩
  · rw [← shown_neg_one]
    exact shown_mono (neg_one_le_relativeChange current previous)
  · have hcast : (current : ℚ) ≤ previous := by exact_mod_cast hle
    rw [← shown_zero]
    exact shown_mono (div_nonpos_of_nonpos_of_nonneg (sub_nonpos.mpr hcast) hd.le)
  · have hcast : (previous : ℚ) ≤ current := by exact_mod_cast hle
    rw [← shown_zero]
    exact shown_mono (div_nonneg (sub_nonneg.mpr hcast) hd.le)

theorem percentChange_ordered_sample : ∃ trend trend', percentChange 5 9 = .of trend ∧
    percentChange 8 3 = .of trend' ∧ trend ≤ trend' := by
  obtain ⟨trend, trend', h, h', hle, -⟩ := @percentChange_ordered 5 8 9 3 (by decide) (by decide)
    (by decide) (by decide)
  exact ⟨trend, trend', h, h', hle⟩

/-! ## Error -/

/-- A number of this size has all its bits. -/
theorem normal_of_le {q : ℚ} (h : 1 / 2 ^ 54 ≤ |q|) : Binary64.Normal q :=
  .inr (le_trans (by decide +kernel) h)

/-- `Math.round` moves a number by half of one at most. -/
theorem abs_mathRound_sub_le (x : ℚ) : |mathRound x - x| ≤ 1 / 2 := by
  have hlow := Int.floor_le (x + 1 / 2)
  have hhigh := Int.lt_floor_add_one (x + 1 / 2)
  rw [mathRound, abs_le]
  constructor <;> linarith

/-- A tenth of a whole number is zero or not small. -/
theorem normal_mathRound (x : ℚ) : Binary64.Normal (mathRound x / 10) := by
  rw [mathRound]
  by_cases hzero : ⌊x + 1 / 2⌋ = 0
  · left
    rw [hzero]
    norm_num
  · refine normal_of_le ?_
    have hone : (1 : ℚ) ≤ |((⌊x + 1 / 2⌋ : ℤ) : ℚ)| := by exact_mod_cast Int.one_le_abs hzero
    rw [abs_div, abs_of_pos (by norm_num : (0 : ℚ) < 10),
      div_le_div_iff₀ (by norm_num) (by norm_num)]
    linarith

/-- A step that moves a number by a part in `2 ^ 53` of it. -/
theorem abs_le_of_error {y z : ℚ} (h : |z - y| ≤ |y| / 2 ^ 53) : |z| ≤ |y| * (101 / 100) := by
  have hpos := abs_nonneg y
  have htriangle := abs_sub_abs_le_abs_sub z y
  have hsmall : |y| / 2 ^ 53 ≤ |y| * (1 / 100) := by
    rw [div_eq_mul_inv]
    exact mul_le_mul_of_nonneg_left (by norm_num) hpos
  linarith

/-- A rounded multiple is not small either. -/
theorem normal_round_mul {x k : ℚ} (hk : 2 ≤ k) {e : ℚ} (he : 1 / 2 ^ 54 ≤ e)
    (hx : x = 0 ∨ e ≤ |x|) :
    Binary64.round x * k = 0 ∨ e ≤ |Binary64.round x * k| := by
  rcases hx with rfl | hx
  · left
    rw [Binary64.round_zero, zero_mul]
  · right
    have herror := Binary64.abs_round_sub_le_abs (normal_of_le (le_trans he hx))
    have htriangle := abs_sub_abs_le_abs_sub x (Binary64.round x)
    rw [abs_sub_comm] at htriangle
    have hpos := abs_nonneg x
    have hsmall : |x| / 2 ^ 53 ≤ |x| / 2 := by
      rw [div_le_div_iff₀ (by norm_num) (by norm_num)]
      nlinarith only [hpos]
    have hhalf : |x| / 2 ≤ |Binary64.round x| := by linarith
    rw [abs_mul, abs_of_pos (by linarith : (0 : ℚ) < k)]
    nlinarith only [hhalf, hx, hk, abs_nonneg (Binary64.round x)]

/-- The four roundings, one after the other. -/
theorem abs_shown_sub_le {x : ℚ} (hx : x = 0 ∨ 1 / 2 ^ 53 ≤ |x|) :
    |shown x - x * 100| ≤ 1 / 20 + (|x| * 100 + 1) / 2 ^ 50 := by
  have hnormal : ∀ y : ℚ, y = 0 ∨ 1 / 2 ^ 53 ≤ |y| → Binary64.Normal y :=
    fun y hy => hy.imp_right fun h => le_trans (by decide +kernel) h
  have hpercent := normal_round_mul (by norm_num : (2 : ℚ) ≤ 100) (by norm_num) hx
  have htenths := normal_round_mul (by norm_num : (2 : ℚ) ≤ 10) (by norm_num) hpercent
  have e₁ := Binary64.abs_round_sub_le_abs (hnormal _ hx)
  have e₂ := Binary64.abs_round_sub_le_abs (hnormal _ hpercent)
  have e₃ := Binary64.abs_round_sub_le_abs (hnormal _ htenths)
  unfold shown
  dsimp only
  generalize Binary64.round x = q₁ at *
  generalize Binary64.round (q₁ * 100) = q₂ at *
  generalize Binary64.round (q₂ * 10) = q₃ at *
  have e₄ := abs_mathRound_sub_le q₃
  have e₅ := Binary64.abs_round_sub_le_abs (normal_mathRound q₃)
  generalize Binary64.round (mathRound q₃ / 10) = r at *
  generalize mathRound q₃ = n at *
  have b₁ := abs_le_of_error e₁
  have b₂ := abs_le_of_error e₂
  have b₃ := abs_le_of_error e₃
  have b₄ : |n| ≤ |q₃| + 1 / 2 := by
    have htriangle := abs_sub_abs_le_abs_sub n q₃
    linarith
  rw [abs_mul, abs_of_pos (by norm_num : (0 : ℚ) < 100)] at e₂ b₂
  rw [abs_mul, abs_of_pos (by norm_num : (0 : ℚ) < 10)] at e₃ b₃
  rw [abs_div, abs_of_pos (by norm_num : (0 : ℚ) < 10)] at e₅
  have hx0 := abs_nonneg x
  rw [abs_le] at e₁ e₂ e₃ e₄ e₅ ⊢
  constructor <;> linarith

/-- What is shown is a finite double. -/
theorem representable_shown {x : ℚ} (hx : x = 0 ∨ 1 / 2 ^ 53 ≤ |x|) (hlarge : |x| ≤ 2 ^ 53) :
    Binary64.Representable (shown x) := by
  have herror := abs_shown_sub_le hx
  have hshown := abs_sub_abs_le_abs_sub (shown x) (x * 100)
  rw [abs_mul, abs_of_pos (by norm_num : (0 : ℚ) < 100)] at hshown
  unfold shown at *
  dsimp only at *
  generalize Binary64.round (Binary64.round (Binary64.round x * 100) * 10) = q at *
  have hround := Binary64.abs_round_sub_le_abs (normal_mathRound q)
  have hbelow := abs_sub_abs_le_abs_sub (mathRound q / 10) (Binary64.round (mathRound q / 10))
  rw [abs_sub_comm] at hbelow
  refine Binary64.representable_round (lt_of_le_of_lt ?_ (by decide +kernel : (2 : ℚ) ^ 64 < _))
  linarith

/-- Two counts are the same, or differ by a part in 2 ^ 53 at least. -/
theorem relativeChange_cases {current previous : Nat} (hcurrent : current < 2 ^ 53)
    (hprevious : previous < 2 ^ 53) :
    (relativeChange current previous = 0 ∨ 1 / 2 ^ 53 ≤ |relativeChange current previous|) ∧
      |relativeChange current previous| ≤ 2 ^ 53 := by
  have hd : (1 : ℚ) ≤ max (previous : ℚ) 1 := le_max_right _ _
  have hd' : max (previous : ℚ) 1 ≤ 2 ^ 53 := by
    have hcast : (previous : ℚ) ≤ 2 ^ 53 := by exact_mod_cast hprevious.le
    exact max_le hcast (by norm_num)
  have habs : |relativeChange current previous| =
      |(current : ℚ) - previous| / max (previous : ℚ) 1 := by
    rw [relativeChange, abs_div, abs_of_pos (lt_of_lt_of_le one_pos hd)]
  rw [habs]
  constructor
  · by_cases hsame : current = previous
    · left
      rw [relativeChange, hsame, sub_self, zero_div]
    · right
      have hne : ((current : ℤ) - previous) ≠ 0 := by omega
      have hone : (1 : ℚ) ≤ |(current : ℚ) - previous| := by
        exact_mod_cast Int.one_le_abs hne
      exact div_le_div₀ (le_trans zero_le_one hone) hone (lt_of_lt_of_le one_pos hd) hd'
  · have hbound : |(current : ℤ) - previous| ≤ 2 ^ 53 := by
      rw [abs_le]
      constructor <;> omega
    have hcast : |(current : ℚ) - previous| ≤ 2 ^ 53 := by exact_mod_cast hbound
    exact le_trans (div_le_self (abs_nonneg _) hd) hcast

/-- **A trend is the percentage to one decimal**: a finite double, within half a
tenth of the exact value `p` but for the roundings on the way, which come to
`(|p| + 1) / 2 ^ 50` at most. -/
theorem percentChange_accurate {current previous : Nat} (hcurrent : current < 2 ^ 53)
    (hprevious : previous < 2 ^ 53) :
    ∃ trend, percentChange current previous = .of trend ∧ Binary64.Representable trend ∧
      |trend - relativeChange current previous * 100| ≤
        1 / 20 + (|relativeChange current previous| * 100 + 1) / 2 ^ 50 := by
  obtain ⟨hnormal, hlarge⟩ := relativeChange_cases hcurrent hprevious
  exact ⟨_, percentChange_eq hcurrent hprevious, representable_shown hnormal hlarge,
    abs_shown_sub_le hnormal⟩

theorem percentChange_accurate_sample : ∃ trend, percentChange 4 3 = .of trend ∧
    |trend - relativeChange 4 3 * 100| ≤ 1 / 20 + (|relativeChange 4 3| * 100 + 1) / 2 ^ 50 := by
  obtain ⟨trend, htrend, -, herror⟩ := @percentChange_accurate 4 3 (by decide) (by decide)
  exact ⟨trend, htrend, herror⟩

end GetDashboardMetricsHandler

end Atlas
