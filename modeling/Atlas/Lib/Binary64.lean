import Mathlib.Algebra.Order.Field.Power
import Mathlib.Data.Int.Log
import Mathlib.Data.Rat.Floor
import Mathlib.Tactic.NormNum

/-!
# Atlas.Lib.Binary64

Rationals rounded to binary64: to nearest, ties to even.

A finite double is a whole multiple of a power of two (`Representable`).  What
lies between two powers of two is rounded to a multiple of one `spacing`, so
most facts here compare a rational with the multiples of its spacing.
-/

namespace StoreKit.Binary64

/-! ## Rounding to an integer -/

/-- The integer nearest to `x`; of two, the even one. -/
def nearest (x : ℚ) : ℤ :=
  if x - ⌊x⌋ < 1 / 2 then ⌊x⌋
  else if 1 / 2 < x - ⌊x⌋ then ⌊x⌋ + 1
  else if 2 ∣ ⌊x⌋ then ⌊x⌋
  else ⌊x⌋ + 1

/-- The nearest integer is half a unit away at most. -/
theorem nearest_bounds (x : ℚ) : (nearest x : ℚ) - 1 / 2 ≤ x ∧ x ≤ nearest x + 1 / 2 := by
  have hlow := Int.floor_le x
  have hhigh := Int.lt_floor_add_one x
  unfold nearest
  split_ifs <;> push_cast <;> constructor <;> grind

/-- An even integer is nearest to both ends of its interval. -/
theorem nearest_eq_of_even {x : ℚ} {k : ℤ} (hk : 2 ∣ k) (hlow : (k : ℚ) - 1 / 2 ≤ x)
    (hhigh : x ≤ k + 1 / 2) : nearest x = k := by
  by_cases h : (k : ℚ) ≤ x
  · have hfloor : ⌊x⌋ = k := by
      rw [Int.floor_eq_iff]
      constructor <;> grind
    unfold nearest
    rw [hfloor]
    split_ifs <;> grind
  · have hfloor : ⌊x⌋ = k - 1 := by
      rw [Int.floor_eq_iff]
      push_cast
      constructor <;> grind
    unfold nearest
    rw [hfloor]
    push_cast
    split_ifs <;> first | omega | grind

/-- An integer is nearest to what is less than half a unit away. -/
theorem nearest_eq {x : ℚ} {k : ℤ} (hlow : (k : ℚ) - 1 / 2 < x) (hhigh : x < k + 1 / 2) :
    nearest x = k := by
  obtain ⟨hbelow, habove⟩ := nearest_bounds x
  have h₁ : (nearest x : ℚ) < k + 1 := by grind
  have h₂ : (k : ℚ) < nearest x + 1 := by grind
  have h₃ : nearest x < k + 1 := by exact_mod_cast h₁
  have h₄ : k < nearest x + 1 := by exact_mod_cast h₂
  omega

@[simp] theorem nearest_intCast (k : ℤ) : nearest k = k :=
  nearest_eq (by grind) (by grind)

/-- Of two arguments apart the larger is not rounded below the smaller. -/
theorem nearest_mono {x y : ℚ} (h : x ≤ y) : nearest x ≤ nearest y := by
  by_contra hlt
  have hstep : nearest y + 1 ≤ nearest x := by omega
  have hcast : (nearest y : ℚ) + 1 ≤ nearest x := by exact_mod_cast hstep
  have hx := (nearest_bounds x).1
  have hy := (nearest_bounds y).2
  have heq : x = y := by grind
  rw [heq] at hlt
  exact hlt (le_refl _)

/-- Rounding does not pass an integer above. -/
theorem nearest_le {x : ℚ} {k : ℤ} (h : x ≤ k) : nearest x ≤ k := by
  rw [← nearest_intCast k]
  exact nearest_mono h

/-- Rounding does not pass an integer below. -/
theorem le_nearest {x : ℚ} {k : ℤ} (h : (k : ℚ) ≤ x) : k ≤ nearest x := by
  rw [← nearest_intCast k]
  exact nearest_mono h

/-! ## Spacing -/

/-- The exponent of the last place of `q`. -/
def exponent (q : ℚ) : ℤ := max (Int.log 2 |q| - 52) (-1074)

/-- The distance between the doubles around `q`. -/
def spacing (q : ℚ) : ℚ := 2 ^ exponent q

theorem spacing_pos (q : ℚ) : 0 < spacing q := zpow_pos two_pos _

theorem le_exponent (q : ℚ) : -1074 ≤ exponent q := le_max_right _ _

theorem two_zpow_le {m n : ℤ} (h : m ≤ n) : (2 : ℚ) ^ m ≤ 2 ^ n :=
  zpow_le_zpow_right₀ one_le_two h

theorem two_zpow_add (m n : ℤ) : (2 : ℚ) ^ (m + n) = 2 ^ m * 2 ^ n :=
  zpow_add₀ two_ne_zero m n

/-- A number has fewer than `2 ^ 53` units. -/
theorem abs_lt_mul_spacing (q : ℚ) : |q| < 2 ^ 53 * spacing q := by
  have hlog : |q| < 2 ^ (Int.log 2 |q| + 1) := by
    have h := Int.lt_zpow_succ_log_self (R := ℚ) (b := 2) (by decide) |q|
    exact_mod_cast h
  have hexponent : Int.log 2 |q| + 1 ≤ 53 + exponent q := by
    have := le_max_left (Int.log 2 |q| - 52) (-1074)
    rw [exponent]
    omega
  have hpow := two_zpow_le hexponent
  rw [two_zpow_add 53] at hpow
  exact lt_of_lt_of_le hlog hpow

/-- The exponent is the least one that leaves 53 bits. -/
theorem exponent_le {q : ℚ} {e : ℤ} (hq : q ≠ 0) (he : -1074 ≤ e) (h : |q| < 2 ^ (e + 53)) :
    exponent q ≤ e := by
  have hlog : Int.log 2 |q| < e + 53 := by
    refine (Int.lt_zpow_iff_log_lt (by decide) (abs_pos.mpr hq)).mp ?_
    exact_mod_cast h
  rw [exponent, max_le_iff]
  omega

theorem exponent_mono {p q : ℚ} (hp : 0 < p) (h : p ≤ q) : exponent p ≤ exponent q := by
  have hq : 0 < q := lt_of_lt_of_le hp h
  have hlog : Int.log 2 p ≤ Int.log 2 q := Int.log_mono_right hp h
  rw [exponent, exponent, abs_of_pos hp, abs_of_pos hq]
  omega

/-- The least positive double. -/
def tick : ℚ := 2 ^ (-1074 : ℤ)

theorem tick_pos : 0 < tick := zpow_pos two_pos _

/-- A number that is not too small is at least its spacing. -/
theorem spacing_le_abs {q : ℚ} (h : tick ≤ |q|) : spacing q ≤ |q| := by
  have hpos : 0 < |q| := lt_of_lt_of_le tick_pos h
  have hlog : (2 : ℚ) ^ Int.log 2 |q| ≤ |q| := by
    have h := Int.zpow_log_le_self (R := ℚ) (b := 2) (by decide) hpos
    exact_mod_cast h
  rw [spacing, exponent]
  rcases max_choice (Int.log 2 |q| - 52) (-1074) with hmax | hmax
  · rw [hmax]
    exact le_trans (two_zpow_le (by omega)) hlog
  · rw [hmax]
    exact h

/-- The least number that is rounded to 53 places. -/
def leastNormal : ℚ := 2 ^ (-1022 : ℤ)

theorem leastNormal_pos : 0 < leastNormal := zpow_pos two_pos _

/-- A positive number that is not too small has 52 more places. -/
theorem spacing_mul_le {q : ℚ} (h : leastNormal ≤ q) : spacing q * 2 ^ 52 ≤ q := by
  have hpos : 0 < q := lt_of_lt_of_le leastNormal_pos h
  have hlow : -1022 ≤ Int.log 2 q := by
    refine (Int.zpow_le_iff_le_log (by decide) hpos).mp ?_
    exact_mod_cast h
  have hlog : (2 : ℚ) ^ Int.log 2 q ≤ q := by
    have h := Int.zpow_log_le_self (R := ℚ) (b := 2) (by decide) hpos
    exact_mod_cast h
  have hexponent : exponent q + 52 = Int.log 2 q := by
    rw [exponent, abs_of_pos hpos]
    omega
  rw [← hexponent, two_zpow_add] at hlog
  exact hlog

/-! ## Rounding to a double -/

/-- The double nearest to `q`, as long as it does not overflow. -/
def round (q : ℚ) : ℚ := nearest (q / spacing q) * spacing q

/-- From here on a number is rounded to an infinity. -/
def overflow : ℚ := 2 ^ 1024 - 2 ^ 970

/-- `q` is a finite double. -/
def Representable (q : ℚ) : Prop :=
  ∃ m e : ℤ, |m| < 2 ^ 53 ∧ -1074 ≤ e ∧ e ≤ 971 ∧ q = m * 2 ^ e

theorem round_of_multiple {q : ℚ} {m : ℤ} (h : q = m * spacing q) : round q = q := by
  have hquotient : q / spacing q = m := by
    rw [div_eq_iff (ne_of_gt (spacing_pos q))]
    exact h
  rw [round, hquotient, nearest_intCast]
  exact h.symm

@[simp] theorem round_zero : round 0 = 0 := round_of_multiple (m := 0) (by simp)

/-- A multiple of a coarse spacing is one of any finer spacing. -/
theorem multiple_of_le {m e e' : ℤ} (h : e' ≤ e) :
    ∃ m' : ℤ, (m : ℚ) * 2 ^ e = m' * 2 ^ e' := by
  obtain ⟨k, hk⟩ := Int.le.dest h
  refine ⟨m * 2 ^ k, ?_⟩
  rw [← hk, Int.add_comm, two_zpow_add]
  push_cast
  rw [zpow_natCast, mul_assoc]

theorem round_of_representable {q : ℚ} (h : Representable q) : round q = q := by
  obtain ⟨m, e, hm, he, -, rfl⟩ := h
  by_cases hzero : (m : ℚ) * 2 ^ e = 0
  · rw [hzero]
    exact round_of_multiple (m := 0) (by simp)
  · have hbound : |(m : ℚ) * 2 ^ e| < 2 ^ (e + 53) := by
      have hcast : |(m : ℚ)| < 2 ^ 53 := by exact_mod_cast hm
      have hpos : (0 : ℚ) < 2 ^ e := zpow_pos two_pos e
      rw [Int.add_comm, two_zpow_add, abs_mul, abs_of_pos hpos]
      exact mul_lt_mul_of_pos_right hcast hpos
    obtain ⟨m', hm'⟩ := multiple_of_le (m := m) (exponent_le hzero he hbound)
    exact round_of_multiple hm'

theorem round_multiple_spacing (q : ℚ) : ∃ m : ℤ, round q = m * spacing q := ⟨_, rfl⟩

theorem Representable.multiple {q : ℚ} (h : Representable q) : ∃ m : ℤ, q = m * spacing q := by
  obtain ⟨m, hm⟩ := round_multiple_spacing q
  rw [round_of_representable h] at hm
  exact ⟨m, hm⟩

theorem Representable.abs {q : ℚ} (h : Representable q) : Representable |q| := by
  obtain ⟨m, e, hm, he, he', rfl⟩ := h
  have hpos : (0 : ℚ) < 2 ^ e := zpow_pos two_pos e
  refine ⟨|m|, e, by rwa [abs_abs], he, he', ?_⟩
  rw [abs_mul, abs_of_pos hpos, Int.cast_abs]

/-- The largest finite double. -/
def largest : ℚ := (2 ^ 53 - 1) * 2 ^ (971 : ℤ)

theorem largest_lt_overflow : largest + 1 < overflow := by decide +kernel

theorem Representable.abs_le_largest {q : ℚ} (h : Representable q) : |q| ≤ largest := by
  obtain ⟨m, e, hm, -, he, rfl⟩ := h
  have hpos : (0 : ℚ) < 2 ^ e := zpow_pos two_pos e
  have hcast : |(m : ℚ)| ≤ 2 ^ 53 - 1 := by
    have hstep : |m| ≤ 2 ^ 53 - 1 := by omega
    exact_mod_cast hstep
  have hpow : (2 : ℚ) ^ e ≤ 2 ^ (971 : ℤ) := two_zpow_le he
  rw [abs_mul, abs_of_pos hpos]
  exact mul_le_mul hcast hpow hpos.le (by norm_num)

theorem Representable.lt_overflow {q : ℚ} (h : Representable q) : |q| < overflow :=
  lt_of_le_of_lt h.abs_le_largest (lt_of_le_of_lt (by grind) largest_lt_overflow)

/-- Taking one off a double does not overflow. -/
theorem Representable.abs_sub_one_lt {q : ℚ} (h : Representable q) : |q - 1| < overflow := by
  have habs := h.abs_le_largest
  have hlt := largest_lt_overflow
  rw [abs_le] at habs
  rw [abs_lt]
  constructor <;> grind

/-- A double below one is below it by at least the least double. -/
theorem Representable.sub_one_le {q : ℚ} (h : Representable q) (hlt : q < 1) :
    q - 1 ≤ -tick := by
  obtain ⟨m, e, -, he, -, rfl⟩ := h
  have hpos := tick_pos
  obtain ⟨m', hm'⟩ := multiple_of_le (m := m) he
  have hone : (1 : ℚ) = ((2 ^ 1074 : ℤ) : ℚ) * tick := by norm_num [tick]
  rw [hm', ← tick] at hlt ⊢
  have hless : (m' : ℚ) < ((2 ^ 1074 : ℤ) : ℚ) := by
    rw [hone] at hlt
    exact lt_of_mul_lt_mul_right hlt hpos.le
  have hint : m' < 2 ^ 1074 := by exact_mod_cast hless
  have hstep : (m' : ℚ) ≤ ((2 ^ 1074 : ℤ) : ℚ) - 1 := by
    have hle : m' ≤ 2 ^ 1074 - 1 := Int.le_sub_one_of_lt hint
    exact_mod_cast hle
  have hmul := mul_le_mul_of_nonneg_right hstep hpos.le
  rw [sub_mul, ← hone] at hmul
  grind

/-- Integers of up to 53 bits are doubles. -/
theorem representable_intCast {m : ℤ} (h : |m| < 2 ^ 53) : Representable m :=
  ⟨m, 0, h, by decide, by decide, by simp⟩

/-- The next whole number is a double too. -/
theorem Representable.ceil {q : ℚ} (h : Representable q) : Representable ⌈q⌉ := by
  obtain ⟨m, e, hm, he, he', rfl⟩ := h
  by_cases hwhole : 0 ≤ e
  · obtain ⟨k, hk⟩ := multiple_of_le (m := m) hwhole
    rw [zpow_zero, mul_one] at hk
    have hceil : ((⌈(m : ℚ) * 2 ^ e⌉ : ℤ) : ℚ) = m * 2 ^ e := by
      rw [hk, Int.ceil_intCast]
    exact ⟨m, e, hm, he, he', hceil⟩
  · have hpos : (0 : ℚ) < 2 ^ e := zpow_pos two_pos e
    have hle : (2 : ℚ) ^ e ≤ 1 := zpow_le_one_of_nonpos₀ one_le_two (by omega)
    refine representable_intCast ?_
    rw [abs_lt] at hm ⊢
    by_cases hsign : 0 ≤ m
    · have hcast : (0 : ℚ) ≤ m := by exact_mod_cast hsign
      have hup : ⌈(m : ℚ) * 2 ^ e⌉ ≤ m := Int.ceil_le.mpr (mul_le_of_le_one_right hcast hle)
      have hdown : 0 ≤ ⌈(m : ℚ) * 2 ^ e⌉ := Int.ceil_nonneg (mul_nonneg hcast hpos.le)
      omega
    · have hcast : (m : ℚ) ≤ 0 := by exact_mod_cast (by omega : m ≤ 0)
      have hup : ⌈(m : ℚ) * 2 ^ e⌉ ≤ 0 :=
        Int.ceil_le.mpr (by simpa using mul_nonpos_of_nonpos_of_nonneg hcast hpos.le)
      have hmul : (m : ℚ) ≤ m * 2 ^ e := by
        have := mul_le_mul_of_nonpos_left hle hcast
        rwa [mul_one] at this
      have hdown : (m : ℚ) ≤ ⌈(m : ℚ) * 2 ^ e⌉ := le_trans hmul (Int.le_ceil _)
      have hdown' : m ≤ ⌈(m : ℚ) * 2 ^ e⌉ := by exact_mod_cast hdown
      omega

/-- Rounding moves a number by half a unit at most. -/
theorem abs_round_sub_le (q : ℚ) : |round q - q| ≤ spacing q / 2 := by
  have hpos := spacing_pos q
  obtain ⟨hlow, hhigh⟩ := nearest_bounds (q / spacing q)
  have hq : q = q / spacing q * spacing q := (div_mul_cancel₀ q (ne_of_gt hpos)).symm
  have hlow' := mul_le_mul_of_nonneg_right hlow hpos.le
  have hhigh' := mul_le_mul_of_nonneg_right hhigh hpos.le
  rw [← hq] at hlow' hhigh'
  rw [abs_le, round]
  constructor <;> grind

/-- What does not overflow is rounded to a double. -/
theorem representable_round {q : ℚ} (h : |q| < overflow) : Representable (round q) := by
  by_cases hzero : q = 0
  · rw [hzero, round_zero]
    exact ⟨0, 0, by decide, by decide, by decide, by simp⟩
  have hpos := spacing_pos q
  have hmax : overflow ≤ 2 ^ ((971 : ℤ) + 53) := by norm_num [overflow]
  have he : exponent q ≤ 971 := exponent_le hzero (by decide) (lt_of_lt_of_le h hmax)
  have hquotient : |q / spacing q| ≤ ((2 ^ 53 : ℤ) : ℚ) := by
    rw [abs_div, abs_of_pos hpos, div_le_iff₀ hpos]
    push_cast
    exact (abs_lt_mul_spacing q).le
  rw [abs_le, ← Int.cast_neg] at hquotient
  have hlow : -2 ^ 53 ≤ nearest (q / spacing q) := le_nearest hquotient.1
  have hhigh : nearest (q / spacing q) ≤ 2 ^ 53 := nearest_le hquotient.2
  by_cases hcarry : |nearest (q / spacing q)| < 2 ^ 53
  · exact ⟨_, _, hcarry, le_exponent q, he, rfl⟩
  · -- rounded up to a power of two, which has a place to spare
    have hpower : ∃ m : ℤ, |m| < 2 ^ 53 ∧ nearest (q / spacing q) = m * 2 := by
      rcases abs_cases (nearest (q / spacing q)) with ⟨habs, -⟩ | ⟨habs, -⟩
      · exact ⟨2 ^ 52, by decide, by omega⟩
      · exact ⟨-2 ^ 52, by decide, by omega⟩
    obtain ⟨m, hm, hnearest⟩ := hpower
    refine ⟨m, exponent q + 1, hm, ?_, ?_, ?_⟩
    · have := le_exponent q
      omega
    · by_contra hlast
      have hlast' : exponent q = 971 := by omega
      have hbelow : |q / spacing q| < 2 ^ 53 - 1 / 2 := by
        have hend : overflow = (2 ^ 53 - 1 / 2) * 2 ^ (971 : ℤ) := by decide +kernel
        rw [abs_div, abs_of_pos hpos, div_lt_iff₀ hpos, spacing, hlast', ← hend]
        exact h
      obtain ⟨hdown, hup⟩ := nearest_bounds (q / spacing q)
      rw [abs_lt] at hbelow
      have hlt : |(nearest (q / spacing q) : ℚ)| < 2 ^ 53 := by
        rw [abs_lt]
        constructor <;> grind
      exact hcarry (by exact_mod_cast hlt)
    · rw [round, hnearest, two_zpow_add, spacing]
      push_cast
      grind

/-- Rounding keeps the sign. -/
theorem round_nonneg {q : ℚ} (h : 0 ≤ q) : 0 ≤ round q := by
  have hpos := spacing_pos q
  have hquotient : ((0 : ℤ) : ℚ) ≤ q / spacing q := by
    rw [Int.cast_zero]
    exact div_nonneg h hpos.le
  have hnearest : (0 : ℚ) ≤ nearest (q / spacing q) := by exact_mod_cast le_nearest hquotient
  exact mul_nonneg hnearest hpos.le

/-- Rounding does not go past a double. -/
theorem round_le {q r : ℚ} (hq : 0 < q) (hr : Representable r) (h : q ≤ r) : round q ≤ r := by
  have hpos := spacing_pos q
  obtain ⟨m, hm⟩ := hr.multiple
  obtain ⟨m', hm'⟩ := multiple_of_le (m := m) (exponent_mono hq h)
  have hquotient : q / spacing q ≤ m' := by
    rw [div_le_iff₀ hpos]
    exact le_of_le_of_eq h (hm.trans hm')
  have hnearest : (nearest (q / spacing q) : ℚ) ≤ m' := by exact_mod_cast nearest_le hquotient
  rw [hm, spacing, hm']
  exact mul_le_mul_of_nonneg_right hnearest hpos.le

/-- A negative number that is not too small stays so. -/
theorem round_le_neg {q : ℚ} (h : q ≤ -tick) : round q ≤ -tick := by
  have hpos := spacing_pos q
  have htick := tick_pos
  have habs : |q| = -q := abs_of_neg (by grind)
  have hspacing : spacing q ≤ -q := by
    rw [← habs]
    exact spacing_le_abs (by grind)
  have hquotient : q / spacing q ≤ ((-1 : ℤ) : ℚ) := by
    rw [div_le_iff₀ hpos]
    push_cast
    grind
  have hnearest : (nearest (q / spacing q) : ℚ) ≤ ((-1 : ℤ) : ℚ) := by
    exact_mod_cast nearest_le hquotient
  have hround := mul_le_mul_of_nonneg_right hnearest hpos.le
  have hleast : tick ≤ spacing q := two_zpow_le (le_exponent q)
  rw [round]
  push_cast at hround
  grind

/-! ## Whole numbers -/

/-- A whole number is a multiple of a spacing that is not. -/
theorem intCast_multiple {e : ℤ} (he : e ≤ 0) (k : ℤ) : ∃ m : ℤ, (k : ℚ) = m * 2 ^ e := by
  obtain ⟨m, hm⟩ := multiple_of_le (m := k) he
  rw [zpow_zero, mul_one] at hm
  exact ⟨m, hm⟩

theorem multiple_intCast {e : ℤ} (he : 0 ≤ e) (m : ℤ) : ∃ k : ℤ, (m : ℚ) * 2 ^ e = k := by
  obtain ⟨k, hk⟩ := multiple_of_le (m := m) he
  rw [zpow_zero, mul_one] at hk
  exact ⟨k, hk⟩

/-- Within half a spacing of a whole number. -/
def NearWhole (q : ℚ) : Prop := ∃ k : ℤ, |q - k| ≤ spacing q / 2

/-- Integers are near whole. -/
theorem nearWhole_intCast (k : ℤ) : NearWhole k :=
  ⟨k, by simpa using (half_pos (spacing_pos (k : ℚ))).le⟩

/-- **Rounding gives a whole number exactly near one.** -/
theorem whole_round_iff (q : ℚ) : (∃ k : ℤ, round q = k) ↔ NearWhole q := by
  have hpos := spacing_pos q
  constructor
  · rintro ⟨k, hk⟩
    have hbound := abs_round_sub_le q
    rw [hk, abs_sub_comm] at hbound
    exact ⟨k, hbound⟩
  · rintro ⟨k, hk⟩
    by_cases he : 0 ≤ exponent q
    · exact multiple_intCast he _
    · -- below 2 ^ 52 a whole number is an even multiple of the spacing, so ties go to it
      have hle : exponent q + 1 ≤ 0 := by omega
      obtain ⟨m, hm⟩ := intCast_multiple hle k
      have hk' : (k : ℚ) = ((2 * m : ℤ) : ℚ) * spacing q := by
        rw [hm, two_zpow_add, spacing]
        push_cast
        grind
      rw [abs_le] at hk
      have hlow : ((2 * m : ℤ) : ℚ) - 1 / 2 ≤ q / spacing q := by
        rw [le_div_iff₀ hpos, sub_mul, ← hk']
        grind
      have hhigh : q / spacing q ≤ ((2 * m : ℤ) : ℚ) + 1 / 2 := by
        rw [div_le_iff₀ hpos, add_mul, ← hk']
        grind
      refine ⟨k, ?_⟩
      rw [round, nearest_eq_of_even (Dvd.intro m rfl) hlow hhigh, ← hk']

/-- Rounding stays below the next whole number, where half a spacing does not
reach down to the one before. -/
theorem ceil_round {q : ℚ} (he : exponent q < 0) (h : spacing q / 2 < q - (⌈q⌉ - 1)) :
    ⌈round q⌉ = ⌈q⌉ := by
  have hpos := spacing_pos q
  have hbound := abs_round_sub_le q
  rw [abs_le] at hbound
  obtain ⟨m, hm⟩ := intCast_multiple he.le ⌈q⌉
  have hquotient : q / spacing q ≤ m := by
    rw [div_le_iff₀ hpos, spacing, ← hm]
    exact Int.le_ceil q
  have hnearest : (nearest (q / spacing q) : ℚ) ≤ m := by exact_mod_cast nearest_le hquotient
  have hround := mul_le_mul_of_nonneg_right hnearest hpos.le
  rw [Int.ceil_eq_iff]
  constructor
  · grind
  · rw [hm]
    exact hround

/-- **A quotient of integers of up to 53 bits keeps its ceiling.** -/
theorem ceil_round_div {t n : ℕ} (ht : t < 2 ^ 53) (hn : 0 < n) (hn' : n < 2 ^ 53) :
    ⌈round (t / n : ℚ)⌉ = ⌈(t / n : ℚ)⌉ := by
  have hnpos : (0 : ℚ) < n := by exact_mod_cast hn
  by_cases hone : n = 1 ∨ t = 0
  · have hwhole : (t / n : ℚ) = ((t : ℤ) : ℚ) := by
      rcases hone with rfl | rfl
      · simp
      · simp
    have habs : |(t : ℤ)| < 2 ^ 53 := by
      rw [Nat.abs_cast]
      exact_mod_cast ht
    rw [hwhole, round_of_representable (representable_intCast habs)]
  · have htpos : (1 : ℚ) ≤ t := by exact_mod_cast (by omega : 1 ≤ t)
    have htlt : (t : ℚ) < 2 ^ 53 := by exact_mod_cast ht
    have hnlt : (n : ℚ) < 2 ^ 53 := by exact_mod_cast hn'
    have hntwo : (2 : ℚ) ≤ n := by exact_mod_cast (by omega : 2 ≤ n)
    have hpos : (0 : ℚ) < t / n := div_pos (by grind) hnpos
    have hbig : leastNormal ≤ t / n := by
      have hsmall : leastNormal * 2 ^ 53 ≤ 1 := by decide +kernel
      rw [le_div_iff₀ hnpos]
      exact le_trans (mul_le_mul_of_nonneg_left hnlt.le leastNormal_pos.le) (le_trans hsmall htpos)
    have he : exponent (t / n : ℚ) ≤ -1 := by
      refine exponent_le (ne_of_gt hpos) (by decide) ?_
      have hpow : (2 : ℚ) ^ ((-1 : ℤ) + 53) = 2 ^ 52 := by norm_num
      rw [abs_of_pos hpos, hpow, div_lt_iff₀ hnpos]
      grind
    refine ceil_round (by omega) ?_
    have hstep : (1 : ℚ) ≤ (t / n - (⌈(t / n : ℚ)⌉ - 1)) * n := by
      have hlt := Int.ceil_lt_add_one (t / n : ℚ)
      have hsub : (t / n - (⌈(t / n : ℚ)⌉ - 1)) * n =
          (((t : ℤ) - (⌈(t / n : ℚ)⌉ - 1) * n : ℤ) : ℚ) := by
        rw [sub_mul, div_mul_cancel₀ _ (ne_of_gt hnpos)]
        push_cast
        rfl
      have hgt : (0 : ℚ) < (((t : ℤ) - (⌈(t / n : ℚ)⌉ - 1) * n : ℤ) : ℚ) := by
        rw [← hsub]
        exact mul_pos (by grind) hnpos
      rw [hsub]
      have hint : (0 : ℤ) < (t : ℤ) - (⌈(t / n : ℚ)⌉ - 1) * n := by exact_mod_cast hgt
      exact_mod_cast hint
    have hfine := mul_le_mul_of_nonneg_right (spacing_mul_le hbig) hnpos.le
    rw [div_mul_cancel₀ _ (ne_of_gt hnpos)] at hfine
    have hhalf : spacing (t / n : ℚ) / 2 * n < 1 := by grind
    exact lt_of_mul_lt_mul_right (lt_of_lt_of_le hhalf hstep) hnpos.le

/-! ## One less -/

/-- One less than a double of at least one that counts in ones or finer. -/
theorem round_sub_one {p : ℚ} (hp : Representable p) (hone : 1 ≤ p) (he : exponent p ≤ 0) :
    round (p - 1) = p - 1 := by
  obtain ⟨m, hm⟩ := hp.multiple
  obtain ⟨k, hk⟩ := intCast_multiple he 1
  by_cases hfirst : p = 1
  · rw [hfirst, sub_self, round_zero]
  · have hpos : 0 < p - 1 := by grind
    have hmono : exponent (p - 1) ≤ exponent p := exponent_mono hpos (by grind)
    obtain ⟨m', hm'⟩ := multiple_of_le (m := m - k) hmono
    refine round_of_multiple (m := m') ?_
    rw [spacing, ← hm', Int.cast_sub, sub_mul, ← hk, Int.cast_one, ← spacing, ← hm]

/-- Taking one away never rounds up beyond the number. -/
theorem round_sub_one_le {p : ℚ} (hp : Representable p) (hone : 1 ≤ p) : round (p - 1) ≤ p := by
  by_cases hfirst : p = 1
  · rw [hfirst, sub_self, round_zero]
    exact zero_le_one
  · exact round_le (by grind) hp (by grind)

/-- One less than a large double is rounded to it. -/
theorem round_sub_one_large {p : ℚ} (hp : Representable p) (hlarge : 2 ^ 55 ≤ p) :
    round (p - 1) = p := by
  have hlt : (2 : ℚ) ^ 54 ≤ p - 1 := by grind
  have hpos : 0 < p - 1 := by grind
  have hspacing := spacing_pos (p - 1)
  obtain ⟨m, hm⟩ := hp.multiple
  obtain ⟨m', hm'⟩ := multiple_of_le (m := m) (exponent_mono hpos (by grind : p - 1 ≤ p))
  have hcoarse : 2 < spacing (p - 1) := by
    have h := abs_lt_mul_spacing (p - 1)
    rw [abs_of_pos hpos] at h
    grind
  have hp' : p = m' * spacing (p - 1) := by
    rw [spacing, ← hm', ← spacing, ← hm]
  have hquotient : (p - 1) / spacing (p - 1) = m' - 1 / spacing (p - 1) := by
    rw [sub_div, (div_eq_iff (ne_of_gt hspacing)).mpr hp']
  have hsmall : 1 / spacing (p - 1) < 1 / 2 := one_div_lt_one_div_of_lt two_pos hcoarse
  have hpositive : 0 < 1 / spacing (p - 1) := one_div_pos.mpr hspacing
  have hnearest : nearest ((p - 1) / spacing (p - 1)) = m' := by
    rw [hquotient]
    exact nearest_eq (by grind) (by grind)
  rw [round, hnearest, ← hp']

end StoreKit.Binary64
