import Atlas.Lib.Rounding

/-!
# Atlas.Lib.Shortest

The shortest decimal that is rounded to a given double.

A positive `q` lies between two whole numbers of units of
`10 ^ (magnitude q - k)`, which have `k` digits.  `shortest` takes the first `k`
for which one of the two is rounded to `q`, and of two that are the nearer one.
Every double has such a decimal (`shortest_isSome`), and a whole one has one with
no more digits than itself (`shortest_whole`).
-/

namespace StoreKit.Binary64

/-! ## Decimals -/

/-- `digits * 10 ^ exponent`. -/
structure Decimal where
  digits : ℕ
  exponent : ℤ
deriving DecidableEq

def Decimal.value (d : Decimal) : ℚ := d.digits * 10 ^ d.exponent

/-- The number of digits before the decimal point. -/
def magnitude (q : ℚ) : ℤ := Int.log 10 q + 1

/-- `n` units of `10 ^ e`, with `k` digits: the next power of ten is counted in
larger units. -/
def ofUnits (k : ℕ) (e n : ℤ) : Decimal :=
  if n = 10 ^ k then ⟨10 ^ (k - 1), e + 1⟩ else ⟨n.toNat, e⟩

/-- The integer on the other side of `x`. -/
def secondNearest (x : ℚ) : ℤ := if nearest x = ⌊x⌋ then ⌊x⌋ + 1 else ⌊x⌋

/-- The decimal of `k` digits that is rounded to `q`, if there is one. -/
def shortestOf (q : ℚ) (k : ℕ) : Option Decimal :=
  let e := magnitude q - k
  let x := q / 10 ^ e
  [ofUnits k e (nearest x), ofUnits k e (secondNearest x)].find? fun d => round d.value = q

/-- The first one with `k` digits or more. -/
def shortestFrom (q : ℚ) : ℕ → ℕ → Option Decimal
  | 0, _ => none
  | fuel + 1, k => (shortestOf q k).or (shortestFrom q fuel (k + 1))

/-- The shortest one.  A double is a whole number of units of `10 ^ (-1074)`. -/
def shortest (q : ℚ) : Option Decimal := shortestFrom q ((magnitude q).toNat + 1075) 1

/-! ## Digits -/

/-- A number is between the powers of ten on both sides of its first digit. -/
theorem magnitude_bounds {q : ℚ} (hq : 0 < q) :
    (10 : ℚ) ^ (magnitude q - 1) ≤ q ∧ q < 10 ^ magnitude q := by
  have hlow : (10 : ℚ) ^ Int.log 10 q ≤ q := by
    exact_mod_cast Int.zpow_log_le_self (R := ℚ) (b := 10) (by decide) hq
  have hhigh : q < (10 : ℚ) ^ (Int.log 10 q + 1) := by
    exact_mod_cast Int.lt_zpow_succ_log_self (R := ℚ) (b := 10) (by decide) q
  rw [magnitude, Int.add_sub_cancel]
  exact ⟨hlow, hhigh⟩

theorem ten_zpow_le {m n : ℤ} (h : m ≤ n) : (10 : ℚ) ^ m ≤ 10 ^ n :=
  zpow_le_zpow_right₀ (by norm_num) h

theorem ten_zpow_lt_iff {m n : ℤ} : (10 : ℚ) ^ m < 10 ^ n ↔ m < n :=
  zpow_lt_zpow_iff_right₀ (by norm_num)

/-- Counted in units of its last digit of `k`, a number has `k` digits. -/
theorem units_bounds {q : ℚ} (hq : 0 < q) {k : ℕ} (hk : 0 < k) :
    (10 : ℚ) ^ (k - 1) ≤ q / 10 ^ (magnitude q - k) ∧ q / 10 ^ (magnitude q - k) < 10 ^ k := by
  obtain ⟨hlow, hhigh⟩ := magnitude_bounds hq
  have hunit : (0 : ℚ) < 10 ^ (magnitude q - k) := zpow_pos (by norm_num) _
  have hsplit : ∀ j : ℕ, (10 : ℚ) ^ j * 10 ^ (magnitude q - k) = 10 ^ (magnitude q - k + j) := by
    intro j
    rw [zpow_add₀ (by norm_num), zpow_natCast, mul_comm]
  rw [le_div_iff₀ hunit, div_lt_iff₀ hunit, hsplit, hsplit]
  constructor
  · refine le_trans (ten_zpow_le ?_) hlow
    push_cast [Nat.cast_sub hk]
    omega
  · refine lt_of_lt_of_le hhigh (ten_zpow_le ?_)
    omega

/-- The two candidates are the integers next to the number. -/
theorem nearest_cases (x : ℚ) : nearest x = ⌊x⌋ ∨ nearest x = ⌊x⌋ + 1 := by
  unfold nearest
  split_ifs <;> simp

/-- One of the two neighbours is the floor, and the other the next integer. -/
theorem secondNearest_cases (x : ℚ) : secondNearest x = ⌊x⌋ ∨ secondNearest x = ⌊x⌋ + 1 := by
  unfold secondNearest
  split_ifs <;> simp

/-- A decimal of `k` digits that is rounded to `q`. -/
structure Denotes (q : ℚ) (k : ℕ) (d : Decimal) : Prop where
  rounds : round d.value = q
  low : 10 ^ (k - 1) ≤ d.digits
  high : d.digits < 10 ^ k
  place : d.exponent + k = magnitude q ∨ d.exponent + k = magnitude q + 1

/-- A decimal of `k` digits has `k` digits, after a carry as well. -/
theorem ofUnits_digits {k : ℕ} (hk : 0 < k) (e : ℤ) {n : ℤ} (hlow : 10 ^ (k - 1) ≤ n)
    (hhigh : n ≤ 10 ^ k) :
    10 ^ (k - 1) ≤ (ofUnits k e n).digits ∧ (ofUnits k e n).digits < 10 ^ k ∧
      ((ofUnits k e n).exponent = e ∨ (ofUnits k e n).exponent = e + 1) := by
  unfold ofUnits
  split_ifs with hpower
  · exact ⟨le_refl _, Nat.pow_lt_pow_right (by decide) (by omega), .inr rfl⟩
  · have hlt : n < 10 ^ k := lt_of_le_of_ne hhigh hpower
    have hpos : 0 ≤ n := le_trans (by positivity) hlow
    refine ⟨?_, ?_, .inl rfl⟩
    · exact (Int.le_toNat hpos).mpr (by exact_mod_cast hlow)
    · exact (Int.toNat_lt hpos).mpr (by exact_mod_cast hlt)

/-- A carry does not change the value. -/
theorem ofUnits_value {k : ℕ} (hk : 0 < k) (e : ℤ) {n : ℤ} (hn : 0 ≤ n) :
    (ofUnits k e n).value = n * 10 ^ e := by
  unfold ofUnits
  split_ifs with hpower
  · obtain ⟨j, rfl⟩ : ∃ j, k = j + 1 := ⟨k - 1, by omega⟩
    rw [Decimal.value, hpower, zpow_add₀ (by norm_num)]
    push_cast
    rw [pow_succ]
    ring
  · obtain ⟨m, rfl⟩ := Int.eq_ofNat_of_zero_le hn
    rw [Decimal.value, Int.toNat_natCast]
    rfl

/-- A decimal of `k` digits that is found is rounded to the number. -/
theorem denotes_of_shortestOf {q : ℚ} (hq : 0 < q) {k : ℕ} (hk : 0 < k) {d : Decimal}
    (h : shortestOf q k = some d) : Denotes q k d := by
  obtain ⟨hlow, hhigh⟩ := units_bounds hq hk
  generalize hx : q / 10 ^ (magnitude q - k) = x at hlow hhigh
  have hfloor : (10 : ℤ) ^ (k - 1) ≤ ⌊x⌋ := Int.le_floor.mpr (by exact_mod_cast hlow)
  have hceil : ⌊x⌋ + 1 ≤ (10 : ℤ) ^ k :=
    Int.add_one_le_of_lt (Int.floor_lt.mpr (by exact_mod_cast hhigh))
  have hcandidate : ∃ n : ℤ, (n = ⌊x⌋ ∨ n = ⌊x⌋ + 1) ∧ d = ofUnits k (magnitude q - k) n := by
    have hmem := List.mem_of_find?_eq_some h
    rw [hx] at hmem
    rcases List.mem_cons.mp hmem with rfl | hmem
    · exact ⟨_, nearest_cases x, rfl⟩
    · exact ⟨_, secondNearest_cases x, List.mem_singleton.mp hmem⟩
  obtain ⟨n, hn, rfl⟩ := hcandidate
  obtain ⟨hdigits, hdigits', hexponent⟩ := ofUnits_digits hk (magnitude q - k) (n := n)
    (by omega) (by omega)
  have hrounds : round (ofUnits k (magnitude q - k) n).value = q := by
    rw [shortestOf] at h
    simpa using List.find?_some h
  exact ⟨hrounds, hdigits, hdigits', by omega⟩

/-! ## Existence -/

/-- A double that is a whole number of units is its own decimal. -/
theorem shortestOf_isSome {q : ℚ} (hq : 0 < q) (hround : round q = q) {k : ℕ} (hk : 0 < k) {n : ℤ}
    (h : q = n * 10 ^ (magnitude q - k)) : (shortestOf q k).isSome = true := by
  have hunit : (0 : ℚ) < 10 ^ (magnitude q - k) := zpow_pos (by norm_num) _
  have hx : q / 10 ^ (magnitude q - k) = n := (div_eq_iff hunit.ne').mpr h
  have hn : 0 ≤ n := by
    have hcast : (0 : ℚ) ≤ n := hx ▸ (div_pos hq hunit).le
    exact_mod_cast hcast
  rw [shortestOf, List.find?_isSome]
  refine ⟨_, List.mem_cons_self, decide_eq_true ?_⟩
  rw [hx, nearest_intCast, ofUnits_value hk _ hn, ← h]
  exact hround

/-- The search ends where there is a decimal, or before. -/
theorem shortestFrom_cases {q : ℚ} {fuel k j : ℕ} (hj : j < fuel)
    (h : (shortestOf q (k + j)).isSome = true) :
    ∃ i d, i ≤ j ∧ shortestOf q (k + i) = some d ∧ shortestFrom q fuel k = some d := by
  induction fuel generalizing k j with
  | zero => contradiction
  | succ fuel ih =>
      cases hfirst : shortestOf q k with
      | some d => exact ⟨0, d, Nat.zero_le j, hfirst, by rw [shortestFrom, hfirst, Option.some_or]⟩
      | none =>
          obtain ⟨j, rfl⟩ : ∃ i, j = i + 1 := by
            cases j with
            | zero => rw [Nat.add_zero, hfirst] at h; cases h
            | succ i => exact ⟨i, rfl⟩
          have hnext : (shortestOf q (k + 1 + j)).isSome = true := by
            rwa [Nat.add_right_comm, Nat.add_assoc]
          obtain ⟨i, d, hi, hd, hfrom⟩ := ih (Nat.lt_of_succ_lt_succ hj) hnext
          refine ⟨i + 1, d, Nat.succ_le_succ hi, ?_, ?_⟩
          · rwa [Nat.add_right_comm, Nat.add_assoc] at hd
          · rw [shortestFrom, hfirst, Option.none_or, hfrom]

/-- What the search gives is rounded to the number. -/
theorem denotes_of_shortestFrom {q : ℚ} (hq : 0 < q) {fuel k : ℕ} (hk : 0 < k) {d : Decimal}
    (h : shortestFrom q fuel k = some d) : ∃ j, 0 < j ∧ Denotes q j d := by
  induction fuel generalizing k with
  | zero => cases h
  | succ fuel ih =>
      rw [shortestFrom, Option.or_eq_some_iff] at h
      rcases h with hfirst | ⟨-, hrest⟩
      · exact ⟨k, hk, denotes_of_shortestOf hq hk hfirst⟩
      · exact ih (Nat.succ_pos k) hrest

/-- **The shortest decimal denotes the number.** -/
theorem denotes_of_shortest {q : ℚ} (hq : 0 < q) {d : Decimal} (h : shortest q = some d) :
    ∃ k, 0 < k ∧ Denotes q k d := denotes_of_shortestFrom hq Nat.one_pos h

/-- A number that has a decimal of `k` digits gets one of at most as many. -/
theorem shortest_of_units {q : ℚ} (hq : 0 < q) (hround : round q = q) {k : ℕ} (hk : 0 < k)
    (hfuel : k ≤ (magnitude q).toNat + 1075) {n : ℤ} (h : q = n * 10 ^ (magnitude q - k)) :
    ∃ j d, 0 < j ∧ j ≤ k ∧ shortest q = some d ∧ Denotes q j d := by
  have hsome : (shortestOf q (1 + (k - 1))).isSome = true := by
    rw [Nat.add_sub_cancel' hk]
    exact shortestOf_isSome hq hround hk h
  have hfew : k - 1 < (magnitude q).toNat + 1075 := by omega
  obtain ⟨i, d, hi, hd, hfrom⟩ := shortestFrom_cases hfew hsome
  exact ⟨1 + i, d, by omega, by omega, hfrom, denotes_of_shortestOf hq (by omega) hd⟩

/-- **A whole double has a decimal of no more digits than itself.** -/
theorem shortest_whole {m : ℕ} (hm : 0 < m) (hround : round m = m) :
    ∃ (k : ℕ) (d : Decimal), 0 < k ∧ k ≤ magnitude m ∧ shortest m = some d ∧ Denotes m k d := by
  have hq : (0 : ℚ) < m := Nat.cast_pos.mpr hm
  have hone : (1 : ℚ) ≤ m := by exact_mod_cast hm
  have hmagnitude : 0 < magnitude m := by
    have hlt := lt_of_le_of_lt hone (magnitude_bounds hq).2
    rw [← zpow_zero (10 : ℚ)] at hlt
    exact ten_zpow_lt_iff.mp hlt
  obtain ⟨k, hk⟩ := Int.eq_ofNat_of_zero_le hmagnitude.le
  obtain ⟨j, d, hj, hle, hshortest, hdenotes⟩ := shortest_of_units (k := k) (n := m) hq hround
    (by omega) (by omega) (by rw [hk, Int.sub_self, zpow_zero, mul_one, Int.cast_natCast])
  exact ⟨j, d, hj, by omega, hshortest, hdenotes⟩

/-- **Every positive double has a shortest decimal.** -/
theorem shortest_isSome {q : ℚ} (hq : 0 < q) (h : Representable q) :
    (shortest q).isSome = true := by
  have hround : round q = q := round_of_representable h
  obtain ⟨m, e, -, he, -, hvalue⟩ := h
  obtain ⟨m', hm'⟩ := multiple_of_le (m := m) he
  have hwhole : q = (m' * 5 ^ 1074 : ℤ) * 10 ^ (-1074 : ℤ) := by
    rw [hvalue, hm']
    have hten : (10 : ℚ) ^ (-1074 : ℤ) = 5 ^ (-1074 : ℤ) * 2 ^ (-1074 : ℤ) := by
      rw [← mul_zpow]
      norm_num
    have hfive : (5 : ℚ) ^ 1074 * 5 ^ (-1074 : ℤ) = 1 := by
      rw [← zpow_natCast, ← zpow_add₀ (by norm_num)]
      rfl
    rw [Int.cast_mul, Int.cast_pow, Int.cast_ofNat, hten, mul_assoc, ← mul_assoc ((5 : ℚ) ^ 1074),
      hfive, one_mul]
  have hsmall : -1073 ≤ magnitude q := by
    have hm : 1 ≤ m' * 5 ^ 1074 := by
      have hpos : (0 : ℚ) < (m' * 5 ^ 1074 : ℤ) := by
        have hunit : (0 : ℚ) < 10 ^ (-1074 : ℤ) := zpow_pos (by norm_num) _
        rw [hwhole] at hq
        exact (mul_pos_iff_of_pos_right hunit).mp hq
      exact_mod_cast hpos
    have hle : (10 : ℚ) ^ (-1074 : ℤ) ≤ q := by
      rw [hwhole]
      have hcast : (1 : ℚ) ≤ (m' * 5 ^ 1074 : ℤ) := by exact_mod_cast hm
      exact le_mul_of_one_le_left (zpow_pos (by norm_num) _).le hcast
    have hlt := lt_of_le_of_lt hle (magnitude_bounds hq).2
    have := ten_zpow_lt_iff.mp hlt
    omega
  obtain ⟨k, hk⟩ := Int.eq_ofNat_of_zero_le (a := magnitude q + 1074) (by omega)
  have hunits : q = (m' * 5 ^ 1074 : ℤ) * 10 ^ (magnitude q - k) := by
    have hexponent : magnitude q - k = -1074 := by omega
    rw [hexponent]
    exact hwhole
  obtain ⟨j, d, -, -, hshortest, -⟩ := shortest_of_units hq hround (by omega) (by omega) hunits
  rw [hshortest]
  rfl

example : shortest (3 / 2) = some ⟨15, -1⟩ ∧ shortest 1000 = some ⟨1, 3⟩ := by decide +kernel

end StoreKit.Binary64
