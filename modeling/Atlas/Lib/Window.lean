import Mathlib.Order.Basic
import Mathlib.Data.Nat.Basic

/-!
# Atlas.Lib.Window

A queue served oldest first, a window at a time.

A round serves the `w` oldest items that wait.  An item that was served may
leave, and one that stays has one more attempt behind it; after `m` attempts it
leaves.  Items are known by their rank, the number of items ahead of them when
the rounds began.

`passed_over` is why nobody starves: while the window is full of other items
those have had their rounds, so the block of `w` ranks they come from has not
used up its `m` rounds.  `lt_rounds` turns ranks and attempts into a bound on
the number of rounds.
-/

namespace StoreKit

/-! ## Ranks -/

section Rank

variable {α : Type*}

/-- How many keys are smaller. -/
def rank [LT α] [DecidableLT α] (keys : List α) (x : α) : Nat := keys.countP (· < x)

variable [Preorder α] [DecidableLT α]

theorem rank_lt_length {keys : List α} {x : α} (hx : x ∈ keys) :
    rank keys x < keys.length := by
  have hle : rank keys x ≤ keys.length := List.countP_le_length
  have hne : rank keys x ≠ keys.length := by
    intro heq
    have hall := List.countP_eq_length.mp heq x hx
    simp at hall
  omega

/-- A key counts for every key that is greater. -/
theorem rank_lt_rank {keys : List α} {x y : α} (hx : x ∈ keys) (hxy : x < y) :
    rank keys x < rank keys y := by
  induction keys with
  | nil => contradiction
  | cons k keys ih =>
      have hmono : rank keys x ≤ rank keys y := by
        apply List.countP_mono_left
        intro z _ hz
        simp only [decide_eq_true_eq] at hz ⊢
        exact lt_trans hz hxy
      simp only [rank, List.countP_cons, decide_eq_true_eq] at ih hmono ⊢
      rcases List.mem_cons.mp hx with rfl | hx
      · rw [if_neg (lt_irrefl _), if_pos hxy]
        omega
      · have hlt := ih hx
        by_cases hk : k < x
        · rw [if_pos hk, if_pos (lt_trans hk hxy)]
          omega
        · rw [if_neg hk]
          omega

end Rank

/-! ## Rounds -/

/-- Increasing numbers below a bound leave room for themselves. -/
theorem add_length_le {x k : Nat} {l : List Nat} (hsorted : (x :: l).Pairwise (· < ·))
    (hk : ∀ y ∈ x :: l, y < k) : x + (x :: l).length ≤ k := by
  induction l generalizing x with
  | nil =>
      have hx : x < k := hk x List.mem_cons_self
      rw [List.length_singleton]
      omega
  | cons y l ih =>
      obtain ⟨hx, hrest⟩ := List.pairwise_cons.mp hsorted
      have hlt : x < y := hx y List.mem_cons_self
      have hle := ih hrest fun z hz => hk z (List.mem_cons_of_mem _ hz)
      simp only [List.length_cons] at hle ⊢
      omega

variable {ι : Type*} {rank attempts : ι → Nat} {w m b : Nat}

/-- **Nobody starves**: an item behind a full window is passed over only while
its own block of ranks has not come up. -/
theorem passed_over (hw : 0 < w) {page : List ι}
    (hsorted : page.Pairwise fun x y => rank x < rank y) (hfull : page.length = w)
    (hlevel : ∀ x ∈ page, b ≤ attempts x + m * (rank x / w))
    (hfew : ∀ x ∈ page, attempts x < m) {k : Nat} (hbehind : ∀ x ∈ page, rank x < k) :
    b < m * (k / w) := by
  cases page with
  | nil => simp at hfull; omega
  | cons x rest =>
      have hroom : rank x + w ≤ k := by
        have hle := add_length_le (x := rank x) (l := rest.map rank) (k := k)
          (List.pairwise_map.mpr hsorted) (by simpa using hbehind)
        simpa [← hfull] using hle
      have hblock : rank x / w + 1 ≤ k / w := by
        rw [← Nat.add_div_right _ hw]
        exact Nat.div_le_div_right hroom
      have hx := hlevel x List.mem_cons_self
      have ha := hfew x List.mem_cons_self
      calc
        b ≤ attempts x + m * (rank x / w) := hx
        _ < m + m * (rank x / w) := Nat.add_lt_add_right ha _
        _ = m * (rank x / w + 1) := by rw [Nat.mul_add_one, Nat.add_comm]
        _ ≤ m * (k / w) := Nat.mul_le_mul_left m hblock

/-- An item that still waits has not had all the rounds that `n` items take. -/
theorem lt_rounds (hw : 0 < w) {a k n : Nat} (ha : a < m) (hk : k < n) :
    a + m * (k / w) < m * ((n + w - 1) / w) := by
  have hblock : k / w + 1 ≤ (n + w - 1) / w := by
    rw [← Nat.add_div_right _ hw]
    apply Nat.div_le_div_right
    omega
  calc
    a + m * (k / w) < m + m * (k / w) := Nat.add_lt_add_right ha _
    _ = m * (k / w + 1) := by rw [Nat.mul_add_one, Nat.add_comm]
    _ ≤ m * ((n + w - 1) / w) := Nat.mul_le_mul_left m hblock

end StoreKit
