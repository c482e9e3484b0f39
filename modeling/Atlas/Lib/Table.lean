import Mathlib.Algebra.Ring.Nat
import Mathlib.Data.List.Nodup
import Mathlib.Data.List.Basic

/-!
# Atlas.Lib.Table

Keyed tables: a list of rows no two of which share a primary key.  The key
condition is a field of the structure, so every operation proves once that it
keeps keys unique and no later module has to carry the fact along.

Three operations change a table, as a relational store offers them:

* `put` — write the row under its key, in place if the key is taken and at
  the end otherwise;
* `insertAll?` — add rows, all or none, refused when a key is taken or repeats;
* nothing else, so rows are never lost.

The lemmas say what a lookup sees afterwards (`find?_put`), which rows stay
(`mem_put_iff`, `rows_of_insertAll?`), and how a `put` acts on the part of the
table a predicate selects (`filter_put_of_not`, `filter_rows_put`) and on a
total over the rows (`total_put`).
-/

namespace StoreKit

/-- A table of rows `ρ` with primary key `key`. -/
structure Table (κ ρ : Type*) (key : ρ → κ) where
  rows : List ρ
  nodup : (rows.map key).Nodup

namespace Table

variable {κ ρ : Type*} {key : ρ → κ}

/-- A table is its rows. -/
@[ext] theorem ext {t u : Table κ ρ key} (h : t.rows = u.rows) : t = u := by
  cases t; cases u; cases h; rfl

instance [DecidableEq ρ] : DecidableEq (Table κ ρ key) := fun t u =>
  decidable_of_iff (t.rows = u.rows) ⟨ext, fun h => congrArg rows h⟩

/-- The table without rows. -/
def empty : Table κ ρ key := ⟨[], List.nodup_nil⟩

@[simp] theorem rows_empty : (empty : Table κ ρ key).rows = [] := rfl

/-- Rows are determined by their key. -/
theorem eq_of_key_eq (t : Table κ ρ key) {r s : ρ} (hr : r ∈ t.rows) (hs : s ∈ t.rows)
    (h : key r = key s) : r = s :=
  List.inj_on_of_nodup_map t.nodup hr hs h

/-- Any search that only one key answers finds the row of that key. -/
theorem find?_selected (t : Table κ ρ key) {p : ρ → Bool} {r : ρ} (hr : r ∈ t.rows)
    (hp : p r = true) (hkey : ∀ x, p x = true → key x = key r) : t.rows.find? p = some r := by
  cases h : t.rows.find? p with
  | none => exact absurd hp (List.find?_eq_none.mp h r hr)
  | some x =>
      have hx : x ∈ t.rows := List.mem_of_find?_eq_some h
      rw [t.eq_of_key_eq hx hr (hkey x (List.find?_some h))]

variable [DecidableEq κ]

/-! ## Lookup -/

/-- The row stored under a key. -/
def find? (t : Table κ ρ key) (k : κ) : Option ρ := t.rows.find? fun r => key r = k

@[simp] theorem find?_empty (k : κ) : (empty : Table κ ρ key).find? k = none := rfl

/-- A row is found under its key, and no other one is. -/
theorem find?_eq_some_iff (t : Table κ ρ key) (k : κ) (r : ρ) :
    t.find? k = some r ↔ r ∈ t.rows ∧ key r = k := by
  constructor
  · intro h
    exact ⟨List.mem_of_find?_eq_some h, by simpa using List.find?_some h⟩
  · rintro ⟨hr, hk⟩
    cases h : t.find? k with
    | none =>
        have hn := List.find?_eq_none.mp h r hr
        exact absurd hk (by simpa using hn)
    | some s =>
        have hs : s ∈ t.rows := List.mem_of_find?_eq_some h
        have hks : key s = k := by simpa using List.find?_some h
        rw [t.eq_of_key_eq hs hr (hks.trans hk.symm)]

theorem mem_of_find? {t : Table κ ρ key} {k : κ} {r : ρ} (h : t.find? k = some r) :
    r ∈ t.rows := ((t.find?_eq_some_iff k r).mp h).1

theorem key_of_find? {t : Table κ ρ key} {k : κ} {r : ρ} (h : t.find? k = some r) :
    key r = k := ((t.find?_eq_some_iff k r).mp h).2

/-- Every row is found under its key. -/
theorem find?_key (t : Table κ ρ key) {r : ρ} (h : r ∈ t.rows) : t.find? (key r) = some r :=
  (t.find?_eq_some_iff _ _).mpr ⟨h, rfl⟩

/-- Nothing is found under a key that no row has. -/
theorem find?_eq_none_iff (t : Table κ ρ key) (k : κ) :
    t.find? k = none ↔ k ∉ t.rows.map key := by
  simp [find?, List.find?_eq_none]

/-! ## Writing one row -/

/-- `r` in the place of the row that has its key, any other row as it is. -/
def overwrite (key : ρ → κ) (r x : ρ) : ρ := if key x = key r then r else x

/-- A row is overwritten by one of its own key. -/
theorem key_overwrite (r x : ρ) : key (overwrite key r x) = key x := by
  unfold overwrite
  split
  · next h => exact h.symm
  · rfl

/-- Overwriting changes no key. -/
theorem map_key_overwrite (r : ρ) (l : List ρ) :
    (l.map (overwrite key r)).map key = l.map key := by
  simp [Function.comp_def, key_overwrite]

/-- Write `r` under its key: in place if the key is taken, else at the end. -/
def put (t : Table κ ρ key) (r : ρ) : Table κ ρ key :=
  if h : key r ∈ t.rows.map key then
    ⟨t.rows.map (overwrite key r), by rw [map_key_overwrite]; exact t.nodup⟩
  else
    ⟨t.rows ++ [r], by
      rw [List.map_append, List.map_singleton]
      exact List.nodup_append.mpr ⟨t.nodup, List.nodup_singleton _, by
        intro a ha b hb hab
        rw [List.mem_singleton] at hb
        exact h (hb ▸ hab ▸ ha)⟩⟩

/-- A row with a known key replaces the one that had it. -/
theorem rows_put_of_mem {t : Table κ ρ key} {r : ρ} (h : key r ∈ t.rows.map key) :
    (t.put r).rows = t.rows.map (overwrite key r) := by
  rw [put, dif_pos h]

/-- A row with a new key is added at the end. -/
theorem rows_put_of_not_mem {t : Table κ ρ key} {r : ρ} (h : key r ∉ t.rows.map key) :
    (t.put r).rows = t.rows ++ [r] := by
  rw [put, dif_neg h]

/-- After a `put` the table holds the row and every row of another key. -/
theorem mem_put_iff (t : Table κ ρ key) (r x : ρ) :
    x ∈ (t.put r).rows ↔ x = r ∨ (x ∈ t.rows ∧ key x ≠ key r) := by
  by_cases h : key r ∈ t.rows.map key
  · rw [rows_put_of_mem h, List.mem_map]
    constructor
    · rintro ⟨y, hy, rfl⟩
      by_cases hk : key y = key r
      · left; simp [overwrite, hk]
      · right; simp [overwrite, hk, hy]
    · rintro (rfl | ⟨hx, hk⟩)
      · obtain ⟨y, hy, hyk⟩ := List.mem_map.mp h
        exact ⟨y, hy, by simp [overwrite, hyk]⟩
      · exact ⟨x, hx, by simp [overwrite, hk]⟩
  · rw [rows_put_of_not_mem h, List.mem_append, List.mem_singleton]
    constructor
    · rintro (hx | rfl)
      · exact Or.inr ⟨hx, fun hk => h (hk ▸ List.mem_map_of_mem hx)⟩
      · exact Or.inl rfl
    · rintro (rfl | ⟨hx, -⟩)
      · exact Or.inr rfl
      · exact Or.inl hx

/-- A lookup after a `put`. -/
theorem find?_put (t : Table κ ρ key) (r : ρ) (k : κ) :
    (t.put r).find? k = if key r = k then some r else t.find? k := by
  by_cases hk : key r = k
  · rw [if_pos hk, find?_eq_some_iff]
    exact ⟨(t.mem_put_iff r r).mpr (Or.inl rfl), hk⟩
  · rw [if_neg hk]
    cases h : t.find? k with
    | some x =>
        have hx := (t.find?_eq_some_iff k x).mp h
        rw [find?_eq_some_iff, mem_put_iff]
        exact ⟨Or.inr ⟨hx.1, fun he => hk (he ▸ hx.2)⟩, hx.2⟩
    | none =>
        rw [find?_eq_none_iff] at h ⊢
        intro hmem
        obtain ⟨x, hx, hxk⟩ := List.mem_map.mp hmem
        rcases (t.mem_put_iff r x).mp hx with rfl | ⟨hx', -⟩
        · exact hk hxk
        · exact h (hxk ▸ List.mem_map_of_mem hx')

@[simp] theorem find?_put_self (t : Table κ ρ key) (r : ρ) :
    (t.put r).find? (key r) = some r := by
  rw [find?_put, if_pos rfl]

/-- A search that found nothing finds the row that is put, if that is what it is
for. -/
theorem find?_put_of_none {t : Table κ ρ key} {r : ρ} {p : ρ → Bool}
    (hnone : t.rows.find? p = none) (hr : p r = true) : (t.put r).rows.find? p = some r := by
  cases h : (t.put r).rows.find? p with
  | none =>
      have hmem : r ∈ (t.put r).rows := (t.mem_put_iff r r).mpr (Or.inl rfl)
      exact absurd hr (List.find?_eq_none.mp h r hmem)
  | some x =>
      rcases (t.mem_put_iff r x).mp (List.mem_of_find?_eq_some h) with rfl | ⟨hx, -⟩
      · rfl
      · exact absurd (List.find?_some h) (List.find?_eq_none.mp hnone x hx)

/-- Keys after a `put`. -/
theorem mem_keys_put (t : Table κ ρ key) (r : ρ) (k : κ) :
    k ∈ (t.put r).rows.map key ↔ k = key r ∨ k ∈ t.rows.map key := by
  have h := find?_put t r k
  by_cases hk : key r = k
  · subst hk
    simp only [true_or, iff_true]
    exact List.mem_map_of_mem ((t.mem_put_iff r r).mpr (Or.inl rfl))
  · rw [if_neg hk] at h
    have hiff := (find?_eq_none_iff (t.put r) k).symm.trans (h ▸ find?_eq_none_iff t k)
    rw [not_iff_not] at hiff
    rw [hiff]
    simp [Ne.symm hk]

/-! ## Inserting rows -/

/-- Add rows, all or none: refused when a key is taken or occurs twice. -/
def insertAll? (t : Table κ ρ key) (rs : List ρ) : Option (Table κ ρ key) :=
  if h : (rs.map key).Nodup ∧ ∀ k ∈ rs.map key, k ∉ t.rows.map key then
    some ⟨t.rows ++ rs, by
      rw [List.map_append]
      exact List.nodup_append.mpr ⟨t.nodup, h.1, fun a ha b hb hab => h.2 b hb (hab ▸ ha)⟩⟩
  else none

/-- Add one row, refused when its key is taken. -/
def insert? (t : Table κ ρ key) (r : ρ) : Option (Table κ ρ key) := t.insertAll? [r]

/-- What is inserted is added at the end, in order. -/
theorem rows_of_insertAll? {t u : Table κ ρ key} {rs : List ρ} (h : t.insertAll? rs = some u) :
    u.rows = t.rows ++ rs := by
  unfold insertAll? at h
  split at h
  · rw [← Option.some.inj h]
  · contradiction

theorem rows_of_insert? {t u : Table κ ρ key} {r : ρ} (h : t.insert? r = some u) :
    u.rows = t.rows ++ [r] := rows_of_insertAll? h

/-- An insert is refused exactly where the key is taken. -/
theorem insert?_eq_none_iff (t : Table κ ρ key) (r : ρ) :
    t.insert? r = none ↔ key r ∈ t.rows.map key := by
  simp [insert?, insertAll?]

/-- The keys an accepted insert adds are new. -/
theorem not_mem_keys_of_insertAll? {t u : Table κ ρ key} {rs : List ρ}
    (h : t.insertAll? rs = some u) : ∀ k ∈ rs.map key, k ∉ t.rows.map key := by
  unfold insertAll? at h
  split at h
  · next hc => exact hc.2
  · contradiction

/-! ## The part a predicate selects -/

/-- Overwriting outside the selection leaves the selection. -/
theorem filter_map_overwrite_of_not {r : ρ} {p : ρ → Bool} (hr : p r = false) {l : List ρ}
    (hold : ∀ x ∈ l, key x = key r → p x = false) :
    (l.map (overwrite key r)).filter p = l.filter p := by
  induction l with
  | nil => rfl
  | cons x xs ih =>
      have hx := hold x List.mem_cons_self
      rw [List.map_cons, List.filter_cons, List.filter_cons,
        ih fun y hy => hold y (List.mem_cons_of_mem _ hy)]
      by_cases hk : key x = key r
      · simp [overwrite, hk, hr, hx hk]
      · simp [overwrite, hk]

/-- Overwriting inside the selection commutes with selecting. -/
theorem filter_map_overwrite {r : ρ} {p : ρ → Bool} (hr : p r = true) {l : List ρ}
    (hold : ∀ x ∈ l, key x = key r → p x = true) :
    (l.map (overwrite key r)).filter p = (l.filter p).map (overwrite key r) := by
  induction l with
  | nil => rfl
  | cons x xs ih =>
      have hx := hold x List.mem_cons_self
      rw [List.map_cons, List.filter_cons, List.filter_cons,
        ih fun y hy => hold y (List.mem_cons_of_mem _ hy)]
      by_cases hk : key x = key r
      · simp [overwrite, hk, hr, hx hk]
      · by_cases hpx : p x = true
        · simp [overwrite, hk, hpx]
        · simp [overwrite, hk, hpx]

/-- A `put` outside the selection, over a row outside it, leaves the selection. -/
theorem filter_put_of_not {t : Table κ ρ key} {r : ρ} {p : ρ → Bool} (hr : p r = false)
    (hold : ∀ x ∈ t.rows, key x = key r → p x = false) :
    (t.put r).rows.filter p = t.rows.filter p := by
  by_cases h : key r ∈ t.rows.map key
  · rw [rows_put_of_mem h, filter_map_overwrite_of_not hr hold]
  · rw [rows_put_of_not_mem h, List.filter_append]
    simp [hr]

/-- A `put` outside the selection leaves it exactly when no row inside it is
overwritten. -/
theorem filter_put_iff {t : Table κ ρ key} {r : ρ} {p : ρ → Bool} (hr : p r = false) :
    (t.put r).rows.filter p = t.rows.filter p ↔
      ∀ old, t.find? (key r) = some old → p old = false := by
  constructor
  · intro hsame old hold
    have hmem : old ∈ t.rows := mem_of_find? hold
    have hkey : key old = key r := key_of_find? hold
    by_contra hp
    have hselected : old ∈ t.rows.filter p := List.mem_filter.mpr ⟨hmem, by simpa using hp⟩
    rw [← hsame] at hselected
    have hput : old ∈ (t.put r).rows := (List.mem_filter.mp hselected).1
    rcases (mem_put_iff t r old).mp hput with rfl | ⟨-, hne⟩
    · exact hp hr
    · exact hne hkey
  · intro hold
    refine filter_put_of_not hr fun x hx hk => hold x ?_
    rw [← hk]
    exact t.find?_key hx

/-- A `put` inside the selection, over a row inside it or under a new key,
acts on the selection alone. -/
theorem filter_rows_put {t : Table κ ρ key} {r : ρ} {p : ρ → Bool} (hr : p r = true)
    (hold : ∀ x ∈ t.rows, key x = key r → p x = true) :
    (t.put r).rows.filter p =
      if key r ∈ (t.rows.filter p).map key then (t.rows.filter p).map (overwrite key r)
      else t.rows.filter p ++ [r] := by
  have hmem : key r ∈ (t.rows.filter p).map key ↔ key r ∈ t.rows.map key := by
    constructor
    · intro h
      obtain ⟨x, hx, hk⟩ := List.mem_map.mp h
      exact hk ▸ List.mem_map_of_mem (List.mem_filter.mp hx).1
    · intro h
      obtain ⟨x, hx, hk⟩ := List.mem_map.mp h
      exact hk ▸ List.mem_map_of_mem (List.mem_filter.mpr ⟨hx, hold x hx hk⟩)
  by_cases h : key r ∈ t.rows.map key
  · rw [if_pos (hmem.mpr h), rows_put_of_mem h, filter_map_overwrite hr hold]
  · rw [if_neg (mt hmem.mp h), rows_put_of_not_mem h, List.filter_append]
    simp [hr]

/-! ## Totals -/

/-- The total of a weight over the rows. -/
def total (w : ρ → Nat) (t : Table κ ρ key) : Nat := (t.rows.map w).sum

theorem sum_map_overwrite_of_not_mem {w : ρ → Nat} {r : ρ} {l : List ρ}
    (h : key r ∉ l.map key) : ((l.map (overwrite key r)).map w).sum = (l.map w).sum := by
  have hsame : ∀ x ∈ l, overwrite key r x = x := by
    intro x hx
    have hne : key x ≠ key r := fun hk => h (hk ▸ List.mem_map_of_mem hx)
    simp [overwrite, hne]
  rw [List.map_congr_left hsame, List.map_id']

/-- A `put` over a row trades the weight of that row for the weight of the new one. -/
theorem total_put {w : ρ → Nat} {t : Table κ ρ key} {r old : ρ} (hold : old ∈ t.rows)
    (hkey : key old = key r) : (t.put r).total w + w old = t.total w + w r := by
  have hmem : key r ∈ t.rows.map key := hkey ▸ List.mem_map_of_mem hold
  obtain ⟨before, after, hrows⟩ := List.append_of_mem hold
  have hnodup : ((before ++ old :: after).map key).Nodup := hrows ▸ t.nodup
  rw [List.map_append, List.map_cons, hkey] at hnodup
  obtain ⟨-, hafter, hbefore⟩ := List.nodup_append.mp hnodup
  have hafter' : key r ∉ after.map key := (List.nodup_cons.mp hafter).1
  have hbefore' : key r ∉ before.map key := fun h => hbefore _ h _ List.mem_cons_self rfl
  rw [total, total, rows_put_of_mem hmem, hrows]
  simp only [List.map_append, List.map_cons, List.sum_append, List.sum_cons,
    sum_map_overwrite_of_not_mem hafter', sum_map_overwrite_of_not_mem hbefore']
  rw [overwrite, if_pos hkey]
  omega

end Table

end StoreKit
