import Mathlib.Data.List.AList

/-!
# Atlas.Lib.Filter

Filters that are objects: keys, each with a value or with none.

A row is selected if it meets the condition of every value; a key without a
value is no condition.  What a value means under its key is the parameter
`admits`.  `selects_erase` takes one key apart from the others, and
`selects_spread_singleton` says what becomes of a condition of one key when
another filter is spread over it.
-/

namespace StoreKit

/-- The keys of a filter, each with the value it has, if it has one. -/
abbrev Filter (κ ν : Type) := AList fun _ : κ => Option ν

namespace Filter

variable {κ ν ρ : Type} [DecidableEq κ] (admits : κ → ν → ρ → Bool)

/-- The row meets the condition of every value. -/
def selects (filter : Filter κ ν) (row : ρ) : Bool :=
  filter.entries.all fun ⟨key, value⟩ => value.all fun v => admits key v row

/-- `{ ...filter, ...update }`: the keys of both, and under a common key what the
second has. -/
def spread (filter update : Filter κ ν) : Filter κ ν := update ∪ filter

variable {admits} {filter update : Filter κ ν} {row : ρ} {key : κ}

theorem selects_iff : selects admits filter row = true ↔
    ∀ key v, filter.lookup key = some (some v) → admits key v row = true := by
  rw [selects, List.all_eq_true]
  constructor
  · intro h key v hlookup
    have hentry := h ⟨key, some v⟩ (AList.mem_lookup_iff.mp hlookup)
    simpa using hentry
  · intro h entry hentry
    obtain ⟨key, value⟩ := entry
    cases value with
    | none => rfl
    | some v =>
        have hlookup : filter.lookup key = some (some v) := AList.mem_lookup_iff.mpr hentry
        simpa using h key v hlookup

/-- **One key and the others**: their conditions are independent. -/
theorem selects_erase (key : κ) : selects admits filter row = true ↔
    (∀ v, filter.lookup key = some (some v) → admits key v row = true) ∧
      selects admits (filter.erase key) row = true := by
  rw [selects_iff, selects_iff]
  constructor
  · intro h
    constructor
    · exact h key
    · intro other v hlookup
      by_cases hkey : other = key
      · rw [hkey, AList.lookup_erase] at hlookup
        contradiction
      · rw [AList.lookup_erase_ne hkey] at hlookup
        exact h other v hlookup
  · intro h other v hlookup
    by_cases hkey : other = key
    · subst hkey
      exact h.1 v hlookup
    · have hrest : (filter.erase key).lookup other = some (some v) := by
        rw [AList.lookup_erase_ne hkey]
        exact hlookup
      exact h.2 other v hrest

/-- The conditions of the other keys only look at what they mean. -/
theorem selects_congr {row' : ρ}
    (h : ∀ other v, other ∈ filter → admits other v row = admits other v row') :
    selects admits filter row = selects admits filter row' := by
  rw [Bool.eq_iff_iff, selects_iff, selects_iff]
  have hmem : ∀ {other v}, filter.lookup other = some (some v) → other ∈ filter := by
    intro other v hlookup
    rw [← AList.lookup_isSome, hlookup]
    rfl
  constructor
  · intro hrow other v hlookup
    rw [← h other v (hmem hlookup)]
    exact hrow other v hlookup
  · intro hrow other v hlookup
    rw [h other v (hmem hlookup)]
    exact hrow other v hlookup

/-- What is spread over a single key leaves no trace of it elsewhere. -/
theorem erase_spread_singleton (value : Option ν) :
    (spread (.singleton key value) update).erase key = update.erase key := by
  have hempty : (AList.singleton key value : Filter κ ν).erase key = ∅ :=
    AList.ext (List.kerase_cons_eq rfl)
  rw [spread, AList.union_erase, hempty, AList.union_empty]

theorem lookup_spread_singleton (value : Option ν) :
    (spread (.singleton key value) update).lookup key = (update.lookup key).or (some value) := by
  cases hlookup : update.lookup key with
  | none =>
      have hnot : key ∉ update := AList.lookup_eq_none.mp hlookup
      rw [spread, AList.lookup_union_right hnot, ← AList.insert_empty, AList.lookup_insert,
        Option.none_or]
  | some own =>
      have hmem : key ∈ update := by
        rw [← AList.lookup_isSome, hlookup]
        rfl
      rw [spread, AList.lookup_union_left hmem, hlookup]
      rfl

/-- **A condition with a filter spread over it** survives exactly where the
filter does not have its key. -/
theorem selects_spread_singleton {v : ν} :
    selects admits (spread (.singleton key (some v)) update) row = true ↔
      (∀ own, (update.lookup key).or (some (some v)) = some (some own) →
        admits key own row = true) ∧ selects admits (update.erase key) row = true := by
  rw [selects_erase key, erase_spread_singleton, lookup_spread_singleton]

end Filter

end StoreKit
