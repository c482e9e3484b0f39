import Atlas.Lib.Table

/-!
# Atlas.Lib.History

How a table may change over time.

A `Course` says what may become of a row, under the key it has, and what a row
is like when it comes in.  `Table.Evolves` is a table and what became of it:
no row is lost, every row went its course, and every other row came in after
the first table.  It is a preorder (`Evolves.refl`, `Evolves.trans`), and one
write is one step of it where it writes over a row as the course allows
(`evolves_put`) or under a new key (`evolves_put_fresh`).
-/

namespace StoreKit

/-- What may become of the rows of a table. -/
structure Course {κ ρ : Type*} (key : ρ → κ) where
  becomes : ρ → ρ → Prop
  fresh : ρ → Prop
  refl : ∀ r, becomes r r
  trans : ∀ {r s t}, becomes r s → becomes s t → becomes r t
  key_eq : ∀ {r s}, becomes r s → key s = key r
  fresh_becomes : ∀ {r s}, fresh r → becomes r s → fresh s

namespace Table

variable {κ ρ : Type*} {key : ρ → κ}

/-- What became of a table. -/
structure Evolves (c : Course key) (t t' : Table κ ρ key) : Prop where
  kept : ∀ r ∈ t.rows, ∃ r' ∈ t'.rows, c.becomes r r'
  origin : ∀ r' ∈ t'.rows, (∃ r ∈ t.rows, c.becomes r r') ∨
    (c.fresh r' ∧ key r' ∉ t.rows.map key)

namespace Evolves

variable {c : Course key} {t t' t'' : Table κ ρ key}

/-- A table is its own next state where nothing happens. -/
theorem refl (c : Course key) (t : Table κ ρ key) : Evolves c t t where
  kept r hr := ⟨r, hr, c.refl r⟩
  origin r hr := .inl ⟨r, hr, c.refl r⟩

/-- Keys stay taken. -/
theorem keys (h : Evolves c t t') {k : κ} (hk : k ∈ t.rows.map key) : k ∈ t'.rows.map key := by
  obtain ⟨r, hr, rfl⟩ := List.mem_map.mp hk
  obtain ⟨r', hr', hbecomes⟩ := h.kept r hr
  exact List.mem_map.mpr ⟨r', hr', c.key_eq hbecomes⟩

/-- What evolves twice has evolved. -/
theorem trans (h : Evolves c t t') (h' : Evolves c t' t'') : Evolves c t t'' where
  kept r hr := by
    obtain ⟨r', hr', hbecomes⟩ := h.kept r hr
    obtain ⟨r'', hr'', hbecomes'⟩ := h'.kept r' hr'
    exact ⟨r'', hr'', c.trans hbecomes hbecomes'⟩
  origin r'' hr'' := by
    rcases h'.origin r'' hr'' with ⟨r', hr', hbecomes'⟩ | ⟨hfresh, hkey⟩
    · rcases h.origin r' hr' with ⟨r, hr, hbecomes⟩ | ⟨hfresh, hkey⟩
      · exact .inl ⟨r, hr, c.trans hbecomes hbecomes'⟩
      · refine .inr ⟨c.fresh_becomes hfresh hbecomes', ?_⟩
        rw [c.key_eq hbecomes']
        exact hkey
    · exact .inr ⟨hfresh, fun hold => hkey (h.keys hold)⟩

end Evolves

variable [DecidableEq κ] {c : Course key} {t : Table κ ρ key} {row : ρ}

/-- A row is written over. -/
theorem evolves_put {old : ρ} (hold : old ∈ t.rows) (h : c.becomes old row) :
    Evolves c t (t.put row) where
  kept r hr := by
    by_cases hkey : key r = key row
    · have hsame : r = old := t.eq_of_key_eq hr hold (hkey.trans (c.key_eq h))
      exact ⟨row, (t.mem_put_iff row row).mpr (.inl rfl), hsame ▸ h⟩
    · exact ⟨r, (t.mem_put_iff row r).mpr (.inr ⟨hr, hkey⟩), c.refl r⟩
  origin r' hr' := by
    rcases (t.mem_put_iff row r').mp hr' with rfl | ⟨hr, -⟩
    · exact .inl ⟨old, hold, h⟩
    · exact .inl ⟨r', hr, c.refl r'⟩

/-- A row comes in. -/
theorem evolves_put_fresh (hkey : key row ∉ t.rows.map key) (h : c.fresh row) :
    Evolves c t (t.put row) where
  kept r hr := by
    have hne : key r ≠ key row := fun heq => hkey (heq ▸ List.mem_map_of_mem hr)
    exact ⟨r, (t.mem_put_iff row r).mpr (.inr ⟨hr, hne⟩), c.refl r⟩
  origin r' hr' := by
    rcases (t.mem_put_iff row r').mp hr' with rfl | ⟨hr, -⟩
    · exact .inr ⟨h, hkey⟩
    · exact .inl ⟨r', hr, c.refl r'⟩

end Table

end StoreKit
