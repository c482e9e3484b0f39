import Mathlib.Data.List.Nodup
import Mathlib.Data.List.Perm.Basic

/-!
# Atlas.Lib.Slots

A list of workers, one of which moves.

Workers are numbered by their position, which never changes: a worker that is
done keeps its slot.  The lemmas take the slot that moved out of the list, so
that a step is checked against one worker and the others, and say when the
things the workers hold are all different.
-/

namespace StoreKit

variable {ω ρ : Type}

/-- The list around slot `i`, and what writing to the slot makes of it. -/
theorem slot_split {l : List ω} {i : Nat} {w : ω} (h : l[i]? = some w) :
    ∃ before after, l = before ++ w :: after ∧ before.length = i ∧
      ∀ w', l.set i w' = before ++ w' :: after := by
  obtain ⟨hi, hw⟩ := List.getElem?_eq_some_iff.mp h
  have hlen : (l.take i).length = i := by
    rw [List.length_take]
    omega
  have hset : ∀ w', l.set i w' = l.take i ++ w' :: l.drop (i + 1) := by
    intro w'
    rw [List.set_eq_take_append_cons_drop, if_pos hi]
  have hself : l = l.take i ++ w :: l.drop (i + 1) := by
    rw [← hset w, ← hw, List.set_getElem_self]
  exact ⟨l.take i, l.drop (i + 1), hself, hlen, hset⟩

/-- A fact about every worker is one about the worker that moved and one about
the others. -/
theorem forall_slots {before after : List ω} {w : ω} {P : ω → Prop} :
    (∀ w' ∈ before ++ w :: after, P w') ↔ P w ∧ ∀ w' ∈ before ++ after, P w' := by
  simp only [List.mem_append, List.mem_cons]
  constructor
  · intro h
    exact ⟨h w (.inr (.inl rfl)), fun w' hw' => h w' (hw'.imp id .inr)⟩
  · rintro ⟨hw, h⟩ w' (hw' | rfl | hw')
    · exact h w' (.inl hw')
    · exact hw
    · exact h w' (.inr hw')

/-- A fact about every worker of a list that a new one joins. -/
theorem forall_joined {l : List ω} {w : ω} {P : ω → Prop} :
    (∀ w' ∈ l ++ [w], P w') ↔ (∀ w' ∈ l, P w') ∧ P w := by
  simp [or_imp, forall_and]

/-- All things held are different: those of the worker that moved, and those of
the others. -/
theorem held_nodup_iff {before after : List ω} {w : ω} (held : ω → List ρ) :
    ((before ++ w :: after).flatMap held).Nodup ↔
      (held w ++ (before ++ after).flatMap held).Nodup := by
  apply List.Perm.nodup_iff
  rw [List.flatMap_append, List.flatMap_cons, List.flatMap_append]
  exact List.perm_append_comm_assoc _ _ _

/-- The worker that moved shares nothing with the others. -/
theorem held_disjoint {before after : List ω} {w : ω} {held : ω → List ρ}
    (h : ((before ++ w :: after).flatMap held).Nodup) :
    (held w).Nodup ∧ ∀ x ∈ held w, ∀ w' ∈ before ++ after, x ∉ held w' := by
  have hnodup := (held_nodup_iff held).mp h
  obtain ⟨hw, -, hdisjoint⟩ := List.nodup_append.mp hnodup
  constructor
  · exact hw
  · intro x hx w' hw' hx'
    exact hdisjoint x hx x (List.mem_flatMap.mpr ⟨w', hw', hx'⟩) rfl

/-- Letting go of things keeps them different. -/
theorem held_nodup_of_sublist {before after : List ω} {w w' : ω} {held : ω → List ρ}
    (h : ((before ++ w :: after).flatMap held).Nodup) (hsub : (held w').Sublist (held w)) :
    ((before ++ w' :: after).flatMap held).Nodup := by
  have hnodup := (held_nodup_iff held).mp h
  apply (held_nodup_iff held).mpr
  exact hnodup.sublist (hsub.append (List.Sublist.refl _))

end StoreKit
