import Mathlib.Data.List.Infix

/-!
# Atlas.Lib.LiveLoop

A loop over a list that its own body may extend.

The loop looks at the list again before every turn, so what the body appends is
visited too, and a body that always appends keeps it going for ever.  `seen` is
what the turns have visited so far.
-/

namespace StoreKit

variable {σ ρ : Type} (items : σ → List ρ) (body : σ → ρ → σ)

/-- The loop from position `i` on, unless `fuel` turns are too few for it. -/
def liveLoop : Nat → Nat → σ → Option σ
  | 0, _, _ => none
  | fuel + 1, i, s =>
    match (items s)[i]? with
    | some x => liveLoop fuel (i + 1) (body s x)
    | none => some s

variable {items body}

/-- Where the loop ends, its turns have led. -/
theorem liveLoop_foldl {n i : Nat} {s s' : σ} (h : liveLoop items body n i s = some s') :
    ∃ xs : List ρ, s' = xs.foldl body s := by
  induction n generalizing i s with
  | zero => cases h
  | succ n ih =>
      rw [liveLoop] at h
      cases hx : (items s)[i]? with
      | none =>
          rw [hx] at h
          exact ⟨[], (Option.some.inj h).symm⟩
      | some x =>
          rw [hx] at h
          obtain ⟨xs, hxs⟩ := ih h
          exact ⟨x :: xs, hxs⟩

/-- A list that every step extends is a prefix of what it becomes. -/
theorem items_prefix_foldl {τ : Type} (items : σ → List ρ) (step : σ → τ → σ)
    (hgrow : ∀ s a, items s <+: items (step s a)) (s : σ) (as : List τ) :
    items s <+: items (as.foldl step s) := by
  induction as generalizing s with
  | nil => exact List.prefix_refl _
  | cons a as ih => exact (hgrow s a).trans (ih (step s a))

section Growing

variable (items body) (seen : σ → List ρ) (hseen : ∀ s x, seen (body s x) = seen s ++ [x])
  (hgrow : ∀ s x, items s <+: items (body s x))

include hseen in
theorem seen_foldl (s : σ) (xs : List ρ) : seen (xs.foldl body s) = seen s ++ xs := by
  induction xs generalizing s with
  | nil => rw [List.foldl_nil, List.append_nil]
  | cons x xs ih => rw [List.foldl_cons, ih, hseen, List.append_assoc, List.singleton_append]

include hseen hgrow in
/-- The loop has visited what the list holds in the end. -/
theorem liveLoop_visits {n i : Nat} {s s' : σ} {before : List ρ}
    (h : liveLoop items body n i s = some s') (hi : i ≤ (items s).length)
    (hs : seen s = before ++ (items s).take i) : seen s' = before ++ items s' := by
  induction n generalizing i s with
  | zero => cases h
  | succ n ih =>
      rw [liveLoop] at h
      cases hx : (items s)[i]? with
      | none =>
          rw [hx] at h
          obtain rfl := Option.some.inj h
          have hlast : (items s).length ≤ i := List.getElem?_eq_none_iff.mp hx
          rw [hs, List.take_of_length_le hlast]
      | some x =>
          rw [hx] at h
          obtain ⟨hlt, hget⟩ := List.getElem?_eq_some_iff.mp hx
          obtain ⟨more, hmore⟩ := hgrow s x
          have htake : (items (body s x)).take (i + 1) = (items s).take i ++ [x] := by
            rw [← hmore, List.take_append_of_le_length hlt, List.take_add_one, hx]
            rfl
          refine ih h ?_ ?_
          · rw [← hmore, List.length_append]
            omega
          · rw [hseen, hs, htake, List.append_assoc]

include hgrow in
/-- A list that its elements leave as it is ends the loop. -/
theorem liveLoop_of_unchanged {s : σ} (h : items ((items s).foldl body s) = items s) :
    liveLoop items body ((items s).length + 1) 0 s = some ((items s).foldl body s) := by
  have hloop : ∀ (done rest : List ρ), done ++ rest = items s →
      liveLoop items body (rest.length + 1) done.length (done.foldl body s) =
        some ((items s).foldl body s) := by
    intro done rest hsplit
    induction rest generalizing done with
    | nil =>
        rw [List.append_nil] at hsplit
        rw [hsplit, liveLoop, h, List.getElem?_eq_none (Nat.le_refl _)]
    | cons x rest ih =>
        -- the list lies between what it was at first and what it is in the end
        have hmid : items (done.foldl body s) = items s := by
          have hlow := items_prefix_foldl items body hgrow s done
          have hhigh := items_prefix_foldl items body hgrow (done.foldl body s) (x :: rest)
          rw [← List.foldl_append, hsplit, h] at hhigh
          exact hhigh.eq_of_length_le hlow.length_le
        have hx : (items s)[done.length]? = some x := by
          rw [← hsplit, List.getElem?_append_right (Nat.le_refl _), Nat.sub_self]
          rfl
        have hstep := ih (done ++ [x]) (by rw [List.append_assoc, List.singleton_append, hsplit])
        rw [List.foldl_append, List.length_append] at hstep
        rw [List.length_cons, liveLoop, hmid, hx]
        exact hstep
  exact hloop [] (items s) rfl

include hseen hgrow in
/-- **The loop visits what the list held at first exactly when the elements it
held leave the list as it is.** -/
theorem liveLoop_snapshot_iff (s : σ) :
    (∃ n s', liveLoop items body n 0 s = some s' ∧ seen s' = seen s ++ items s) ↔
      items ((items s).foldl body s) = items s := by
  constructor
  · rintro ⟨n, s', hloop, hseen'⟩
    obtain ⟨xs, rfl⟩ := liveLoop_foldl hloop
    have hvisits := liveLoop_visits items body seen hseen hgrow hloop (Nat.zero_le _)
      (by rw [List.take_zero, List.append_nil])
    rw [hseen'] at hvisits
    have hend : items s = items (xs.foldl body s) := List.append_cancel_left hvisits
    have hxs : xs = items s := by
      rw [seen_foldl body seen hseen] at hseen'
      exact List.append_cancel_left hseen'
    rw [hxs] at hend
    exact hend.symm
  · intro h
    exact ⟨_, _, liveLoop_of_unchanged items body hgrow h, seen_foldl body seen hseen s (items s)⟩

end Growing

end StoreKit
