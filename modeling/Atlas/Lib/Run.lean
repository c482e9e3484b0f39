import Mathlib.Logic.Basic
import Mathlib.Data.Bool.AllAny

/-!
# Atlas.Lib.Run

Runs of a system that takes labelled steps.

A system is a step function `step : σ → α → Option σ`; `none` means that the
labelled step is not possible in that state.  All nondeterminism — who moves,
and how a call to the outside ends — sits in the label, so "every interleaving
and every outcome" is "every list of labels", and a single run can be
evaluated.

`Along Ok` restricts a run to steps that meet a condition, which may look at
the state before the step.  `exec_invariant` and `exec_rel` package the
induction over a run once: invariants of the states reached, and relations
between the first state and the last.

`observe` and `final` are the other kind of run, in which every call is
possible and answers something.  `Each` is what holds of every call of such a
run and `Always` what holds of every state it passes through; `final_invariant`
is its induction, `always_iff_each` the same with the exact condition, and
`purge` the unwinding theorem for it.
-/

namespace StoreKit

variable {σ α ρ : Type}

section Partial

variable (step : σ → α → Option σ)

/-- The state a list of steps leads to, if each of them is possible. -/
def exec : σ → List α → Option σ
  | s, [] => some s
  | s, a :: as => match step s a with
    | some s' => exec s' as
    | none => none

/-- Every step of the run meets `Ok` in the state it is taken from. -/
def Along (Ok : σ → α → Prop) : σ → List α → Prop
  | _, [] => True
  | s, a :: as => Ok s a ∧ match step s a with
    | some s' => Along Ok s' as
    | none => True

/-- `Along` can be checked on a concrete run. -/
instance decidableAlong (Ok : σ → α → Prop) [∀ s a, Decidable (Ok s a)] :
    (s : σ) → (as : List α) → Decidable (Along step Ok s as)
  | _, [] => isTrue trivial
  | s, a :: as =>
      match h : step s a with
      | some s' =>
          have := decidableAlong Ok s' as
          decidable_of_iff (Ok s a ∧ Along step Ok s' as) (by simp only [Along, h])
      | none => decidable_of_iff (Ok s a ∧ True) (by simp only [Along, h])

variable {step}

/-- No condition is met along every run. -/
theorem along_true (s : σ) (as : List α) : Along step (fun _ _ => True) s as := by
  induction as generalizing s with
  | nil => trivial
  | cons a as ih =>
      refine ⟨trivial, ?_⟩
      cases step s a with
      | none => trivial
      | some s' => exact ih s'

/-- A run that begins with a step goes on from where the step leads. -/
theorem exec_cons {s s'' : σ} {a : α} {as : List α} (h : exec step s (a :: as) = some s'') :
    ∃ s', step s a = some s' ∧ exec step s' as = some s'' := by
  unfold exec at h
  split at h
  · next s' hs => exact ⟨s', hs, h⟩
  · contradiction

theorem exec_append (s : σ) (as bs : List α) :
    exec step s (as ++ bs) = (exec step s as).bind fun s' => exec step s' bs := by
  induction as generalizing s with
  | nil => rfl
  | cons a as ih =>
      simp only [List.cons_append, exec]
      cases step s a with
      | none => rfl
      | some s' => exact ih s'

/-- A permitted run continues with permitted steps. -/
theorem along_append {Ok : σ → α → Prop} {s s' : σ} {as bs : List α}
    (hok : Along step Ok s (as ++ bs)) (h : exec step s as = some s') :
    Along step Ok s as ∧ Along step Ok s' bs := by
  induction as generalizing s with
  | nil =>
      cases h
      exact ⟨trivial, hok⟩
  | cons a as ih =>
      obtain ⟨m, hm, hrest⟩ := exec_cons h
      obtain ⟨ha, hok'⟩ := hok
      simp only [hm] at hok'
      obtain ⟨has, hbs⟩ := ih hok' hrest
      exact ⟨⟨ha, by rw [hm]; exact has⟩, hbs⟩

/-- A run is permitted where every step is, in the state the steps before it lead to. -/
theorem along_of_prefixes {Ok : σ → α → Prop} {s : σ} {as : List α}
    (h : ∀ before a after m, as = before ++ a :: after → exec step s before = some m → Ok m a) :
    Along step Ok s as := by
  induction as generalizing s with
  | nil => trivial
  | cons a as ih =>
      refine ⟨h [] a as s rfl rfl, ?_⟩
      cases hs : step s a with
      | none => trivial
      | some m =>
          apply ih
          intro before b after m' hsplit hm
          apply h (a :: before) b after m' (by rw [hsplit, List.cons_append])
          simp only [exec, hs, hm]

/-- Two conditions met along a run are met together. -/
theorem along_and {Ok Ok' : σ → α → Prop} {s : σ} {as : List α} (h : Along step Ok s as)
    (h' : Along step Ok' s as) : Along step (fun s a => Ok s a ∧ Ok' s a) s as := by
  induction as generalizing s with
  | nil => trivial
  | cons a as ih =>
      refine ⟨⟨h.1, h'.1⟩, ?_⟩
      have hrest := h.2
      have hrest' := h'.2
      cases hs : step s a with
      | none => trivial
      | some m =>
          rw [hs] at hrest hrest'
          exact ih hrest hrest'

/-- What every permitted step keeps holds at the end of every permitted run. -/
theorem exec_invariant {Ok : σ → α → Prop} {Inv : σ → Prop}
    (hstep : ∀ s a s', Inv s → Ok s a → step s a = some s' → Inv s') {s s' : σ}
    {as : List α} (hs : Inv s) (hok : Along step Ok s as) (h : exec step s as = some s') :
    Inv s' := by
  induction as generalizing s with
  | nil =>
      cases h
      exact hs
  | cons a as ih =>
      obtain ⟨m, hm, hrest⟩ := exec_cons h
      obtain ⟨ha, hok'⟩ := hok
      rw [hm] at hok'
      exact ih (hstep s a m hs ha hm) hok' hrest

/-- What every step keeps holds at the end of every run. -/
theorem exec_keeps {Inv : σ → Prop}
    (hstep : ∀ s a s', Inv s → step s a = some s' → Inv s') {s s' : σ} {as : List α}
    (hs : Inv s) (h : exec step s as = some s') : Inv s' := by
  have hok : Along step (fun _ _ => True) s as := along_true s as
  exact exec_invariant (fun s a s' hs _ ha => hstep s a s' hs ha) hs hok h

/-- A reflexive and transitive relation that every step from an invariant state
respects relates the two ends of every run. -/
theorem exec_rel {Inv : σ → Prop} {Rel : σ → σ → Prop} (hrefl : ∀ s, Rel s s)
    (htrans : ∀ s t u, Rel s t → Rel t u → Rel s u)
    (hinv : ∀ s a s', Inv s → step s a = some s' → Inv s')
    (hstep : ∀ s a s', Inv s → step s a = some s' → Rel s s') {s s' : σ} {as : List α}
    (hs : Inv s) (h : exec step s as = some s') : Rel s s' := by
  induction as generalizing s with
  | nil =>
      cases h
      exact hrefl _
  | cons a as ih =>
      obtain ⟨m, hm, hrest⟩ := exec_cons h
      exact htrans s m s' (hstep s a m hs hm) (ih (hinv s a m hs hm) hrest)

/-- **Simulation**: where every step of one system is a step of another, or
none at all, every run of the first is a run of the second.  A permitted run
stays permitted. -/
theorem exec_simulates {τ β : Type} {step' : τ → β → Option τ} {R : σ → τ → Prop}
    {Ok : σ → α → Prop} {Ok' : τ → β → Prop}
    (hstep : ∀ s a s' t, R s t → step s a = some s' →
      R s' t ∨ ∃ b t', step' t b = some t' ∧ R s' t' ∧ (Ok s a → Ok' t b))
    {s s' : σ} {as : List α} {t : τ} (hR : R s t) (h : exec step s as = some s') :
    ∃ bs t', exec step' t bs = some t' ∧ R s' t' ∧
      (Along step Ok s as → Along step' Ok' t bs) := by
  induction as generalizing s t with
  | nil =>
      cases h
      exact ⟨[], t, rfl, hR, fun _ => trivial⟩
  | cons a as ih =>
      obtain ⟨m, hm, hrest⟩ := exec_cons h
      have htail : Along step Ok s (a :: as) → Along step Ok m as := by
        rintro ⟨-, hok⟩
        rw [hm] at hok
        exact hok
      rcases hstep s a m t hR hm with hR' | ⟨b, t', hb, hR', hok⟩
      · obtain ⟨bs, t'', hbs, hR'', hpermitted⟩ := ih hR' hrest
        exact ⟨bs, t'', hbs, hR'', fun h => hpermitted (htail h)⟩
      · obtain ⟨bs, t'', hbs, hR'', hpermitted⟩ := ih hR' hrest
        refine ⟨b :: bs, t'', by simp only [exec, hb, hbs], hR'', fun h => ⟨hok h.1, ?_⟩⟩
        rw [hb]
        exact hpermitted (htail h)

end Partial

/-! ## Calls that answer -/

section Total

variable (step : σ → α → ρ × σ)

/-- The state after a list of calls. -/
def final : σ → List α → σ
  | s, [] => s
  | s, a :: as => final (step s a).2 as

/-- Every call of the run meets `P` in the state it is made in. -/
def Each (P : σ → α → Prop) : σ → List α → Prop
  | _, [] => True
  | s, a :: as => P s a ∧ Each P (step s a).2 as

/-- The answers to the calls that `visible` selects, in order. -/
def observe (visible : α → Bool) : σ → List α → List ρ
  | _, [] => []
  | s, a :: as =>
    if visible a then (step s a).1 :: observe visible (step s a).2 as
    else observe visible (step s a).2 as

variable {step}

theorem final_append (s : σ) (as bs : List α) :
    final step s (as ++ bs) = final step (final step s as) bs := by
  induction as generalizing s with
  | nil => rfl
  | cons a as ih => exact ih (step s a).2

theorem each_append {P : σ → α → Prop} {s : σ} {as bs : List α} :
    Each step P s (as ++ bs) ↔ Each step P s as ∧ Each step P (final step s as) bs := by
  induction as generalizing s with
  | nil => simp [Each, final]
  | cons a as ih => simp only [List.cons_append, Each, final, ih, and_assoc]

/-- The calls of a run, each in the state that the calls before it leave. -/
theorem each_iff {P : σ → α → Prop} {s : σ} {as : List α} :
    Each step P s as ↔
      ∀ before a after, as = before ++ a :: after → P (final step s before) a := by
  constructor
  · intro h before a after hsplit
    rw [hsplit] at h
    exact (each_append.mp h).2.1
  · intro h
    induction as generalizing s with
    | nil => trivial
    | cons a as ih =>
        refine ⟨h [] a as rfl, ih fun before b after hsplit => ?_⟩
        exact h (a :: before) b after (by rw [hsplit, List.cons_append])

/-- `I` holds of every state a run passes through. -/
def Always (step : σ → α → ρ × σ) (I : σ → Prop) : σ → List α → Prop
  | s, [] => I s
  | s, a :: as => I s ∧ Always step I (step s a).2 as

/-- The states a run passes through, each as the end of a run that breaks off. -/
theorem always_iff {I : σ → Prop} {s : σ} {as : List α} :
    Always step I s as ↔ ∀ before after, as = before ++ after → I (final step s before) := by
  induction as generalizing s with
  | nil =>
      constructor
      · intro h before after hsplit
        rw [(List.append_eq_nil_iff.mp hsplit.symm).1]
        exact h
      · intro h
        exact h [] [] rfl
  | cons a as ih =>
      constructor
      · intro ⟨hs, h⟩ before after hsplit
        cases before with
        | nil => exact hs
        | cons b before =>
            obtain ⟨rfl, htail⟩ := List.cons.inj hsplit
            exact ih.mp h before after htail
      · intro h
        refine ⟨h [] (a :: as) rfl, ih.mpr fun before after hsplit => ?_⟩
        exact h (a :: before) after (by rw [hsplit, List.cons_append])

/-- **The exact condition of an invariant**: where the calls that keep it are
those that meet `P`, it holds all along a run if and only if it holds at the
beginning and every call meets `P`.  `J` is what the surroundings promise of
the calls that are still to come. -/
theorem always_iff_each {I : σ → Prop} {P : σ → α → Prop} {J : σ → List α → Prop}
    (hJ : ∀ s a as, J s (a :: as) → J (step s a).2 as)
    (hstep : ∀ s a as, J s (a :: as) → I s → (I (step s a).2 ↔ P s a)) {s : σ} {as : List α}
    (hs : J s as) : Always step I s as ↔ I s ∧ Each step P s as := by
  induction as generalizing s with
  | nil => simp only [Always, Each, and_true]
  | cons a as ih =>
      have htail : Always step I (step s a).2 as ↔ _ := ih (hJ s a as hs)
      simp only [Always, Each, htail]
      constructor
      · intro ⟨hI, hI', h⟩
        exact ⟨hI, (hstep s a as hs hI).mp hI', h⟩
      · intro ⟨hI, hP, h⟩
        exact ⟨hI, (hstep s a as hs hI).mpr hP, h⟩

/-- What the calls of a run keep holds at its end. -/
theorem final_invariant {P : σ → α → Prop} {I : σ → Prop}
    (hstep : ∀ s a, I s → P s a → I (step s a).2) {s : σ} {as : List α} (hs : I s)
    (h : Each step P s as) : I (final step s as) := by
  induction as generalizing s with
  | nil => exact hs
  | cons a as ih => exact ih (hstep s a hs h.1) h.2

/-- What every call keeps holds at the end of every run. -/
theorem final_keeps {I : σ → Prop} (hstep : ∀ s a, I s → I (step s a).2) {s : σ} (as : List α)
    (hs : I s) : I (final step s as) := by
  induction as generalizing s with
  | nil => exact hs
  | cons a as ih => exact ih (hstep s a hs)

/-- What every call shows in the states of an invariant, every call of a run shows. -/
theorem each_of_invariant {P : σ → α → Prop} {I : σ → Prop}
    (hkeep : ∀ s a, I s → I (step s a).2) (hP : ∀ s a, I s → P s a) {s : σ}
    {as : List α} (hs : I s) : Each step P s as := by
  induction as generalizing s with
  | nil => trivial
  | cons a as ih => exact ⟨hP s a hs, ih (hkeep s a hs)⟩

/-- **Unwinding**: if visible calls answer alike in related states and keep
them related, and invisible calls keep a state related to the one before,
then dropping the invisible calls changes no visible answer and leads to a
related state.  `R` may depend on the calls that are still to come. -/
theorem purge {visible : α → Bool} {R : List α → σ → σ → Prop}
    (hvisible : ∀ a as s t, visible a = true → R (a :: as) s t →
      (step s a).1 = (step t a).1 ∧ R as (step s a).2 (step t a).2)
    (hinvisible : ∀ a as s t, visible a = false → R (a :: as) s t → R as (step s a).2 t)
    {as : List α} {s t : σ} (h : R as s t) :
    observe step visible s as = observe step visible t (as.filter visible) ∧
      R [] (final step s as) (final step t (as.filter visible)) := by
  induction as generalizing s t with
  | nil => exact ⟨rfl, h⟩
  | cons a as ih =>
      cases hv : visible a with
      | true =>
          obtain ⟨hans, hR⟩ := hvisible a as s t hv h
          obtain ⟨hobs, hfin⟩ := ih hR
          rw [List.filter_cons, if_pos hv]
          simp only [observe, final, hv, if_true, hans, hobs, true_and]
          exact hfin
      | false =>
          obtain ⟨hobs, hfin⟩ := ih (hinvisible a as s t hv h)
          rw [List.filter_cons, if_neg (by simp [hv])]
          simp only [observe, final, hv, Bool.false_eq_true, if_false, hobs, true_and]
          exact hfin

end Total

end StoreKit
