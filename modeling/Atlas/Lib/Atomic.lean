import Atlas.Lib.Thread

/-!
# Atlas.Lib.Atomic

Threads that do their work or leave no trace.

A thread is `Certain` to end in `Q` if it does so whatever stores its steps
find, and `Atomic` if it changes a part of the store only where it is certain
from there on.  One that ends otherwise has then changed nothing of the part,
whoever moved between its steps (`exec_atomic`).
-/

namespace StoreKit

namespace Thread

variable {σ ε α β γ : Type}

/-- How a thread has ended. -/
def end? : Thread σ ε α → Option (Except ε α)
  | answer a => some (.ok a)
  | reject e => some (.error e)
  | step _ _ => none

section Atomic

variable (part : σ → γ) (Q : Except ε α → Prop)

/-- Whatever stores its steps find, the thread ends in `Q`. -/
def Certain : Thread σ ε α → Prop
  | answer a => Q (.ok a)
  | reject e => Q (.error e)
  | step next _ => ∀ s, Certain (next s)

/-- A step leaves the part as it was, or the thread is certain to end in `Q`. -/
def Atomic : Thread σ ε α → Prop
  | answer _ => True
  | reject _ => True
  | step next store => ∀ s, part (store s) = part s ∧ Atomic (next s) ∨ Certain Q (next s)

end Atomic

variable {part : σ → γ} {Q : Except ε α → Prop}

/-! ## Certain ends -/

namespace Certain

protected theorem pure {a : α} (h : Q (.ok a)) : Certain Q (pure a : Thread σ ε α) := h

/-- What is certain of a thread is true of its end. -/
theorem of_end {t : Thread σ ε α} (h : Certain Q t) {r : Except ε α} (hr : t.end? = some r) :
    Q r := by
  cases t with
  | answer a => exact Option.some.inj hr ▸ h
  | reject e => exact Option.some.inj hr ▸ h
  | step next store => cases hr

/-- A step is certain of what every one of its ends is certain of. -/
theorem await {m : Program σ ε β} {next : β → Thread σ ε α}
    (h : ∀ s, (∃ e s', m.run s = (.error e, s') ∧ Q (.error e)) ∨
      ∃ b s', m.run s = (.ok b, s') ∧ Certain Q (next b)) :
    Certain Q (Thread.await m next) := by
  intro s
  rcases h s with ⟨e, s', hrun, hend⟩ | ⟨b, s', hrun, hend⟩
  · simp only [hrun]
    exact hend
  · simp only [hrun]
    exact hend

/-- Two threads in sequence are certain of what the second one is. -/
theorem bind {Q' : Except ε β → Prop} {t : Thread σ ε α} {f : α → Thread σ ε β}
    (h : Certain Q t) (hf : ∀ a, Q (.ok a) → Certain Q' (f a))
    (herr : ∀ e, Q (.error e) → Q' (.error e)) : Certain Q' (t >>= f) := by
  induction t with
  | answer a => exact hf a h
  | reject e => exact herr e h
  | step next store ih => exact fun s => ih s (h s)

end Certain

/-! ## Atomic threads -/

namespace Atomic

/-- Who cannot fail need not leave anything as it was. -/
theorem of_certain {t : Thread σ ε α} (h : Certain Q t) : Atomic part Q t := by
  cases t with
  | answer a => trivial
  | reject e => trivial
  | step next store => exact fun s => .inr (h s)

protected theorem pure {a : α} : Atomic part Q (pure a : Thread σ ε α) := trivial

/-- An exception has changed nothing. -/
theorem reject {e : ε} : Atomic part Q (Thread.reject e : Thread σ ε α) := trivial

/-- A step leaves the part as it was and goes on, or changes it and cannot fail
any more. -/
theorem await {m : Program σ ε β} {next : β → Thread σ ε α}
    (h : ∀ s, (∃ e s', m.run s = (.error e, s') ∧ part s' = part s) ∨
      ∃ b s', m.run s = (.ok b, s') ∧
        (part s' = part s ∧ Atomic part Q (next b) ∨ Certain Q (next b))) :
    Atomic part Q (Thread.await m next) := by
  intro s
  rcases h s with ⟨e, s', hrun, hpart⟩ | ⟨b, s', hrun, hend⟩
  · simp only [hrun]
    exact .inl ⟨hpart, trivial⟩
  · simp only [hrun]
    exact hend

/-- A calculation changes nothing. -/
theorem lift {x : Except ε α} : Atomic part Q (Thread.lift x : Thread σ ε α) := by
  cases x with
  | ok a => trivial
  | error e => trivial

/-- Two threads in sequence are atomic if the second one cannot fail after a
change of the first. -/
theorem bind {Q' : Except ε β → Prop} {t : Thread σ ε α} {f : α → Thread σ ε β}
    (h : Atomic part Q t) (hf : ∀ a, Atomic part Q' (f a))
    (hok : ∀ a, Q (.ok a) → Certain Q' (f a)) (herr : ∀ e, Q (.error e) → Q' (.error e)) :
    Atomic part Q' (t >>= f) := by
  induction t with
  | answer a => exact hf a
  | reject e => trivial
  | step next store ih =>
      intro s
      rcases h s with ⟨hpart, hnext⟩ | hnext
      · exact .inl ⟨hpart, ih s hnext⟩
      · exact .inr (hnext.bind hok herr)

end Atomic

end Thread

/-! ## Among others -/

namespace Threads

variable {ι σ ε α γ : Type} [DecidableEq ι] {part : σ → γ} {Q : Except ε α → Prop} {i : ι}

/-- What the steps of a thread keep of itself, no step of another changes. -/
theorem thread_keeps {P : Thread σ ε α → Prop}
    (hP : ∀ next store s, P (.step next store) → P (next s)) {s s' : Threads ι σ ε α}
    {schedule : List ι} (h : P (s.thread i)) (hrun : exec step s schedule = some s') :
    P (s'.thread i) := by
  have hstep : ∀ (u : Threads ι σ ε α) j u', P (u.thread i) → step u j = some u' →
      P (u'.thread i) := by
    intro u j u' hu hstep
    obtain ⟨next, store, hthread, rfl⟩ := step_cases hstep
    by_cases hj : i = j
    · subst hj
      simp only [Function.update_self]
      exact hP next store u.store (hthread ▸ hu)
    · simpa only [Function.update_of_ne hj] using hu
  exact @exec_keeps _ _ step (fun u => P (u.thread i)) hstep s s' schedule h hrun

/-- **No trace**: an atomic thread that does not end in `Q` has left the part as
it was with each of its steps, in every interleaving. -/
theorem exec_atomic {s s' : Threads ι σ ε α} {schedule : List ι}
    (hatomic : (s.thread i).Atomic part Q) (hrun : exec step s schedule = some s')
    {r : Except ε α} (hend : (s'.thread i).end? = some r) (hr : ¬ Q r) :
    ∀ before after m m', schedule = before ++ i :: after → exec step s before = some m →
      step m i = some m' → part m'.store = part m.store := by
  intro before after m m' hsplit hbefore hstep
  have hm : (m.thread i).Atomic part Q := by
    refine thread_keeps (fun next store u hu => ?_) hatomic hbefore
    rcases hu u with ⟨-, hnext⟩ | hnext
    · exact hnext
    · exact .of_certain hnext
  have hafter : exec step m' after = some s' := by
    rw [hsplit, exec_append, hbefore, Option.bind_some] at hrun
    obtain ⟨m'', hm'', hrest⟩ := exec_cons hrun
    rwa [Option.some.inj (hstep.symm.trans hm'')]
  obtain ⟨next, store, hthread, rfl⟩ := step_cases hstep
  rw [hthread] at hm
  rcases hm m.store with ⟨hpart, -⟩ | hcertain
  · exact hpart
  · have hlast : (s'.thread i).Certain Q := by
      refine thread_keeps (fun next store u hu => hu u) ?_ hafter
      simpa only [Function.update_self] using hcertain
    exact absurd (hlast.of_end hend) hr

end Threads

-- A proof that follows the rules has no need to take the steps.
attribute [irreducible] Thread.Certain Thread.Atomic

end StoreKit
