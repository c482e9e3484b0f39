import Atlas.Lib.Thread

/-!
# Atlas.Lib.Purge

Threads of several parties, and what one of the parties sees of them.

A thread is a `Twin` in two stores that look the same to its party when it
takes the same steps in both: at every step it goes on alike, and leaves two
stores that look the same again.  What the others do between its steps is
`Rely`, what it does itself is `Guar`, in each of the stores.

Where nobody else's step changes what a party sees, its threads end alike
whether the others have moved or not (`exec_purge`), in every interleaving.
-/

namespace StoreKit

variable {σ ε α β : Type}

namespace Thread

/-! ## One thread in two stores -/

section Twin

variable (Same : σ → σ → Prop) (Rely Guar : σ → σ → Prop) (Q : α → σ → σ → Prop)

/-- From `s` and `t` on the thread does the same in both, if what the others do
between its steps is `Rely` and leaves the stores the same to its party. -/
def Twin : Thread σ ε α → σ → σ → Prop
  | answer a, s, t => Q a s t
  | reject _, _, _ => True
  | step next store, s, t => ∀ s' t', Same s' t' → Rely s s' → Rely t t' →
      next s' = next t' ∧ Same (store s') (store t') ∧ Guar s' (store s') ∧
        Guar t' (store t') ∧ Twin (next s') (store s') (store t')

namespace Twin

variable {Same Rely Guar Q}

protected theorem pure {a : α} {s t : σ} (h : Q a s t) :
    Twin Same Rely Guar Q (pure a : Thread σ ε α) s t := h

/-- What was shown of a thread still holds after the others have moved. -/
theorem rely (htrans : ∀ s t u, Rely s t → Rely t u → Rely s u)
    (hQ : ∀ a s t s' t', Q a s t → Rely s s' → Rely t t' → Q a s' t') {x : Thread σ ε α}
    {s t s' t' : σ} (h : Twin Same Rely Guar Q x s t) (hs : Rely s s') (ht : Rely t t') :
    Twin Same Rely Guar Q x s' t' := by
  cases x with
  | answer a => exact hQ a s t s' t' h hs ht
  | reject e => trivial
  | step next store =>
      exact fun u v huv hsu htv => h u v huv (htrans s s' u hs hsu) (htrans t t' v ht htv)

theorem weaken {Q' : α → σ → σ → Prop} {x : Thread σ ε α} {s t : σ}
    (h : Twin Same Rely Guar Q x s t) (hQ : ∀ a s t, Q a s t → Q' a s t) :
    Twin Same Rely Guar Q' x s t := by
  induction x generalizing s t with
  | answer a => exact hQ a s t h
  | reject e => trivial
  | step next store ih =>
      intro s' t' hsame hs ht
      obtain ⟨hnext, hstores, hguar, hguar', htwin⟩ := h s' t' hsame hs ht
      exact ⟨hnext, hstores, hguar, hguar', ih s' htwin⟩

/-- The step of an awaited program, by what the program does in both stores. -/
theorem await {m : Program σ ε β} {next : β → Thread σ ε α} {s t : σ}
    (h : ∀ s' t', Same s' t' → Rely s s' → Rely t t' →
      (∃ e x y, m.run s' = (.error e, x) ∧ m.run t' = (.error e, y) ∧ Same x y ∧ Guar s' x ∧
        Guar t' y) ∨
      ∃ b x y, m.run s' = (.ok b, x) ∧ m.run t' = (.ok b, y) ∧ Same x y ∧ Guar s' x ∧
        Guar t' y ∧ Twin Same Rely Guar Q (next b) x y) :
    Twin Same Rely Guar Q (Thread.await m next) s t := by
  intro s' t' hsame hs ht
  rcases h s' t' hsame hs ht with
    ⟨e, x, y, hrun, hrun', hend, hguar, hguar'⟩ |
    ⟨b, x, y, hrun, hrun', hend, hguar, hguar', hnext⟩
  · simp only [hrun, hrun']
    exact ⟨trivial, hend, hguar, hguar', trivial⟩
  · simp only [hrun, hrun']
    exact ⟨trivial, hend, hguar, hguar', hnext⟩

/-- A calculation is the same in both. -/
theorem lift {x : Except ε α} {s t : σ} (hok : ∀ a, x = .ok a → Q a s t) :
    Twin Same Rely Guar Q (Thread.lift x) s t := by
  cases x with
  | ok a => exact hok a rfl
  | error e => trivial

theorem bind {Q' : β → σ → σ → Prop} {x : Thread σ ε α} {f : α → Thread σ ε β} {s t : σ}
    (h : Twin Same Rely Guar (fun a => Twin Same Rely Guar Q' (f a)) x s t) :
    Twin Same Rely Guar Q' (x >>= f) s t := by
  induction x generalizing s t with
  | answer a => exact h
  | reject e => trivial
  | step next store ih =>
      intro s' t' hsame hs ht
      obtain ⟨hnext, hstores, hguar, hguar', htwin⟩ := h s' t' hsame hs ht
      exact ⟨congrArg (Thread.bind · f) hnext, hstores, hguar, hguar', ih s' htwin⟩

theorem map {Q' : β → σ → σ → Prop} {f : α → β} {x : Thread σ ε α} {s t : σ}
    (h : Twin Same Rely Guar (fun a => Q' (f a)) x s t) :
    Twin Same Rely Guar Q' (f <$> x) s t :=
  bind h

end Twin

end Twin

end Thread

/-! ## With the others and without them -/

namespace Threads

section Purge

variable {ι π : Type} [DecidableEq ι] (party : ι → π) (me : π)
  (Same : π → σ → σ → Prop) (Rely Guar : ι → σ → σ → Prop)

/-- A run with everybody, and one in which only `me` has moved. -/
structure Purged (s t : Threads ι σ ε α) : Prop where
  same : Same me s.store t.store
  mine : ∀ i, party i = me → t.thread i = s.thread i ∧
    (s.thread i).Twin (Same me) (Rely i) (Guar i) (fun _ _ _ => True) s.store t.store
  theirs : ∀ i, party i ≠ me →
    (s.thread i).Twin (Same (party i)) (Rely i) (Guar i) (fun _ _ _ => True) s.store s.store

variable {party me Same Rely Guar} {s s' t : Threads ι σ ε α} {i : ι}

/-- My step is taken in both runs. -/
theorem purged_mine (hrely : ∀ i s, Rely i s s)
    (htrans : ∀ i s t u, Rely i s t → Rely i t u → Rely i s u)
    (hgives : ∀ i j s t, i ≠ j → Guar i s t → Rely j s t)
    (h : Purged party me Same Rely Guar s t) (hmine : party i = me) (hstep : step s i = some s') :
    ∃ t', step t i = some t' ∧ Purged party me Same Rely Guar s' t' := by
  obtain ⟨next, store, hthread, rfl⟩ := step_cases hstep
  obtain ⟨hsame, htwin⟩ := h.mine i hmine
  rw [hthread] at hsame htwin
  obtain ⟨hnext, hstores, hguar, hguar', hrest⟩ :=
    htwin s.store t.store h.same (hrely i _) (hrely i _)
  refine ⟨⟨store t.store, Function.update t.thread i (next t.store)⟩,
    by simp only [step, hsame], hstores, fun j hj => ?_, fun j hj => ?_⟩
  · by_cases hij : i = j
    · subst hij
      simp only [Function.update_self]
      exact ⟨hnext.symm, hrest⟩
    · simp only [Function.update_of_ne (Ne.symm hij)]
      obtain ⟨hkept, hwaiting⟩ := h.mine j hj
      exact ⟨hkept, hwaiting.rely (htrans j) (fun _ _ _ _ _ h _ _ => h)
        (hgives i j _ _ hij hguar) (hgives i j _ _ hij hguar')⟩
  · have hij : i ≠ j := fun hij => hj (hij ▸ hmine)
    simp only [Function.update_of_ne (Ne.symm hij)]
    exact (h.theirs j hj).rely (htrans j) (fun _ _ _ _ _ h _ _ => h)
      (hgives i j _ _ hij hguar) (hgives i j _ _ hij hguar)

/-- A step of somebody else is taken in one run, and not missed in the other. -/
theorem purged_theirs (hself : ∀ p q s t, Same p s t → Same q s s) (hrely : ∀ i s, Rely i s s)
    (htrans : ∀ i s t u, Rely i s t → Rely i t u → Rely i s u)
    (hgives : ∀ i j s t, i ≠ j → Guar i s t → Rely j s t)
    (hothers : ∀ i s s' t, party i ≠ me → Same me s t → Guar i s s' → Same me s' t)
    (h : Purged party me Same Rely Guar s t) (htheirs : party i ≠ me)
    (hstep : step s i = some s') : Purged party me Same Rely Guar s' t := by
  obtain ⟨next, store, hthread, rfl⟩ := step_cases hstep
  have htwin := h.theirs i htheirs
  rw [hthread] at htwin
  obtain ⟨-, -, hguar, -, hrest⟩ :=
    htwin s.store s.store (hself me _ _ _ h.same) (hrely i _) (hrely i _)
  refine ⟨hothers i _ _ _ htheirs h.same hguar, fun j hj => ?_, fun j hj => ?_⟩
  · have hij : i ≠ j := fun hij => htheirs (hij ▸ hj)
    simp only [Function.update_of_ne (Ne.symm hij)]
    obtain ⟨hkept, hwaiting⟩ := h.mine j hj
    exact ⟨hkept, hwaiting.rely (htrans j) (fun _ _ _ _ _ h _ _ => h)
      (hgives i j _ _ hij hguar) (hrely j _)⟩
  · by_cases hij : i = j
    · subst hij
      simp only [Function.update_self]
      exact hrest
    · simp only [Function.update_of_ne (Ne.symm hij)]
      exact (h.theirs j hj).rely (htrans j) (fun _ _ _ _ _ h _ _ => h)
        (hgives i j _ _ hij hguar) (hgives i j _ _ hij hguar)

/-- **Without the others** the threads of a party can take the same steps, and
come to the same answers. -/
theorem exec_purge [DecidableEq π] (hself : ∀ p q s t, Same p s t → Same q s s)
    (hrely : ∀ i s, Rely i s s) (htrans : ∀ i s t u, Rely i s t → Rely i t u → Rely i s u)
    (hgives : ∀ i j s t, i ≠ j → Guar i s t → Rely j s t)
    (hothers : ∀ i s s' t, party i ≠ me → Same me s t → Guar i s s' → Same me s' t)
    {schedule : List ι} (h : Purged party me Same Rely Guar s t)
    (hrun : exec step s schedule = some s') :
    ∃ t', exec step t (schedule.filter fun i => party i = me) = some t' ∧
      Purged party me Same Rely Guar s' t' := by
  induction schedule generalizing s t with
  | nil =>
      obtain rfl := Option.some.inj hrun
      exact ⟨t, rfl, h⟩
  | cons i schedule ih =>
      obtain ⟨u, hstep, hrest⟩ := exec_cons hrun
      by_cases hi : party i = me
      · obtain ⟨v, hmine, huv⟩ := purged_mine hrely htrans hgives h hi hstep
        obtain ⟨t', hrun', hend⟩ := ih huv hrest
        refine ⟨t', ?_, hend⟩
        rw [List.filter_cons_of_pos (by simpa using hi), exec, hmine]
        exact hrun'
      · obtain ⟨t', hrun', hend⟩ :=
          ih (purged_theirs hself hrely htrans hgives hothers h hi hstep) hrest
        exact ⟨t', by rw [List.filter_cons_of_neg (by simpa using hi)]; exact hrun', hend⟩

end Purge

end Threads

end StoreKit
