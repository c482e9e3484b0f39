import Atlas.Lib.Program
import Atlas.Lib.Run
import Mathlib.Logic.Function.Basic

/-!
# Atlas.Lib.Thread

Programs that run beside each other on one store.

A `Thread` is a program in steps: at each `await` it gives way, and the others
may move before its next step is taken.  Run on its own (`Thread.run`) it is a
`Program` again.

`Threads` is a store with a thread for every index, and a run of it is a list
of indices: who moves next.  What holds along every such run is proved one
thread at a time.  An invariant is kept by the steps of every thread (`Keeps`).
Otherwise (`Sound`) a thread may rely on what the others do between its steps,
and guarantees something of its own steps; `exec_sound` puts threads together
whose guarantees are what the others rely on.
-/

namespace StoreKit

/-- A program in steps: it answers, it rejects, or it changes the store and goes
on as the store it found says. -/
inductive Thread (σ ε α : Type) : Type where
  | answer (a : α)
  | reject (e : ε)
  | step (next : σ → Thread σ ε α) (store : σ → σ)

namespace Thread

variable {σ ε α β γ : Type}

/-- A thread goes on with the answer it awaited. -/
def resumed (next : β → Thread σ ε α) : Except ε β → Thread σ ε α
  | .ok b => next b
  | .error e => reject e

/-- A program runs as one step. -/
def await (m : Program σ ε β) (next : β → Thread σ ε α) : Thread σ ε α :=
  step (fun s => resumed next (m.run s).1) fun s => (m.run s).2

protected def bind : Thread σ ε α → (α → Thread σ ε β) → Thread σ ε β
  | answer a, f => f a
  | reject e, _ => reject e
  | step next store, f => step (fun s => (next s).bind f) store

instance : Monad (Thread σ ε) where
  pure := answer
  bind := Thread.bind

/-- A single step. -/
def call (m : Program σ ε α) : Thread σ ε α := await m answer

/-- What follows a single step goes on with its answer. -/
theorem call_bind (m : Program σ ε β) (f : β → Thread σ ε α) : call m >>= f = await m f := by
  refine congrArg (step · fun s => (m.run s).2) (funext fun s => ?_)
  show (resumed answer (m.run s).1).bind f = resumed f (m.run s).1
  cases (m.run s).1 with
  | ok b => rfl
  | error e => rfl

/-- A calculation between two steps. -/
def lift : Except ε α → Thread σ ε α
  | .ok a => answer a
  | .error e => reject e

/-- What a thread has answered. -/
def answer? : Thread σ ε α → Option α
  | answer a => some a
  | reject _ => none
  | step _ _ => none

/-- A thread that has answered is the answer. -/
theorem eq_answer {t : Thread σ ε α} {a : α} (h : t.answer? = some a) : t = answer a := by
  cases t with
  | answer b => exact congrArg answer (Option.some.inj h)
  | reject e => cases h
  | step next store => cases h

/-! ## On its own -/

/-- The thread on its own: nobody else moves between its steps. -/
def run : Thread σ ε α → Program σ ε α
  | answer a => pure a
  | reject e => Program.reject e
  | step next store => ⟨fun s => (next s).run.run (store s)⟩

@[simp] theorem run_pure (a : α) : (pure a : Thread σ ε α).run = pure a := rfl

@[simp] theorem run_lift (x : Except ε α) : (lift x : Thread σ ε α).run = Program.lift x := by
  cases x with
  | ok a => rfl
  | error e => rfl

@[simp] theorem run_await (m : Program σ ε β) (next : β → Thread σ ε α) :
    (await m next).run = m >>= fun b => (next b).run := by
  refine Program.ext fun s => ?_
  rw [Program.bind_run]
  have hrun : (await m next).run.run s = (resumed next (m.run s).1).run.run (m.run s).2 := rfl
  rw [hrun]
  cases m.run s with
  | mk r s' =>
      cases r with
      | ok b => rfl
      | error e => rfl

@[simp] theorem run_call (m : Program σ ε α) : (call m).run = m := by
  refine Program.ext fun s => ?_
  rw [call, run_await, Program.bind_run]
  cases m.run s with
  | mk r s' =>
      cases r with
      | ok a => rfl
      | error e => rfl

/-- Threads one after the other run as the programs do. -/
@[simp] theorem run_bind (t : Thread σ ε α) (f : α → Thread σ ε β) :
    (t >>= f).run = t.run >>= fun a => (f a).run := by
  induction t with
  | answer a => rfl
  | reject e => rfl
  | step next store ih =>
      refine Program.ext fun s => ?_
      have hrun : ((step next store : Thread σ ε α) >>= f).run.run s =
          (next s >>= f).run.run (store s) := rfl
      rw [hrun, ih s, Program.bind_run, Program.bind_run]
      rfl

@[simp] theorem run_map (f : α → β) (t : Thread σ ε α) : (f <$> t).run = f <$> t.run :=
  run_bind t fun a => answer (f a)

/-! ## Invariants -/

/-- Every step of the thread keeps `I`, whatever the others make of the store. -/
def Keeps (I : σ → Prop) : Thread σ ε α → Prop
  | answer _ => True
  | reject _ => True
  | step next store => ∀ s, I s → I (store s) ∧ Keeps I (next s)

namespace Keeps

variable {I : σ → Prop}

protected theorem pure {a : α} : Keeps I (pure a : Thread σ ε α) := trivial

/-- A step keeps an invariant that its program keeps and the rest does. -/
theorem await {m : Program σ ε β} {next : β → Thread σ ε α}
    (h : ∀ s, I s → I (m.run s).2 ∧ ∀ b s', m.run s = (.ok b, s') → Keeps I (next b)) :
    Keeps I (Thread.await m next) := by
  intro s hs
  obtain ⟨hI, hnext⟩ := h s hs
  refine ⟨hI, ?_⟩
  show Keeps I (resumed next (m.run s).1)
  cases hrun : m.run s with
  | mk r s' =>
      cases r with
      | ok b => exact hnext b s' hrun
      | error e => trivial

/-- An exception keeps every invariant. -/
theorem lift {x : Except ε α} : Keeps I (Thread.lift x : Thread σ ε α) := by
  cases x with
  | ok a => trivial
  | error e => trivial

theorem lift_bind {x : Except ε β} {f : β → Thread σ ε α}
    (h : ∀ b, x = .ok b → Keeps I (f b)) : Keeps I (Thread.lift x >>= f) := by
  cases x with
  | ok b => exact h b rfl
  | error e => trivial

/-- Two threads in sequence keep what both do. -/
theorem bind {t : Thread σ ε α} {f : α → Thread σ ε β} (h : Keeps I t)
    (hf : ∀ a, Keeps I (f a)) : Keeps I (t >>= f) := by
  induction t with
  | answer a => exact hf a
  | reject e => trivial
  | step next store ih =>
      intro s hs
      obtain ⟨hI, hnext⟩ := h s hs
      exact ⟨hI, ih s hnext⟩

end Keeps

/-! ## Rely and guarantee -/

section Sound

variable (Inv : σ → Prop) (Rely Guar : σ → σ → Prop) (Q : α → σ → Prop) (E : ε → σ → Prop)

/-- From `s` on, every step of the thread keeps `Inv` and does what `Guar` says,
if the others keep `Inv` and do what `Rely` says; it ends in `Q` or in `E`. -/
def Sound : Thread σ ε α → σ → Prop
  | answer a, s => Q a s
  | reject e, s => E e s
  | step next store, s => ∀ s', Inv s' → Rely s s' →
      Inv (store s') ∧ Guar s' (store s') ∧ Sound (next s') (store s')

namespace Sound

variable {Inv Rely Guar Q E}

protected theorem pure {a : α} {s : σ} (h : Q a s) :
    Sound Inv Rely Guar Q E (pure a : Thread σ ε α) s := h

/-- What was shown of a thread that has answered. -/
theorem of_answer {a : α} {s : σ} (h : Sound Inv Rely Guar Q E (answer a) s) : Q a s := h

/-- A sound thread that has rejected is where it may be. -/
theorem of_reject {e : ε} {s : σ} (h : Sound Inv Rely Guar Q E (reject e) s) : E e s := h

/-- What was shown of a thread still holds after the others have moved. -/
theorem rely (htrans : ∀ s t u, Rely s t → Rely t u → Rely s u)
    (hQ : ∀ a s s', Q a s → Rely s s' → Q a s') (hE : ∀ e s s', E e s → Rely s s' → E e s')
    {t : Thread σ ε α} {s s' : σ} (h : Sound Inv Rely Guar Q E t s) (hs : Rely s s') :
    Sound Inv Rely Guar Q E t s' := by
  cases t with
  | answer a => exact hQ a s s' h hs
  | reject e => exact hE e s s' h hs
  | step next store => exact fun u hu hsu => h u hu (htrans s s' u hs hsu)

/-- More may be allowed at the end. -/
theorem weaken {Q' : α → σ → Prop} {E' : ε → σ → Prop} {t : Thread σ ε α} {s : σ}
    (h : Sound Inv Rely Guar Q E t s) (hQ : ∀ a s, Q a s → Q' a s) (hE : ∀ e s, E e s → E' e s) :
    Sound Inv Rely Guar Q' E' t s := by
  induction t generalizing s with
  | answer a => exact hQ a s h
  | reject e => exact hE e s h
  | step next store ih =>
      intro s' hs' hrely
      obtain ⟨hInv, hguar, hnext⟩ := h s' hs' hrely
      exact ⟨hInv, hguar, ih s' hnext⟩

/-- What neither the thread nor the others undo still holds when it ends. -/
theorem frame {F : σ → Prop} (hrely : ∀ s t, F s → Rely s t → F t)
    (hguar : ∀ s t, F s → Guar s t → F t) {t : Thread σ ε α} {s : σ}
    (h : Sound Inv Rely Guar Q E t s) (hF : F s) :
    Sound Inv Rely Guar (fun a s => Q a s ∧ F s) (fun e s => E e s ∧ F s) t s := by
  induction t generalizing s with
  | answer a => exact ⟨h, hF⟩
  | reject e => exact ⟨h, hF⟩
  | step next store ih =>
      intro s' hs' hrelied
      obtain ⟨hInv, hdone, hnext⟩ := h s' hs' hrelied
      exact ⟨hInv, hdone, ih s' hnext (hguar s' _ (hrely s s' hF hrelied) hdone)⟩

/-- The step of an awaited program, by what the program does. -/
theorem await {m : Program σ ε β} {next : β → Thread σ ε α} {s : σ}
    (h : ∀ s', Inv s' → Rely s s' →
      (∃ e s'', m.run s' = (.error e, s'') ∧ Inv s'' ∧ Guar s' s'' ∧ E e s'') ∨
      ∃ b s'', m.run s' = (.ok b, s'') ∧ Inv s'' ∧ Guar s' s'' ∧
        Sound Inv Rely Guar Q E (next b) s'') :
    Sound Inv Rely Guar Q E (Thread.await m next) s := by
  intro s' hs' hrely
  rcases h s' hs' hrely with ⟨e, s'', hrun, hInv, hguar, hend⟩ | ⟨b, s'', hrun, hInv, hguar, hend⟩
  · simp only [hrun]
    exact ⟨hInv, hguar, hend⟩
  · simp only [hrun]
    exact ⟨hInv, hguar, hend⟩

/-- A calculation changes nothing. -/
theorem lift {x : Except ε α} {s : σ} (hok : ∀ a, x = .ok a → Q a s)
    (herr : ∀ e, x = .error e → E e s) : Sound Inv Rely Guar Q E (Thread.lift x) s := by
  cases x with
  | ok a => exact hok a rfl
  | error e => exact herr e rfl

/-- Two threads in sequence are sound if the second one is wherever the first one
ends. -/
theorem bind {Q' : β → σ → Prop} {t : Thread σ ε α} {f : α → Thread σ ε β} {s : σ}
    (h : Sound Inv Rely Guar (fun a => Sound Inv Rely Guar Q' E (f a)) E t s) :
    Sound Inv Rely Guar Q' E (t >>= f) s := by
  induction t generalizing s with
  | answer a => exact h
  | reject e => exact h
  | step next store ih =>
      intro s' hs' hrely
      obtain ⟨hInv, hguar, hnext⟩ := h s' hs' hrely
      exact ⟨hInv, hguar, ih s' hnext⟩

/-- A change of the answer is no step. -/
theorem map {Q' : β → σ → Prop} {f : α → β} {t : Thread σ ε α} {s : σ}
    (h : Sound Inv Rely Guar (fun a => Q' (f a)) E t s) :
    Sound Inv Rely Guar Q' E (f <$> t) s :=
  bind h

end Sound

end Sound

end Thread

/-! ## Threads on one store -/

/-- A store, and the threads that run on it. -/
structure Threads (ι σ ε α : Type) where
  store : σ
  thread : ι → Thread σ ε α

namespace Threads

variable {ι σ ε α : Type} [DecidableEq ι]

/-- A thread takes its next step, if it has not ended. -/
def step (s : Threads ι σ ε α) (i : ι) : Option (Threads ι σ ε α) :=
  match s.thread i with
  | .step next store => some {
      store := store s.store
      thread := Function.update s.thread i (next s.store) }
  | .answer _ => none
  | .reject _ => none

/-- One thread takes its next step; the others wait. -/
theorem step_cases {s s' : Threads ι σ ε α} {i : ι} (h : step s i = some s') :
    ∃ next store, s.thread i = .step next store ∧ s' = {
      store := store s.store
      thread := Function.update s.thread i (next s.store) } := by
  unfold step at h
  split at h
  · next next store hthread => exact ⟨next, store, hthread, (Option.some.inj h).symm⟩
  · contradiction
  · contradiction

/-- A thread that takes no step has ended. -/
theorem ended_of_step {s : Threads ι σ ε α} {i : ι} (h : step s i = none) :
    (∃ a, s.thread i = .answer a) ∨ ∃ e, s.thread i = .reject e := by
  unfold step at h
  split at h
  · contradiction
  · next a hthread => exact .inl ⟨a, hthread⟩
  · next e hthread => exact .inr ⟨e, hthread⟩

/-- What the steps of every thread that moves keep holds of every store. -/
theorem exec_kept {I : σ → Prop} {s s' : Threads ι σ ε α} {schedule : List ι}
    (hkeeps : ∀ i ∈ schedule, (s.thread i).Keeps I) (hs : I s.store)
    (hrun : exec step s schedule = some s') : I s'.store := by
  induction schedule generalizing s with
  | nil =>
      cases hrun
      exact hs
  | cons i schedule ih =>
      obtain ⟨m, hm, hrest⟩ := exec_cons hrun
      obtain ⟨next, store, hthread, rfl⟩ := step_cases hm
      have hi := hkeeps i List.mem_cons_self
      rw [hthread] at hi
      obtain ⟨hI, hnext⟩ := hi s.store hs
      refine ih (fun j hj => ?_) hI hrest
      by_cases hji : j = i
      · subst hji
        simpa only [Function.update_self] using hnext
      · simpa only [Function.update_of_ne hji] using hkeeps j (List.mem_cons_of_mem i hj)

section Sound

variable {Inv : σ → Prop} {Rely Guar : ι → σ → σ → Prop} {Q : ι → α → σ → Prop}
  {E : ι → ε → σ → Prop}

/-- **Threads beside each other**: where each of them guarantees what the others
rely on, `Inv` holds of every store that any interleaving reaches, `Rel` of the
first store and that one, and every thread is still sound. -/
theorem exec_sound {Rel : σ → σ → Prop} (hrefl : ∀ s, Rel s s)
    (htrans : ∀ s t u, Rel s t → Rel t u → Rel s u) (hself : ∀ i s, Rely i s s)
    (hrely : ∀ i s t u, Rely i s t → Rely i t u → Rely i s u)
    (hgives : ∀ i j s t, i ≠ j → Guar i s t → Rely j s t)
    (hdoes : ∀ i s t, Guar i s t → Rel s t)
    (hQ : ∀ i a s t, Q i a s → Rely i s t → Q i a t)
    (hE : ∀ i e s t, E i e s → Rely i s t → E i e t) {s s' : Threads ι σ ε α}
    {schedule : List ι} (hInv : Inv s.store)
    (hsound : ∀ i, (s.thread i).Sound Inv (Rely i) (Guar i) (Q i) (E i) s.store)
    (hrun : exec step s schedule = some s') :
    Inv s'.store ∧ Rel s.store s'.store ∧
      ∀ i, (s'.thread i).Sound Inv (Rely i) (Guar i) (Q i) (E i) s'.store := by
  have hkept : ∀ u i u', (Inv u.store ∧ Rel s.store u.store ∧
      ∀ j, (u.thread j).Sound Inv (Rely j) (Guar j) (Q j) (E j) u.store) →
      step u i = some u' → Inv u'.store ∧ Rel s.store u'.store ∧
      ∀ j, (u'.thread j).Sound Inv (Rely j) (Guar j) (Q j) (E j) u'.store := by
    rintro u i u' ⟨hu, hsu, hthreads⟩ hstep
    obtain ⟨next, store, hthread, rfl⟩ := step_cases hstep
    have hi := hthreads i
    rw [hthread] at hi
    obtain ⟨hInv', hguar, hnext⟩ := hi u.store hu (hself i u.store)
    refine ⟨hInv', htrans _ _ _ hsu (hdoes i _ _ hguar), fun j => ?_⟩
    by_cases hj : j = i
    · subst hj
      simpa only [Function.update_self] using hnext
    · simp only [Function.update_of_ne hj]
      exact (hthreads j).rely (hrely j) (hQ j) (hE j) (hgives i j _ _ (Ne.symm hj) hguar)
  exact exec_keeps hkept ⟨hInv, hrefl _, hsound⟩ hrun

end Sound

end Threads

-- A proof that follows the rules has no need to take the steps.
attribute [irreducible] Thread.Sound Thread.Keeps

end StoreKit
