import Atlas.Lib.Thread

/-!
# Atlas.Lib.Protocol

Threads that follow a protocol, beside a process that does not.

A protocol is a set of control states and a relation `may`: in which of them a
step may turn which store into which.  A thread `Follows` it from a control
state if each of its steps is one of the protocol's.  What the protocol keeps,
and what the process beside the threads keeps, then holds along every run
(`exec_follows`), and nothing about the threads themselves is needed any more.
-/

namespace StoreKit

namespace Thread

variable {σ ε α β χ : Type}

section Follows

variable (Inv : σ → Prop) (may : χ → σ → χ → σ → Prop) (ends : χ → Except ε α → Prop)

/-- In a store with `Inv` each step is one the protocol may take, and the thread
ends as the control state it has come to allows. -/
def Follows : Thread σ ε α → χ → Prop
  | answer a, c => ends c (.ok a)
  | reject e, c => ends c (.error e)
  | step next store, c => ∀ s, Inv s → ∃ c', may c s c' (store s) ∧ Follows (next s) c'

end Follows

namespace Follows

variable {Inv : σ → Prop} {may : χ → σ → χ → σ → Prop} {ends : χ → Except ε α → Prop} {c : χ}

protected theorem pure {a : α} (h : ends c (.ok a)) :
    Follows Inv may ends (pure a : Thread σ ε α) c := h

/-- A thread that ends here has to leave the protocol where it may end. -/
theorem of_answer {a : α} (h : Follows Inv may ends (answer a : Thread σ ε α) c) :
    ends c (.ok a) := h

/-- A step follows the protocol if it is one of its moves, from wherever the
invariant holds. -/
theorem await {m : Program σ ε β} {next : β → Thread σ ε α}
    (h : ∀ s, Inv s → (∃ e s' c', m.run s = (.error e, s') ∧ may c s c' s' ∧ ends c' (.error e)) ∨
      ∃ b s' c', m.run s = (.ok b, s') ∧ may c s c' s' ∧ Follows Inv may ends (next b) c') :
    Follows Inv may ends (Thread.await m next) c := by
  intro s hs
  rcases h s hs with ⟨e, s', c', hrun, hmay, hend⟩ | ⟨b, s', c', hrun, hmay, hend⟩
  · refine ⟨c', ?_⟩
    simp only [hrun]
    exact ⟨hmay, hend⟩
  · refine ⟨c', ?_⟩
    simp only [hrun]
    exact ⟨hmay, hend⟩

/-- What may end in fewer places may end in more. -/
theorem weaken {ends' : χ → Except ε α → Prop} {t : Thread σ ε α}
    (h : Follows Inv may ends t c) (hends : ∀ c r, ends c r → ends' c r) :
    Follows Inv may ends' t c := by
  induction t generalizing c with
  | answer a => exact hends c _ h
  | reject e => exact hends c _ h
  | step next store ih =>
      intro s hs
      obtain ⟨c', hmay, hnext⟩ := h s hs
      exact ⟨c', hmay, ih s hnext⟩

/-- A calculation is no step. -/
theorem lift {x : Except ε α} (h : ends c x) :
    Follows Inv may ends (Thread.lift x : Thread σ ε α) c := by
  cases x with
  | ok a => exact h
  | error e => exact h

/-- Two threads in sequence: the second one goes on where the first one ends. -/
theorem bind {ends' : χ → Except ε β → Prop} {t : Thread σ ε α} {f : α → Thread σ ε β}
    (h : Follows Inv may ends t c) (hf : ∀ c a, ends c (.ok a) → Follows Inv may ends' (f a) c)
    (herr : ∀ c e, ends c (.error e) → ends' c (.error e)) :
    Follows Inv may ends' (t >>= f) c := by
  induction t generalizing c with
  | answer a => exact hf c a h
  | reject e => exact herr c e h
  | step next store ih =>
      intro s hs
      obtain ⟨c', hmay, hnext⟩ := h s hs
      exact ⟨c', hmay, ih s hnext⟩

/-- A change of the answer is no move. -/
theorem map {ends' : χ → Except ε β → Prop} {t : Thread σ ε α} {f : α → β}
    (h : Follows Inv may ends t c) (hf : ∀ c a, ends c (.ok a) → ends' c (.ok (f a)))
    (herr : ∀ c e, ends c (.error e) → ends' c (.error e)) :
    Follows Inv may ends' (f <$> t) c :=
  h.bind (fun c a ha => hf c a ha) herr

end Follows

end Thread

/-! ## Beside a process -/

/-- Threads, and what a process beside them has in memory. -/
structure Beside (ι σ ε α μ : Type) where
  threads : Threads ι σ ε α
  memory : μ

namespace Beside

variable {ι σ ε α μ δ χ : Type} [DecidableEq ι]

/-- A thread takes its next step, or the process does on the store. -/
def step (process : σ → μ → δ → Option (σ × μ)) (s : Beside ι σ ε α μ) :
    ι ⊕ δ → Option (Beside ι σ ε α μ)
  | .inl i => (s.threads.step i).map fun threads => { s with threads }
  | .inr d => (process s.threads.store s.memory d).map fun (store, memory) =>
      { threads := { s.threads with store }, memory }

variable {process : σ → μ → δ → Option (σ × μ)} {Inv : σ → Prop}
  {may : ι → χ → σ → χ → σ → Prop} {ends : ι → χ → Except ε α → Prop} {I : σ → μ → (ι → χ) → Prop}

/-- **Protocols beside a process**: what the steps of the protocol and those of
the process keep holds after every run of threads that follow the protocol. -/
theorem exec_follows (hInv : ∀ s m c, I s m c → Inv s)
    (hmay : ∀ i s m c c' s', I s m c → may i (c i) s c' s' → I s' m (Function.update c i c'))
    (hprocess : ∀ d s m c s' m', I s m c → process s m d = some (s', m') → I s' m' c)
    {s s' : Beside ι σ ε α μ} {labels : List (ι ⊕ δ)} {c : ι → χ}
    (hI : I s.threads.store s.memory c)
    (hfollows : ∀ i, (s.threads.thread i).Follows Inv (may i) (ends i) (c i))
    (hrun : exec (step process) s labels = some s') :
    ∃ c', I s'.threads.store s'.memory c' ∧
      ∀ i, (s'.threads.thread i).Follows Inv (may i) (ends i) (c' i) := by
  refine @exec_keeps _ _ (step process) (fun u => ∃ c, I u.threads.store u.memory c ∧
    ∀ i, (u.threads.thread i).Follows Inv (may i) (ends i) (c i)) ?_ s s' labels ⟨c, hI, hfollows⟩
    hrun
  rintro u label u' ⟨c, hu, hthreads⟩ hstep
  cases label with
  | inl i =>
      obtain ⟨threads, hthread, rfl⟩ := Option.map_eq_some_iff.mp hstep
      obtain ⟨next, store, hnext, rfl⟩ := Threads.step_cases hthread
      have hi := hthreads i
      rw [hnext] at hi
      obtain ⟨c', hmoved, hrest⟩ := hi u.threads.store (hInv _ _ _ hu)
      refine ⟨Function.update c i c', hmay i _ _ c c' _ hu hmoved, fun j => ?_⟩
      by_cases hj : j = i
      · subst hj
        simpa only [Function.update_self] using hrest
      · simpa only [Function.update_of_ne hj] using hthreads j
  | inr d =>
      obtain ⟨⟨store, memory⟩, hdone, rfl⟩ := Option.map_eq_some_iff.mp hstep
      exact ⟨c, hprocess d _ _ c store memory hu hdone, hthreads⟩

end Beside

-- A proof that follows the rules has no need to take the steps.
attribute [irreducible] Thread.Follows

end StoreKit
