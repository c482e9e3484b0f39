import Mathlib.Logic.Basic
import Mathlib.Tactic.Common

/-!
# Atlas.Lib.Program

Programs over a store, and how to reason about them.

A `Program σ ε α` runs on a store `σ` and either answers an `α` or rejects
with an `ε`.  In both cases it leaves a store: nothing is rolled back, so what
a program did before it rejected stays done.

Three kinds of judgement are set up, each with one rule per construct, so that
a proof about a program follows its text:

* `Triple P m Q E` — started where `P` holds, `m` ends in `Q` if it answers
  and in `E` if it rejects;
* `Leaves f m` — however `m` ends, the part `f` of the store is what it was;
* `Agree R m Q E` — started in two stores related by `R`, `m` does the same
  twice: both runs answer the same value and end in `Q`, or both reject with
  the same error and end in `E`.  It is the two-run judgement that
  noninterference is proved with.
-/

namespace StoreKit

/-- A program over a store `σ`: an answer or a rejection, and the store left
behind in either case. -/
structure Program (σ ε α : Type) where
  run : σ → Except ε α × σ

namespace Program

variable {σ ε α β : Type}

/-- Two programs that run alike are one. -/
@[ext] theorem ext {m n : Program σ ε α} (h : ∀ s, m.run s = n.run s) : m = n := by
  cases m; cases n
  congr
  exact funext h

instance : Monad (Program σ ε) where
  pure a := ⟨fun s => (.ok a, s)⟩
  bind m f := ⟨fun s => match m.run s with
    | (.ok a, s') => (f a).run s'
    | (.error e, s') => (.error e, s')⟩

/-- Reject with `e`. -/
def reject (e : ε) : Program σ ε α := ⟨fun s => (.error e, s)⟩

/-- Answer or reject as a pure computation says. -/
def lift (x : Except ε α) : Program σ ε α := ⟨fun s => (x, s)⟩

/-- Read something off the store. -/
def gets (f : σ → α) : Program σ ε α := ⟨fun s => (.ok (f s), s)⟩

/-- Change the store. -/
def modify (f : σ → σ) : Program σ ε Unit := ⟨fun s => (.ok (), f s)⟩

/-- Run `m` and answer how it ended: what it did before it rejected stays. -/
def attempt (m : Program σ ε α) : Program σ ε (Except ε α) :=
  ⟨fun s => (.ok (m.run s).1, (m.run s).2)⟩

@[simp] theorem pure_run (a : α) (s : σ) :
    (pure a : Program σ ε α).run s = (.ok a, s) := rfl

/-- What follows an error is not run. -/
theorem bind_run (m : Program σ ε α) (f : α → Program σ ε β) (s : σ) :
    (m >>= f).run s = match m.run s with
      | (.ok a, s') => (f a).run s'
      | (.error e, s') => (.error e, s') := rfl

@[simp] theorem reject_run (e : ε) (s : σ) :
    (reject e : Program σ ε α).run s = (.error e, s) := rfl

@[simp] theorem lift_run (x : Except ε α) (s : σ) : (lift x).run s = (x, s) := rfl

@[simp] theorem gets_run (f : σ → α) (s : σ) :
    (gets f : Program σ ε α).run s = (.ok (f s), s) := rfl

@[simp] theorem modify_run (f : σ → σ) (s : σ) :
    (modify f : Program σ ε Unit).run s = (.ok (), f s) := rfl

@[simp] theorem attempt_run (m : Program σ ε α) (s : σ) :
    (attempt m).run s = (.ok (m.run s).1, (m.run s).2) := rfl

/-- A bind whose first part answers continues from the store left behind. -/
theorem bind_run_ok {m : Program σ ε α} {f : α → Program σ ε β} {s s' : σ} {a : α}
    (h : m.run s = (.ok a, s')) : (m >>= f).run s = (f a).run s' := by
  rw [bind_run, h]

/-- A bind whose first part rejects does not run the second. -/
theorem bind_run_error {m : Program σ ε α} {f : α → Program σ ε β} {s s' : σ} {e : ε}
    (h : m.run s = (.error e, s')) : (m >>= f).run s = (.error e, s') := by
  rw [bind_run, h]

/-- A bind that answers: both parts answered. -/
theorem bind_run_eq_ok {m : Program σ ε α} {f : α → Program σ ε β} {s s'' : σ} {b : β}
    (h : (m >>= f).run s = (.ok b, s'')) :
    ∃ a s', m.run s = (.ok a, s') ∧ (f a).run s' = (.ok b, s'') := by
  rw [bind_run] at h
  split at h
  · next a s' hm => exact ⟨a, s', hm, h⟩
  · next e s' hm => exact absurd (congrArg Prod.fst h) (by simp)

/-! ## One run -/

/-- Started in `P`, `m` ends in `Q a` when it answers `a` and in `E` when it
rejects. -/
def Triple (P : σ → Prop) (m : Program σ ε α) (Q : α → σ → Prop) (E : σ → Prop) : Prop :=
  ∀ s, P s → match m.run s with
    | (.ok a, s') => Q a s'
    | (.error _, s') => E s'

namespace Triple

variable {P : σ → Prop} {E : σ → Prop}

theorem pure {a : α} {Q : α → σ → Prop} (h : ∀ s, P s → Q a s) :
    Triple P (pure a : Program σ ε α) Q E := fun s hs => h s hs

theorem reject {e : ε} {Q : α → σ → Prop} (h : ∀ s, P s → E s) :
    Triple P (Program.reject e : Program σ ε α) Q E := fun s hs => h s hs

theorem gets {f : σ → α} {Q : α → σ → Prop} (h : ∀ s, P s → Q (f s) s) :
    Triple P (Program.gets f : Program σ ε α) Q E := fun s hs => h s hs

theorem modify {f : σ → σ} {Q : Unit → σ → Prop} (h : ∀ s, P s → Q () (f s)) :
    Triple P (Program.modify f : Program σ ε Unit) Q E := fun s hs => h s hs

theorem lift {x : Except ε α} {Q : α → σ → Prop} (hok : ∀ a, x = .ok a → ∀ s, P s → Q a s)
    (herr : ∀ s, P s → E s) : Triple P (Program.lift x) Q E := by
  intro s hs
  cases x with
  | ok a => exact hok a rfl s hs
  | error e => exact herr s hs

/-- Sequencing: the middle assertion may name the answer of the first part. -/
theorem bind {m : Program σ ε α} {f : α → Program σ ε β} {M : α → σ → Prop}
    {Q : β → σ → Prop} (hm : Triple P m M E) (hf : ∀ a, Triple (M a) (f a) Q E) :
    Triple P (m >>= f) Q E := by
  intro s hs
  have h := hm s hs
  rw [bind_run]
  revert h
  cases m.run s with
  | mk r s' =>
      cases r with
      | ok a => exact fun h => hf a s' h
      | error e => exact fun h => h

/-- Less may be asked of the state before, and more be allowed after. -/
theorem weaken {m : Program σ ε α} {P' : σ → Prop} {Q Q' : α → σ → Prop} {E' : σ → Prop}
    (h : Triple P m Q E) (hP : ∀ s, P' s → P s) (hQ : ∀ a s, Q a s → Q' a s)
    (hE : ∀ s, E s → E' s) : Triple P' m Q' E' := by
  intro s hs
  have h' := h s (hP s hs)
  revert h'
  cases m.run s with
  | mk r s' =>
      cases r with
      | ok a => exact hQ a s'
      | error e => exact hE s'

/-- A fact that does not depend on the state is known beforehand. -/
theorem given {p : Prop} {m : Program σ ε α} {Q : α → σ → Prop} (h : p → Triple P m Q E) :
    Triple (fun s => P s ∧ p) m Q E := fun s hs => h hs.2 s hs.1

/-- The store left behind, where it does not matter how the run ends. -/
theorem store {m : Program σ ε α} {P Q : σ → Prop} (h : Triple P m (fun _ => Q) Q) {s : σ}
    (hs : P s) : Q (m.run s).2 := by
  have hstore := h s hs
  revert hstore
  cases m.run s with
  | mk r s' =>
      cases r with
      | ok a => exact id
      | error e => exact id

end Triple

-- A proof that follows the rules has no need to run the program.
attribute [irreducible] Triple

/-! ## What a program leaves alone -/

section Leaves

variable {τ : Type} (f : σ → τ)

/-- Whatever happens, the part `f` of the store stays as it is. -/
def Leaves (m : Program σ ε α) : Prop := ∀ s, f (m.run s).2 = f s

namespace Leaves

variable {f}

/-- What is left alone is the same after the run. -/
theorem part_eq {m : Program σ ε α} (h : Leaves f m) (s : σ) : f (m.run s).2 = f s := h s

/-- What is the same after every run is left alone. -/
theorem of_part_eq {m : Program σ ε α} (h : ∀ s, f (m.run s).2 = f s) : Leaves f m := h

/-- What is read off the part stays too. -/
theorem part {υ : Type} {m : Program σ ε α} (g : τ → υ) (h : Leaves f m) :
    Leaves (fun s => g (f s)) m := fun s => congrArg g (h s)

theorem pure (a : α) : Leaves f (pure a : Program σ ε α) := fun _ => rfl

theorem reject (e : ε) : Leaves f (Program.reject e : Program σ ε α) := fun _ => rfl

theorem gets (g : σ → α) : Leaves f (Program.gets g : Program σ ε α) := fun _ => rfl

theorem lift (x : Except ε α) : Leaves f (Program.lift x : Program σ ε α) := fun _ => rfl

theorem modify {g : σ → σ} (h : ∀ s, f (g s) = f s) :
    Leaves f (Program.modify g : Program σ ε Unit) := h

theorem bind {m : Program σ ε α} {n : α → Program σ ε β} (hm : Leaves f m)
    (hn : ∀ a, Leaves f (n a)) : Leaves f (m >>= n) := by
  intro s
  have h := hm s
  rw [bind_run]
  revert h
  cases m.run s with
  | mk r s' =>
      cases r with
      | ok a => exact fun h => (hn a s').trans h
      | error e => exact id

/-- Sequencing, where what follows leaves the part for the answers there are. -/
theorem bind_answers {m : Program σ ε α} {n : α → Program σ ε β} {A : α → Prop} (hm : Leaves f m)
    (hA : ∀ s a s', m.run s = (.ok a, s') → A a) (hn : ∀ a, A a → Leaves f (n a)) :
    Leaves f (m >>= n) := by
  intro s
  have h := hm s
  rw [bind_run]
  revert h
  cases hrun : m.run s with
  | mk r s' =>
      cases r with
      | ok a => exact fun h => (hn a (hA s a s' hrun) s').trans h
      | error e => exact id

/-- What follows a program leaves the part as the program left it. -/
theorem part_bind {m : Program σ ε α} {n : α → Program σ ε β} (hn : ∀ a, Leaves f (n a)) (s : σ) :
    f ((m >>= n).run s).2 = f (m.run s).2 := by
  rw [bind_run]
  cases m.run s with
  | mk r s' =>
      cases r with
      | ok a => exact hn a s'
      | error e => rfl

end Leaves

end Leaves

attribute [irreducible] Leaves

/-! ## Two runs -/

/-- Started in two stores related by `R`, `m` answers the same value twice and
ends in `Q`, or rejects twice with the same error and ends in `E`. -/
def Agree (R : σ → σ → Prop) (m : Program σ ε α) (Q : α → σ → σ → Prop)
    (E : σ → σ → Prop) : Prop :=
  ∀ s t, R s t → (m.run s).1 = (m.run t).1 ∧ match m.run s with
    | (.ok a, s') => Q a s' (m.run t).2
    | (.error _, s') => E s' (m.run t).2

namespace Agree

variable {R : σ → σ → Prop} {E : σ → σ → Prop}

theorem pure {a : α} {Q : α → σ → σ → Prop} (h : ∀ s t, R s t → Q a s t) :
    Agree R (pure a : Program σ ε α) Q E := fun s t hst => ⟨rfl, h s t hst⟩

theorem reject {e : ε} {Q : α → σ → σ → Prop} (h : ∀ s t, R s t → E s t) :
    Agree R (Program.reject e : Program σ ε α) Q E := fun s t hst => ⟨rfl, h s t hst⟩

/-- A read agrees when it depends on what the two stores share. -/
theorem gets {f : σ → α} {Q : α → σ → σ → Prop} (hf : ∀ s t, R s t → f s = f t)
    (h : ∀ s t, R s t → Q (f s) s t) : Agree R (Program.gets f : Program σ ε α) Q E :=
  fun s t hst => ⟨congrArg Except.ok (hf s t hst), h s t hst⟩

theorem modify {f : σ → σ} {Q : Unit → σ → σ → Prop} (h : ∀ s t, R s t → Q () (f s) (f t)) :
    Agree R (Program.modify f : Program σ ε Unit) Q E := fun s t hst => ⟨rfl, h s t hst⟩

theorem lift {x : Except ε α} {Q : α → σ → σ → Prop}
    (hok : ∀ a, x = .ok a → ∀ s t, R s t → Q a s t) (herr : ∀ s t, R s t → E s t) :
    Agree R (Program.lift x) Q E := by
  intro s t hst
  refine ⟨rfl, ?_⟩
  cases x with
  | ok a => exact hok a rfl s t hst
  | error e => exact herr s t hst

theorem bind {m : Program σ ε α} {f : α → Program σ ε β} {M : α → σ → σ → Prop}
    {Q : β → σ → σ → Prop} (hm : Agree R m M E) (hf : ∀ a, Agree (M a) (f a) Q E) :
    Agree R (m >>= f) Q E := by
  intro s t hst
  have h := hm s t hst
  simp only [bind_run]
  revert h
  cases m.run s with
  | mk r s' =>
      cases m.run t with
      | mk r' t' =>
          rintro ⟨hr, h⟩
          cases hr
          cases r with
          | ok a => exact hf a s' t' h
          | error e => exact ⟨rfl, h⟩

theorem weaken {m : Program σ ε α} {R' : σ → σ → Prop} {Q Q' : α → σ → σ → Prop}
    {E' : σ → σ → Prop} (h : Agree R m Q E) (hR : ∀ s t, R' s t → R s t)
    (hQ : ∀ a s t, Q a s t → Q' a s t) (hE : ∀ s t, E s t → E' s t) : Agree R' m Q' E' := by
  intro s t hst
  have h' := h s t (hR s t hst)
  revert h'
  cases m.run s with
  | mk r s' =>
      cases r with
      | ok a => exact fun h' => ⟨h'.1, hQ a s' _ h'.2⟩
      | error e => exact fun h' => ⟨h'.1, hE s' _ h'.2⟩

/-- The two stores left behind, where it does not matter how the runs end. -/
theorem stores {m : Program σ ε α} {Q : σ → σ → Prop} (h : Agree R m (fun _ => Q) Q) {s t : σ}
    (hst : R s t) : (m.run s).1 = (m.run t).1 ∧ Q (m.run s).2 (m.run t).2 := by
  obtain ⟨hanswer, hstores⟩ := h s t hst
  refine ⟨hanswer, ?_⟩
  revert hstores
  cases m.run s with
  | mk r s' =>
      cases r with
      | ok a => exact id
      | error e => exact id

/-- What is known of an answer may be used in what follows. -/
theorem given {P : Prop} {m : Program σ ε α} {Q : α → σ → σ → Prop}
    (h : P → Agree R m Q E) : Agree (fun s t => P ∧ R s t) m Q E :=
  fun s t hst => h hst.1 s t hst.2

end Agree

end Program

end StoreKit
