import Mathlib.Data.List.Sublists
import Atlas.Lib.Run

/-!
# Atlas.Lib.Session

Read–modify–write sessions over one cell.

Each session `i` reads the cell once, works out `body i` on what it read, and
later writes the result over whatever the cell holds by then; a body that
refuses ends the session without a write.  Nothing ties the write to the read,
so sessions can overwrite each other.

What is true of every interleaving is `serial_chain`: the cell is what the
sessions of its *chain* — the last writer, the writer it had read from, and so
on — leave when they run one after another.  The chain is a sublist of the
sessions that committed.  It is all of them, in commit order, when no write
falls between the read and the write of another session
(`serial_committed`).
-/

namespace StoreKit.Session

variable {ι σ : Type}

/-- Where a session stands: it has not read; it holds the value it will write,
together with the chain of the cell it read; it is over, committed or refused. -/
inductive Phase (ι σ : Type) where
  | idle
  | holding (value : σ) (chain : List ι)
  | over (committed : Bool)
deriving DecidableEq

/-- The cell with its sessions.  `chain` and `committed` record history and
decide nothing. -/
structure State (ι σ : Type) where
  cell : σ
  phase : ι → Phase ι σ
  chain : List ι
  committed : List ι

/-- The state before any session has read. -/
def State.init (c : σ) : State ι σ := ⟨c, fun _ => .idle, [], []⟩

inductive Event (ι : Type) where
  | read (i : ι)
  | write (i : ι)
deriving DecidableEq

variable [DecidableEq ι] (body : ι → σ → Option σ)

/-- One step.  A session reads once and writes at most once. -/
def step (s : State ι σ) : Event ι → Option (State ι σ)
  | .read i => match s.phase i with
    | .idle => match body i s.cell with
      | some v => some { s with phase := Function.update s.phase i (.holding v s.chain) }
      | none => some { s with phase := Function.update s.phase i (.over false) }
    | _ => none
  | .write i => match s.phase i with
    | .holding v ch => some
        { cell := v, phase := Function.update s.phase i (.over true),
          chain := ch ++ [i], committed := s.committed ++ [i] }
    | _ => none

/-- The sessions of a list run one after another, each to its end. -/
def serial (c : σ) : List ι → Option σ
  | [] => some c
  | i :: is => (body i c).bind fun c' => serial c' is

variable {body}

omit [DecidableEq ι] in
/-- A list of sessions is run one part after the other. -/
theorem serial_append (c : σ) (is js : List ι) :
    serial body c (is ++ js) = (serial body c is).bind fun c' => serial body c' js := by
  induction is generalizing c with
  | nil => rfl
  | cons i is ih =>
      simp only [List.cons_append, serial]
      cases body i c with
      | none => rfl
      | some c' => exact ih c'

omit [DecidableEq ι] in
/-- One more session runs on what the others left. -/
theorem serial_concat {c c' : σ} {is : List ι} {i : ι} (h : serial body c is = some c') :
    serial body c (is ++ [i]) = body i c' := by
  rw [serial_append, h]
  simp [serial]

omit [DecidableEq ι] in
/-- A property that every body keeps holds at the end if one of the sessions
establishes it. -/
theorem serial_mem {P : σ → Prop} {i : ι} {is : List ι} {c c' : σ}
    (hkeep : ∀ j d d', body j d = some d' → P d → P d')
    (hset : ∀ d d', body i d = some d' → P d') (hmem : i ∈ is)
    (h : serial body c is = some c') : P c' := by
  have hkept : ∀ js d, P d → serial body d js = some c' → P c' := by
    intro js
    induction js with
    | nil =>
        intro d hd hjs
        obtain rfl := Option.some.inj hjs
        exact hd
    | cons j js ih =>
        intro d hd hjs
        obtain ⟨d', hbody, hrest⟩ := Option.bind_eq_some_iff.mp hjs
        exact ih d' (hkeep j d d' hbody hd) hrest
  obtain ⟨before, after, rfl⟩ := List.append_of_mem hmem
  rw [serial_append] at h
  obtain ⟨d, -, hrest⟩ := Option.bind_eq_some_iff.mp h
  obtain ⟨d', hbody, hafter⟩ := Option.bind_eq_some_iff.mp hrest
  exact hkept after d' (hset d d' hbody) hafter

/-- What a step does, guards included. -/
theorem step_cases {s s' : State ι σ} {e : Event ι} (h : step body s e = some s') :
    (∃ i v, e = .read i ∧ s.phase i = .idle ∧ body i s.cell = some v ∧
      s' = { s with phase := Function.update s.phase i (.holding v s.chain) }) ∨
    (∃ i, e = .read i ∧ s.phase i = .idle ∧ body i s.cell = none ∧
      s' = { s with phase := Function.update s.phase i (.over false) }) ∨
    (∃ i v ch, e = .write i ∧ s.phase i = .holding v ch ∧
      s' = { cell := v, phase := Function.update s.phase i (.over true),
             chain := ch ++ [i], committed := s.committed ++ [i] }) := by
  cases e with
  | read i =>
      simp only [step] at h
      split at h
      · next hp =>
          split at h
          · next v hb => exact .inl ⟨i, v, rfl, hp, hb, (Option.some.inj h).symm⟩
          · next hb => exact .inr (.inl ⟨i, rfl, hp, hb, (Option.some.inj h).symm⟩)
      · contradiction
  | write i =>
      simp only [step] at h
      split at h
      · next v ch hp => exact .inr (.inr ⟨i, v, ch, rfl, hp, (Option.some.inj h).symm⟩)
      · contradiction

/-! ## Every interleaving -/

/-- The cell is what its chain computes, and so is every value held. -/
structure ChainInv (body : ι → σ → Option σ) (c : σ) (s : State ι σ) : Prop where
  cell : serial body c s.chain = some s.cell
  sublist : s.chain.Sublist s.committed
  last : s.chain.getLast? = s.committed.getLast?
  held : ∀ i v ch, s.phase i = .holding v ch →
    serial body c (ch ++ [i]) = some v ∧ ch.Sublist s.committed

omit [DecidableEq ι] in
/-- Before the first read nothing has been written. -/
theorem chainInv_init (c : σ) : ChainInv body c (State.init c) where
  cell := rfl
  sublist := List.Sublist.refl _
  last := rfl
  held i v ch h := by simp [State.init] at h

/-- A write goes on from the state that its session read. -/
theorem chainInv_step (c : σ) (s : State ι σ) (e : Event ι) (s' : State ι σ)
    (inv : ChainInv body c s) (h : step body s e = some s') : ChainInv body c s' := by
  rcases step_cases h with ⟨i, v, -, -, hb, rfl⟩ | ⟨i, -, -, -, rfl⟩ | ⟨i, v, ch, -, hp, rfl⟩
  · refine ⟨inv.cell, inv.sublist, inv.last, fun j w ch hj => ?_⟩
    by_cases hij : j = i
    · subst hij
      simp only [Function.update_self, Phase.holding.injEq] at hj
      obtain ⟨rfl, rfl⟩ := hj
      exact ⟨(serial_concat inv.cell).trans hb, inv.sublist⟩
    · simp only [Function.update_of_ne hij] at hj
      exact inv.held j w ch hj
  · refine ⟨inv.cell, inv.sublist, inv.last, fun j w ch hj => ?_⟩
    by_cases hij : j = i
    · subst hij
      simp at hj
    · simp only [Function.update_of_ne hij] at hj
      exact inv.held j w ch hj
  · obtain ⟨hv, hsub⟩ := inv.held i v ch hp
    refine ⟨hv, List.Sublist.append hsub (List.Sublist.refl _), by simp, fun j w ch' hj => ?_⟩
    by_cases hij : j = i
    · subst hij
      simp at hj
    · simp only [Function.update_of_ne hij] at hj
      obtain ⟨hw, hsub'⟩ := inv.held j w ch' hj
      exact ⟨hw, hsub'.trans (List.sublist_append_left _ _)⟩

/-- **Every interleaving**: the cell is the serial result of its chain, a
sublist of the committed sessions that ends with the last of them. -/
theorem serial_chain {c : σ} {es : List (Event ι)} {s : State ι σ}
    (h : exec (step body) (State.init c) es = some s) :
    s.chain.Sublist s.committed ∧ s.chain.getLast? = s.committed.getLast? ∧
      serial body c s.chain = some s.cell := by
  have inv : ChainInv body c s :=
    exec_keeps (chainInv_step c) (chainInv_init c) h
  exact ⟨inv.sublist, inv.last, inv.cell⟩

/-! ## Interleavings without overlap -/

/-- A write is taken only while no other session holds a value it has still to
write. -/
def NoOverlap (s : State ι σ) : Event ι → Prop
  | .read _ => True
  | .write i => ∀ j v ch, s.phase j = .holding v ch → j = i

/-- Nothing was overwritten: the chain of the cell, and of every value held, is
the whole list of committed sessions. -/
structure SerialInv (s : State ι σ) : Prop where
  chain : s.chain = s.committed
  held : ∀ i v ch, s.phase i = .holding v ch → ch = s.committed

omit [DecidableEq ι] in
/-- In the beginning no session is under way. -/
theorem serialInv_init (c : σ) : SerialInv (State.init c : State ι σ) where
  chain := rfl
  held i v ch h := by simp [State.init] at h

/-- Without an overlap a session writes where it has read. -/
theorem serialInv_step (s : State ι σ) (e : Event ι) (s' : State ι σ) (inv : SerialInv s)
    (hok : NoOverlap s e) (h : step body s e = some s') : SerialInv s' := by
  rcases step_cases h with ⟨i, v, -, -, -, rfl⟩ | ⟨i, -, -, -, rfl⟩ | ⟨i, v, ch, rfl, hp, rfl⟩
  · refine ⟨inv.chain, fun j w ch hj => ?_⟩
    by_cases hij : j = i
    · subst hij
      simp only [Function.update_self, Phase.holding.injEq] at hj
      exact hj.2 ▸ inv.chain
    · simp only [Function.update_of_ne hij] at hj
      exact inv.held j w ch hj
  · refine ⟨inv.chain, fun j w ch hj => ?_⟩
    by_cases hij : j = i
    · subst hij
      simp at hj
    · simp only [Function.update_of_ne hij] at hj
      exact inv.held j w ch hj
  · refine ⟨by rw [inv.held i v ch hp], fun j w ch' hj => ?_⟩
    by_cases hij : j = i
    · subst hij
      simp at hj
    · simp only [Function.update_of_ne hij] at hj
      exact absurd (hok j w ch' hj) hij

/-- **Without overlap**: the cell is the serial result of all committed
sessions, in the order they committed. -/
theorem serial_committed {c : σ} {es : List (Event ι)} {s : State ι σ}
    (hok : Along (step body) NoOverlap (State.init c) es)
    (h : exec (step body) (State.init c) es = some s) :
    serial body c s.committed = some s.cell := by
  have inv : SerialInv s := exec_invariant serialInv_step (serialInv_init c) hok h
  exact inv.chain ▸ (serial_chain h).2.2

end StoreKit.Session
