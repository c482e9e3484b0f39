import Atlas.Isolation.WriteFrame
import Atlas.Lib.Run
import Atlas.Workflow.Handlers

/-!
# Atlas.Workflow.Cancellation

Cancellations of one workflow execution that run at the same time.

Each reads the row (`findById`), refuses a terminal status on the copy it read,
and writes its whole copy back (`save`).  `step_cases` says what the two steps
do.  Whatever the interleaving, a terminal status stays (`Frozen`); the rest of
the row stays where no save falls between the two steps of another
cancellation (`Settled`).
-/

namespace Atlas

open StoreKit

namespace WorkflowCancellation

/-! ## Cancellations and their two steps -/

structure Cancellation where
  ctx : Option String
  rt : Runtime
  command : CancelWorkflowExecutionCommand
deriving DecidableEq

/-- The handler of the command. -/
def Cancellation.execute (c : Cancellation) : App (Result WorkflowExecutionDto) :=
  CancelWorkflowExecutionHandler.execute c.ctx c.rt c.command

/-- Up to the first store step, and the change to the entity it finds. -/
def Cancellation.find (c : Cancellation) : App (Option WorkflowExecutionEntity) := do
  let execution ← WorkflowExecutionRepository.findById c.ctx c.rt.loadedAt c.command.executionId
  match execution with
  | none => return none
  | some execution => do
      let execution ← .lift (execution.cancel c.rt.now c.command.reason)
      return some execution

/-- The second store step. -/
def Cancellation.save (c : Cancellation) (execution : WorkflowExecutionEntity) :
    App WorkflowExecutionEntity :=
  WorkflowExecutionRepository.save c.ctx c.rt execution

/-- **The two steps are the handler**: where both succeed it returns what was
saved, and leaves the same state. -/
theorem execute_of_steps {c : Cancellation} {w w₁ w₂ : World}
    {execution saved : WorkflowExecutionEntity} (hfind : c.find.run w = (.ok (some execution), w₁))
    (hsave : (c.save execution).run w₁ = (.ok saved, w₂)) :
    c.execute.run w = (.ok (.ok (WorkflowExecutionDto.fromEntity saved)), w₂) := by
  obtain ⟨found, w₃, hfound, hrest⟩ := Program.bind_run_eq_ok hfind
  rw [Cancellation.execute, CancelWorkflowExecutionHandler.execute, Program.bind_run_ok hfound]
  cases found with
  | none => cases hrest
  | some read =>
      obtain ⟨cancelled, w₄, hcancel, hpure⟩ := Program.bind_run_eq_ok hrest
      cases hpure
      simp only [Program.bind_run_ok hcancel]
      exact Program.bind_run_ok hsave

/-! ## Interleavings -/

/-- A cancellation has not begun; it has the entity it will save; it is over,
with `Result.ok` or without. -/
inductive Phase where
  | idle
  | holding (execution : WorkflowExecutionEntity)
  | over (ok : Bool)
deriving DecidableEq

/-- `returned` records the cancellations that returned `Result.ok`. -/
structure System (ι : Type) where
  world : World
  phase : ι → Phase
  returned : List ι

def System.init {ι : Type} (w : World) : System ι := ⟨w, fun _ => .idle, []⟩

inductive Event (ι : Type) where
  | find (i : ι)
  | save (i : ι)
deriving DecidableEq

variable {ι : Type} [DecidableEq ι] (cancellations : ι → Cancellation)

/-- Cancellation `i` takes a step. -/
def System.move (s : System ι) (i : ι) (world : World) (phase : Phase) : System ι :=
  { s with world, phase := Function.update s.phase i phase }

/-- Cancellation `i` returns `Result.ok`. -/
def System.finish (s : System ι) (i : ι) (world : World) : System ι :=
  { s.move i world (.over true) with returned := s.returned ++ [i] }

def step (s : System ι) : Event ι → Option (System ι)
  | .find i => match s.phase i with
    | .idle => match (cancellations i).find.run s.world with
      | (.ok (some execution), w) => some (s.move i w (.holding execution))
      | (_, w) => some (s.move i w (.over false))
    | _ => none
  | .save i => match s.phase i with
    | .holding execution => match ((cancellations i).save execution).run s.world with
      | (.ok _, w) => some (s.finish i w)
      | (.error _, w) => some (s.move i w (.over false))
    | _ => none

/-- The states an interleaving leads to. -/
abbrev run (w : World) (events : List (Event ι)) : Option (System ι) :=
  exec (step cancellations) (System.init w) events

/-- No other cancellation is between its two steps when one saves. -/
def Undisturbed (s : System ι) : Event ι → Prop
  | .find _ => True
  | .save i => ∀ j execution, s.phase j = .holding execution → j = i

/-! ## What the steps do -/

/-- A copy of the row under `key`, cancelled. -/
structure Held (key : String) (execution : WorkflowExecutionEntity) : Prop where
  id : execution.executionId = key
  status : execution.status = .cancelled

/-- The first step changes no table.  It ends with a cancelled copy of the row,
which is not terminal, or with nothing to save. -/
theorem find_cases {c : Cancellation} {w : World} {key : String}
    {row : WorkflowExecutionOrmEntity} (hkey : Pg.uuid c.command.executionId = some key)
    (hrow : w.workflowExecutions.find? key = some row) :
    (∃ r, c.find.run w = (r, w.noting c.ctx) ∧ ∀ execution, r ≠ .ok (some execution)) ∨
    ∃ execution, c.find.run w = (.ok (some execution), w.noting c.ctx) ∧ Held key execution ∧
      WorkflowExecutionEntity.isTerminal row.status = false := by
  rcases WorkflowExecutionRepository.findById_cases c.ctx c.rt.loadedAt c.command.executionId w with
    ⟨e, hfind⟩ | ⟨tenant, t, k, -, -, hk, hfind⟩
  · rw [Cancellation.find, Program.bind_run_error hfind]
    exact .inl ⟨_, rfl, by simp⟩
  · obtain rfl := Option.some.inj (hk.symm.trans hkey)
    cases hfound : w.workflowExecutions.rows.find? fun row => row.tenantId = t && row.id = k with
    | none =>
        rw [hfound] at hfind
        rw [Cancellation.find, Program.bind_run_ok hfind]
        exact .inl ⟨_, rfl, by simp⟩
    | some found =>
        have hmem : found ∈ w.workflowExecutions.rows := List.mem_of_find?_eq_some hfound
        have hid : found.id = k := by
          have hmatch := List.find?_some hfound
          simp only [Bool.and_eq_true, decide_eq_true_eq] at hmatch
          exact hmatch.2
        have hsame : row = found := by
          have hstored := w.workflowExecutions.find?_key hmem
          rw [hid, hrow] at hstored
          exact Option.some.inj hstored
        rw [hfound] at hfind
        rw [Cancellation.find, Program.bind_run_ok hfind]
        cases hcancel : (WorkflowExecutionRepository.toDomain c.rt.loadedAt found).cancel c.rt.now
            c.command.reason with
        | error e =>
            simp only [Option.map_some, hcancel]
            exact .inl ⟨_, rfl, by simp⟩
        | ok cancelled =>
            obtain ⟨hterminal, hsameId, hstatus⟩ := WorkflowExecutionEntity.cancel_cases hcancel
            simp only [Option.map_some, hcancel]
            exact .inr ⟨cancelled, rfl, ⟨hsameId.trans hid, hstatus⟩, hsame ▸ hterminal⟩

/-- The second step writes nothing, or a cancelled row. -/
theorem save_cases {c : Cancellation} {w : World} {key : String}
    {execution : WorkflowExecutionEntity} (hkey : Pg.uuid key = some key)
    (hheld : Held key execution) :
    (∃ e, (c.save execution).run w = (.error e, w.noting c.ctx)) ∨
    ∃ saved row, (c.save execution).run w = (.ok saved,
        { w.noting c.ctx with workflowExecutions := w.workflowExecutions.put row }) ∧
      row.id = key ∧ row.status = .cancelled := by
  rcases WorkflowExecutionRepository.save_cases c.ctx c.rt execution w with
    ⟨e, hsave⟩ | ⟨createdAt, row, hsave, -, hid, -, hwrites⟩
  · exact .inl ⟨e, hsave⟩
  · rw [hheld.id, hkey] at hid
    obtain ⟨stored, hstored, hmerged⟩ := hwrites.merged
    have hstatus : stored.status = .cancelled :=
      (WorkflowExecutionOrmEntity.storedAs hstored).status.trans hheld.status
    refine .inr ⟨_, row, hsave, (Option.some.inj hid).symm, ?_⟩
    rcases hmerged with ⟨-, rfl⟩ | ⟨old, -, rfl⟩
    · exact hstatus
    · exact hstatus

/-- The row under `key` is stored, and who holds a copy of it holds a cancelled
one, which could not have been read from a completed or failed row. -/
structure Stored (key : String) (s : System ι) (row : WorkflowExecutionOrmEntity) : Prop where
  find : s.world.workflowExecutions.find? key = some row
  held : ∀ i execution, s.phase i = .holding execution →
    Held key execution ∧ row.status ≠ .completed ∧ row.status ≠ .failed
  returned : ∀ i ∈ s.returned, s.phase i = .over true

omit [DecidableEq ι] in
theorem stored_init {key : String} {w : World} {row : WorkflowExecutionOrmEntity}
    (hrow : w.workflowExecutions.find? key = some row) :
    Stored key (System.init w : System ι) row where
  find := hrow
  held i execution h := by simp [System.init] at h
  returned i h := by simp [System.init] at h

/-- **What one step does**, to the row and to the cancellation that takes it. -/
theorem step_cases {cancellations : ι → Cancellation} {key : String} {s s' : System ι}
    {event : Event ι} {row : WorkflowExecutionOrmEntity}
    (hkeys : ∀ i, Pg.uuid (cancellations i).command.executionId = some key)
    (hkey : Pg.uuid key = some key) (hs : Stored key s row)
    (h : step cancellations s event = some s') :
    (∃ i, s.phase i ≠ .over true ∧
      s' = s.move i (s.world.noting (cancellations i).ctx) (.over false)) ∨
    (∃ i execution, s.phase i = .idle ∧ Held key execution ∧
      WorkflowExecutionEntity.isTerminal row.status = false ∧
      s' = s.move i (s.world.noting (cancellations i).ctx) (.holding execution)) ∨
    (∃ i execution row', event = .save i ∧ s.phase i = .holding execution ∧ row'.id = key ∧
      row'.status = .cancelled ∧ s' = s.finish i { s.world.noting (cancellations i).ctx with
        workflowExecutions := s.world.workflowExecutions.put row' }) := by
  cases event with
  | find i =>
      simp only [step] at h
      split at h
      · next hidle =>
          rcases find_cases (hkeys i) hs.find with
            ⟨r, hrun, hr⟩ | ⟨execution, hrun, hheld, hterminal⟩
          · rw [hrun] at h
            split at h
            · next execution w hok => exact absurd (Prod.mk.inj hok).1 (hr execution)
            · next w _ hok =>
                rw [← (Prod.mk.inj hok).2] at h
                exact .inl ⟨i, by simp [hidle], (Option.some.inj h).symm⟩
          · rw [hrun] at h
            exact .inr (.inl ⟨i, execution, hidle, hheld, hterminal, (Option.some.inj h).symm⟩)
      · contradiction
  | save i =>
      simp only [step] at h
      split at h
      · next execution hholding =>
          rcases save_cases (c := cancellations i) (w := s.world) hkey
            (hs.held i execution hholding).1 with ⟨e, hrun⟩ | ⟨saved, row', hrun, hid, hstatus⟩
          · rw [hrun] at h
            exact .inl ⟨i, by simp [hholding], (Option.some.inj h).symm⟩
          · rw [hrun] at h
            exact .inr (.inr ⟨i, execution, row', rfl, hholding, hid, hstatus,
              (Option.some.inj h).symm⟩)
      · contradiction

/-- Who holds an entity after a step held it before, or took the step. -/
theorem holding_of_move {s : System ι} {i j : ι} {w : World} {phase : Phase}
    {execution : WorkflowExecutionEntity}
    (h : (s.move i w phase).phase j = .holding execution) :
    (j = i ∧ phase = .holding execution) ∨ (j ≠ i ∧ s.phase j = .holding execution) := by
  by_cases hij : j = i
  · simp only [System.move, hij, Function.update_self] at h
    exact .inl ⟨hij, h⟩
  · simp only [System.move, Function.update_of_ne hij] at h
    exact .inr ⟨hij, h⟩

/-- Who has returned is over, and takes no other step. -/
theorem over_of_move {s : System ι} {i j : ι} {w : World} {phase : Phase}
    (hj : s.phase j = .over true) (hi : s.phase i ≠ .over true) :
    (s.move i w phase).phase j = .over true := by
  have hij : j ≠ i := fun heq => hi (heq ▸ hj)
  simp only [System.move, Function.update_of_ne hij, hj]

/-! ## Every interleaving -/

section Runs

variable {cancellations : ι → Cancellation} {key : String}

/-- A row that is terminal keeps its status. -/
def Frozen (key : String) (s s' : System ι) : Prop :=
  ∀ row, Stored key s row → ∃ row', Stored key s' row' ∧
    (WorkflowExecutionEntity.isTerminal row.status = true → row'.status = row.status)

theorem frozen_step (hkeys : ∀ i, Pg.uuid (cancellations i).command.executionId = some key)
    (hkey : Pg.uuid key = some key) (s : System ι) (event : Event ι) (s' : System ι)
    (h : step cancellations s event = some s') : Frozen key s s' := by
  intro row hs
  rcases step_cases hkeys hkey hs h with ⟨i, hi, rfl⟩ |
    ⟨i, execution, hidle, hheld, hterminal, rfl⟩ |
    ⟨i, execution, row', -, hholding, hid, hstatus, rfl⟩
  · refine ⟨row, ⟨hs.find, fun j held hj => ?_, fun j hj => over_of_move (hs.returned j hj) hi⟩,
      fun _ => rfl⟩
    rcases holding_of_move hj with ⟨-, hover⟩ | ⟨-, hj⟩
    · contradiction
    · exact hs.held j held hj
  · refine ⟨row, ⟨hs.find, fun j held hj => ?_, fun j hj =>
      over_of_move (hs.returned j hj) (by simp [hidle])⟩, fun _ => rfl⟩
    rcases holding_of_move hj with ⟨-, hnew⟩ | ⟨-, hj⟩
    · obtain rfl := Phase.holding.inj hnew
      simp only [WorkflowExecutionEntity.isTerminal, Bool.or_eq_false_iff,
        decide_eq_false_iff_not] at hterminal
      exact ⟨hheld, hterminal.1.1, hterminal.1.2⟩
    · exact hs.held j held hj
  · refine ⟨row', ⟨?_, fun j held hj => ?_, fun j hj => ?_⟩, fun hterminal => ?_⟩
    · show (s.world.workflowExecutions.put row').find? key = some row'
      rw [← hid, Table.find?_put_self]
    · rcases holding_of_move (w := s.world) hj with ⟨-, hover⟩ | ⟨-, hj⟩
      · contradiction
      · rw [hstatus]
        exact ⟨(hs.held j held hj).1, by simp, by simp⟩
    · rcases List.mem_append.mp hj with hj | hj
      · have hi : s.phase i ≠ .over true := by simp [hholding]
        exact over_of_move (w := s.world) (hs.returned j hj) hi
      · rw [List.mem_singleton.mp hj]
        simp [System.finish, System.move]
    · -- the writer read a status that is not terminal, so the row is cancelled by now
      obtain ⟨-, hcompleted, hfailed⟩ := hs.held i execution hholding
      simp only [WorkflowExecutionEntity.isTerminal, hcompleted, hfailed, decide_false,
        Bool.false_or, decide_eq_true_eq] at hterminal
      rw [hstatus, hterminal]

/-- **Every interleaving**: a terminal status is final. -/
theorem frozen_run (hkeys : ∀ i, Pg.uuid (cancellations i).command.executionId = some key)
    (hkey : Pg.uuid key = some key) {s s' : System ι} {events : List (Event ι)}
    (h : exec (step cancellations) s events = some s') : Frozen key s s' := by
  have hinv : ∀ (s : System ι) (event : Event ι) s', True →
      step cancellations s event = some s' → True := fun _ _ _ _ _ => trivial
  refine exec_rel ?_ ?_ hinv (fun s event s' _ => frozen_step hkeys hkey s event s') trivial h
  · exact fun s row hs => ⟨row, hs, fun _ => rfl⟩
  · intro s t u hst htu row hs
    obtain ⟨row₁, ht, hstatus₁⟩ := hst row hs
    obtain ⟨row₂, hu, hstatus₂⟩ := htu row₁ ht
    refine ⟨row₂, hu, fun hterminal => ?_⟩
    have hsame := hstatus₁ hterminal
    rw [← hsame]
    exact hstatus₂ (hsame ▸ hterminal)

/-- The row is terminal, and a cancellation that had not begun by then can only
end without `Result.ok`. -/
structure Barred (key : String) (i : ι) (s : System ι) : Prop where
  terminal : ∃ row, Stored key s row ∧ WorkflowExecutionEntity.isTerminal row.status = true
  barred : s.phase i = .idle ∨ s.phase i = .over false

theorem barred_step (hkeys : ∀ i, Pg.uuid (cancellations i).command.executionId = some key)
    (hkey : Pg.uuid key = some key) (i : ι) (s : System ι) (event : Event ι) (s' : System ι)
    (hs : Barred key i s) (h : step cancellations s event = some s') : Barred key i s' := by
  obtain ⟨row, hstored, hterminal⟩ := hs.terminal
  obtain ⟨row', hstored', hstatus⟩ := frozen_step hkeys hkey s event s' h row hstored
  refine ⟨⟨row', hstored', by rw [hstatus hterminal, hterminal]⟩, ?_⟩
  rcases step_cases hkeys hkey hstored h with ⟨j, hj, rfl⟩ | ⟨j, execution, -, -, hopen, -⟩ |
    ⟨j, execution, row', -, hholding, -, -, rfl⟩
  · by_cases hij : i = j
    · simp [System.move, hij]
    · simpa [System.move, hij] using hs.barred
  · rw [hterminal] at hopen
    contradiction
  · have hij : i ≠ j := by
      rintro rfl
      rcases hs.barred with hidle | hover
      · simp [hidle] at hholding
      · simp [hover] at hholding
    simpa [System.finish, System.move, hij] using hs.barred

/-- Nobody holds a copy of the row. -/
def Closed (key : String) (row : WorkflowExecutionOrmEntity) (s : System ι) : Prop :=
  Stored key s row ∧ ∀ i execution, s.phase i ≠ .holding execution

/-- A terminal row that nobody holds a copy of is not written again. -/
theorem closed_step (hkeys : ∀ i, Pg.uuid (cancellations i).command.executionId = some key)
    (hkey : Pg.uuid key = some key) {row : WorkflowExecutionOrmEntity}
    (hterminal : WorkflowExecutionEntity.isTerminal row.status = true) (s : System ι)
    (event : Event ι) (s' : System ι) (hs : Closed key row s)
    (h : step cancellations s event = some s') : Closed key row s' := by
  obtain ⟨hstored, hnobody⟩ := hs
  rcases step_cases hkeys hkey hstored h with ⟨j, hj, rfl⟩ | ⟨j, execution, -, -, hopen, -⟩ |
    ⟨j, execution, row', -, hholding, -, -, -⟩
  · refine ⟨⟨hstored.find, fun i held hi => ?_, fun i hi => over_of_move (hstored.returned i hi) hj⟩,
      fun i held hi => ?_⟩
    · rcases holding_of_move hi with ⟨-, hover⟩ | ⟨-, hi⟩
      · contradiction
      · exact absurd hi (hnobody i held)
    · rcases holding_of_move hi with ⟨-, hover⟩ | ⟨-, hi⟩
      · contradiction
      · exact hnobody i held hi
  · rw [hterminal] at hopen
    contradiction
  · exact absurd hholding (hnobody j execution)

/-! ## Interleavings without overlap -/

/-- A terminal row is nobody's copy, and whoever has returned made it so. -/
structure Settled (key : String) (s : System ι) : Prop where
  row : ∃ row, Stored key s row ∧
    (WorkflowExecutionEntity.isTerminal row.status = true → Closed key row s) ∧
    (s.returned = [] ∨
      WorkflowExecutionEntity.isTerminal row.status = true ∧ s.returned.length = 1)

theorem settled_step (hkeys : ∀ i, Pg.uuid (cancellations i).command.executionId = some key)
    (hkey : Pg.uuid key = some key) (s : System ι) (event : Event ι) (s' : System ι)
    (hs : Settled key s) (hok : Undisturbed s event) (h : step cancellations s event = some s') :
    Settled key s' := by
  obtain ⟨row, hstored, hclosed, hreturned⟩ := hs.row
  by_cases hterminal : WorkflowExecutionEntity.isTerminal row.status = true
  · have hclosed' := closed_step hkeys hkey hterminal s event s' (hclosed hterminal) h
    refine ⟨row, hclosed'.1, fun _ => hclosed', ?_⟩
    rcases step_cases hkeys hkey hstored h with ⟨j, -, rfl⟩ | ⟨j, execution, -, -, hopen, -⟩ |
      ⟨j, execution, row', -, hholding, -, -, -⟩
    · exact hreturned
    · exact absurd hterminal (by simp [hopen])
    · exact absurd hholding ((hclosed hterminal).2 j execution)
  · -- nobody has returned yet, and only a save makes the row terminal
    have hnone : s.returned = [] := by
      rcases hreturned with hnone | ⟨hover, -⟩
      · exact hnone
      · contradiction
    obtain ⟨row', hstored', hsame⟩ := frozen_step hkeys hkey s event s' h row hstored
    rcases step_cases hkeys hkey hstored h with ⟨j, -, rfl⟩ | ⟨j, execution, -, -, -, rfl⟩ |
      ⟨j, execution, written, rfl, hholding, hid, hstatus, rfl⟩
    · have hrow : row' = row := Option.some.inj (hstored'.find.symm.trans hstored.find)
      exact ⟨row', hstored', fun hover => absurd (hrow ▸ hover) hterminal, .inl hnone⟩
    · have hrow : row' = row := Option.some.inj (hstored'.find.symm.trans hstored.find)
      exact ⟨row', hstored', fun hover => absurd (hrow ▸ hover) hterminal, .inl hnone⟩
    · have hrow : row' = written := by
        have hput : (s.world.workflowExecutions.put written).find? key = some written := by
          rw [← hid, Table.find?_put_self]
        exact Option.some.inj (hstored'.find.symm.trans hput)
      refine ⟨row', hstored', fun _ => ⟨hstored', fun i held hi => ?_⟩, .inr ⟨?_, ?_⟩⟩
      · rcases holding_of_move (w := s.world) hi with ⟨-, hover⟩ | ⟨hij, hi⟩
        · contradiction
        · exact hij (hok i held hi)
      · rw [hrow, hstatus]
        rfl
      · simp [System.finish, System.move, hnone]

end Runs

/-! ## The result -/

/-- **Cancellations of one execution**: in every interleaving a terminal status
is final, and no cancellation that begins after it returns `ok`; where no save
falls between the two steps of another cancellation, at most one returns `ok`
and the row of a terminal execution is never written again. -/
theorem concurrent_cancellations (cancellations : ι → Cancellation) (w : World)
    (executionId key : String) (row : WorkflowExecutionOrmEntity) (before after : List (Event ι))
    (s s' : System ι) (hkey : Pg.uuid executionId = some key)
    (hrow : w.workflowExecutions.find? key = some row)
    (hkeys : ∀ i, Pg.uuid (cancellations i).command.executionId = some key)
    (hbefore : run cancellations w before = some s)
    (hafter : exec (step cancellations) s after = some s') :
    ∃ row₁ row₂, s.world.workflowExecutions.find? key = some row₁ ∧
      s'.world.workflowExecutions.find? key = some row₂ ∧
      (WorkflowExecutionEntity.isTerminal row₁.status = true →
        row₂.status = row₁.status ∧ ∀ i, s.phase i = .idle → i ∉ s'.returned) ∧
      (Along (step cancellations) Undisturbed (System.init w) (before ++ after) →
        s'.returned.length ≤ 1 ∧
          (WorkflowExecutionEntity.isTerminal row₁.status = true → row₂ = row₁)) := by
  have hnormal : Pg.uuid key = some key := Pg.uuid_uuid hkey
  obtain ⟨row₁, hstored₁, -⟩ := frozen_run hkeys hnormal hbefore row (stored_init hrow)
  obtain ⟨row₂, hstored₂, hfrozen⟩ := frozen_run hkeys hnormal hafter row₁ hstored₁
  refine ⟨row₁, row₂, hstored₁.find, hstored₂.find, fun hterminal => ⟨hfrozen hterminal, ?_⟩, ?_⟩
  · intro i hidle hreturned
    have hbarred : Barred key i s' := exec_keeps (barred_step hkeys hnormal i)
      ⟨⟨row₁, hstored₁, hterminal⟩, .inl hidle⟩ hafter
    have hover := hstored₂.returned i hreturned
    rcases hbarred.barred with hphase | hphase
    · simp [hphase] at hover
    · simp [hphase] at hover
  · intro hundisturbed
    obtain ⟨hok₁, hok₂⟩ := along_append hundisturbed hbefore
    have hinit : Settled key (System.init w : System ι) :=
      ⟨row, stored_init hrow, fun _ => ⟨stored_init hrow, by simp [System.init]⟩, .inl rfl⟩
    have hsettled₁ : Settled key s :=
      exec_invariant (settled_step hkeys hnormal) hinit hok₁ hbefore
    have hsettled₂ : Settled key s' :=
      exec_invariant (settled_step hkeys hnormal) hsettled₁ hok₂ hafter
    constructor
    · obtain ⟨_, -, -, hnone | ⟨-, hone⟩⟩ := hsettled₂.row
      · simp [hnone]
      · exact Nat.le_of_eq hone
    · intro hterminal
      obtain ⟨row', hstored', hclosed, -⟩ := hsettled₁.row
      obtain rfl := Option.some.inj (hstored'.find.symm.trans hstored₁.find)
      have hclosed₂ : Closed key row' s' :=
        exec_keeps (closed_step hkeys hnormal hterminal) (hclosed hterminal) hafter
      exact Option.some.inj (hstored₂.find.symm.trans hclosed₂.1.find)

/-- Two cancellations of one execution, with different reasons. -/
def twoCancellations (second : Bool) : Cancellation where
  ctx := some (Pg.uuidOf 3)
  rt := { sampleRuntime with now := if second then 1716500002000 else 1716500001000 }
  command := ⟨Pg.uuidOf 5, some (if second then "duplicate" else "unpaid"), Pg.uuidOf 3,
    Pg.uuidOf 12, none⟩

theorem twoCancellations_keys (i : Bool) :
    Pg.uuid (twoCancellations i).command.executionId = some (Pg.uuidOf 5) := by
  cases i <;> decide +kernel

/-- One after the other, the first cancels and the second does not return `ok`. -/
theorem concurrent_cancellations_serial :
    ∃ s s' row, run twoCancellations sampleWorkflows [.find false, .save false] = some s ∧
      exec (step twoCancellations) s [.find true] = some s' ∧
      s'.world.workflowExecutions.find? (Pg.uuidOf 5) = some row ∧ row.status = .cancelled ∧
      true ∉ s'.returned := by
  have hstates : ((run twoCancellations sampleWorkflows [.find false, .save false]).bind fun s =>
      (exec (step twoCancellations) s [.find true]).map fun _ =>
        (s.phase true, (s.world.workflowExecutions.find? (Pg.uuidOf 5)).map (·.status))) =
      some (.idle, some .cancelled) := by
    decide +kernel
  obtain ⟨s, hbefore, hrest⟩ := Option.bind_eq_some_iff.mp hstates
  obtain ⟨s', hafter, hs⟩ := Option.map_eq_some_iff.mp hrest
  obtain ⟨hidle, hcancelled⟩ := Prod.mk.inj hs
  obtain ⟨row₁, row₂, hrow₁, hrow₂, hfinal, -⟩ := concurrent_cancellations twoCancellations
    sampleWorkflows (Pg.uuidOf 5) (Pg.uuidOf 5)
    { WorkflowExecutionRepository.toOrm sampleExecution with
      createdAt := some 1716500000000, updatedAt := some 1716500000000 }
    [.find false, .save false] [.find true] s s' (by decide +kernel) (by decide +kernel)
    twoCancellations_keys hbefore hafter
  rw [hrow₁, Option.map_some, Option.some.injEq] at hcancelled
  have hterminal : WorkflowExecutionEntity.isTerminal row₁.status = true := by
    rw [hcancelled]
    rfl
  obtain ⟨hstatus, hbarred⟩ := hfinal hterminal
  exact ⟨s, s', row₂, hbefore, hafter, hrow₂, hstatus.trans hcancelled, hbarred true hidle⟩

/-- Both return `ok` when both have read before either saves. -/
theorem both_cancellations_return :
    ¬ ∀ (cancellations : Bool → Cancellation) (w : World) (key : String)
      (row : WorkflowExecutionOrmEntity) (events : List (Event Bool)) (s : System Bool),
      Pg.uuid key = some key → w.workflowExecutions.find? key = some row →
      (∀ i, Pg.uuid (cancellations i).command.executionId = some key) →
      run cancellations w events = some s → s.returned.length ≤ 1 := by
  intro hclaim
  have hreturned : (run twoCancellations sampleWorkflows
      [.find false, .find true, .save false, .save true]).map System.returned =
      some [false, true] := by
    decide +kernel
  obtain ⟨s, hrun, hs⟩ := Option.map_eq_some_iff.mp hreturned
  have hone := hclaim twoCancellations sampleWorkflows (Pg.uuidOf 5)
    { WorkflowExecutionRepository.toOrm sampleExecution with
      createdAt := some 1716500000000, updatedAt := some 1716500000000 }
    _ s (by decide +kernel) (by decide +kernel) twoCancellations_keys hrun
  rw [hs] at hone
  exact absurd hone (by decide)

end WorkflowCancellation

end Atlas
