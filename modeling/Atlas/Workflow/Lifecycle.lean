import Atlas.Lib.Program
import Atlas.Lib.Run
import Atlas.Workflow.Entities

/-!
# Atlas.Workflow.Lifecycle

The methods of a workflow execution, called in any order.

A method works on the fields of the object and may throw in the middle, so it
is a program over the entity: `Call.run` says what the entity is afterwards in
either case.  `start` and `cancel` look at the status before they write;
`complete` and `fail` do not, so an execution keeps to its life cycle exactly
where these two are called while it is running.
-/

namespace Atlas

open StoreKit

/-- What `WorkflowExecutionEntity.create` is given. -/
structure WorkflowExecutionParams where
  definitionId : String
  tenantId : String
  correlationId : String
  triggeredBy : String
  triggerType : TriggerType
  input : JsonObject
  startedAt : Option Js.Date
  completedAt : Option Js.Date
  durationMs : Option Int
  errorMessage : Option String
  createdAt : Option Js.Date
deriving DecidableEq

namespace WorkflowExecution

/-! ## The methods -/

/-- `create`; the parameters may already name times and an error. -/
def create (generateId : String) (now : Js.Date) (params : WorkflowExecutionParams) :
    WorkflowExecutionEntity where
  executionId := generateId
  definitionId := params.definitionId
  tenantId := params.tenantId
  correlationId := params.correlationId
  triggeredBy := params.triggeredBy
  triggerType := params.triggerType
  input := params.input
  status := .pending
  stepResults := []
  startedAt := params.startedAt
  completedAt := params.completedAt
  durationMs := params.durationMs
  errorMessage := params.errorMessage
  createdAt := params.createdAt.getD now

/-- What the command handler creates has none of the optional parameters. -/
theorem create_eq (generateId : String) (now : Js.Date)
    (definitionId tenantId correlationId triggeredBy : String) (triggerType : TriggerType)
    (input : JsonObject) :
    WorkflowExecutionEntity.create generateId now definitionId tenantId correlationId triggeredBy
        triggerType input =
      create generateId now ⟨definitionId, tenantId, correlationId, triggeredBy, triggerType,
        input, none, none, none, none, none⟩ := rfl

/-- A method of the entity.  `touch` is left out: nothing reads `updatedAt`. -/
abbrev Method := Program WorkflowExecutionEntity Exception Unit

def start (now : Js.Date) : Method := do
  let execution ← .gets id
  if execution.status ≠ .pending then
    .reject (.conflict s!"Cannot start execution in status: {execution.status.text}")
  .modify fun e => { e with status := .running }
  .modify fun e => { e with startedAt := some now }

/-- `_durationMs`, where the execution has a start. -/
def recordDuration (now : Js.Date) : Method :=
  .modify fun e => { e with
    durationMs := match e.startedAt with
      | some startedAt => some (now - startedAt)
      | none => e.durationMs }

/-- `complete`; nothing is done with the output. -/
def complete (now : Js.Date) (_output : Option JsonObject) : Method := do
  .modify fun e => { e with status := .completed }
  .modify fun e => { e with completedAt := some now }
  recordDuration now

def fail (now : Js.Date) (errorMessage : String) : Method := do
  .modify fun e => { e with status := .failed }
  .modify fun e => { e with completedAt := some now }
  .modify fun e => { e with errorMessage := some errorMessage }

def cancel (now : Js.Date) (reason : Option String) : Method := do
  let execution ← .gets id
  if WorkflowExecutionEntity.isTerminal execution.status then
    .reject (.conflict s!"Cannot cancel execution in terminal status: {execution.status.text}")
  .modify fun e => { e with status := .cancelled }
  .modify fun e => { e with completedAt := some now }
  recordDuration now
  .modify fun e => { e with errorMessage := (Js.truthy reason).or e.errorMessage }

/-- A call of a method, with its arguments and what the clock reads. -/
inductive Call where
  | start (now : Js.Date)
  | complete (now : Js.Date) (output : Option JsonObject)
  | fail (now : Js.Date) (errorMessage : String)
  | cancel (now : Js.Date) (reason : Option String)
deriving DecidableEq

def Call.method : Call → Method
  | .start now => WorkflowExecution.start now
  | .complete now output => WorkflowExecution.complete now output
  | .fail now errorMessage => WorkflowExecution.fail now errorMessage
  | .cancel now reason => WorkflowExecution.cancel now reason

/-- How the call ends, and the entity it leaves. -/
def Call.run (execution : WorkflowExecutionEntity) (call : Call) :
    Except Exception Unit × WorkflowExecutionEntity :=
  call.method.run execution

/-- `complete` and `fail`, which have no guard. -/
def Call.finishes : Call → Bool
  | .complete .. => true
  | .fail .. => true
  | _ => false

/-! ## What a call does -/

/-- `start` takes a pending execution, and throws at any other. -/
theorem start_run (now : Js.Date) (e : WorkflowExecutionEntity) :
    (start now).run e = if e.status = .pending then
        (.ok (), { e with status := .running, startedAt := some now })
      else (.error (.conflict s!"Cannot start execution in status: {e.status.text}"), e) := by
  rw [start, Program.bind_run]
  by_cases h : e.status = .pending <;> simp [h, Program.bind_run]

/-- `complete` asks for no status. -/
theorem complete_run (now : Js.Date) (output : Option JsonObject) (e : WorkflowExecutionEntity) :
    (complete now output).run e = (.ok (), { e with
      status := .completed
      completedAt := some now
      durationMs := match e.startedAt with
        | some startedAt => some (now - startedAt)
        | none => e.durationMs }) := rfl

/-- `fail` asks for no status. -/
theorem fail_run (now : Js.Date) (errorMessage : String) (e : WorkflowExecutionEntity) :
    (fail now errorMessage).run e = (.ok (), { e with
      status := .failed
      completedAt := some now
      errorMessage := some errorMessage }) := rfl

/-- The method changes the entity as the pure `cancel` of the entity says, and
leaves it alone where that one throws. -/
theorem cancel_run (now : Js.Date) (reason : Option String) (e : WorkflowExecutionEntity) :
    (cancel now reason).run e = match e.cancel now reason with
      | .ok cancelled => (.ok (), cancelled)
      | .error x => (.error x, e) := by
  rw [cancel, Program.bind_run, WorkflowExecutionEntity.cancel]
  by_cases h : WorkflowExecutionEntity.isTerminal e.status = true
  · simp [h, Program.bind_run]
  · cases hstart : e.startedAt <;> simp [h, hstart, Program.bind_run, recordDuration]

/-! ## The life cycle -/

/-- The moves of the status. -/
inductive Moves : WorkflowExecutionStatus → WorkflowExecutionStatus → Prop where
  | start : Moves .pending .running
  | complete : Moves .running .completed
  | fail : Moves .running .failed
  | cancelPending : Moves .pending .cancelled
  | cancelRunning : Moves .running .cancelled

/-- The status, the recorded times and the error text are the same. -/
structure SameRecord (e e' : WorkflowExecutionEntity) : Prop where
  status : e'.status = e.status
  startedAt : e'.startedAt = e.startedAt
  completedAt : e'.completedAt = e.completedAt
  durationMs : e'.durationMs = e.durationMs
  errorMessage : e'.errorMessage = e.errorMessage

theorem SameRecord.refl (e : WorkflowExecutionEntity) : SameRecord e e := ⟨rfl, rfl, rfl, rfl, rfl⟩

/-- A record that is the same twice is the same. -/
theorem SameRecord.trans {e e' e'' : WorkflowExecutionEntity} (h : SameRecord e e')
    (h' : SameRecord e' e'') : SameRecord e e'' where
  status := h'.status.trans h.status
  startedAt := h'.startedAt.trans h.startedAt
  completedAt := h'.completedAt.trans h.completedAt
  durationMs := h'.durationMs.trans h.durationMs
  errorMessage := h'.errorMessage.trans h.errorMessage

/-- The call throws. -/
def Throws (e : WorkflowExecutionEntity) (call : Call) : Prop :=
  ∃ x, (call.run e).1 = .error x

/-- One call keeps to the life cycle: the status stays or makes one of its
moves, and of a terminal execution nothing changes. -/
structure Obeys (e : WorkflowExecutionEntity) (call : Call) : Prop where
  moves : (call.run e).2.status = e.status ∨ Moves e.status (call.run e).2.status
  frozen : WorkflowExecutionEntity.isTerminal e.status = true →
    Throws e call ∧ SameRecord e (call.run e).2

/-- `start` keeps the lifecycle. -/
theorem obeys_start (e : WorkflowExecutionEntity) (now : Js.Date) : Obeys e (.start now) := by
  have hrun : Call.run e (.start now) = _ := start_run now e
  by_cases hpending : e.status = .pending
  · rw [if_pos hpending] at hrun
    constructor
    · rw [hrun, hpending]
      exact .inr .start
    · intro hterminal
      rw [hpending] at hterminal
      cases hterminal
  · rw [if_neg hpending] at hrun
    constructor
    · rw [hrun]
      exact .inl rfl
    · intro _
      rw [Throws, hrun]
      exact ⟨⟨_, rfl⟩, SameRecord.refl e⟩

/-- `cancel` keeps the lifecycle. -/
theorem obeys_cancel (e : WorkflowExecutionEntity) (now : Js.Date) (reason : Option String) :
    Obeys e (.cancel now reason) := by
  have hrun : Call.run e (.cancel now reason) = _ := cancel_run now reason e
  cases hcancel : e.cancel now reason with
  | ok cancelled =>
      rw [hcancel] at hrun
      obtain ⟨hlive, -, hcancelled⟩ := WorkflowExecutionEntity.cancel_cases hcancel
      constructor
      · rw [hrun, hcancelled]
        refine .inr ?_
        cases hstatus : e.status with
        | pending => exact .cancelPending
        | running => exact .cancelRunning
        | completed => rw [hstatus] at hlive; cases hlive
        | failed => rw [hstatus] at hlive; cases hlive
        | cancelled => rw [hstatus] at hlive; cases hlive
      · intro hterminal
        rw [hterminal] at hlive
        cases hlive
  | error x =>
      rw [hcancel] at hrun
      constructor
      · rw [hrun]
        exact .inl rfl
      · intro _
        rw [Throws, hrun]
        exact ⟨⟨x, rfl⟩, SameRecord.refl e⟩

/-- A call without a guard keeps to the life cycle from `running` alone. -/
theorem obeys_unguarded {e : WorkflowExecutionEntity} {call : Call} {status : WorkflowExecutionStatus}
    (hok : (call.run e).1 = .ok ()) (hstatus : (call.run e).2.status = status)
    (hmoves : ∀ old, Moves old status ↔ old = .running)
    (hterminal : WorkflowExecutionEntity.isTerminal status = true) :
    Obeys e call ↔ e.status = .running := by
  constructor
  · intro h
    rcases h.moves with hsame | hmove
    · -- a status that stays is terminal, and the call would have to throw
      rw [← hstatus, hsame] at hterminal
      obtain ⟨⟨x, hx⟩, -⟩ := h.frozen hterminal
      rw [hok] at hx
      cases hx
    · rw [hstatus] at hmove
      exact (hmoves _).mp hmove
  · intro hrunning
    constructor
    · rw [hstatus]
      exact .inr ((hmoves _).mpr hrunning)
    · intro hover
      rw [hrunning] at hover
      cases hover

/-- Only what runs is completed. -/
theorem moves_completed (old : WorkflowExecutionStatus) :
    Moves old .completed ↔ old = .running :=
  ⟨fun h => by cases h; rfl, fun h => h ▸ .complete⟩

/-- Only what runs has failed. -/
theorem moves_failed (old : WorkflowExecutionStatus) : Moves old .failed ↔ old = .running :=
  ⟨fun h => by cases h; rfl, fun h => h ▸ .fail⟩

/-- **One call**: only the two methods without a guard can leave the life
cycle, and they do so from every status but `running`. -/
theorem obeys_iff (e : WorkflowExecutionEntity) (call : Call) :
    Obeys e call ↔ (call.finishes = true → e.status = .running) := by
  cases call with
  | start now => simp [Call.finishes, obeys_start]
  | cancel now reason => simp [Call.finishes, obeys_cancel]
  | complete now output =>
      simp only [Call.finishes, forall_const]
      exact obeys_unguarded (congrArg Prod.fst (complete_run now output e))
        (congrArg (fun r => r.2.status) (complete_run now output e)) moves_completed rfl
  | fail now errorMessage =>
      simp only [Call.finishes, forall_const]
      exact obeys_unguarded (congrArg Prod.fst (fail_run now errorMessage e))
        (congrArg (fun r => r.2.status) (fail_run now errorMessage e)) moves_failed rfl

/-! ## Runs -/

/-- The execution after the calls of a list. -/
abbrev after (e : WorkflowExecutionEntity) (calls : List Call) : WorkflowExecutionEntity :=
  final Call.run e calls

/-- An execution keeps to its life cycle through the calls of a list: the
status only makes its moves, and once it is terminal every later call throws
and changes nothing. -/
structure KeepsLifecycle (e : WorkflowExecutionEntity) (calls : List Call) : Prop where
  moves : ∀ before call rest, calls = before ++ call :: rest →
    (after e (before ++ [call])).status = (after e before).status ∨
      Moves (after e before).status (after e (before ++ [call])).status
  frozen : ∀ before later call rest, calls = before ++ later ++ call :: rest →
    WorkflowExecutionEntity.isTerminal (after e before).status = true →
      Throws (after e (before ++ later)) call ∧
        SameRecord (after e before) (after e (before ++ later ++ [call]))

/-- The last call of a list is made after the others. -/
theorem after_snoc (e : WorkflowExecutionEntity) (before : List Call) (call : Call) :
    after e (before ++ [call]) = (call.run (after e before)).2 := final_append e before [call]

/-- A terminal execution stays as it is through calls that obey. -/
theorem sameRecord_after {e : WorkflowExecutionEntity} {calls : List Call}
    (hterminal : WorkflowExecutionEntity.isTerminal e.status = true)
    (h : Each Call.run Obeys e calls) : SameRecord e (after e calls) := by
  refine final_invariant (I := fun e' => SameRecord e e') ?_ (SameRecord.refl e) h
  intro e' call hsame hobeys
  rw [← hsame.status] at hterminal
  exact hsame.trans (hobeys.frozen hterminal).2

/-- A sequence keeps the lifecycle if each of its calls does. -/
theorem keepsLifecycle_iff_each (e : WorkflowExecutionEntity) (calls : List Call) :
    KeepsLifecycle e calls ↔ Each Call.run Obeys e calls := by
  constructor
  · intro h
    refine each_iff.mpr fun before call rest hsplit => ?_
    have hmoves := h.moves before call rest hsplit
    have hfrozen := h.frozen before [] call rest (by rw [List.append_nil]; exact hsplit)
    rw [List.append_nil, after_snoc] at hfrozen
    rw [after_snoc] at hmoves
    exact ⟨hmoves, hfrozen⟩
  · intro h
    constructor
    · intro before call rest hsplit
      rw [after_snoc]
      exact (each_iff.mp h before call rest hsplit).moves
    · intro before later call rest hsplit hterminal
      have hobeys := each_iff.mp h (before ++ later) call rest hsplit
      rw [hsplit, List.append_assoc] at h
      have hsame : SameRecord (after e before) (after e (before ++ later)) := by
        rw [after, after, final_append]
        exact sameRecord_after hterminal (each_append.mp (each_append.mp h).2).1
      rw [← hsame.status] at hterminal
      rw [after_snoc]
      exact ⟨(hobeys.frozen hterminal).1, hsame.trans (hobeys.frozen hterminal).2⟩

/-- **Terminal executions are frozen** exactly where every `complete` and
`fail` is called while the execution is running. -/
theorem lifecycle_iff (generateId : String) (now : Js.Date) (params : WorkflowExecutionParams)
    (calls : List Call) :
    KeepsLifecycle (create generateId now params) calls ↔
      ∀ before call rest, calls = before ++ call :: rest → call.finishes = true →
        (after (create generateId now params) before).status = .running := by
  rw [keepsLifecycle_iff_each, each_iff]
  simp only [obeys_iff]

def sampleParams : WorkflowExecutionParams where
  definitionId := Pg.uuidOf 1
  tenantId := Pg.uuidOf 2
  correlationId := Pg.uuidOf 3
  triggeredBy := "system"
  triggerType := .manual
  input := []
  startedAt := none
  completedAt := none
  durationMs := none
  errorMessage := none
  createdAt := none

/-- A cancelled execution is completed. -/
theorem complete_after_cancel :
    ¬ ∀ (generateId : String) (now : Js.Date) (params : WorkflowExecutionParams)
      (calls : List Call), KeepsLifecycle (create generateId now params) calls := by
  intro hclaim
  have hkeeps := hclaim (Pg.uuidOf 4) 0 sampleParams [.cancel 1 (some "stopped"), .complete 2 none]
  obtain ⟨⟨x, hx⟩, -⟩ := hkeeps.frozen [.cancel 1 (some "stopped")] [] (.complete 2 none) [] rfl rfl
  cases hx

end WorkflowExecution

end Atlas
