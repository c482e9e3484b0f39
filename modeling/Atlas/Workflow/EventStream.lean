import Atlas.Lib.Run
import Atlas.PlatformEvents.Commands
import Atlas.Workflow.CancelledRow

/-!
# Atlas.Workflow.EventStream

The stored executions and the events about them, over runs of the two commands
on a bus that never fails.

Triggering stores an execution and announces it; cancelling changes the status
of one and announces nothing.  So the two histories agree exactly as long as no
cancellation takes effect (`Quiet`).
-/

namespace Atlas

open StoreKit

namespace WorkflowEventStream

/-! ## The two histories -/

/-- An event of the type about the execution. -/
def announces (eventType executionId : String) (event : TenantAwareEvent) : Bool :=
  event.eventType = eventType && event.payload.lookup "executionId" = some (.str executionId)

/-- The events of the type about the execution that the bus has received. -/
def announced (w : World) (eventType executionId : String) : List TenantAwareEvent :=
  w.published.filter (announces eventType executionId)

/-- A consumer that rebuilds the executions from the events agrees with the table. -/
structure Mirrors (w : World) : Prop where
  triggered : ∀ row ∈ w.workflowExecutions.rows, ∃ event,
    announced w WORKFLOW_TRIGGERED row.id = [event]
  completed : ∀ row ∈ w.workflowExecutions.rows,
    WorkflowExecutionEntity.isTerminal row.status = true → ∃ event,
      announced w WORKFLOW_COMPLETED row.id = [event] ∧
        event.payload.lookup "status" = some (.str row.status.text)
  live : ∀ row ∈ w.workflowExecutions.rows,
    WorkflowExecutionEntity.isTerminal row.status = false →
      announced w WORKFLOW_COMPLETED row.id = []
  stored : ∀ eventType, eventType = WORKFLOW_TRIGGERED ∨ eventType = WORKFLOW_COMPLETED →
    ∀ executionId, announced w eventType executionId ≠ [] →
      ∃ row ∈ w.workflowExecutions.rows, row.id = executionId

/-! ## Runs -/

/-- A command for one of the two handlers. -/
inductive Call where
  | trigger (ctx : Option String) (rt : Runtime) (command : TriggerWorkflowCommand)
  | cancel (ctx : Option String) (rt : Runtime) (command : CancelWorkflowExecutionCommand)

/-- Whether the command answers `Result.ok`, and the state it leaves. -/
def Call.run (w : World) : Call → Bool × World
  | .trigger ctx rt command =>
      let r := (TriggerWorkflowHandler.execute recordingBus ctx rt command).run w
      (answered r, r.2)
  | .cancel ctx rt command =>
      let r := (CancelWorkflowExecutionHandler.execute ctx rt command).run w
      (answered r, r.2)

/-- The id a trigger makes up. -/
def Call.generatedId : Call → Option String
  | .trigger _ rt _ => some rt.generateId
  | .cancel _ _ _ => none

/-- The cancellation finds no execution that it can cancel. -/
def Quiet (w : World) : Call → Prop
  | .trigger _ _ _ => True
  | .cancel ctx rt command => ¬ ∃ row ∈ w.workflowExecutions.rows,
      CancelWorkflowExecutionHandler.Accepts ctx rt command row

/-- The rows are what the columns store, and `uuid` makes up ids that are new,
spelled the way they are stored. -/
structure Promised (w : World) (calls : List Call) : Prop where
  rows : ∀ row ∈ w.workflowExecutions.rows, CancelWorkflowExecutionHandler.Row w row
  normal : ∀ id ∈ calls.filterMap Call.generatedId, Pg.uuid id = some id
  fresh : ∀ id ∈ calls.filterMap Call.generatedId, ∀ row ∈ w.workflowExecutions.rows, row.id ≠ id
  nodup : (calls.filterMap Call.generatedId).Nodup

/-! ## What the commands do -/

/-- A trigger adds one pending row and announces it, or leaves both histories alone. -/
theorem trigger_cases {w : World} {ctx : Option String} {rt : Runtime}
    {command : TriggerWorkflowCommand} {calls : List Call}
    (h : Promised w (.trigger ctx rt command :: calls)) :
    ((Call.run w (.trigger ctx rt command)).2.workflowExecutions = w.workflowExecutions ∧
      (Call.run w (.trigger ctx rt command)).2.workflowDefinitions = w.workflowDefinitions ∧
      (Call.run w (.trigger ctx rt command)).2.published = w.published) ∨
    ∃ row event, row.id = rt.generateId ∧ row.status = .pending ∧ row.stored = some row ∧
      WorkflowExecutionRepository.allowed w row = true ∧
      event.eventType = WORKFLOW_TRIGGERED ∧
      event.payload.lookup "executionId" = some (.str rt.generateId) ∧
      (Call.run w (.trigger ctx rt command)).2 = { (w.noting ctx).noting ctx with
        workflowExecutions := w.workflowExecutions.put row
        published := w.published ++ [event] } := by
  rcases triggerWorkflow_cases w ctx rt command with
    ⟨r, w', -, huntouched, hrun⟩ |
    ⟨found, createdAt, row, definition, execution, saved, -, -, rfl, rfl, hwrites, hrun⟩
  · left
    have hexecutions := congrArg World.workflowExecutions huntouched.store
    have hdefinitions := congrArg World.workflowDefinitions huntouched.store
    rw [Call.run, hrun recordingBus]
    exact ⟨hexecutions, hdefinitions, huntouched.published⟩
  · right
    have hid : rt.generateId ∈ (Call.trigger ctx rt command :: calls).filterMap Call.generatedId :=
      List.mem_cons_self
    obtain ⟨stored, hstored, hmerged⟩ := hwrites.merged
    have hkey : stored.id = rt.generateId :=
      Option.some.inj ((WorkflowExecutionOrmEntity.storedAs hstored).id.symm.trans (h.normal _ hid))
    rcases hmerged with ⟨-, rfl⟩ | ⟨old, hold, -⟩
    · refine ⟨row, _, hkey, (WorkflowExecutionOrmEntity.storedAs hstored).status,
        (WorkflowExecutionOrmEntity.kept_of_stored hstored).stored, hwrites.allowed, ?_, ?_,
        congrArg Prod.snd (hrun recordingBus)⟩
      · rfl
      · rfl
    · -- the id is new, so there is no row to update
      have hmem : old ∈ w.workflowExecutions.rows := Table.mem_of_find? hold
      exact absurd ((Table.key_of_find? hold).trans hkey) (h.fresh _ hid old hmem)

/-- A cancellation cancels one live row, or leaves both histories alone.  It
announces nothing. -/
theorem cancel_cases {w : World} (ctx : Option String) (rt : Runtime)
    (command : CancelWorkflowExecutionCommand)
    (hrows : ∀ row ∈ w.workflowExecutions.rows, CancelWorkflowExecutionHandler.Row w row) :
    (∃ row ∈ w.workflowExecutions.rows,
      CancelWorkflowExecutionHandler.Accepts ctx rt command row ∧
      (Call.run w (.cancel ctx rt command)).2 =
        CancelWorkflowExecutionHandler.cancelledWorld ctx rt command row w) ∨
    (Quiet w (.cancel ctx rt command) ∧ ∃ tenants,
      (Call.run w (.cancel ctx rt command)).2 = { w with tenants }) := by
  rcases CancelWorkflowExecutionHandler.execute_cases ctx rt command hrows with
    ⟨row, hmem, haccepts, hrun⟩ | ⟨hrefused, r, tenants, hrun, -⟩
  · exact .inl ⟨row, hmem, haccepts, congrArg Prod.snd hrun⟩
  · exact .inr ⟨hrefused, tenants, congrArg Prod.snd hrun⟩

/-- A row that stays where it is is still a row as the columns have it. -/
theorem row_congr {w w' : World} {row : WorkflowExecutionOrmEntity}
    (h : CancelWorkflowExecutionHandler.Row w row) (hmem : row ∈ w'.workflowExecutions.rows)
    (hdefinitions : w'.workflowDefinitions = w.workflowDefinitions) :
    CancelWorkflowExecutionHandler.Row w' row := by
  refine ⟨hmem, h.stored, ?_⟩
  rw [← h.allowed, WorkflowExecutionRepository.allowed, WorkflowExecutionRepository.allowed,
    hdefinitions]

/-- The promises about the calls to come stand after a call that leaves every
row as the columns have it and adds only the id of its own. -/
theorem Promised.tail {w w' : World} {call : Call} {calls : List Call}
    (h : Promised w (call :: calls))
    (hrows : ∀ row ∈ w'.workflowExecutions.rows, CancelWorkflowExecutionHandler.Row w' row)
    (hids : ∀ row ∈ w'.workflowExecutions.rows,
      (∃ old ∈ w.workflowExecutions.rows, row.id = old.id) ∨ call.generatedId = some row.id) :
    Promised w' calls := by
  have hlater : ∀ id ∈ calls.filterMap Call.generatedId,
      id ∈ (call :: calls).filterMap Call.generatedId := by
    intro id hid
    rw [List.filterMap_cons]
    split
    · exact hid
    · exact List.mem_cons_of_mem _ hid
  refine ⟨hrows, fun id hid => h.normal id (hlater id hid), fun id hid row hrow => ?_, ?_⟩
  · rcases hids row hrow with ⟨old, hold, hsame⟩ | hnew
    · rw [hsame]
      exact h.fresh id (hlater id hid) old hold
    · -- the id of this call is not made up again
      have hnodup := h.nodup
      rw [List.filterMap_cons_some hnew] at hnodup
      exact fun heq => (List.nodup_cons.mp hnodup).1 (heq ▸ hid)
  · have hsublist : (calls.filterMap Call.generatedId).Sublist
        ((call :: calls).filterMap Call.generatedId) := (List.sublist_cons_self call calls).filterMap _
    exact h.nodup.sublist hsublist

theorem promised_run {w : World} {call : Call} {calls : List Call}
    (h : Promised w (call :: calls)) : Promised (call.run w).2 calls := by
  cases call with
  | trigger ctx rt command =>
      rcases trigger_cases h with ⟨hexecutions, hdefinitions, -⟩ |
        ⟨row, event, hid, -, hstored, hallowed, -, -, hrun⟩
      · refine h.tail (fun row hrow => ?_) (fun row hrow => ?_)
        · exact row_congr (h.rows row (hexecutions ▸ hrow)) hrow hdefinitions
        · exact .inl ⟨row, hexecutions ▸ hrow, rfl⟩
      · rw [hrun]
        refine h.tail (fun x hx => ?_) (fun x hx => ?_)
        · rcases (Table.mem_put_iff _ _ _).mp hx with rfl | ⟨hold, -⟩
          · exact ⟨hx, hstored, hallowed⟩
          · exact row_congr (h.rows x hold) hx rfl
        · rcases (Table.mem_put_iff _ _ _).mp hx with rfl | ⟨hold, -⟩
          · exact .inr (congrArg some hid.symm)
          · exact .inl ⟨x, hold, rfl⟩
  | cancel ctx rt command =>
      rcases cancel_cases ctx rt command h.rows with ⟨row, hmem, haccepts, hrun⟩ | ⟨-, tenants, hrun⟩
      · rw [hrun]
        refine h.tail (fun x hx => ?_) (fun x hx => ?_)
        · rcases (Table.mem_put_iff _ _ _).mp hx with rfl | ⟨hold, -⟩
          · have hkept := WorkflowExecutionOrmEntity.kept_of_stored (h.rows row hmem).stored
            exact ⟨hx, (WorkflowExecutionOrmEntity.kept_cancelled hkept haccepts.fits _).stored,
              (h.rows row hmem).allowed⟩
          · exact row_congr (h.rows x hold) hx rfl
        · rcases (Table.mem_put_iff _ _ _).mp hx with rfl | ⟨hold, -⟩
          · exact .inl ⟨row, hmem, rfl⟩
          · exact .inl ⟨x, hold, rfl⟩
      · rw [hrun]
        exact h.tail (fun x hx => row_congr (h.rows x hx) hx rfl) fun x hx => .inl ⟨x, hx, rfl⟩

/-! ## The histories -/

/-- An event is about one execution. -/
theorem announces_inj {eventType eventType' id id' : String} {event : TenantAwareEvent}
    (h : announces eventType id event = true) (h' : announces eventType' id' event = true) :
    eventType = eventType' ∧ id = id' := by
  simp only [announces, Bool.and_eq_true, decide_eq_true_eq] at h h'
  obtain ⟨htype, hid⟩ := h
  obtain ⟨htype', hid'⟩ := h'
  have hsame := Option.some.inj (hid.symm.trans hid')
  exact ⟨htype.symm.trans htype', Json.str.inj hsame⟩

/-- The histories depend on the two tables alone. -/
theorem Mirrors.congr {w w' : World} (h : Mirrors w)
    (hexecutions : w'.workflowExecutions = w.workflowExecutions)
    (hpublished : w'.published = w.published) : Mirrors w' := by
  have hannounced : announced w' = announced w := by
    funext eventType id
    rw [announced, announced, hpublished]
  constructor
  · rw [hexecutions, hannounced]
    exact h.triggered
  · rw [hexecutions, hannounced]
    exact h.completed
  · rw [hexecutions, hannounced]
    exact h.live
  · rw [hexecutions, hannounced]
    exact h.stored

/-- A new row and the event that announces it keep the mirror. -/
theorem mirrors_put {w : World} {row : WorkflowExecutionOrmEntity} {event : TenantAwareEvent}
    (h : Mirrors w) (hfresh : ∀ r ∈ w.workflowExecutions.rows, r.id ≠ row.id)
    (hpending : row.status = .pending) (hevent : announces WORKFLOW_TRIGGERED row.id event = true)
    (tenants : List (Option String)) :
    Mirrors { w with
      workflowExecutions := w.workflowExecutions.put row
      published := w.published ++ [event]
      tenants } := by
  have hannounced : ∀ eventType id, announced { w with
        workflowExecutions := w.workflowExecutions.put row
        published := w.published ++ [event]
        tenants } eventType id =
      announced w eventType id ++ [event].filter (announces eventType id) :=
    fun eventType id => List.filter_append _ _
  have hnone : ∀ eventType, eventType = WORKFLOW_TRIGGERED ∨ eventType = WORKFLOW_COMPLETED →
      announced w eventType row.id = [] := by
    intro eventType htype
    by_contra hsome
    obtain ⟨r, hr, hid⟩ := h.stored eventType htype row.id hsome
    exact hfresh r hr hid
  have hother : ∀ eventType id, (eventType ≠ WORKFLOW_TRIGGERED ∨ id ≠ row.id) →
      [event].filter (announces eventType id) = [] := by
    intro eventType id hne
    refine List.filter_eq_nil_iff.mpr fun e he hannounces => ?_
    obtain rfl := List.mem_singleton.mp he
    obtain ⟨htype, hid⟩ := announces_inj hannounces hevent
    rcases hne with hne | hne
    · exact hne htype
    · exact hne hid
  have hcompleted : WORKFLOW_COMPLETED ≠ WORKFLOW_TRIGGERED := by decide
  constructor
  · intro r hr
    rcases (Table.mem_put_iff _ _ _).mp hr with rfl | ⟨hold, hne⟩
    · refine ⟨event, ?_⟩
      rw [hannounced, hnone _ (.inl rfl), List.nil_append, List.filter_cons, if_pos hevent,
        List.filter_nil]
    · rw [hannounced, hother _ _ (.inr hne), List.append_nil]
      exact h.triggered r hold
  · intro r hr hterminal
    rcases (Table.mem_put_iff _ _ _).mp hr with rfl | ⟨hold, -⟩
    · rw [hpending] at hterminal
      cases hterminal
    · rw [hannounced, hother _ _ (.inl hcompleted), List.append_nil]
      exact h.completed r hold hterminal
  · intro r hr hlive
    rw [hannounced, hother _ _ (.inl hcompleted), List.append_nil]
    rcases (Table.mem_put_iff _ _ _).mp hr with rfl | ⟨hold, -⟩
    · exact hnone _ (.inr rfl)
    · exact h.live r hold hlive
  · intro eventType htype id hsome
    by_cases hid : row.id = id
    · exact ⟨row, (Table.mem_put_iff _ _ _).mpr (.inl rfl), hid⟩
    · rw [hannounced, hother _ _ (.inr (Ne.symm hid)), List.append_nil] at hsome
      obtain ⟨r, hr, hsame⟩ := h.stored eventType htype id hsome
      exact ⟨r, (Table.mem_put_iff _ _ _).mpr (.inr ⟨hr, hfresh r hr⟩), hsame⟩

/-- **One command** keeps the histories together unless it cancels an execution. -/
theorem mirrors_run_iff {w : World} {call : Call} {calls : List Call}
    (hpromised : Promised w (call :: calls)) (h : Mirrors w) :
    Mirrors (call.run w).2 ↔ Quiet w call := by
  cases call with
  | trigger ctx rt command =>
      refine ⟨fun _ => trivial, fun _ => ?_⟩
      rcases trigger_cases hpromised with ⟨hexecutions, -, hpublished⟩ |
        ⟨row, event, hid, hpending, -, -, htype, hpayload, hrun⟩
      · exact h.congr hexecutions hpublished
      · rw [hrun]
        refine mirrors_put h (fun r hr => ?_) hpending ?_ _
        · rw [hid]
          exact hpromised.fresh _ List.mem_cons_self r hr
        · simp [announces, htype, hpayload, hid]
  | cancel ctx rt command =>
      rcases cancel_cases ctx rt command hpromised.rows with
        ⟨row, hmem, haccepts, hrun⟩ | ⟨hquiet, tenants, hrun⟩
      · -- the row is terminal now, and its live predecessor was not announced
        constructor
        · intro h'
          rw [hrun] at h'
          have hput := (Table.mem_put_iff w.workflowExecutions
            (row.cancelled rt.now rt.savedAt command.reason) _).mpr (.inl rfl)
          obtain ⟨event, hevent, -⟩ := h'.completed _ hput rfl
          have hnone : announced w WORKFLOW_COMPLETED row.id = [] := h.live row hmem haccepts.live
          cases hnone.symm.trans hevent
        · intro hquiet
          exact absurd ⟨row, hmem, haccepts⟩ hquiet
      · rw [hrun]
        exact ⟨fun _ => hquiet, fun _ => h.congr rfl rfl⟩

/-- **The event stream** mirrors the stored executions through a run exactly as
long as no cancellation takes effect. -/
theorem mirrors_iff (w : World) (calls : List Call) (hpromised : Promised w calls)
    (hstart : Mirrors w) :
    (∀ before after, calls = before ++ after → Mirrors (final Call.run w before)) ↔
      ∀ before call after, calls = before ++ call :: after →
        Quiet (final Call.run w before) call := by
  rw [← always_iff, ← each_iff, always_iff_each (fun _ _ _ => promised_run)
    (fun _ _ _ => mirrors_run_iff) hpromised]
  exact and_iff_right hstart

/-- The definitions of the sample, with nothing triggered yet. -/
def definedWorld : World := { sampleWorkflows with workflowExecutions := .empty, published := [] }

def sampleTrigger : Call :=
  .trigger (some (Pg.uuidOf 3)) sampleRuntime
    ⟨Pg.uuidOf 3, Pg.uuidOf 11, none, Pg.uuidOf 6, .manual, []⟩

def sampleCancel : Call :=
  .cancel (some (Pg.uuidOf 3)) sampleRuntime
    ⟨sampleRuntime.generateId, none, Pg.uuidOf 3, Pg.uuidOf 12, none⟩

theorem promised_sample (calls : List Call)
    (hids : calls.filterMap Call.generatedId = [sampleRuntime.generateId]) :
    Promised definedWorld calls where
  rows _ hrow := by cases hrow
  normal id hid := by
    rw [hids, List.mem_singleton] at hid
    rw [hid]
    exact Pg.uuid_uuidOf 8
  fresh _ _ _ hrow := by cases hrow
  nodup := by
    rw [hids]
    exact List.nodup_singleton _

theorem mirrors_definedWorld : Mirrors definedWorld where
  triggered _ hrow := by cases hrow
  completed _ hrow := by cases hrow
  live _ hrow := by cases hrow
  stored _ _ _ hsome := absurd rfl hsome

/-- An execution that is triggered and left to run. -/
theorem mirrors_triggered : Mirrors (final Call.run definedWorld [sampleTrigger]) :=
  (mirrors_iff definedWorld [sampleTrigger] (promised_sample _ rfl) mirrors_definedWorld).mpr
    (each_iff.mp ⟨trivial, trivial⟩) [sampleTrigger] [] rfl

/-- One that is cancelled is never announced as completed. -/
theorem cancelled_unannounced :
    ¬ ∀ (w : World) (calls : List Call), Promised w calls → Mirrors w →
      ∀ before after, calls = before ++ after → Mirrors (final Call.run w before) := by
  intro hclaim
  have hmirrors := hclaim definedWorld [sampleTrigger, sampleCancel] (promised_sample _ rfl)
    mirrors_definedWorld [sampleTrigger, sampleCancel] [] rfl
  have hcancelled : ∃ row ∈
      (final Call.run definedWorld [sampleTrigger, sampleCancel]).workflowExecutions.rows,
      WorkflowExecutionEntity.isTerminal row.status = true ∧
        announced (final Call.run definedWorld [sampleTrigger, sampleCancel])
          WORKFLOW_COMPLETED row.id = [] := by
    decide +kernel
  obtain ⟨row, hrow, hterminal, hnone⟩ := hcancelled
  obtain ⟨event, hevent, -⟩ := hmirrors.completed row hrow hterminal
  cases hnone.symm.trans hevent

end WorkflowEventStream

end Atlas
