import Atlas.Constraints
import Atlas.Lib.History
import Atlas.Workflow.CancelledRow

/-!
# Atlas.Requests.History

What requests can do to the database over time.

`World.Intact` is what every state keeps: the rows of `Consistent`, and the
references between the tables.  `World.Evolves` is what a state can turn into:
nothing is deleted, keys and owners stay, a user only logs in, an organization
is only renamed, moved to another plan or suspended, and an execution is only
cancelled.  `World.Unused` keeps the random id of a request out of the tables
until the request inserts its row.
-/

namespace Atlas

open StoreKit

/-! ## Rows over time -/

/-- A user over time: only the last login changes. -/
structure UserOrmEntity.Becomes (r s : UserOrmEntity) : Prop where
  id : s.id = r.id
  email : s.email = r.email
  passwordHash : s.passwordHash = r.passwordHash
  displayName : s.displayName = r.displayName
  status : s.status = r.status
  emailVerifiedAt : s.emailVerifiedAt = r.emailVerifiedAt
  createdAt : s.createdAt = r.createdAt

/-- Users come in unverified. -/
def userCourse : Course UserOrmEntity.id where
  becomes := UserOrmEntity.Becomes
  fresh row := row.status = .pending_verification
  refl _ := ⟨rfl, rfl, rfl, rfl, rfl, rfl, rfl⟩
  trans h h' := ⟨h'.id.trans h.id, h'.email.trans h.email, h'.passwordHash.trans h.passwordHash,
    h'.displayName.trans h.displayName, h'.status.trans h.status,
    h'.emailVerifiedAt.trans h.emailVerifiedAt, h'.createdAt.trans h.createdAt⟩
  key_eq h := h.id
  fresh_becomes hfresh h := h.status.trans hfresh

/-- An organization that was provisioned and not taken down since. -/
def TenantStatus.Provisioned (status : TenantStatus) : Prop :=
  status = .ACTIVE ∨ status = .SUSPENDED

/-- An organization keeps its status; where it is `moving` it may go back and
forth between the two a provisioned one has. -/
def StatusKept (moving : Prop) (status status' : TenantStatus) : Prop :=
  status' = status ∨ (moving ∧ status.Provisioned ∧ status'.Provisioned)

/-- Two changes between active and suspended are one. -/
theorem StatusKept.trans {moving : Prop} {a b c : TenantStatus} (h : StatusKept moving a b)
    (h' : StatusKept moving b c) : StatusKept moving a c := by
  rcases h with hsame | ⟨hmoving, ha, hb⟩
  · rwa [hsame] at h'
  · rcases h' with hsame' | ⟨-, -, hc⟩
    · exact .inr ⟨hmoving, ha, hsame' ▸ hb⟩
    · exact .inr ⟨hmoving, ha, hc⟩

/-- A change between active and suspended can be taken back. -/
theorem StatusKept.symm {moving : Prop} {a b : TenantStatus} (h : StatusKept moving a b) :
    StatusKept moving b a := by
  rcases h with rfl | ⟨hmoving, ha, hb⟩
  · exact .inl rfl
  · exact .inr ⟨hmoving, hb, ha⟩

/-- An organization over time, where those of the ids in `moving` may change
status. -/
structure OrganizationOrmEntity.Becomes (moving : String → Prop) (r s : OrganizationOrmEntity) :
    Prop where
  id : s.id = r.id
  slug : s.slug = r.slug
  ownerId : s.ownerId = r.ownerId
  status : StatusKept (moving r.id) r.status s.status
  provisionedAt : s.provisionedAt = r.provisionedAt
  settings : s.settings = r.settings
  createdAt : s.createdAt = r.createdAt

/-- Organizations come in unprovisioned. -/
def organizationCourse (moving : String → Prop) : Course OrganizationOrmEntity.id where
  becomes := OrganizationOrmEntity.Becomes moving
  fresh row := row.status = .PROVISIONING
  refl _ := ⟨rfl, rfl, rfl, .inl rfl, rfl, rfl, rfl⟩
  trans h h' := ⟨h'.id.trans h.id, h'.slug.trans h.slug, h'.ownerId.trans h.ownerId,
    h.status.trans (h.id ▸ h'.status), h'.provisionedAt.trans h.provisionedAt,
    h'.settings.trans h.settings, h'.createdAt.trans h.createdAt⟩
  key_eq h := h.id
  fresh_becomes {r s} hfresh h := by
    rcases h.status with hsame | ⟨-, hactive | hsuspended, -⟩
    · exact hsame.trans hfresh
    · rw [hfresh] at hactive
      cases hactive
    · rw [hfresh] at hsuspended
      cases hsuspended

/-- An execution over time: one that is not over may be cancelled. -/
structure WorkflowExecutionOrmEntity.Becomes (r s : WorkflowExecutionOrmEntity) : Prop where
  id : s.id = r.id
  definitionId : s.definitionId = r.definitionId
  tenantId : s.tenantId = r.tenantId
  correlationId : s.correlationId = r.correlationId
  triggeredBy : s.triggeredBy = r.triggeredBy
  triggerType : s.triggerType = r.triggerType
  input : s.input = r.input
  stepResults : s.stepResults = r.stepResults
  startedAt : s.startedAt = r.startedAt
  createdAt : s.createdAt = r.createdAt
  status : s.status = r.status ∨
    (WorkflowExecutionEntity.isTerminal r.status = false ∧ s.status = .cancelled)
  finished : r.status = .completed ∨ r.status = .failed → s = r

/-- An execution that is cancelled twice is cancelled. -/
theorem WorkflowExecutionOrmEntity.Becomes.trans {r s t : WorkflowExecutionOrmEntity}
    (h : r.Becomes s) (h' : s.Becomes t) : r.Becomes t where
  id := h'.id.trans h.id
  definitionId := h'.definitionId.trans h.definitionId
  tenantId := h'.tenantId.trans h.tenantId
  correlationId := h'.correlationId.trans h.correlationId
  triggeredBy := h'.triggeredBy.trans h.triggeredBy
  triggerType := h'.triggerType.trans h.triggerType
  input := h'.input.trans h.input
  stepResults := h'.stepResults.trans h.stepResults
  startedAt := h'.startedAt.trans h.startedAt
  createdAt := h'.createdAt.trans h.createdAt
  status := by
    rcases h.status with hsame | ⟨hlive, hcancelled⟩
    · rcases h'.status with hsame' | ⟨hlive', hcancelled'⟩
      · exact .inl (hsame'.trans hsame)
      · exact .inr ⟨hsame ▸ hlive', hcancelled'⟩
    · rcases h'.status with hsame' | ⟨hlive', -⟩
      · exact .inr ⟨hlive, hsame'.trans hcancelled⟩
      · rw [hcancelled] at hlive'
        cases hlive'
  finished := by
    intro hfinished
    have hs := h.finished hfinished
    rw [h'.finished (hs ▸ hfinished), hs]

/-- Executions come in pending. -/
def executionCourse : Course WorkflowExecutionOrmEntity.id where
  becomes := WorkflowExecutionOrmEntity.Becomes
  fresh row := row.status = .pending ∨ row.status = .cancelled
  refl _ := ⟨rfl, rfl, rfl, rfl, rfl, rfl, rfl, rfl, rfl, rfl, .inl rfl, fun _ => rfl⟩
  trans h h' := h.trans h'
  key_eq h := h.id
  fresh_becomes {r s} hfresh h := by
    rcases h.status with hsame | ⟨-, hcancelled⟩
    · rw [hsame]
      exact hfresh
    · exact .inr hcancelled

/-! ## The database over time -/

/-- What a database can turn into, where the organizations of the ids in
`moving` may change status. -/
structure World.Evolves (moving : String → Prop) (w w' : World) : Prop where
  users : w.users.Evolves userCourse w'.users
  organizations : w.organizations.Evolves (organizationCourse moving) w'.organizations
  workflowDefinitions : w'.workflowDefinitions = w.workflowDefinitions
  workflowExecutions : w.workflowExecutions.Evolves executionCourse w'.workflowExecutions
  auditEvents : w.auditEvents.rows <+: w'.auditEvents.rows
  outboxEntries : w.outboxEntries.rows <+: w'.outboxEntries.rows

/-- A database evolves to itself where nothing happens. -/
theorem World.Evolves.refl (moving : String → Prop) (w : World) : w.Evolves moving w :=
  ⟨.refl _ _, .refl _ _, rfl, .refl _ _, List.prefix_refl _, List.prefix_refl _⟩

/-- What evolves twice has evolved. -/
theorem World.Evolves.trans {moving : String → Prop} {u v w : World} (h : u.Evolves moving v)
    (h' : v.Evolves moving w) : u.Evolves moving w where
  users := h.users.trans h'.users
  organizations := h.organizations.trans h'.organizations
  workflowDefinitions := h'.workflowDefinitions.trans h.workflowDefinitions
  workflowExecutions := h.workflowExecutions.trans h'.workflowExecutions
  auditEvents := h.auditEvents.trans h'.auditEvents
  outboxEntries := h.outboxEntries.trans h'.outboxEntries

/-- What every state of the database keeps. -/
structure World.Intact (w : World) : Prop where
  consistent : w.Consistent
  owners : ∀ org ∈ w.organizations.rows, ∃ user ∈ w.users.rows, user.id = org.ownerId
  definitions : ∀ definition ∈ w.workflowDefinitions.rows,
    Pg.uuid definition.id = some definition.id
  executions : ∀ execution ∈ w.workflowExecutions.rows, execution.Kept
  defined : ∀ execution ∈ w.workflowExecutions.rows, ∃ definition ∈ w.workflowDefinitions.rows,
    definition.id = execution.definitionId ∧ definition.tenantId = execution.tenantId

/-- No row of the tables that `save` writes to has the id. -/
structure World.Unused (id : String) (w : World) : Prop where
  users : ∀ k, Pg.uuid id = some k → k ∉ w.users.rows.map UserOrmEntity.id
  organizations : ∀ k, Pg.uuid id = some k →
    k ∉ w.organizations.rows.map OrganizationOrmEntity.id
  workflowExecutions : ∀ k, Pg.uuid id = some k →
    k ∉ w.workflowExecutions.rows.map WorkflowExecutionOrmEntity.id

/-- Two ids that are not the same one, however it is spelled. -/
def Apart (id id' : String) : Prop := ∀ k, Pg.uuid id = some k → Pg.uuid id' ≠ some k

/-- What a step of the request with `id` does: it uses no other unused id. -/
structure World.Takes (moving : String → Prop) (id : String) (w w' : World) : Prop where
  evolves : w.Evolves moving w'
  unused : ∀ id', Apart id id' → w.Unused id' → w'.Unused id'

/-- What that request can rely on. -/
structure World.Spares (moving : String → Prop) (id : String) (w w' : World) : Prop where
  evolves : w.Evolves moving w'
  unused : w.Unused id → w'.Unused id

/-- Who does nothing leaves every id free. -/
theorem World.Spares.refl (moving : String → Prop) (id : String) (w : World) :
    w.Spares moving id w := ⟨.refl moving w, fun h => h⟩

/-- An id that two runs spare is spared by both together. -/
theorem World.Spares.trans {moving : String → Prop} {id : String} {u v w : World}
    (h : u.Spares moving id v) (h' : v.Spares moving id w) : u.Spares moving id w :=
  ⟨h.evolves.trans h'.evolves, fun hu => h'.unused (h.unused hu)⟩

/-- Who takes an id leaves every other one free. -/
theorem World.Takes.spares {moving : String → Prop} {id id' : String} {w w' : World}
    (h : w.Takes moving id w') (hapart : Apart id id') : w.Spares moving id' w' :=
  ⟨h.evolves, h.unused id' hapart⟩

/-! ## Steps that change no table -/

/-- The tables of two databases are the same. -/
structure World.SameTables (w w' : World) : Prop where
  users : w'.users = w.users
  organizations : w'.organizations = w.organizations
  workflowDefinitions : w'.workflowDefinitions = w.workflowDefinitions
  workflowExecutions : w'.workflowExecutions = w.workflowExecutions
  auditEvents : w'.auditEvents = w.auditEvents
  outboxEntries : w'.outboxEntries = w.outboxEntries

/-- A step that changes no table takes no id. -/
theorem World.SameTables.takes {w w' : World} (h : w.SameTables w') (moving : String → Prop)
    (id : String) : w.Takes moving id w' where
  evolves := {
    users := h.users ▸ .refl _ _
    organizations := h.organizations ▸ .refl _ _
    workflowDefinitions := h.workflowDefinitions
    workflowExecutions := h.workflowExecutions ▸ .refl _ _
    auditEvents := h.auditEvents ▸ List.prefix_refl _
    outboxEntries := h.outboxEntries ▸ List.prefix_refl _ }
  unused _ _ hunused := ⟨h.users ▸ hunused.users, h.organizations ▸ hunused.organizations,
    h.workflowExecutions ▸ hunused.workflowExecutions⟩

/-- Consistency is about users and organizations alone. -/
theorem World.Consistent.congr {w w' : World} (hw : w.Consistent) (husers : w'.users = w.users)
    (horganizations : w'.organizations = w.organizations) : w'.Consistent where
  users := husers ▸ hw.users
  emails := husers ▸ hw.emails
  organizations := horganizations ▸ hw.organizations
  slugs := horganizations ▸ hw.slugs

/-- A database stays intact with its tables. -/
theorem World.SameTables.intact {w w' : World} (h : w.SameTables w') (hw : w.Intact) :
    w'.Intact where
  consistent := hw.consistent.congr h.users h.organizations
  owners := by
    rw [h.users, h.organizations]
    exact hw.owners
  definitions := h.workflowDefinitions ▸ hw.definitions
  executions := h.workflowExecutions ▸ hw.executions
  defined := by
    rw [h.workflowExecutions, h.workflowDefinitions]
    exact hw.defined

/-- What is on record about tenants is no table. -/
theorem World.sameTables_noting (w : World) (tenant : Option String) :
    w.SameTables (w.noting tenant) := ⟨rfl, rfl, rfl, rfl, rfl, rfl⟩

end Atlas
