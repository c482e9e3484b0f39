import Atlas.PlatformEvents.Forwarding
import Atlas.Requests.History

/-!
# Atlas.Requests.Writes

Each write of a handler, as a step of the database over time.

A handler writes back what it read some steps before.  What the row has become
meanwhile (`Becomes`) is what the write is compared with: the columns that no
request changes have the values that were read.
-/

namespace Atlas

open StoreKit

section Save

variable {ρ : Type} {t : DatedTable ρ} {savedAt : Js.Date} {orm row : ρ} {w : World}

/-- Under a key that nobody has, `save` inserts what the columns make of the
instance. -/
theorem DatedTable.Writes.inserts (h : t.Writes savedAt orm w row) (hid : t.id ∈ t.uuids)
    (hfree : ∀ k, Pg.uuid (t.id orm) = some k → k ∉ (t.table w).rows.map t.id) :
    t.stored (t.dated (some savedAt) (some savedAt) orm) = some row ∧
      Pg.uuid (t.id orm) = some (t.id row) := by
  obtain ⟨stored, hstored, hmerged⟩ := h.merged
  have hkey : Pg.uuid (t.id orm) = some (t.id row) := h.uuids _ hid
  refine ⟨?_, hkey⟩
  rcases hmerged with ⟨-, rfl⟩ | ⟨old, hold, rfl⟩
  · exact hstored
  · rw [t.uuids_merge _ hid] at hkey
    have hmem : old ∈ (t.table w).rows := Table.mem_of_find? hold
    exact absurd (Table.key_of_find? hold ▸ List.mem_map_of_mem hmem) (hfree _ hkey)

/-- Under the key of a row, `save` writes it over. -/
theorem DatedTable.Writes.updates (h : t.Writes savedAt orm w row) (hid : t.id ∈ t.uuids)
    {current : ρ} (hcurrent : current ∈ (t.table w).rows)
    (hkey : Pg.uuid (t.id orm) = some (t.id current)) :
    ∃ stored, t.stored (t.dated (some savedAt) (some savedAt) orm) = some stored ∧
      row = t.merge current stored ∧ t.id row = t.id current := by
  obtain ⟨stored, hstored, hmerged⟩ := h.merged
  have hsame : t.id row = t.id current := Option.some.inj ((h.uuids _ hid).symm.trans hkey)
  refine ⟨stored, hstored, ?_, hsame⟩
  have hfind := (t.table w).find?_key hcurrent
  rcases hmerged with ⟨hnone, rfl⟩ | ⟨old, hold, rfl⟩
  · rw [hsame, hfind] at hnone
    cases hnone
  · rw [t.uuids_merge _ hid] at hsame
    rw [hsame, hfind] at hold
    rw [Option.some.inj hold]

end Save

/-- The type of a trigger is stored as it is. -/
theorem WorkflowExecutionOrmEntity.triggerType_of_stored {row row' : WorkflowExecutionOrmEntity}
    (h : row.stored = some row') : row'.triggerType = row.triggerType := by
  obtain ⟨_, -, h⟩ := Option.bind_eq_some_iff.mp h
  obtain ⟨_, -, h⟩ := Option.bind_eq_some_iff.mp h
  obtain ⟨_, -, h⟩ := Option.bind_eq_some_iff.mp h
  obtain ⟨_, -, h⟩ := Option.bind_eq_some_iff.mp h
  obtain ⟨_, -, h⟩ := Option.bind_eq_some_iff.mp h
  obtain ⟨_, -, h⟩ := Option.bind_eq_some_iff.mp h
  obtain ⟨_, -, h⟩ := Option.bind_eq_some_iff.mp h
  obtain ⟨_, -, h⟩ := Option.bind_eq_some_iff.mp h
  obtain ⟨_, -, h⟩ := Option.bind_eq_some_iff.mp h
  obtain ⟨_, -, h⟩ := Option.bind_eq_some_iff.mp h
  obtain ⟨_, -, h⟩ := Option.bind_eq_some_iff.mp h
  obtain rfl := Option.some.inj h
  rfl

/-- A step that keeps the database as it has to be. -/
structure World.Step (moving : String → Prop) (id : String) (w w' : World) : Prop where
  intact : w'.Intact
  takes : w.Takes moving id w'

/-- A step that changes no table is a step. -/
theorem World.SameTables.step {w w' : World} (h : w.SameTables w') (hw : w.Intact)
    (moving : String → Prop) (id : String) : w.Step moving id w' :=
  ⟨h.intact hw, h.takes moving id⟩

variable {moving : String → Prop} {w : World}

/-! ## Users -/

/- A login writes the whole row it read.  That undoes nothing but the date of another
login, since no other command changes a user. -/

section Users

variable {savedAt now : Js.Date} {user : UserAggregate} {row : UserOrmEntity}

/-- Whatever is written to the users, the organizations keep their owners. -/
theorem owners_put (hw : w.Intact) (row : UserOrmEntity) :
    ∀ org ∈ w.organizations.rows, ∃ user ∈ (w.users.put row).rows, user.id = org.ownerId := by
  intro org horg
  obtain ⟨owner, howner, hid⟩ := hw.owners org horg
  by_cases hkey : owner.id = row.id
  · exact ⟨row, (w.users.mem_put_iff row row).mpr (.inl rfl), hkey.symm.trans hid⟩
  · exact ⟨owner, (w.users.mem_put_iff row owner).mpr (.inr ⟨howner, hkey⟩), hid⟩

/-- A user that is saved leaves an intact database: the unique index guards the
address. -/
theorem intact_putUser (hw : w.Intact)
    (h : UserRepository.table.Writes savedAt (UserRepository.toOrm user) w row) :
    { w with users := w.users.put row }.Intact where
  consistent := UserRepository.consistent_put hw.consistent h
  owners := owners_put hw row
  definitions := hw.definitions
  executions := hw.executions
  defined := hw.defined

/-- A user takes no id but its own. -/
theorem unused_putUser {id' : String} (hid : Pg.uuid id' ≠ some row.id) (h : w.Unused id') :
    { w with users := w.users.put row }.Unused id' where
  users k hk := by
    rw [Table.mem_keys_put]
    rintro (rfl | hold)
    · exact hid hk
    · exact h.users k hk hold
  organizations := h.organizations
  workflowExecutions := h.workflowExecutions

/-- A user takes the id it is saved under. -/
theorem takes_putUser {id : String} (hid : Pg.uuid id = some row.id)
    (husers : w.users.Evolves userCourse (w.users.put row)) :
    w.Takes moving id { w with users := w.users.put row } where
  evolves := { World.Evolves.refl moving w with users := husers }
  unused _ hapart := unused_putUser (hapart row.id hid)

/-- **A registration inserts an unverified user.** -/
theorem step_insertUser (hw : w.Intact) (hstatus : user.status = .pending_verification)
    (hunused : w.Unused user.userId)
    (h : UserRepository.table.Writes savedAt (UserRepository.toOrm user) w row) :
    w.Step moving user.userId { w with users := w.users.put row } := by
  obtain ⟨hstored, hid⟩ := h.inserts (List.mem_singleton.mpr rfl) hunused.users
  have hfree : row.id ∉ w.users.rows.map UserOrmEntity.id := hunused.users row.id hid
  have hfresh : row.status = .pending_verification :=
    (UserOrmEntity.storedAs hstored).status.trans hstatus
  exact ⟨intact_putUser hw h, takes_putUser hid (Table.evolves_put_fresh hfree hfresh)⟩

/-- What the columns make of the dates of a row. -/
theorem UserOrmEntity.emailVerifiedAt_of_stored {row row' : UserOrmEntity}
    (h : row.stored = some row') :
    Pg.nullable Pg.timestamptz row.emailVerifiedAt = some row'.emailVerifiedAt := by
  obtain ⟨_, -, h⟩ := Option.bind_eq_some_iff.mp h
  obtain ⟨_, -, h⟩ := Option.bind_eq_some_iff.mp h
  obtain ⟨_, -, h⟩ := Option.bind_eq_some_iff.mp h
  obtain ⟨_, -, h⟩ := Option.bind_eq_some_iff.mp h
  obtain ⟨_, -, h⟩ := Option.bind_eq_some_iff.mp h
  obtain ⟨_, hverified, h⟩ := Option.bind_eq_some_iff.mp h
  obtain rfl := Option.some.inj h
  exact hverified

/-- A login that is recorded on what a row was writes back what the row has
become, the login apart. -/
theorem becomes_recordLogin {held current : UserOrmEntity} (hheld : held.Regular)
    (hdomain : UserRepository.toDomain held = .ok user) (hbecomes : held.Becomes current)
    (hcurrent : current ∈ w.users.rows)
    (h : UserRepository.table.Writes savedAt (UserRepository.toOrm (user.recordLogin now)) w row) :
    row.id = current.id ∧ current.Becomes row := by
  have horm : UserRepository.toOrm (user.recordLogin now) =
      { held with lastLoginAt := some now, createdAt := none, updatedAt := none } := by
    have hlogin : UserRepository.toOrm (user.recordLogin now) =
        { UserRepository.toOrm user with lastLoginAt := some now } := rfl
    rw [hlogin, UserRepository.toOrm_of_toDomain hheld hdomain]
  rw [horm] at h
  obtain ⟨stored, hstored, hrow, hkey⟩ := h.updates (List.mem_singleton.mpr rfl) hcurrent
    (hbecomes.id ▸ hheld.columns.id)
  have hcolumns := UserOrmEntity.storedAs hstored
  have hverified := UserOrmEntity.emailVerifiedAt_of_stored hstored
  have hemail : stored.email = held.email :=
    Option.some.inj (hcolumns.email.symm.trans hheld.columns.email)
  have hhash : stored.passwordHash = held.passwordHash :=
    Option.some.inj (hcolumns.passwordHash.symm.trans hheld.columns.passwordHash)
  have hname : stored.displayName = held.displayName :=
    Option.some.inj (hcolumns.displayName.symm.trans hheld.columns.displayName)
  have hdate : stored.emailVerifiedAt = held.emailVerifiedAt :=
    Option.some.inj (hverified.symm.trans hheld.columns.emailVerifiedAt)
  refine ⟨hkey, ⟨hkey, ?_, ?_, ?_, ?_, ?_, ?_⟩⟩
  · rw [hrow]
    exact hemail.trans hbecomes.email.symm
  · rw [hrow]
    exact hhash.trans hbecomes.passwordHash.symm
  · rw [hrow]
    exact hname.trans hbecomes.displayName.symm
  · rw [hrow]
    exact hcolumns.status.trans hbecomes.status.symm
  · rw [hrow]
    show stored.emailVerifiedAt.or current.emailVerifiedAt = current.emailVerifiedAt
    rw [hdate, hbecomes.emailVerifiedAt, Option.or_self]
  · rw [hrow]
    rfl

/-- **A login writes the login and nothing else.** -/
theorem step_recordLogin {id : String} {held current : UserOrmEntity} (hw : w.Intact)
    (hheld : held.Regular) (hdomain : UserRepository.toDomain held = .ok user)
    (hbecomes : held.Becomes current) (hcurrent : current ∈ w.users.rows)
    (h : UserRepository.table.Writes savedAt (UserRepository.toOrm (user.recordLogin now)) w row) :
    w.Step moving id { w with users := w.users.put row } := by
  obtain ⟨hkey, hrow⟩ := becomes_recordLogin hheld hdomain hbecomes hcurrent h
  refine ⟨intact_putUser hw h, ?_, fun id' _ hunused => unused_putUser ?_ hunused⟩
  · exact { World.Evolves.refl moving w with users := Table.evolves_put hcurrent hrow }
  · intro hid'
    exact hunused.users row.id hid' (hkey ▸ List.mem_map_of_mem hcurrent)

end Users

/-! ## Organizations -/

/- Two commands may hold copies of one row.  Whichever writes last decides on name, plan
and status; the columns of `SameRoot` are the same in every copy. -/

section Organizations

variable {savedAt : Js.Date} {org org' : OrganizationAggregate} {table : OrganizationTable}

/-- The columns that no command changes. -/
structure OrganizationAggregate.SameRoot (org org' : OrganizationAggregate) : Prop where
  organizationId : org'.organizationId = org.organizationId
  slug : org'.slug = org.slug
  ownerId : org'.ownerId = org.ownerId
  provisionedAt : org'.provisionedAt = org.provisionedAt
  settings : org'.settings = org.settings
  createdAt : org'.createdAt = org.createdAt

/-- The settings are stored as jsonb has them, the date of creation as it is. -/
theorem OrganizationOrmEntity.rest_of_stored {row row' : OrganizationOrmEntity}
    (h : row.stored = some row') :
    Pg.jsonObject row.settings = some row'.settings ∧ row'.createdAt = row.createdAt := by
  obtain ⟨_, -, h⟩ := Option.bind_eq_some_iff.mp h
  obtain ⟨_, -, h⟩ := Option.bind_eq_some_iff.mp h
  obtain ⟨_, -, h⟩ := Option.bind_eq_some_iff.mp h
  obtain ⟨_, -, h⟩ := Option.bind_eq_some_iff.mp h
  obtain ⟨_, -, h⟩ := Option.bind_eq_some_iff.mp h
  obtain ⟨settings, hsettings, h⟩ := Option.bind_eq_some_iff.mp h
  obtain ⟨createdAt, hcreated, h⟩ := Option.bind_eq_some_iff.mp h
  obtain ⟨_, -, h⟩ := Option.bind_eq_some_iff.mp h
  obtain rfl := Option.some.inj h
  exact ⟨hsettings, Pg.timestamptz_eq hcreated⟩

/-- An organization is saved only for an owner there is. -/
theorem intact_saveOrganization (hw : w.Intact)
    (h : Typeorm.saveRow OrganizationOrmEntity.stored OrganizationRepository.merge
      (OrganizationRepository.allowed w) w.organizations
      { OrganizationMapper.toOrm org with updatedAt := savedAt } = some table) :
    { w with organizations := table }.Intact where
  consistent := OrganizationRepository.consistent_save hw.consistent h
  owners := by
    obtain ⟨stored, row, -, hallowed, rfl, -⟩ := Typeorm.saveRow_cases h
    refine forall_put hw.owners ?_
    obtain ⟨howner, -⟩ := Bool.and_eq_true_iff.mp hallowed
    obtain ⟨user, huser, hid⟩ := List.any_eq_true.mp howner
    exact ⟨user, huser, by simpa using hid⟩
  definitions := hw.definitions
  executions := hw.executions
  defined := hw.defined

/-- An organization takes no id but its own. -/
theorem unused_putOrganization {id' : String} {row : OrganizationOrmEntity}
    (hid : Pg.uuid id' ≠ some row.id) (h : w.Unused id') :
    { w with organizations := w.organizations.put row }.Unused id' where
  users := h.users
  organizations k hk := by
    rw [Table.mem_keys_put]
    rintro (rfl | hold)
    · exact hid hk
    · exact h.organizations k hk hold
  workflowExecutions := h.workflowExecutions

/-- **A creation inserts an organization that is not provisioned.** -/
theorem step_insertOrganization (hw : w.Intact) (hstatus : org.status = .PROVISIONING)
    (hunused : w.Unused org.organizationId)
    (h : Typeorm.saveRow OrganizationOrmEntity.stored OrganizationRepository.merge
      (OrganizationRepository.allowed w) w.organizations
      { OrganizationMapper.toOrm org with updatedAt := savedAt } = some table) :
    w.Step moving org.organizationId { w with organizations := table } := by
  have hintact := intact_saveOrganization hw h
  obtain ⟨stored, row, hstored, -, rfl, hmerged⟩ := Typeorm.saveRow_cases h
  have hcolumns := OrganizationOrmEntity.storedAs hstored
  have hfree : stored.id ∉ w.organizations.rows.map OrganizationOrmEntity.id :=
    hunused.organizations stored.id hcolumns.id
  obtain rfl : row = stored := by
    rcases hmerged with ⟨-, hrow⟩ | ⟨old, hold, -⟩
    · exact hrow
    · exact absurd (List.mem_map.mpr ⟨old, Table.mem_of_find? hold, Table.key_of_find? hold⟩) hfree
  have hfresh : row.status = .PROVISIONING := hcolumns.status.trans hstatus
  refine ⟨hintact, ?_, fun id' hapart => unused_putOrganization (hapart row.id hcolumns.id)⟩
  exact { World.Evolves.refl moving w with
    organizations := Table.evolves_put_fresh hfree hfresh }

/-- What a row has become is what a command on the row it was writes back, but
for the name, the plan and the status. -/
theorem becomes_saveOrganization {held current stored row : OrganizationOrmEntity}
    (hheld : held.Regular) (hdomain : OrganizationMapper.toDomain held = .ok org)
    (hsame : org.SameRoot org') (hbecomes : held.Becomes moving current)
    (hstatus : StatusKept (moving held.id) held.status org'.status)
    (hstored : OrganizationOrmEntity.stored
      { OrganizationMapper.toOrm org' with updatedAt := savedAt } = some stored)
    (hrow : row = OrganizationRepository.merge current stored) :
    current.Becomes moving row := by
  obtain ⟨slug, hslug⟩ := hheld.slug
  obtain ⟨held', hheld', horm⟩ := OrganizationMapper.toDomain_of_slug held slug hslug
  obtain rfl := Except.ok.inj (hdomain.symm.trans hheld')
  have hcolumns := OrganizationOrmEntity.storedAs hstored
  obtain ⟨hsettings, hcreated⟩ := OrganizationOrmEntity.rest_of_stored hstored
  have hid : stored.id = held.id := by
    refine Option.some.inj (hcolumns.id.symm.trans ?_)
    rw [show (OrganizationMapper.toOrm org').id = held.id from
      hsame.organizationId.trans (congrArg OrganizationOrmEntity.id horm)]
    exact hheld.columns.id
  have hslug' : stored.slug = held.slug := by
    refine Option.some.inj (hcolumns.slug.symm.trans ?_)
    rw [show (OrganizationMapper.toOrm org').slug = held.slug from
      (congrArg TenantSlug.value hsame.slug).trans (congrArg OrganizationOrmEntity.slug horm)]
    exact hheld.columns.slug
  have howner : stored.ownerId = held.ownerId := by
    refine Option.some.inj (hcolumns.ownerId.symm.trans ?_)
    rw [show (OrganizationMapper.toOrm org').ownerId = held.ownerId from
      hsame.ownerId.trans (congrArg OrganizationOrmEntity.ownerId horm)]
    exact hheld.columns.ownerId
  have hprovisioned : stored.provisionedAt = held.provisionedAt :=
    hcolumns.provisionedAt.trans
      (hsame.provisionedAt.trans (congrArg OrganizationOrmEntity.provisionedAt horm))
  have hsettings' : stored.settings = held.settings := by
    refine Option.some.inj (hsettings.symm.trans ?_)
    rw [show (OrganizationMapper.toOrm org').settings = held.settings from
      hsame.settings.trans (congrArg OrganizationOrmEntity.settings horm)]
    exact hheld.columns.settings
  subst hrow
  refine ⟨hid.trans hbecomes.id.symm, hslug'.trans hbecomes.slug.symm,
    howner.trans hbecomes.ownerId.symm, ?_, ?_, ?_, ?_⟩
  · show StatusKept (moving current.id) current.status stored.status
    rw [hbecomes.id, hcolumns.status]
    exact hbecomes.status.symm.trans hstatus
  · show stored.provisionedAt.or current.provisionedAt = current.provisionedAt
    rw [hprovisioned, hbecomes.provisionedAt, Option.or_self]
  · exact hsettings'.trans hbecomes.settings.symm
  · exact hcreated.trans ((hsame.createdAt.trans
      (congrArg OrganizationOrmEntity.createdAt horm)).trans hbecomes.createdAt.symm)

/-- **A command on an organization changes its name, its plan and its status.** -/
theorem step_saveOrganization {id : String} {held current : OrganizationOrmEntity}
    (hw : w.Intact) (hheld : held.Regular)
    (hdomain : OrganizationMapper.toDomain held = .ok org) (hsame : org.SameRoot org')
    (hbecomes : held.Becomes moving current) (hcurrent : current ∈ w.organizations.rows)
    (hstatus : StatusKept (moving held.id) held.status org'.status)
    (h : Typeorm.saveRow OrganizationOrmEntity.stored OrganizationRepository.merge
      (OrganizationRepository.allowed w) w.organizations
      { OrganizationMapper.toOrm org' with updatedAt := savedAt } = some table) :
    w.Step moving id { w with organizations := table } := by
  have hintact := intact_saveOrganization hw h
  obtain ⟨stored, row, hstored, -, rfl, hmerged⟩ := Typeorm.saveRow_cases h
  have hid : stored.id = current.id := by
    refine Option.some.inj ((OrganizationOrmEntity.storedAs hstored).id.symm.trans ?_)
    obtain ⟨-, horganization, -⟩ := OrganizationMapper.toDomain_cases hdomain
    rw [show (OrganizationMapper.toOrm org').id = held.id from
      hsame.organizationId.trans horganization, hheld.columns.id, hbecomes.id]
  have hrow : row = OrganizationRepository.merge current stored := by
    have hfind := w.organizations.find?_key hcurrent
    rw [← hid] at hfind
    rcases hmerged with ⟨hnone, -⟩ | ⟨old, hold, hrow⟩
    · rw [hfind] at hnone
      cases hnone
    · rwa [Option.some.inj (hold.symm.trans hfind)] at hrow
  have hnext := becomes_saveOrganization hheld hdomain hsame hbecomes hstatus hstored hrow
  refine ⟨hintact, ?_, fun id' _ hunused => unused_putOrganization ?_ hunused⟩
  · exact { World.Evolves.refl moving w with organizations := Table.evolves_put hcurrent hnext }
  · intro hid'
    exact hunused.organizations row.id hid' (hnext.id ▸ List.mem_map_of_mem hcurrent)

end Organizations

/-! ## Executions -/

/- An execution is written twice in its life: when it is triggered, under a fresh id, and
when it is cancelled.  By the time a cancellation is saved another one may have cancelled
the row, and `Becomes` has a case for that. -/

section Executions

variable {savedAt now : Js.Date} {row : WorkflowExecutionOrmEntity}

/-- What is merged into a row is kept by the columns. -/
theorem kept_merge {old row : WorkflowExecutionOrmEntity} (hold : old.Kept) (hrow : row.Kept) :
    (WorkflowExecutionRepository.merge old row).Kept where
  id := hrow.id
  definitionId := hrow.definitionId
  tenantId := hrow.tenantId
  correlationId := hrow.correlationId
  triggeredBy := hrow.triggeredBy
  input := hrow.input
  stepResults := hrow.stepResults
  startedAt := Pg.nullable_or hrow.startedAt hold.startedAt
  completedAt := Pg.nullable_or hrow.completedAt hold.completedAt
  durationMs := by
    show ∃ v, Pg.nullable Pg.int4 (row.durationMs.or old.durationMs) = some v
    have hduration := hrow.durationMs
    cases hrow : row.durationMs with
    | none => exact hold.durationMs
    | some n =>
        rw [hrow] at hduration
        exact hduration
  errorMessage := Pg.nullable_or hrow.errorMessage hold.errorMessage

/-- An execution of a definition of its tenant leaves an intact database. -/
theorem intact_putExecution (hw : w.Intact) (hkept : row.Kept)
    (hdefined : ∃ definition ∈ w.workflowDefinitions.rows,
      definition.id = row.definitionId ∧ definition.tenantId = row.tenantId) :
    { w with workflowExecutions := w.workflowExecutions.put row }.Intact where
  consistent := hw.consistent.congr rfl rfl
  owners := hw.owners
  definitions := hw.definitions
  executions := forall_put hw.executions hkept
  defined := forall_put hw.defined hdefined

/-- An execution takes no id but its own. -/
theorem unused_putExecution {id' : String} (hid : Pg.uuid id' ≠ some row.id) (h : w.Unused id') :
    { w with workflowExecutions := w.workflowExecutions.put row }.Unused id' where
  users := h.users
  organizations := h.organizations
  workflowExecutions k hk := by
    rw [Table.mem_keys_put]
    rintro (rfl | hold)
    · exact hid hk
    · exact h.workflowExecutions k hk hold

/-- **A trigger inserts a pending execution of the tenant's own definition.** -/
theorem step_insertExecution {execution : WorkflowExecutionEntity}
    {definition : WorkflowDefinitionOrmEntity} (hw : w.Intact)
    (hstatus : execution.status = .pending) (hunused : w.Unused execution.executionId)
    (hdefinition : definition ∈ w.workflowDefinitions.rows)
    (hdefined : execution.definitionId = definition.id)
    (htenant : Pg.uuid execution.tenantId = some definition.tenantId)
    (h : WorkflowExecutionRepository.table.Writes savedAt
      (WorkflowExecutionRepository.toOrm execution) w row) :
    w.Step moving execution.executionId
      { w with workflowExecutions := w.workflowExecutions.put row } := by
  obtain ⟨hstored, hid⟩ := h.inserts List.mem_cons_self hunused.workflowExecutions
  have hcolumns := WorkflowExecutionOrmEntity.storedAs hstored
  have hfree : row.id ∉ w.workflowExecutions.rows.map WorkflowExecutionOrmEntity.id :=
    hunused.workflowExecutions row.id hid
  have hrow : definition.id = row.definitionId := by
    have hnormal : Pg.uuid execution.definitionId = some definition.id :=
      hdefined ▸ hw.definitions definition hdefinition
    exact Option.some.inj (hnormal.symm.trans hcolumns.definitionId)
  have hrowTenant : definition.tenantId = row.tenantId :=
    Option.some.inj (htenant.symm.trans hcolumns.tenantId)
  have hfresh : row.status = .pending ∨ row.status = .cancelled :=
    .inl (hcolumns.status.trans hstatus)
  refine ⟨intact_putExecution hw (WorkflowExecutionOrmEntity.kept_of_stored hstored)
    ⟨definition, hdefinition, hrow, hrowTenant⟩, ?_,
    fun id' hapart => unused_putExecution (hapart row.id hid)⟩
  exact { World.Evolves.refl moving w with
    workflowExecutions := Table.evolves_put_fresh hfree hfresh }

/-- What a row has become is what a cancellation of the row it was writes back,
but for the cancellation. -/
theorem becomes_cancel {held current stored : WorkflowExecutionOrmEntity} {reason : Option String}
    (hheld : held.Kept) (hlive : WorkflowExecutionEntity.isTerminal held.status = false)
    (hbecomes : held.Becomes current)
    (hstored : WorkflowExecutionOrmEntity.stored
      { held.cancelled now savedAt reason with createdAt := some savedAt } = some stored) :
    current.Becomes (WorkflowExecutionRepository.merge current stored) := by
  have hcolumns := WorkflowExecutionOrmEntity.storedAs hstored
  have hstarted : stored.startedAt = held.startedAt :=
    Option.some.inj (hcolumns.startedAt.symm.trans hheld.startedAt)
  have hcancelled : stored.status = .cancelled := hcolumns.status
  refine {
    id := (Option.some.inj (hcolumns.id.symm.trans hheld.id)).trans hbecomes.id.symm
    definitionId := (Option.some.inj (hcolumns.definitionId.symm.trans hheld.definitionId)).trans
      hbecomes.definitionId.symm
    tenantId := (Option.some.inj (hcolumns.tenantId.symm.trans hheld.tenantId)).trans
      hbecomes.tenantId.symm
    correlationId :=
      (Option.some.inj (hcolumns.correlationId.symm.trans hheld.correlationId)).trans
        hbecomes.correlationId.symm
    triggeredBy := (Option.some.inj (hcolumns.triggeredBy.symm.trans hheld.triggeredBy)).trans
      hbecomes.triggeredBy.symm
    triggerType := ?_
    input := (Option.some.inj (hcolumns.input.symm.trans hheld.input)).trans hbecomes.input.symm
    stepResults := (Option.some.inj (hcolumns.stepResults.symm.trans hheld.stepResults)).trans
      hbecomes.stepResults.symm
    startedAt := ?_
    createdAt := rfl
    status := ?_
    finished := ?_ }
  · exact (WorkflowExecutionOrmEntity.triggerType_of_stored hstored).trans
      hbecomes.triggerType.symm
  · show stored.startedAt.or current.startedAt = current.startedAt
    rw [hstarted, hbecomes.startedAt, Option.or_self]
  · rcases hbecomes.status with hsame | ⟨-, hover⟩
    · exact .inr ⟨hsame ▸ hlive, hcancelled⟩
    · exact .inl (hcancelled.trans hover.symm)
  · -- what was read was not over, and a request only cancels
    intro hfinished
    rcases hbecomes.status with hsame | ⟨-, hover⟩
    · rw [← hsame] at hlive
      rcases hfinished with h | h <;> rw [h] at hlive <;> cases hlive
    · rcases hfinished with h | h <;> rw [h] at hover <;> cases hover

/-- **A cancellation cancels an execution that is not over.** -/
theorem step_cancelExecution {id : String} {held current : WorkflowExecutionOrmEntity}
    {loadedAt : Js.Date} {reason : Option String} {cancelled : WorkflowExecutionEntity}
    (hw : w.Intact) (hheld : held.Kept)
    (hcancel : (WorkflowExecutionRepository.toDomain loadedAt held).cancel now reason =
      .ok cancelled) (hbecomes : held.Becomes current)
    (hcurrent : current ∈ w.workflowExecutions.rows)
    (h : WorkflowExecutionRepository.table.Writes savedAt
      (WorkflowExecutionRepository.toOrm cancelled) w row) :
    w.Step moving id { w with workflowExecutions := w.workflowExecutions.put row } := by
  obtain ⟨hlive, hid, -⟩ := WorkflowExecutionEntity.cancel_cases hcancel
  have hkey : Pg.uuid cancelled.executionId = some current.id := by
    rw [hid, hbecomes.id]
    exact hheld.id
  obtain ⟨stored, hstored, rfl, -⟩ := h.updates List.mem_cons_self hcurrent hkey
  rw [CancelWorkflowExecutionHandler.toOrm_cancel hcancel] at hstored
  have hnext := becomes_cancel hheld hlive hbecomes hstored
  have hkept := kept_merge (hw.executions current hcurrent)
    (WorkflowExecutionOrmEntity.kept_of_stored hstored)
  obtain ⟨definition, hdefinition, hdefined, htenant⟩ := hw.defined current hcurrent
  refine ⟨intact_putExecution hw hkept ⟨definition, hdefinition,
    hdefined.trans hnext.definitionId.symm, htenant.trans hnext.tenantId.symm⟩, ?_,
    fun id' _ hunused => unused_putExecution ?_ hunused⟩
  · exact { World.Evolves.refl moving w with
      workflowExecutions := Table.evolves_put hcurrent hnext }
  · intro hid'
    exact hunused.workflowExecutions _ hid' (hnext.id ▸ List.mem_map_of_mem hcurrent)

end Executions

/-! ## The audit log and the outbox -/

/-- Audit events are added at the end. -/
theorem step_insertAudit {id : String} {table : AuditEventTable}
    {rows : List AuditEventOrmEntity} (hw : w.Intact)
    (h : w.auditEvents.insertAll? rows = some table) :
    w.Step moving id { w with auditEvents := table } where
  intact := {
    consistent := hw.consistent.congr rfl rfl
    owners := hw.owners
    definitions := hw.definitions
    executions := hw.executions
    defined := hw.defined }
  takes := {
    evolves := { World.Evolves.refl moving w with
      auditEvents := Table.rows_of_insertAll? h ▸ List.prefix_append _ _ }
    unused _ _ hunused := ⟨hunused.users, hunused.organizations, hunused.workflowExecutions⟩ }

/-- What is published goes to the end of the outbox, if anywhere. -/
theorem prefix_entryWritten (otherDates : String → Option Js.Date) (table : OutboxTable)
    (publication : Publication) :
    table.rows <+: (ForwardingEventBus.entryWritten otherDates table publication).rows := by
  have happend : ∀ entry, table.rows <+:
      ((OutboxEntryRepository.append table entry).getD table).rows := by
    intro entry
    cases hrow : (OutboxEntryRepository.toOrm entry).stored with
    | none => simp [OutboxEntryRepository.append, hrow]
    | some row =>
        cases hinsert : table.insert? row with
        | none => simp [OutboxEntryRepository.append, hrow, hinsert]
        | some table' =>
            simp only [OutboxEntryRepository.append, hrow, Option.bind_some, hinsert,
              Option.getD_some, Table.rows_of_insert? hinsert]
            exact List.prefix_append _ _
  unfold ForwardingEventBus.entryWritten
  split
  · rw [ForwardingEventBus.writeToOutbox]
    cases Js.newDate otherDates publication.event.occurredAt with
    | none => exact List.prefix_refl _
    | some occurredAt => exact happend _
  · exact List.prefix_refl _

/-- An outbox entry is added at the end, or refused. -/
theorem step_writeEntry {id : String} (otherDates : String → Option Js.Date)
    (publication : Publication) (hw : w.Intact) :
    w.Step moving id { w with
      outboxEntries :=
        ForwardingEventBus.entryWritten otherDates w.outboxEntries publication } where
  intact := {
    consistent := hw.consistent.congr rfl rfl
    owners := hw.owners
    definitions := hw.definitions
    executions := hw.executions
    defined := hw.defined }
  takes := {
    evolves := { World.Evolves.refl moving w with
      outboxEntries := prefix_entryWritten otherDates _ publication }
    unused _ _ hunused := ⟨hunused.users, hunused.organizations, hunused.workflowExecutions⟩ }

end Atlas
