import Atlas.Requests.Answers
import Atlas.Requests.Threads
import Atlas.Requests.Writes

/-!
# Atlas.Requests.Soundness

Every handler is sound between the steps of others: it keeps the database
intact, it takes it one step of `World.Evolves` at a time, and it uses no id
but the one it generated.

`moving` holds the ids of the organizations that may be suspended meanwhile;
`SuspendOrganizationHandler` is sound where its organization is one of them, or
is not active anyway.
-/

namespace Atlas

open StoreKit StoreKit.Program TenantAwareRepository

/-- A handler that keeps to the steps of `World.Step`, and ends in `Q` or `E`. -/
abbrev Sound (moving : String → Prop) (id : String) {α : Type} (Q : α → World → Prop)
    (E : Exception → World → Prop) (t : Handler α) (w : World) : Prop :=
  t.Sound World.Intact (World.Spares moving id) (World.Takes moving id) Q E w

def World.tables (w : World) : UserTable × OrganizationTable × WorkflowDefinitionTable ×
    WorkflowExecutionTable × AuditEventTable × OutboxTable :=
  (w.users, w.organizations, w.workflowDefinitions, w.workflowExecutions, w.auditEvents,
    w.outboxEntries)

/-- Tables that are equal are the same. -/
theorem World.sameTables_of_tables {w w' : World} (h : w'.tables = w.tables) : w.SameTables w' := by
  simp only [World.tables, Prod.mk.injEq] at h
  obtain ⟨husers, horganizations, hdefinitions, hexecutions, haudit, houtbox⟩ := h
  exact ⟨husers, horganizations, hdefinitions, hexecutions, haudit, houtbox⟩

/-- What a program that only reads leaves alone: all but the tenants it asks for. -/
def World.lasting (w : World) : World := { w with tenants := [] }

/-- A program that only reads. -/
abbrev Reads {α : Type} (m : App α) : Prop := Leaves World.lasting m

/-- A query leaves the tables alone. -/
theorem Reads.tables {α : Type} {m : App α} (hm : Reads m) : Leaves World.tables m :=
  hm.part World.tables

/-- An id that no table holds is free as long as they stay. -/
theorem World.SameTables.unused {w w' : World} (h : w.SameTables w') {id : String}
    (hunused : w.Unused id) : w'.Unused id :=
  ⟨h.users ▸ hunused.users, h.organizations ▸ hunused.organizations,
    h.workflowExecutions ▸ hunused.workflowExecutions⟩

/-- Tables that stay take no id. -/
theorem World.SameTables.spares {w w' : World} (h : w.SameTables w') (moving : String → Prop)
    (id : String) : w.Spares moving id w' :=
  ⟨(h.takes moving id).evolves, h.unused⟩

/-- What is taken after a query is taken. -/
theorem World.Takes.after {moving : String → Prop} {id : String} {u v w : World}
    (h : u.SameTables v) (h' : v.Takes moving id w) : u.Takes moving id w :=
  ⟨(h.takes moving id).evolves.trans h'.evolves,
    fun id' hapart hunused => h'.unused id' hapart (h.unused hunused)⟩

/-- A step after a query is a step. -/
theorem World.Step.after {moving : String → Prop} {id : String} {u v w : World}
    (h : u.SameTables v) (h' : v.Step moving id w) : u.Step moving id w :=
  ⟨h'.intact, h'.takes.after h⟩

section Rules

variable {moving : String → Prop} {id : String} {α β : Type} {Q : α → World → Prop}
  {E : Exception → World → Prop} {w : World}

/-- A program that is awaited, by what it does. -/
theorem sound_call {m : App β} {f : β → Handler α}
    (h : ∀ w', w'.Intact → w.Spares moving id w' →
      (∃ e w'', m.run w' = (.error e, w'') ∧ w'.Step moving id w'' ∧ E e w'') ∨
      ∃ b w'', m.run w' = (.ok b, w'') ∧ w'.Step moving id w'' ∧ Sound moving id Q E (f b) w'') :
    Sound moving id Q E (Thread.call m >>= f) w := by
  refine Thread.Sound.bind (Thread.Sound.await fun w' hw' hspares => ?_)
  rcases h w' hw' hspares with ⟨e, w'', hrun, hstep, hend⟩ | ⟨b, w'', hrun, hstep, hend⟩
  · exact .inl ⟨e, w'', hrun, hstep.intact, hstep.takes, hend⟩
  · exact .inr ⟨b, w'', hrun, hstep.intact, hstep.takes, .pure hend⟩

/-- A program that is awaited and writes, whatever it answers. -/
theorem sound_step {m : App β} {f : β → Handler α}
    (h : ∀ w', w'.Intact → w.Spares moving id w' → w'.Step moving id (m.run w').2 ∧
      (∀ b w'', m.run w' = (.ok b, w'') → Sound moving id Q E (f b) w'') ∧
      ∀ e w'', m.run w' = (.error e, w'') → E e w'') :
    Sound moving id Q E (Thread.call m >>= f) w := by
  refine sound_call fun w' hw' hspares => ?_
  obtain ⟨hstep, hok, herr⟩ := h w' hw' hspares
  cases hrun : m.run w' with
  | mk r w'' =>
      rw [hrun] at hstep
      cases r with
      | error e => exact .inl ⟨e, w'', rfl, hstep, herr e w'' hrun⟩
      | ok b => exact .inr ⟨b, w'', rfl, hstep, hok b w'' hrun⟩

/-- A calculation goes on with its value. -/
theorem sound_lift {x : Except Exception β} {f : β → Handler α}
    (hok : ∀ b, x = .ok b → Sound moving id Q E (f b) w) (herr : ∀ e, x = .error e → E e w) :
    Sound moving id Q E (Thread.lift x >>= f) w :=
  Thread.Sound.bind (Thread.Sound.lift hok herr)

/-- A program that leaves the tables as they are. -/
theorem sound_tables {m : App β} {f : β → Handler α} (hm : Leaves World.tables m)
    (hok : ∀ b w' w'', w'.Intact → w.Spares moving id w' → w'.SameTables w'' →
      m.run w' = (.ok b, w'') → Sound moving id Q E (f b) w'')
    (herr : ∀ e w', E e w') : Sound moving id Q E (Thread.call m >>= f) w := by
  refine sound_call fun w' hw' hspares => ?_
  have hsame := World.sameTables_of_tables (hm.part_eq w')
  cases hrun : m.run w' with
  | mk r w'' =>
      rw [hrun] at hsame
      cases r with
      | error e => exact .inl ⟨e, w'', rfl, hsame.step hw' moving id, herr e w''⟩
      | ok b =>
          exact .inr ⟨b, w'', rfl, hsame.step hw' moving id,
            hok b w' w'' hw' hspares hsame hrun⟩

/-- **A query is sound**: what it answers holds of the tables it read, which
others may change by the next step. -/
theorem sound_read {m : App β} {f : β → Handler α} (hm : Reads m)
    (hok : ∀ b w' w'', w'.Intact → w.Spares moving id w' → w'.SameTables w'' →
      m.run w' = (.ok b, w'') → Sound moving id Q E (f b) w'')
    (herr : ∀ e w', E e w') : Sound moving id Q E (Thread.call m >>= f) w :=
  sound_tables hm.tables hok herr

/-- A branch is sound if the side it takes is. -/
theorem sound_ite {c : Prop} [Decidable c] {t u : Handler α}
    (ht : c → Sound moving id Q E t w) (hu : ¬ c → Sound moving id Q E u w) :
    Sound moving id Q E (if c then t else u) w := by
  split
  · next hc => exact ht hc
  · next hc => exact hu hc

/-- A handler that does nothing but read. -/
theorem sound_program {m : App α} (hm : Reads m) (hQ : ∀ a w', Q a w')
    (hE : ∀ e w', E e w') : Sound moving id Q E (Thread.call m) w := by
  refine Thread.Sound.await fun w' hw' _ => ?_
  have hsame := World.sameTables_of_tables (hm.tables.part_eq w')
  cases hrun : m.run w' with
  | mk r w'' =>
      rw [hrun] at hsame
      have hstep := hsame.step hw' moving id
      cases r with
      | error e => exact .inl ⟨e, w'', rfl, hstep.intact, hstep.takes, hE e w''⟩
      | ok a => exact .inr ⟨a, w'', rfl, hstep.intact, hstep.takes, .pure (hQ a w'')⟩

end Rules

/-! ## What only reads -/

/- The look-ups of the handlers.  Each of them leaves the tables as they are, and that is
all `sound_read` needs to know of a query. -/

section Reads

/-- Whether an address is taken is read. -/
theorem reads_existsByEmail (email : String) : Reads (UserRepository.existsByEmail email) :=
  .bind (leaves_written _) fun _ => .gets _

/-- The mapping of a row reads nothing. -/
theorem reads_foundAs {ρ α : Type} (toDomain : ρ → Except Exception α) (orm : Option ρ) :
    Reads (foundAs toDomain orm) := by
  cases orm with
  | some orm => exact .bind (.lift _) fun _ => .pure _
  | none => exact .pure none

/-- A user is read by address. -/
theorem reads_findByEmail (email : String) : Reads (UserRepository.findByEmail email) :=
  .bind (leaves_written _) fun _ => .bind (.gets _) fun _ => reads_foundAs _ _

/-- Whether a slug is taken is read. -/
theorem reads_existsBySlug (slug : String) : Reads (OrganizationRepository.existsBySlug slug) :=
  .bind (leaves_written _) fun _ => .gets _

/-- The organization of a login is read, by slug or by owner. -/
theorem reads_resolveOrganization (ties : Typeorm.Arrangement OrganizationOrmEntity)
    (userId : String) (organizationSlug : Option String) :
    Reads (AuthenticateHandler.resolveOrganization ties userId organizationSlug) := by
  unfold AuthenticateHandler.resolveOrganization
  cases Js.truthy organizationSlug with
  | some slug =>
      exact .bind (leaves_written _) fun _ => .bind (.gets _) fun _ => reads_foundAs _ _
  | none =>
      exact .bind (leaves_uuidParameter _) fun _ => .bind (.gets _) fun _ => reads_foundAs _ _

/-- An organization is read by id. -/
theorem reads_findOrganization (ctx : Option String) (id : String) :
    Reads (OrganizationRepository.findById ctx id) := by
  refine .bind (leaves_guardTenant (fun _ _ => rfl) _ _ _ _) fun _ =>
    .bind (leaves_uuidParameter id) fun _ => .bind (.gets _) fun orm => ?_
  cases orm with
  | some orm => exact .bind (.lift _) fun _ => .pure _
  | none => exact .pure none

/-- A definition is read by id. -/
theorem reads_findDefinition (ctx : Option String) (loadedAt : Js.Date) (id : String) :
    Reads (WorkflowDefinitionRepository.findById ctx loadedAt id) :=
  .bind (leaves_scopedWhere (fun _ _ => rfl) _ _ _) fun _ =>
    .bind (leaves_findOne _ _ _ _) fun _ => .pure _

/-- An execution is read by id. -/
theorem reads_findExecution (ctx : Option String) (loadedAt : Js.Date) (id : String) :
    Reads (WorkflowExecutionRepository.findById ctx loadedAt id) :=
  .bind (leaves_scopedWhere (fun _ _ => rfl) _ _ _) fun _ =>
    .bind (leaves_findOne _ _ _ _) fun _ => .pure _

/-- A page of executions is read. -/
theorem reads_findMany (ctx : Option String) (ties : Typeorm.Arrangement WorkflowExecutionOrmEntity)
    (loadedAt : Js.Date) (status : Option WorkflowExecutionStatus) (options : PaginationOptions) :
    Reads (WorkflowExecutionRepository.findMany ctx ties loadedAt status options) :=
  .bind (leaves_requireTenantId (fun _ _ => rfl) _ _) fun _ => .bind (.lift _) fun _ =>
    .bind (leaves_uuidParameter _) fun _ => .bind (leaves_getManyAndCount _ _ _ _ _ _ _) fun _ =>
      .pure _

theorem reads_getWorkflowExecution (ctx : Option String) (rt : Runtime)
    (query : GetWorkflowExecutionQuery) :
    Reads (GetWorkflowExecutionHandler.execute ctx rt query) := by
  refine .bind (reads_findExecution ctx rt.loadedAt query.executionId) fun execution => ?_
  cases execution with
  | none => exact .pure _
  | some execution => exact .pure _

theorem reads_listWorkflowExecutions (ctx : Option String)
    (ties : Typeorm.Arrangement WorkflowExecutionOrmEntity) (rt : Runtime)
    (query : ListWorkflowExecutionsQuery) :
    Reads (ListWorkflowExecutionsHandler.execute ctx ties rt query) :=
  .bind (reads_findMany ctx ties rt.loadedAt query.status _) fun _ => .pure _

end Reads

/-! ## The handlers -/

/- A handler reads, and later writes under an assumption about what it read.  Between the
two the database may evolve, so the assumption is one that `World.Evolves` keeps; the
lemmas on `Becomes` in `Requests.Writes` do the rest. -/

section Handlers

variable {moving : String → Prop} {w : World}

/-- Nothing is said of how a handler ends. -/
abbrev Safe (moving : String → Prop) (id : String) {α : Type} (t : Handler α) (w : World) : Prop :=
  Sound moving id (fun _ _ => True) (fun _ _ => True) t w

/-- An answer is safe. -/
theorem safe_pure (id : String) {α : Type} (a : α) (w : World) : Safe moving id (pure a) w :=
  .pure trivial

/-- A publish adds to the outbox and to what is published, and is safe beside all
others. -/
theorem safe_bus (bus : EventBus) (event : TenantAwareEvent) (id : String) :
    ∀ w, Safe moving id (bus.steps event) w := by
  intro w
  have hinner : Leaves World.tables (ForwardingEventBus.innerPublish bus.inner [event]) :=
    .bind (.lift _) fun _ => .modify fun _ => rfl
  unfold EventBus.steps
  refine sound_ite (fun _ => ?_) fun _ => ?_
  · refine sound_tables hinner (fun _ _ w' _ _ _ _ => ?_) fun _ _ => trivial
    refine Thread.Sound.await fun w'' hw'' _ => .inr ⟨(), _, rfl, ?_⟩
    obtain ⟨hintact, htakes⟩ :=
      @step_writeEntry moving w'' id bus.otherDates ⟨event, bus.attempt⟩ hw''
    exact ⟨hintact, htakes, .pure trivial⟩
  · have hlast : Safe moving id
        (Thread.call (ForwardingEventBus.innerPublish bus.inner [event]) >>= pure) w :=
      sound_tables hinner (fun _ _ _ _ _ _ _ => .pure trivial) fun _ _ => trivial
    rwa [Thread.call_bind] at hlast

/-- What was answered for still holds once it is published. -/
theorem sound_published {id : String} {α : Type} {P : α → World → Prop} {F : World → Prop}
    (hF : ∀ w w', F w → w.Evolves moving w' → F w') {t : Handler Unit} {a : α} {w : World}
    (ht : Safe moving id t w) (hw : F w) (hP : ∀ w', F w' → P a w') :
    Sound moving id P (fun _ _ => True) (t >>= fun _ => pure a) w := by
  have hframe := Thread.Sound.frame (fun s u hs hspares => hF s u hs hspares.evolves)
    (fun s u hs htakes => hF s u hs htakes.evolves) ht hw
  exact Thread.Sound.bind (hframe.weaken (fun _ w' h => .pure (hP w' h.2)) fun _ _ _ => trivial)

section Register

variable (bus : EventBus) (rt : Runtime)

/-- A new user is not verified. -/
theorem status_of_create {bcryptHash : String → String}
    {generateId email password displayName : String} {user : UserAggregate}
    (h : UserAggregate.create bcryptHash generateId email password displayName = .ok user) :
    user.status = .pending_verification := by
  unfold UserAggregate.create at h
  cases hemail : Email.create email with
  | error e =>
      rw [hemail] at h
      cases h
  | ok address =>
      cases hhash : PasswordHash.fromPlaintext bcryptHash password with
      | error e =>
          rw [hemail, hhash] at h
          cases h
      | ok passwordHash =>
          rw [hemail, hhash] at h
          cases h
          rfl

/-- The user that is inserted is the one that is answered. -/
theorem registered_insert {savedAt : Js.Date} {rt : Runtime} {command : RegisterUserCommand}
    {user : UserAggregate} {row : UserOrmEntity} (hgenerated : user.userId = rt.generateId)
    (hemail : Email.create command.email = .ok user.email)
    (hstatus : user.status = .pending_verification) (hunused : w.Unused user.userId)
    (h : UserRepository.table.Writes savedAt (UserRepository.toOrm user) w row) :
    Registered rt command ⟨user.userId, user.email.value, user.displayName⟩
      { w with users := w.users.put row } := by
  obtain ⟨hstored, hid⟩ := h.inserts (List.mem_singleton.mpr rfl) hunused.users
  have hcolumns := UserOrmEntity.storedAs hstored
  have hshort : user.email.value.length ≤ 320 := (Js.length_le _).trans user.email.bounded
  have hcommand : (Email.create command.email).map Email.value = .ok user.email.value := by
    rw [hemail]
    rfl
  exact ⟨hgenerated, hcommand, row, (w.users.mem_put_iff row row).mpr (.inl rfl), hid,
    Pg.varchar_eq hshort hcolumns.email, hcolumns.status.trans hstatus⟩

/-- **A registration is sound**: the look-up of the address may be out of date by
the insert, which the unique index guards. -/
theorem sound_register (bcryptHash : String → String) (command : RegisterUserCommand)
    (hunused : w.Unused rt.generateId) :
    Sound moving rt.generateId (IfOk (Registered rt command)) (fun _ _ => True)
      (RegisterUserHandler.steps bus.steps bcryptHash rt command) w := by
  unfold RegisterUserHandler.steps
  refine sound_read (reads_existsByEmail command.email)
    (fun emailExists w₁ w₂ _ hspares hsame _ => ?_) fun _ _ => trivial
  have hunused₂ := hsame.unused (hspares.unused hunused)
  refine sound_ite (fun _ => .pure trivial) fun _ =>
    sound_lift (fun user huser => ?_) fun _ _ => trivial
  obtain ⟨hid, hemail⟩ := UserAggregate.create_cases huser
  have hstatus := status_of_create huser
  refine sound_call fun w₃ hw₃ hspares₃ => ?_
  rcases UserRepository.save_cases rt.savedAt user w₃ with ⟨e, hsave⟩ | ⟨row, hsave, hwrites⟩
  · have hsame₃ : w₃.SameTables w₃ := ⟨rfl, rfl, rfl, rfl, rfl, rfl⟩
    exact .inl ⟨e, w₃, hsave, hsame₃.step hw₃ moving _, trivial⟩
  · have hunused₃ : w₃.Unused user.userId := hid ▸ hspares₃.unused hunused₂
    have hstep := @step_insertUser moving w₃ rt.savedAt user row hw₃ hstatus hunused₃ hwrites
    rw [hid] at hstep
    have hregistered : Registered rt command ⟨user.userId, user.email.value, user.displayName⟩
        { w₃ with users := w₃.users.put row } :=
      registered_insert hid hemail hstatus hunused₃ hwrites
    exact .inr ⟨user, _, hsave, hstep, sound_published (fun _ _ h => h.evolves)
      (safe_bus bus _ _ _) hregistered fun _ h => h⟩

end Register

/-! ### Organizations -/

/-- Any number of safe publishes is safe. -/
theorem safe_publishAll (publish : TenantAwareEvent → Handler Unit) (id eventType : String)
    (hpublish : ∀ event w, Safe moving id (publish event) w) (events : List DomainEvent) :
    ∀ w, Safe moving id (publishAllSteps publish eventType events) w := by
  induction events with
  | nil => exact fun w => safe_pure id () w
  | cons event events ih =>
      intro w
      refine Thread.Sound.bind ((hpublish _ w).weaken (fun _ w' _ => ih w') fun _ _ h => h)

/-- Nothing is written, or the organization is. -/
theorem provision_run (savedAt : Js.Date) (org : OrganizationAggregate) (w : World) :
    ((OrganizationRepository.provision savedAt org).run w).2 = w ∨
    ∃ table, Typeorm.saveRow OrganizationOrmEntity.stored OrganizationRepository.merge
        (OrganizationRepository.allowed w) w.organizations
        { OrganizationMapper.toOrm org with updatedAt := savedAt } = some table ∧
      ((OrganizationRepository.provision savedAt org).run w).2 =
        { w with organizations := table } := by
  have hsave := OrganizationRepository.saveOrm_run savedAt (OrganizationMapper.toOrm org) w
  split at hsave
  · next table htable =>
      refine .inr ⟨table, htable, ?_⟩
      rw [OrganizationRepository.provision, Program.bind_run_ok hsave, Program.lift_run]
  · exact .inl (by rw [OrganizationRepository.provision, Program.bind_run_error hsave])

/-- Nothing is written, or the organization is. -/
theorem saveOrganization_run (ctx : Option String) (savedAt : Js.Date)
    (org : OrganizationAggregate) (w : World) :
    ((OrganizationRepository.save ctx savedAt org).run w).2 = w.noting ctx ∨
    ∃ table, Typeorm.saveRow OrganizationOrmEntity.stored OrganizationRepository.merge
        (OrganizationRepository.allowed (w.noting ctx)) (w.noting ctx).organizations
        { OrganizationMapper.toOrm org with updatedAt := savedAt } = some table ∧
      ((OrganizationRepository.save ctx savedAt org).run w).2 =
        { w.noting ctx with organizations := table } := by
  rcases guardTenant_cases OrganizationRepository.name ctx org.organizationId _
    (OrganizationRepository.provision savedAt org) w with ⟨e, hrejected⟩ | ⟨-, hrun⟩
  · exact .inl (congrArg Prod.snd hrejected)
  · have hsave : (OrganizationRepository.save ctx savedAt org).run w =
        (OrganizationRepository.provision savedAt org).run (w.noting ctx) := hrun
    rw [hsave]
    exact provision_run savedAt org (w.noting ctx)

/-- What comes back from the repository is what went there, but for the events. -/
theorem saved_cases {savedAt : Js.Date} {org saved : OrganizationAggregate}
    (h : OrganizationMapper.toDomain { OrganizationMapper.toOrm org with updatedAt := savedAt } =
      .ok saved) :
    saved.organizationId = org.organizationId ∧ saved.slug = org.slug ∧
      saved.ownerId = org.ownerId := by
  obtain ⟨hslug, hid, -, -, howner, -⟩ := OrganizationMapper.toDomain_cases h
  have hcreate := org.slug.create_value
  exact ⟨hid, Except.ok.inj (hslug.symm.trans hcreate), howner⟩

/-- The organization that is inserted is the one that is answered. -/
theorem created_provision {savedAt : Js.Date} {rt : Runtime}
    {command : CreateOrganizationCommand} {org saved : OrganizationAggregate} {w' : World}
    (hgenerated : org.organizationId = rt.generateId)
    (hcommand : TenantSlug.create command.slug = .ok org.slug)
    (hstatus : org.status = .PROVISIONING)
    (h : (OrganizationRepository.provision savedAt org).run w = (.ok saved, w')) :
    Created rt command (OrganizationDto.fromAggregate saved) w' := by
  obtain ⟨-, row, rfl, hid, hslug, hrow, howner⟩ := OrganizationRepository.provision_writes h
  obtain ⟨-, -, hdomain⟩ := OrganizationRepository.provision_ok h
  obtain ⟨hsavedId, hsavedSlug, hsavedOwner⟩ := saved_cases hdomain
  have hasked : (TenantSlug.create command.slug).map TenantSlug.value = .ok saved.slug.value := by
    rw [hcommand, hsavedSlug]
    rfl
  refine ⟨hsavedId.trans hgenerated, hasked, row,
    (w.organizations.mem_put_iff row row).mpr (.inl rfl), ⟨?_, ?_, ?_⟩, hrow.trans hstatus⟩
  · exact (congrArg Pg.uuid hsavedId).trans hid
  · exact hslug.trans (congrArg TenantSlug.value hsavedSlug.symm)
  · exact (congrArg Pg.uuid hsavedOwner).trans howner

/-- **A creation is sound**: the unique index guards the slug. -/
theorem sound_create (publish : TenantAwareEvent → Handler Unit) (rt : Runtime)
    (command : CreateOrganizationCommand)
    (hpublish : ∀ event w, Safe moving rt.generateId (publish event) w)
    (hunused : w.Unused rt.generateId) :
    Sound moving rt.generateId (IfOk (Created rt command)) (fun _ _ => True)
      (CreateOrganizationHandler.steps publish rt command) w := by
  unfold CreateOrganizationHandler.steps
  refine sound_read (reads_existsBySlug command.slug)
    (fun slugExists w₁ w₂ _ hspares hsame _ => ?_) fun _ _ => trivial
  have hunused₂ := hsame.unused (hspares.unused hunused)
  refine sound_ite (fun _ => .pure trivial) fun _ =>
    sound_lift (fun org horg => ?_) fun _ _ => trivial
  obtain ⟨slug, hslug, hcreated⟩ := OrganizationAggregate.create_cases horg
  have hasked : TenantSlug.create command.slug = .ok org.slug := by rw [hslug, hcreated]
  have hid : org.organizationId = rt.generateId := by rw [hcreated]
  have hstatus : org.status = .PROVISIONING := by rw [hcreated]
  refine sound_step fun w₃ hw₃ hspares₃ => ⟨?_, fun saved w₄ hrun => ?_, fun _ _ _ => trivial⟩
  · rcases provision_run rt.savedAt org w₃ with hnothing | ⟨table, hsave, hwritten⟩
    · rw [hnothing]
      have hsame₃ : w₃.SameTables w₃ := ⟨rfl, rfl, rfl, rfl, rfl, rfl⟩
      exact hsame₃.step hw₃ moving _
    · rw [hwritten, ← hid]
      exact step_insertOrganization hw₃ hstatus (hid ▸ hspares₃.unused hunused₂) hsave
  · exact sound_published (fun _ _ h => h.evolves)
      (safe_publishAll publish _ _ hpublish _ w₄) (created_provision hid hasked hstatus hrun)
      fun _ h => h

/-- A command that was given the row `held` writes it back. -/
theorem step_saveHeld {ctx : Option String} {savedAt : Js.Date} {id : String}
    {held : OrganizationOrmEntity} {org org' : OrganizationAggregate} {w₁ w₂ : World}
    (hw₁ : w₁.Intact) (hheld : held ∈ w₁.organizations.rows)
    (hdomain : OrganizationMapper.toDomain held = .ok org) (hsame : org.SameRoot org')
    (hstatus : StatusKept (moving held.id) held.status org'.status) (hw₂ : w₂.Intact)
    (hevolves : w₁.Evolves moving w₂) :
    w₂.Step moving id ((OrganizationRepository.save ctx savedAt org').run w₂).2 := by
  have hnoting := World.sameTables_noting w₂ ctx
  rcases saveOrganization_run ctx savedAt org' w₂ with hnothing | ⟨table, hsave, hwritten⟩
  · rw [hnothing]
    exact hnoting.step hw₂ moving id
  · rw [hwritten]
    obtain ⟨current, hcurrent, hbecomes⟩ := hevolves.organizations.kept held hheld
    exact (step_saveOrganization (hnoting.intact hw₂) (hw₁.consistent.organizations held hheld)
      hdomain hsame hbecomes hcurrent hstatus hsave).after hnoting

/-- The organization that is written back is the one that is answered. -/
theorem known_saved {ctx : Option String} {savedAt : Js.Date} {organizationId : String}
    {held : OrganizationOrmEntity}
    {org org' saved : OrganizationAggregate} {w₁ w₂ w₃ : World} (hw₁ : w₁.Intact)
    (hheld : held ∈ w₁.organizations.rows) (hkey : Pg.uuid organizationId = some held.id)
    (hdomain : OrganizationMapper.toDomain held = .ok org) (hsame : org.SameRoot org')
    (hevolves : w₁.Evolves moving w₃)
    (h : (OrganizationRepository.save ctx savedAt org').run w₂ = (.ok saved, w₃)) :
    Known organizationId (OrganizationDto.fromAggregate saved) w₃ := by
  obtain ⟨-, table, -, -, hsaved⟩ := OrganizationRepository.save_ok h
  obtain ⟨hid, hslug, howner⟩ := saved_cases hsaved
  obtain ⟨hheldSlug, hheldId, -, -, hheldOwner, -⟩ := OrganizationMapper.toDomain_cases hdomain
  obtain ⟨hcolumns, slug, hslugOf⟩ := hw₁.consistent.organizations held hheld
  obtain rfl : slug = org.slug := by
    rw [hslugOf, slug.create_value] at hheldSlug
    exact Except.ok.inj hheldSlug
  have hknown : Known organizationId (OrganizationDto.fromAggregate saved) w₁ := by
    refine ⟨held, hheld, ⟨?_, ?_, ?_⟩, hkey⟩
    · have hsavedId : saved.organizationId = held.id :=
        hid.trans (hsame.organizationId.trans hheldId)
      exact (congrArg Pg.uuid hsavedId).trans hcolumns.id
    · have hsavedSlug : saved.slug = org.slug := hslug.trans hsame.slug
      exact hslugOf.trans (congrArg TenantSlug.value hsavedSlug.symm)
    · have hsavedOwner : saved.ownerId = held.ownerId :=
        howner.trans (hsame.ownerId.trans hheldOwner)
      exact (congrArg Pg.uuid hsavedOwner).trans hcolumns.ownerId
  exact hknown.evolves hevolves

/-- **An update is sound**: it saves the row it read, whose id, slug and owner
nobody changes. -/
theorem sound_update (ctx : Option String) (rt : Runtime) (id : String)
    (command : UpdateOrganizationCommand) :
    Sound moving id (IfOk (Known command.organizationId)) (fun _ _ => True)
      (UpdateOrganizationHandler.steps ctx rt command) w := by
  unfold UpdateOrganizationHandler.steps
  refine sound_read (reads_findOrganization ctx command.organizationId)
    (fun found w₁ w₂ hw₁ hspares hsame hrun => ?_) fun _ _ => trivial
  cases found with
  | none => exact .pure trivial
  | some org =>
      obtain ⟨-, -, key, held, hkey, hfind, hdomain⟩ := OrganizationRepository.findById_ok hrun
      have hheld : held ∈ w₁.organizations.rows := Table.mem_of_find? hfind
      have hasked : Pg.uuid command.organizationId = some held.id := by
        rw [hkey, Table.key_of_find? hfind]
      refine sound_lift (fun org' happly => ?_) fun _ _ => trivial
      obtain ⟨name, plan, updatedAt, hchanged⟩ := UpdateOrganizationCommand.apply_cases happly
      have hroot : org.SameRoot org' := by
        rw [hchanged]
        exact ⟨rfl, rfl, rfl, rfl, rfl, rfl⟩
      have hstatus : org'.status = held.status := by
        rw [hchanged]
        exact (OrganizationMapper.toDomain_cases hdomain).2.2.1
      refine sound_step fun w₃ hw₃ hspares₃ => ?_
      have hevolves : w₁.Evolves moving w₃ :=
        (hsame.takes moving id).evolves.trans hspares₃.evolves
      have hstep := @step_saveHeld moving ctx rt.savedAt id held org org' w₁ w₃ hw₁ hheld hdomain
        hroot (.inl hstatus) hw₃ hevolves
      refine ⟨hstep, fun saved w₄ hsave => .pure ?_, fun _ _ _ => trivial⟩
      rw [hsave] at hstep
      exact known_saved hw₁ hheld hasked hdomain hroot (hevolves.trans hstep.takes.evolves) hsave

/-- The organization of a suspension may be suspended, wherever it is active. -/
def SuspendOrganizationCommand.Moves (command : SuspendOrganizationCommand)
    (moving : String → Prop) (w : World) : Prop :=
  ∀ w' org, w.Evolves moving w' → org ∈ w'.organizations.rows →
    Pg.uuid command.organizationId = some org.id → org.status = .ACTIVE → moving org.id

/-- **A suspension is sound**, where its organization is one that may be
suspended. -/
theorem sound_suspend (publish : TenantAwareEvent → Handler Unit) (ctx : Option String)
    (rt : Runtime) (id : String) (command : SuspendOrganizationCommand)
    (hpublish : ∀ event w, Safe moving id (publish event) w) (hmoves : command.Moves moving w) :
    Sound moving id (IfOk (Known command.organizationId)) (fun _ _ => True)
      (SuspendOrganizationHandler.steps publish ctx rt command) w := by
  unfold SuspendOrganizationHandler.steps
  refine sound_read (reads_findOrganization ctx command.organizationId)
    (fun found w₁ w₂ hw₁ hspares hsame hrun => ?_) fun _ _ => trivial
  cases found with
  | none => exact .pure trivial
  | some org =>
      obtain ⟨-, -, key, held, hkey, hfind, hdomain⟩ := OrganizationRepository.findById_ok hrun
      have hheld : held ∈ w₁.organizations.rows := Table.mem_of_find? hfind
      have hasked : Pg.uuid command.organizationId = some held.id := by
        rw [hkey, Table.key_of_find? hfind]
      refine sound_lift (fun org' happly => ?_) fun _ _ => trivial
      obtain ⟨hactive, event, hchanged⟩ := OrganizationAggregate.suspend_cases happly
      have hheldActive : held.status = .ACTIVE :=
        (OrganizationMapper.toDomain_cases hdomain).2.2.1.symm.trans hactive
      have hroot : org.SameRoot org' := by
        rw [hchanged]
        exact ⟨rfl, rfl, rfl, rfl, rfl, rfl⟩
      have hstatus : StatusKept (moving held.id) held.status org'.status := by
        refine .inr ⟨hmoves w₁ held hspares.evolves hheld hasked hheldActive, .inl hheldActive, ?_⟩
        rw [hchanged]
        exact .inr rfl
      refine sound_step fun w₃ hw₃ hspares₃ => ?_
      have hevolves : w₁.Evolves moving w₃ :=
        (hsame.takes moving id).evolves.trans hspares₃.evolves
      have hstep := @step_saveHeld moving ctx rt.savedAt id held org org' w₁ w₃ hw₁ hheld hdomain
        hroot hstatus hw₃ hevolves
      refine ⟨hstep, fun saved w₄ hsave => ?_, fun _ _ _ => trivial⟩
      rw [hsave] at hstep
      exact sound_published (fun _ _ h => h.evolves) (safe_publishAll publish _ _ hpublish _ w₄)
        (known_saved hw₁ hheld hasked hdomain hroot (hevolves.trans hstep.takes.evolves) hsave)
        fun _ h => h

/-! ### Workflows and the audit log -/

/-- The execution that is inserted is the one that is answered. -/
theorem triggered_insert {savedAt : Js.Date} {command : TriggerWorkflowCommand}
    {execution saved : WorkflowExecutionEntity}
    {row : WorkflowExecutionOrmEntity} (hstatus : execution.status = .pending)
    (hunused : w.Unused execution.executionId)
    (hsaved : saved.executionId = execution.executionId)
    (hdefinition : Pg.uuid command.definitionId = Pg.uuid execution.definitionId)
    (htenant : command.tenantId = execution.tenantId)
    (h : WorkflowExecutionRepository.table.Writes savedAt
      (WorkflowExecutionRepository.toOrm execution) w row) :
    Triggered command ⟨saved.executionId, saved.definitionId, saved.status.text⟩
      { w with workflowExecutions := w.workflowExecutions.put row } := by
  obtain ⟨hstored, hid⟩ := h.inserts List.mem_cons_self hunused.workflowExecutions
  have hcolumns := WorkflowExecutionOrmEntity.storedAs hstored
  exact ⟨row, (w.workflowExecutions.mem_put_iff row row).mpr (.inl rfl),
    (congrArg Pg.uuid hsaved).trans hid, hdefinition.trans hcolumns.definitionId,
    (congrArg Pg.uuid htenant).trans hcolumns.tenantId, .inl (hcolumns.status.trans hstatus)⟩

/-- **A trigger is sound**: the definition it found is still there at the insert. -/
theorem sound_trigger (bus : EventBus) (ctx : Option String) (rt : Runtime)
    (command : TriggerWorkflowCommand) (hunused : w.Unused rt.generateId) :
    Sound moving rt.generateId (IfOk (Triggered command)) (fun _ _ => True)
      (TriggerWorkflowHandler.steps bus.steps ctx rt command) w := by
  unfold TriggerWorkflowHandler.steps
  refine sound_read (reads_findDefinition ctx rt.loadedAt command.definitionId)
    (fun found w₁ w₂ hw₁ hspares hsame hrun => ?_) fun _ _ => trivial
  have hunused₂ := hsame.unused (hspares.unused hunused)
  rcases WorkflowDefinitionRepository.findById_cases ctx rt.loadedAt command.definitionId w₁ with
    ⟨e, hfind⟩ | ⟨tenant, t, k, hctx, ht, hk, hfind⟩
  · rw [hfind] at hrun
    cases hrun
  · rw [hfind] at hrun
    cases hrow : w₁.workflowDefinitions.rows.find? fun row => row.tenantId = t && row.id = k with
    | none =>
        rw [hrow] at hrun
        cases hrun
        exact .pure trivial
    | some row =>
        rw [hrow] at hrun
        cases hrun
        have hmem : row ∈ w₁.workflowDefinitions.rows := List.mem_of_find?_eq_some hrow
        have hselected := List.find?_some hrow
        simp only [Bool.and_eq_true, decide_eq_true_eq] at hselected
        obtain ⟨htenant, hid⟩ := hselected
        refine sound_ite (fun _ => .pure trivial) fun _ => sound_call fun w₃ hw₃ hspares₃ => ?_
        have hnoting := World.sameTables_noting w₃ ctx
        rcases WorkflowExecutionRepository.save_cases ctx rt _ w₃ with
          ⟨e, hsave⟩ | ⟨createdAt, row', hsave, hown, -, -, hwrites⟩
        · exact .inl ⟨e, _, hsave, hnoting.step hw₃ moving _, trivial⟩
        · have hdefinitions : w₃.workflowDefinitions = w₁.workflowDefinitions :=
            hspares₃.evolves.workflowDefinitions.trans hsame.workflowDefinitions
          obtain rfl : tenant = command.tenantId := Option.some.inj (hctx.symm.trans hown)
          have hdefinition : row ∈ (w₃.noting ctx).workflowDefinitions.rows := hdefinitions ▸ hmem
          have hunused₃ := hnoting.unused (hspares₃.unused hunused₂)
          have hasked : Pg.uuid command.definitionId = Pg.uuid row.id := by
            rw [hk, hw₁.definitions row hmem, hid]
          have hstep : (w₃.noting ctx).Step moving rt.generateId _ :=
            step_insertExecution (hnoting.intact hw₃) rfl hunused₃ hdefinition rfl (htenant ▸ ht)
              hwrites
          exact .inr ⟨_, _, hsave, hstep.after hnoting, sound_published (fun _ _ h => h.evolves)
            (safe_bus bus _ _ _) (triggered_insert rfl hunused₃ rfl hasked rfl hwrites)
            fun _ h => h⟩

/-- The execution that is cancelled is the one that is answered. -/
theorem cancelled_update {savedAt : Js.Date} {executionId : String}
    {cancelled saved : WorkflowExecutionEntity} {current row : WorkflowExecutionOrmEntity}
    (hstatus : cancelled.status = .cancelled)
    (hcurrent : current ∈ w.workflowExecutions.rows)
    (hkey : Pg.uuid cancelled.executionId = some current.id)
    (hasked : Pg.uuid executionId = some current.id)
    (hsaved : saved.executionId = cancelled.executionId ∧ saved.tenantId = cancelled.tenantId)
    (h : WorkflowExecutionRepository.table.Writes savedAt
      (WorkflowExecutionRepository.toOrm cancelled) w row) :
    Cancelled executionId (WorkflowExecutionDto.fromEntity saved)
      { w with workflowExecutions := w.workflowExecutions.put row } := by
  obtain ⟨stored, hstored, hrow, hid⟩ := h.updates List.mem_cons_self hcurrent hkey
  have hcolumns := WorkflowExecutionOrmEntity.storedAs hstored
  refine ⟨row, (w.workflowExecutions.mem_put_iff row row).mpr (.inl rfl),
    hasked.trans (congrArg some hid.symm), ?_, ?_, ?_⟩
  · exact (congrArg Pg.uuid hsaved.1).trans (hkey.trans (congrArg some hid.symm))
  · rw [hrow]
    exact (congrArg Pg.uuid hsaved.2).trans hcolumns.tenantId
  · rw [hrow]
    exact hcolumns.status.trans hstatus

/-- **A cancellation is sound**: the execution it found is still there, or has
been cancelled since. -/
theorem sound_cancel (ctx : Option String) (rt : Runtime) (id : String)
    (command : CancelWorkflowExecutionCommand) :
    Sound moving id (IfOk (Cancelled command.executionId)) (fun _ _ => True)
      (CancelWorkflowExecutionHandler.steps ctx rt command) w := by
  unfold CancelWorkflowExecutionHandler.steps
  refine sound_read (reads_findExecution ctx rt.loadedAt command.executionId)
    (fun found w₁ w₂ hw₁ hspares hsame hrun => ?_) fun _ _ => trivial
  rcases WorkflowExecutionRepository.findById_cases ctx rt.loadedAt command.executionId w₁ with
    ⟨e, hfind⟩ | ⟨tenant, t, k, -, -, hk, hfind⟩
  · rw [hfind] at hrun
    cases hrun
  · rw [hfind] at hrun
    cases hrow : w₁.workflowExecutions.rows.find? fun row => row.tenantId = t && row.id = k with
    | none =>
        rw [hrow] at hrun
        cases hrun
        exact .pure trivial
    | some held =>
        rw [hrow] at hrun
        cases hrun
        have hheld : held ∈ w₁.workflowExecutions.rows := List.mem_of_find?_eq_some hrow
        refine sound_lift (fun cancelled hcancel => ?_) fun _ _ => trivial
        refine sound_call fun w₃ hw₃ hspares₃ => ?_
        have hnoting := World.sameTables_noting w₃ ctx
        have hevolves : w₁.Evolves moving w₃ :=
          (hsame.takes moving id).evolves.trans hspares₃.evolves
        rcases WorkflowExecutionRepository.save_cases ctx rt cancelled w₃ with
          ⟨e, hsave⟩ | ⟨createdAt, row', hsave, -, -, -, hwrites⟩
        · exact .inl ⟨e, _, hsave, hnoting.step hw₃ moving _, trivial⟩
        · obtain ⟨current, hcurrent, hbecomes⟩ := hevolves.workflowExecutions.kept held hheld
          have hstep : (w₃.noting ctx).Step moving id _ :=
            step_cancelExecution (hnoting.intact hw₃) (hw₁.executions held hheld) hcancel hbecomes
              hcurrent hwrites
          obtain ⟨-, hid, hcancelled⟩ := WorkflowExecutionEntity.cancel_cases hcancel
          have hselected := List.find?_some hrow
          simp only [Bool.and_eq_true, decide_eq_true_eq] at hselected
          have hasked : Pg.uuid command.executionId = some current.id := by
            rw [hk, hbecomes.id, hselected.2]
          have hkey : Pg.uuid cancelled.executionId = some current.id := by
            rw [hid, hbecomes.id]
            exact (hw₁.executions held hheld).id
          exact .inr ⟨_, _, hsave, hstep.after hnoting,
            .pure (cancelled_update hcancelled hcurrent hkey hasked ⟨rfl, rfl⟩ hwrites)⟩

/-- The event that is inserted is the one that is answered. -/
theorem recorded_insert {inet : String → Option String} {rt : Runtime}
    {command : RecordAuditEventCommand} {row : AuditEventOrmEntity} {table : AuditEventTable}
    (htable : w.auditEvents.insertAll? [row] = some table)
    (hstored : (AuditEventRepository.toOrm
      (AuditEventEntity.create rt.generateId rt.occurredAt command)).stored inet = some row) :
    Recorded inet rt command
      (AuditEventEntity.create rt.generateId rt.occurredAt command).auditEventId
      { w with auditEvents := table } := by
  refine ⟨row, ?_, (AuditEventOrmEntity.storedAs hstored).1, hstored⟩
  rw [Table.rows_of_insertAll? htable]
  exact List.mem_append_right _ (List.mem_singleton_self row)

/-- **An audit record is sound**: the log only grows. -/
theorem sound_record (bus : EventBus) (inet : String → Option String) (ctx : Option String)
    (rt : Runtime) (id : String) (command : RecordAuditEventCommand) :
    Sound moving id (IfOk (Recorded inet rt command)) (fun _ _ => True)
      (RecordAuditEventHandler.steps bus.steps inet ctx rt command) w := by
  unfold RecordAuditEventHandler.steps
  refine sound_call fun w₁ hw₁ _ => ?_
  have hnoting := World.sameTables_noting w₁ ctx
  rcases AuditEventRepository.append_cases inet ctx _ w₁ with
    ⟨e, happend⟩ | ⟨row, table, happend, htable, -, -, hstored⟩
  · exact .inl ⟨e, _, happend, hnoting.step hw₁ moving id, trivial⟩
  · have hstep : (w₁.noting ctx).Step moving id _ :=
      step_insertAudit (hnoting.intact hw₁) htable
    exact .inr ⟨_, _, happend, hstep.after hnoting, sound_published (fun _ _ h => h.evolves)
      (safe_bus bus _ _ _) (recorded_insert htable hstored) fun _ h => h⟩

end Handlers

end Atlas
