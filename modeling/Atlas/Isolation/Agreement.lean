import Atlas.Isolation.Footprint

/-!
# Atlas.Isolation.Agreement

The methods of the four repositories in two databases that are alike to the
tenant: each answers the same, and what it leaves is alike again.

A method that only reads asks little of the relation (`Steady`), so it may be
followed by one that needs to know more of the key it writes under.
-/

namespace Atlas

open StoreKit Program TenantAwareRepository

variable {u : String} {g : Option String} {s₀ t₀ : World} {ctx : Option String}

/-- Databases that are alike, and stay so when a tenant goes on record. -/
structure Steady (u : String) (g : Option String) (s₀ t₀ : World) (R : World → World → Prop) :
    Prop where
  alike : ∀ s t, R s t → Alike u g s₀ t₀ s t
  noting : ∀ s t tenant, R s t → R (s.noting tenant) (t.noting tenant)

/-- What is alike is not changed by a record or a publication. -/
theorem steady_alike : Steady u g s₀ t₀ (Alike u g s₀ t₀) :=
  ⟨fun _ _ h => h, fun _ _ tenant h => h.noting tenant⟩

/-- Databases that meet a condition each stay alike, if it says nothing of the record. -/
theorem steady_with {P Q : World → Prop} (hP : ∀ w tenant, P w → P (w.noting tenant))
    (hQ : ∀ w tenant, Q w → Q (w.noting tenant)) :
    Steady u g s₀ t₀ fun s t => Alike u g s₀ t₀ s t ∧ P s ∧ Q t where
  alike _ _ h := h.1
  noting s t tenant h := ⟨h.1.noting tenant, hP s tenant h.2.1, hQ t tenant h.2.2⟩

/-! ## Guards and parameters -/

/- What these compute depends on the context and their arguments only, so they agree on
any two databases. -/

section Guards

variable {R : World → World → Prop}

/-- The tenant id is a value of the context. -/
theorem requireTenantId_agree (hR : Steady u g s₀ t₀ R) (name : String) :
    Agree R (requireTenantId name ctx) (fun id s t => Js.truthy ctx = some id ∧ R s t) R := by
  intro s t hst
  cases hctx : Js.truthy ctx with
  | some id =>
      rw [requireTenantId_run s hctx, requireTenantId_run t hctx]
      exact ⟨rfl, rfl, hR.noting s t ctx hst⟩
  | none =>
      obtain ⟨message, hrun⟩ := requireTenantId_absent name hctx
      rw [hrun s, hrun t]
      exact ⟨rfl, hR.noting s t ctx hst⟩

/-- A guard compares values of the context and the aggregate. -/
theorem guardTenant_agree (hR : Steady u g s₀ t₀ R) (name id : String)
    (violation : String → Exception) :
    Agree R (guardTenant name ctx id violation) (fun _ s t => Js.truthy ctx = some id ∧ R s t)
      R := by
  refine .bind (requireTenantId_agree hR name) fun tenantId => .given fun hctx => ?_
  by_cases hid : id = tenantId
  · rw [if_neg (not_not.mpr hid)]
    exact .pure fun s t hst => ⟨hid ▸ hctx, hst⟩
  · rw [if_pos hid]
    exact .reject fun s t hst => hst

/-- What a repository does behind its guard. -/
theorem guarded_agree (hR : Steady u g s₀ t₀ R) (name id : String)
    (violation : String → Exception) {α : Type} {m : App α} {Q : α → World → World → Prop}
    (h : Js.truthy ctx = some id → Agree R m Q (Alike u g s₀ t₀)) :
    Agree R (guardTenant name ctx id violation >>= fun _ => m) Q (Alike u g s₀ t₀) :=
  .bind (.weaken (guardTenant_agree hR name id violation) (fun _ _ h => h) (fun _ _ _ h => h)
    hR.alike) fun _ => .given h

/-- Whether a text is a uuid does not depend on the state. -/
theorem uuidParameter_agree (value : String) :
    Agree R (uuidParameter value) (fun id s t => Pg.uuid value = some id ∧ R s t) R := by
  cases hid : Pg.uuid value with
  | some id =>
      rw [uuidParameter, hid]
      exact .pure fun s t hst => ⟨rfl, hst⟩
  | none =>
      rw [uuidParameter, hid]
      exact .reject fun s t hst => hst

theorem columnParameter_agree (value : Option String) :
    Agree R (columnParameter value) (fun _ => R) R := by
  cases value with
  | none => exact .pure fun s t hst => hst
  | some value =>
      exact .bind (uuidParameter_agree value) fun id => .given fun _ => .pure fun s t hst => hst

theorem written_agree {α : Type} (result : Option α) :
    Agree R (written result) (fun _ => R) R := by
  cases result with
  | none => exact .reject fun s t hst => hst
  | some a => exact .pure fun s t hst => hst

/-- The tenant of the context, as a parameter, is the tenant. -/
theorem tenant_unique {tenantId owner : String} (hu : tenantOf ctx = some u)
    (hctx : Js.truthy ctx = some tenantId) (howner : Pg.uuid tenantId = some owner) : owner = u :=
  Option.some.inj ((tenantOf_eq hctx howner).symm.trans hu)

end Guards

/-! ## Reading -/

/- A scoped condition is met by rows of the tenant only, and those are the same on both
sides; that is all a look-up and a page need. -/

section Reading

variable {R : World → World → Prop} {ρ : Type} {rows : World → List ρ} {tenantId id : ρ → String}

theorem scopedWhere_agree (hR : Steady u g s₀ t₀ R) (name : String) (key : Option String) :
    Agree R (scopedWhere name ctx { tenantId := none, id := key })
      (fun options s t => (∃ tenant, Js.truthy ctx = some tenant ∧
        options = { tenantId := some tenant, id := key }) ∧ R s t) R :=
  .bind (requireTenantId_agree hR name) fun tenant => .given fun hctx =>
    .pure fun _ _ hst => ⟨⟨tenant, hctx, rfl⟩, hst⟩

/-- What the rows of a tenant have under a key. -/
theorem find?_scoped (rows : List ρ) (u k : String) :
    rows.find? (fun row => tenantId row = u && id row = k) =
      (rows.filter fun row => tenantId row = u).find? fun row => id row = k := by
  rw [List.find?_filter]
  congr 1
  funext row
  by_cases h : tenantId row = u
  · simp [h]
  · simp [h]

/-- A scoped look-up finds the same row of the tenant on both sides. -/
theorem findOne_agree (hu : tenantOf ctx = some u) {tenant : String}
    (hctx : Js.truthy ctx = some tenant) (key : String)
    (hrows : ∀ s t, R s t → (rows s).filter (fun row => tenantId row = u) =
      (rows t).filter fun row => tenantId row = u) :
    Agree R (findOne rows tenantId id { tenantId := some tenant, id := some key })
      (fun found s t => R s t ∧ ∀ row, found = some row →
        row ∈ rows s ∧ row ∈ rows t ∧ tenantId row = u) R := by
  intro s t hst
  rw [findOne_run rows tenantId id tenant key s, findOne_run rows tenantId id tenant key t]
  cases ht : Pg.uuid tenant with
  | none => exact ⟨rfl, hst⟩
  | some owner =>
      cases hk : Pg.uuid key with
      | none => exact ⟨rfl, hst⟩
      | some k =>
          obtain rfl := tenant_unique hu hctx ht
          have hsame : ((rows s).find? fun row => tenantId row = owner && id row = k) =
              (rows t).find? fun row => tenantId row = owner && id row = k := by
            rw [find?_scoped, find?_scoped, hrows s t hst]
          have hmem : ∀ w : World, ∀ row,
              ((rows w).find? fun row => tenantId row = owner && id row = k) = some row →
              row ∈ rows w ∧ tenantId row = owner := by
            intro w row hfind
            have hfound := List.find?_some hfind
            simp only [Bool.and_eq_true, decide_eq_true_eq] at hfound
            exact ⟨List.mem_of_find?_eq_some hfind, hfound.1⟩
          refine ⟨congrArg Except.ok hsame, hst, fun row hrow => ?_⟩
          exact ⟨(hmem s row hrow).1, (hmem t row (hsame ▸ hrow)).1, (hmem s row hrow).2⟩

/-- A page of the tenant's rows, counted. -/
theorem getManyAndCount_agree (arithmetic : Js.Arithmetic) (ties : Typeorm.Arrangement ρ) (date : ρ → Js.Date)
    (condition : ρ → Bool) (skip take : Js.Number)
    (hrows : ∀ s t, R s t → (rows s).filter (fun row => tenantId row = u) =
      (rows t).filter fun row => tenantId row = u) :
    Agree R (getManyAndCount arithmetic rows ties date
      (fun row => tenantId row = u && condition row) skip take) (fun _ => R) R := by
  have hfilter : ∀ l : List ρ, l.filter (fun row => tenantId row = u && condition row) =
      (l.filter fun row => tenantId row = u).filter condition := by
    intro l
    rw [List.filter_filter]
    congr 1
    funext row
    exact Bool.and_comm _ _
  refine .bind (M := fun _ => R) (.gets (fun s t hst => ?_) fun _ _ hst => hst) fun matching => ?_
  · rw [hfilter, hfilter, hrows s t hst]
  · exact .bind (.lift (fun _ _ s t hst => hst) fun s t hst => hst) fun data =>
      .pure fun s t hst => hst

end Reading

/-! ## The workflow repositories -/

/- TypeORM's `save` looks a row up by its id alone.  So a save agrees only where the row
under that id is the tenant's on both sides, or on neither: `OwnKey`. -/

section Workflow

variable {R : World → World → Prop}

/-- Definitions are the tenant's own, or not found. -/
theorem findDefinition_agree (hR : Steady u g s₀ t₀ R) (hu : tenantOf ctx = some u)
    (loadedAt : Js.Date) (id : String) :
    Agree R (WorkflowDefinitionRepository.findById ctx loadedAt id) (fun _ => R) R := by
  refine .bind (scopedWhere_agree hR _ _) fun options => .given ?_
  rintro ⟨tenant, hctx, rfl⟩
  refine .bind (findOne_agree hu hctx id fun s t hst => ?_) fun orm => .pure fun s t hst => hst.1
  exact congrArg Part.workflowDefinitions (hR.alike s t hst).own

/-- An execution that is found may be written back. -/
theorem findExecution_agree (hu : tenantOf ctx = some u) (loadedAt : Js.Date) (id : String) :
    Agree (Alike u g s₀ t₀) (WorkflowExecutionRepository.findById ctx loadedAt id)
      (fun found s t => Alike u g s₀ t₀ s t ∧ ∀ execution, found = some execution →
        OwnKey u g s₀ execution.executionId s ∧ OwnKey u g t₀ execution.executionId t)
      (Alike u g s₀ t₀) := by
  refine .bind (scopedWhere_agree steady_alike _ _) fun options => .given ?_
  rintro ⟨tenant, hctx, rfl⟩
  refine .bind (findOne_agree hu hctx id fun s t hst => ?_) fun orm => .pure ?_
  · exact congrArg Part.workflowExecutions hst.own
  · rintro s t ⟨hst, hfound⟩
    refine ⟨hst, fun execution hexecution => ?_⟩
    obtain ⟨row, rfl, rfl⟩ := Option.map_eq_some_iff.mp hexecution
    obtain ⟨hs, ht, howner⟩ := hfound row rfl
    have hown : ∀ {w₀ w : World}, Kept u g w₀ w → row ∈ w.workflowExecutions.rows →
        OwnKey u g w₀ row.id w := by
      intro w₀ w hkept hrow k hk
      obtain rfl := Option.some.inj ((hkept.normal.executions row hrow).symm.trans hk)
      refine ⟨hkept.keys _ (List.mem_append_left _ (List.mem_map_of_mem hrow)), ?_⟩
      intro old hold
      rw [Table.find?_key _ hrow] at hold
      exact Option.some.inj hold ▸ howner
    exact ⟨hown hst.left hs, hown hst.right ht⟩

/-- A page of executions shows the tenant's own. -/
theorem findMany_agree (hu : tenantOf ctx = some u)
    (ties : Typeorm.Arrangement WorkflowExecutionOrmEntity) (loadedAt : Js.Date)
    (status : Option WorkflowExecutionStatus) (options : PaginationOptions) :
    Agree (Alike u g s₀ t₀) (WorkflowExecutionRepository.findMany ctx ties loadedAt status options)
      (fun _ => Alike u g s₀ t₀) (Alike u g s₀ t₀) := by
  refine .bind (requireTenantId_agree steady_alike _) fun tenantId => .given fun hctx => ?_
  refine .bind (.lift (fun _ _ s t hst => hst) fun s t hst => hst) fun _ => ?_
  refine .bind (uuidParameter_agree tenantId) fun tenant => .given fun htenant => ?_
  obtain rfl := tenant_unique hu hctx htenant
  refine .bind (getManyAndCount_agree _ ties _ _ _ _ fun s t hst => ?_) fun page =>
    .pure fun s t hst => hst
  exact congrArg Part.workflowExecutions hst.own

/-- What is under a key of the tenant's is the same in both. -/
theorem find?_ownKey {key k : String} {s t : World} (hst : Alike u g s₀ t₀ s t)
    (hs : OwnKey u g s₀ key s) (ht : OwnKey u g t₀ key t) (hk : Pg.uuid key = some k) :
    s.workflowExecutions.find? k = t.workflowExecutions.find? k :=
  find?_own hst.own (hs k hk).2 (ht k hk).2

/-- An execution is saved alike under an id that is the tenant's own on both
sides. -/
theorem saveExecution_agree (hu : tenantOf ctx = some u)
    (hdefinitions : s₀.workflowDefinitions = t₀.workflowDefinitions) (rt : Runtime)
    (execution : WorkflowExecutionEntity) :
    Agree (fun s t => Alike u g s₀ t₀ s t ∧ OwnKey u g s₀ execution.executionId s ∧
        OwnKey u g t₀ execution.executionId t)
      (WorkflowExecutionRepository.save ctx rt execution) (fun _ => Alike u g s₀ t₀)
      (Alike u g s₀ t₀) := by
  refine guarded_agree (steady_with (fun _ _ h => h) fun _ _ h => h)
    WorkflowExecutionRepository.name execution.tenantId _ fun hctx =>
    .bind ?_ fun saved => .pure fun _ _ hst => hst
  rintro s t ⟨hst, hs, ht⟩
  have hfind : ∀ k, Pg.uuid execution.executionId = some k →
      s.workflowExecutions.find? k = t.workflowExecutions.find? k :=
    fun k hk => find?_ownKey hst hs ht hk
  have hallowed : ∀ row, WorkflowExecutionRepository.allowed s row =
      WorkflowExecutionRepository.allowed t row := by
    intro row
    rw [WorkflowExecutionRepository.allowed, WorkflowExecutionRepository.allowed,
      hst.left.definitions, hst.right.definitions, hdefinitions]
  have hid : WorkflowExecutionRepository.table.id ∈ WorkflowExecutionRepository.table.uuids := by
    simp [WorkflowExecutionRepository.table]
  rcases @DatedTable.saveOrm_alike _ WorkflowExecutionRepository.table rt.savedAt
      (WorkflowExecutionRepository.toOrm execution) s t hid hfind hallowed with
    ⟨e, hrun, hrun'⟩ | ⟨saved, row, hrun, hrun', hrow⟩
  · rw [WorkflowExecutionRepository.saveOrm, hrun, hrun']
    exact ⟨rfl, hst⟩
  · have hkey : Pg.uuid execution.executionId = some row.id := hrow _ hid
    have howner : row.tenantId = u :=
      tenant_unique hu hctx (hrow WorkflowExecutionOrmEntity.tenantId
        (by simp [WorkflowExecutionRepository.table]))
    rw [WorkflowExecutionRepository.saveOrm, hrun, hrun']
    refine ⟨rfl, own_putExecution hst.own howner (hs _ hkey).2 (ht _ hkey).2, ?_, ?_⟩
    · exact hst.left.putExecution howner hkey hs
    · exact hst.right.putExecution howner hkey ht

end Workflow

/-! ## The audit log -/

section Audit

/-- An audit event is found alike on both sides. -/
theorem findAuditEvent_agree (hu : tenantOf ctx = some u) (id : String) :
    Agree (Alike u g s₀ t₀) (AuditEventRepository.findById ctx id) (fun _ => Alike u g s₀ t₀)
      (Alike u g s₀ t₀) := by
  refine .bind (scopedWhere_agree steady_alike _ _) fun options => .given ?_
  rintro ⟨tenant, hctx, rfl⟩
  refine .bind (findOne_agree hu hctx id fun s t hst => ?_) fun orm => .pure fun s t hst => hst.1
  exact congrArg Part.auditEvents hst.own

/-- A page of the audit log shows the tenant's own events. -/
theorem queryAuditEvents_agree (hu : tenantOf ctx = some u)
    (ties : Typeorm.Arrangement AuditEventOrmEntity) (filter : AuditEventRepository.AuditEventFilter)
    (options : PaginationOptions) :
    Agree (Alike u g s₀ t₀) (AuditEventRepository.query ctx ties filter options)
      (fun _ => Alike u g s₀ t₀) (Alike u g s₀ t₀) := by
  refine .bind (requireTenantId_agree steady_alike _) fun tenantId => .given fun hctx => ?_
  refine .bind (.lift (fun _ _ s t hst => hst) fun s t hst => hst) fun _ => ?_
  refine .bind (uuidParameter_agree tenantId) fun tenant => .given fun htenant => ?_
  obtain rfl := tenant_unique hu hctx htenant
  refine .bind (columnParameter_agree _) fun actorId => ?_
  refine .bind (written_agree _) fun _ => ?_
  refine .bind (getManyAndCount_agree _ ties _ _ _ _ fun s t hst => ?_) fun page =>
    .pure fun s t hst => hst
  exact congrArg Part.auditEvents hst.own

/-- The key of a new row is news. -/
def NewKey (g : Option String) (key : String) (w : World) : Prop :=
  ∀ k, Pg.uuid key = some k → g = some k ∧ k ∉ w.keys

/-- An audit event with a fresh id is inserted on both sides, or refused on both. -/
theorem appendAuditEvent_agree (hu : tenantOf ctx = some u) (inet : String → Option String)
    (event : AuditEventEntity) :
    Agree (Both (Alike u g s₀ t₀) (NewKey g event.auditEventId))
      (AuditEventRepository.append inet ctx event) (fun _ => Alike u g s₀ t₀)
      (Alike u g s₀ t₀) := by
  refine guarded_agree (steady_with (fun _ _ h => h) fun _ _ h => h)
    AuditEventRepository.name event.tenantId _ fun hctx =>
    .bind ?_ fun saved => .pure fun _ _ hst => hst
  rintro s t ⟨hst, hs, ht⟩
  rw [AuditEventRepository.insertOrms_run, AuditEventRepository.insertOrms_run]
  have hmap : [AuditEventRepository.toOrm event].mapM (AuditEventOrmEntity.stored inet) =
      ((AuditEventRepository.toOrm event).stored inet).map fun row => [row] := by
    rw [List.mapM_cons, List.mapM_nil]
    cases (AuditEventRepository.toOrm event).stored inet with
    | none => rfl
    | some row => rfl
  cases hstored : (AuditEventRepository.toOrm event).stored inet with
  | none =>
      rw [hmap, hstored]
      exact ⟨rfl, hst⟩
  | some row =>
      obtain ⟨hid, htenant⟩ := AuditEventOrmEntity.storedAs hstored
      have howner : row.tenantId = u := tenant_unique hu hctx htenant
      have hnew : ∀ w : World, NewKey g event.auditEventId w →
          row.id ∉ w.auditEvents.rows.map (·.id) :=
        fun w hw hmem => (hw row.id hid).2 (List.mem_append_right _ hmem)
      obtain ⟨table, htable⟩ := insertAll?_new (hnew s hs)
      obtain ⟨table', htable'⟩ := insertAll?_new (hnew t ht)
      rw [hmap, hstored, Option.map_some, Option.bind_some, Option.bind_some, htable, htable']
      refine ⟨rfl, own_insertAuditEvent hst.own htable htable', ?_, ?_⟩
      · exact hst.left.insertAuditEvent howner (hs row.id hid).1 htable
      · exact hst.right.insertAuditEvent howner (ht row.id hid).1 htable'

end Audit

/-! ## Organizations -/

section Organizations

/-- An aggregate built from a regular row has the slug of the row. -/
theorem held_of_toDomain {w₀ w : World} {row : OrganizationOrmEntity} {org : OrganizationAggregate}
    (hkept : Kept u g w₀ w) (hfind : w.organizations.find? u = some row)
    (hdomain : OrganizationMapper.toDomain row = .ok org) : Held u org w := by
  have hmem : (row.id, row.slug) ∈ w.slugs := List.mem_map_of_mem (Table.mem_of_find? hfind)
  obtain ⟨-, slug, hslug⟩ := hkept.normal.slugs _ hmem
  have hcreate := (OrganizationMapper.toDomain_cases hdomain).1
  have hsame : row.slug = slug.value := hslug
  rw [hsame, slug.create_value] at hcreate
  exact ⟨row, hfind, hsame.trans (congrArg TenantSlug.value (Except.ok.inj hcreate))⟩

/-- The organization of the tenant is found alike on both sides. -/
theorem findOrganization_agree (hu : tenantOf ctx = some u) (id : String) :
    Agree (Alike u g s₀ t₀) (OrganizationRepository.findById ctx id)
      (fun found s t => Alike u g s₀ t₀ s t ∧ ∀ org, found = some org →
        Held u org s ∧ Held u org t) (Alike u g s₀ t₀) := by
  refine .bind (guardTenant_agree steady_alike _ _ _) fun _ => .given fun hctx => ?_
  refine .bind (uuidParameter_agree id) fun key => .given fun hkey => ?_
  obtain rfl := tenant_unique hu hctx hkey
  refine .bind (M := fun orm s t => Alike key g s₀ t₀ s t ∧ s.organizations.find? key = orm ∧
    t.organizations.find? key = orm) (.gets (fun s t hst => find?_organization hst.own)
      fun s t hst => ⟨hst, rfl, (find?_organization hst.own).symm⟩) fun orm => ?_
  cases orm with
  | none => exact .pure fun s t hst => ⟨hst.1, by simp⟩
  | some row =>
      refine .bind (M := fun org s t => OrganizationMapper.toDomain row = .ok org ∧
        Alike key g s₀ t₀ s t ∧ s.organizations.find? key = some row ∧
          t.organizations.find? key = some row)
        (.lift (fun org horg s t hst => ⟨horg, hst⟩) fun s t hst => hst.1) fun org => ?_
      refine .pure fun s t ⟨hdomain, hst, hs, ht⟩ => ⟨hst, fun org' horg => ?_⟩
      obtain rfl := Option.some.inj horg
      exact ⟨held_of_toDomain hst.left hs hdomain, held_of_toDomain hst.right ht hdomain⟩

/-- What an organization is saved as keeps its slug. -/
theorem saveOrganization_agree (hu : tenantOf ctx = some u) (husers : s₀.users = t₀.users)
    (hslugs : s₀.slugs = t₀.slugs) (savedAt : Js.Date) (org : OrganizationAggregate) :
    Agree (Both (Alike u g s₀ t₀) (Held u org))
      (OrganizationRepository.save ctx savedAt org) (fun _ => Alike u g s₀ t₀)
      (Alike u g s₀ t₀) := by
  refine guarded_agree (steady_with (fun _ _ h => h) fun _ _ h => h)
    OrganizationRepository.name org.organizationId _ fun hctx =>
    .bind (M := fun _ => Alike u g s₀ t₀) ?_ fun saved =>
      .lift (fun _ _ _ _ hst => hst) fun _ _ hst => hst
  rintro s t ⟨hst, ⟨row, hs, hslug⟩, row', ht, hslug'⟩
  obtain rfl : row = row' := Option.some.inj (hs.symm.trans ((find?_organization hst.own).trans ht))
  have hkey : ∀ stored, OrganizationOrmEntity.stored
      { OrganizationMapper.toOrm org with updatedAt := savedAt } = some stored →
      stored.id = u ∧ stored.slug = org.slug.value := by
    intro stored hstored
    have hcolumns := OrganizationOrmEntity.storedAs hstored
    exact ⟨tenant_unique hu hctx hcolumns.id,
      Pg.varchar_eq (slug_short org.slug.pattern) hcolumns.slug⟩
  have hfind : ∀ stored, OrganizationOrmEntity.stored
      { OrganizationMapper.toOrm org with updatedAt := savedAt } = some stored →
      s.organizations.find? stored.id = t.organizations.find? stored.id := by
    intro stored hstored
    rw [(hkey stored hstored).1]
    exact find?_organization hst.own
  have hallowed : ∀ row, OrganizationRepository.allowed s row =
      OrganizationRepository.allowed t row :=
    allowed_alike (hst.left.users.trans (husers.trans hst.right.users.symm))
      (hst.left.slugs.trans (hslugs.trans hst.right.slugs.symm))
  rw [OrganizationRepository.saveOrm_run, OrganizationRepository.saveOrm_run]
  rcases @Typeorm.saveRow_alike _ _ _ OrganizationRepository.merge _ _ _ _ _ hfind hallowed with
    ⟨hnone, hnone'⟩ | ⟨stored, new, hstored, hmerged, hsome, hsome'⟩
  · rw [hnone, hnone']
    exact ⟨rfl, hst⟩
  · obtain ⟨hid, hstoredSlug⟩ := hkey stored hstored
    have hnew : new.id = u ∧ new.slug = row.slug := by
      rcases hmerged with ⟨-, rfl⟩ | ⟨old, -, rfl⟩
      · exact ⟨hid, hstoredSlug.trans hslug.symm⟩
      · exact ⟨hid, hstoredSlug.trans hslug.symm⟩
    rw [hsome, hsome']
    refine ⟨rfl, own_putOrganization hst.own hnew.1, ?_, ?_⟩
    · exact hst.left.putOrganization hs hnew.1 hnew.2
    · exact hst.right.putOrganization ht hnew.1 hnew.2

end Organizations

end Atlas
