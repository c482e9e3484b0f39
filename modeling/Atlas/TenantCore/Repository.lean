import Atlas.TenantAware

/-!
# Atlas.TenantCore.Repository

`OrganizationRepository`.  Its tenant-context methods guard that the
organization is the tenant; the system-context methods do not ask who calls.
-/

namespace Atlas

open StoreKit TenantAwareRepository

namespace OrganizationRepository

/-- The name in the messages. -/
def name : String := "OrganizationRepository"

/-- On an update, a column without a value keeps the one it has. -/
def merge (old row : OrganizationOrmEntity) : OrganizationOrmEntity :=
  { row with provisionedAt := row.provisionedAt.or old.provisionedAt }

/-- `slug` is unique, and `owner_id` refers to a user. -/
def allowed (w : World) (row : OrganizationOrmEntity) : Bool :=
  (w.users.rows.any fun u => u.id = row.ownerId) &&
    w.organizations.rows.all fun r => r.id = row.id || r.slug ≠ row.slug

/-- `repo.save(orm)`.  What `updated_at` becomes, the entity's value or the
clock of the database, is up to the runtime. -/
def saveOrm (savedAt : Js.Date) (orm : OrganizationOrmEntity) : App OrganizationOrmEntity := do
  let orm := { orm with updatedAt := savedAt }
  let table ← .gets fun w =>
    Typeorm.saveRow OrganizationOrmEntity.stored merge (allowed w) w.organizations orm
  let table ← written table
  .modify fun w => { w with organizations := table }
  return orm

def findById (ctx : Option String) (id : String) : App (Option OrganizationAggregate) := do
  guardTenantRoot name ctx id
  let key ← uuidParameter id
  let orm ← .gets fun w => w.organizations.find? key
  match orm with
  | some orm => do
      let organization ← .lift (OrganizationMapper.toDomain orm)
      return some organization
  | none => return none

def save (ctx : Option String) (savedAt : Js.Date) (organization : OrganizationAggregate) :
    App OrganizationAggregate := do
  guardTenantRoot name ctx organization.organizationId
  let orm := OrganizationMapper.toOrm organization
  let saved ← saveOrm savedAt orm
  .lift (OrganizationMapper.toDomain saved)

def existsBySlug (slug : String) : App Bool := do
  let slug ← written (Pg.text slug)
  .gets fun w => w.organizations.rows.any fun row => row.slug = slug

def findBySlug (slug : String) : App (Option OrganizationAggregate) := do
  let slug ← written (Pg.text slug)
  let orm ← .gets fun w => w.organizations.rows.find? fun row => row.slug = slug
  foundAs OrganizationMapper.toDomain orm

/-- The rows of an owner come in no particular order, and `getOne` answers the
first. -/
def findByOwnerId (ties : Typeorm.Arrangement OrganizationOrmEntity) (ownerId : String) :
    App (Option OrganizationAggregate) := do
  let owner ← uuidParameter ownerId
  let orm ← .gets fun w =>
    (ties.arrange (w.organizations.rows.filter fun row => row.ownerId = owner)).head?
  foundAs OrganizationMapper.toDomain orm

def provision (savedAt : Js.Date) (organization : OrganizationAggregate) :
    App OrganizationAggregate := do
  let orm := OrganizationMapper.toOrm organization
  let saved ← saveOrm savedAt orm
  .lift (OrganizationMapper.toDomain saved)

/-! ## What they answer -/

/-- What TypeORM answers after a save is the entity it was given, with the date of
the save. -/
theorem saveOrm_ok {savedAt : Js.Date} {orm saved : OrganizationOrmEntity} {w w' : World}
    (h : (saveOrm savedAt orm).run w = (.ok saved, w')) :
    saved = { orm with updatedAt := savedAt } ∧
      ∃ table, Typeorm.saveRow OrganizationOrmEntity.stored merge (allowed w) w.organizations
        saved = some table ∧ w' = { w with organizations := table } := by
  obtain ⟨found, w₁, hget, hwrite⟩ := Program.bind_run_eq_ok h
  cases hget
  obtain ⟨table, w₂, hwritten, hmodify⟩ := Program.bind_run_eq_ok hwrite
  obtain ⟨htable, rfl⟩ := written_ok hwritten
  cases hmodify
  exact ⟨rfl, table, htable, rfl⟩

/-- The statement writes the table that `saveRow` computes, or is refused. -/
theorem saveOrm_run (savedAt : Js.Date) (orm : OrganizationOrmEntity) (w : World) :
    (saveOrm savedAt orm).run w =
      match Typeorm.saveRow OrganizationOrmEntity.stored merge (allowed w) w.organizations
          { orm with updatedAt := savedAt } with
      | some table => (.ok { orm with updatedAt := savedAt }, { w with organizations := table })
      | none => (.error .database, w) := by
  refine (write_run (fun w => Typeorm.saveRow OrganizationOrmEntity.stored merge (allowed w)
    w.organizations { orm with updatedAt := savedAt }) _ w).trans ?_
  cases Typeorm.saveRow OrganizationOrmEntity.stored merge (allowed w) w.organizations
      { orm with updatedAt := savedAt } with
  | some table => rfl
  | none => rfl

/-- An organization that is found is the tenant, built from its row. -/
theorem findById_ok {ctx : Option String} {id : String} {w w' : World}
    {org : OrganizationAggregate} (h : (findById ctx id).run w = (.ok (some org), w')) :
    Js.truthy ctx = some id ∧ w' = w.noting ctx ∧
      ∃ key row, Pg.uuid id = some key ∧ w.organizations.find? key = some row ∧
        OrganizationMapper.toDomain row = .ok org := by
  obtain ⟨⟨⟩, w₁, hguard, hquery⟩ := Program.bind_run_eq_ok h
  obtain ⟨hctx, rfl⟩ := guardTenant_ok hguard
  obtain ⟨key, w₂, hparameter, hread⟩ := Program.bind_run_eq_ok hquery
  obtain ⟨hkey, rfl⟩ := uuidParameter_ok hparameter
  obtain ⟨found, w₃, hfound, hmap⟩ := Program.bind_run_eq_ok hread
  cases hfound
  split at hmap
  · next row hrow =>
      obtain ⟨org', w₄, hlift, hpure⟩ := Program.bind_run_eq_ok hmap
      obtain ⟨hdomain, rfl⟩ := lift_ok hlift
      cases hpure
      exact ⟨hctx, rfl, key, row, hkey, hrow, hdomain⟩
  · cases hmap

/-- The tenant's own row is read, and turned into an aggregate if its slug is
one. -/
theorem findById_run {ctx : Option String} {id key : String} {w : World}
    {row : OrganizationOrmEntity} (hctx : Js.truthy ctx = some id) (hkey : Pg.uuid id = some key)
    (hrow : w.organizations.find? key = some row) :
    (findById ctx id).run w = ((OrganizationMapper.toDomain row).map some, w.noting ctx) := by
  have hparameter := uuidParameter_run (w.noting ctx) hkey
  have hread : (Program.gets fun w => w.organizations.find? key : App _).run (w.noting ctx) =
      (.ok (some row), w.noting ctx) := by
    rw [Program.gets_run, ← hrow]
    rfl
  refine (Program.bind_run_ok (guardTenant_run name w hctx)).trans ?_
  refine (Program.bind_run_ok hparameter).trans ?_
  refine (Program.bind_run_ok hread).trans ?_
  cases hdomain : OrganizationMapper.toDomain row with
  | ok org =>
      have hlift : (Program.lift (OrganizationMapper.toDomain row) : App _).run (w.noting ctx) =
          (.ok org, w.noting ctx) := by
        rw [hdomain]
        rfl
      exact Program.bind_run_ok hlift
  | error e =>
      have hlift : (Program.lift (OrganizationMapper.toDomain row) : App _).run (w.noting ctx) =
          (.error e, w.noting ctx) := by
        rw [hdomain]
        rfl
      exact Program.bind_run_error hlift

/-- An organization other than that of the tenant is not looked up: the guard rejects. -/
theorem findById_run_error {ctx : Option String} {id : String} (w : World)
    (hctx : Js.truthy ctx ≠ some id) :
    ∃ e, (findById ctx id).run w = (.error e, w.noting ctx) := by
  have hguard : ∃ e, (guardTenantRoot name ctx id).run w = (.error e, w.noting ctx) :=
    guardTenant_run_error name w hctx
  obtain ⟨e, hrejected⟩ := hguard
  exact ⟨e, Program.bind_run_error hrejected⟩

/-- An organization that is saved is the tenant of the context. -/
theorem save_ok {ctx : Option String} {savedAt : Js.Date} {org saved : OrganizationAggregate}
    {w w' : World} (h : (save ctx savedAt org).run w = (.ok saved, w')) :
    Js.truthy ctx = some org.organizationId ∧
      ∃ table, Typeorm.saveRow OrganizationOrmEntity.stored merge (allowed w) w.organizations
        { OrganizationMapper.toOrm org with updatedAt := savedAt } = some table ∧
        w' = { w.noting ctx with organizations := table } ∧
        OrganizationMapper.toDomain { OrganizationMapper.toOrm org with updatedAt := savedAt } =
          .ok saved := by
  obtain ⟨⟨⟩, w₁, hguard, hwrite⟩ := Program.bind_run_eq_ok h
  obtain ⟨hctx, rfl⟩ := guardTenant_ok hguard
  obtain ⟨orm, w₂, hsave, hlift⟩ := Program.bind_run_eq_ok hwrite
  obtain ⟨rfl, table, htable, rfl⟩ := saveOrm_ok hsave
  obtain ⟨hdomain, rfl⟩ := lift_ok hlift
  exact ⟨hctx, table, htable, rfl, hdomain⟩

/-- Nothing is written, or the row of the active tenant. -/
theorem save_cases (ctx : Option String) (savedAt : Js.Date) (org : OrganizationAggregate)
    (w : World) :
    (∃ e, (save ctx savedAt org).run w = (.error e, w.noting ctx)) ∨
    ∃ answer row, (save ctx savedAt org).run w =
        (answer, { w.noting ctx with organizations := w.organizations.put row }) ∧
      Js.truthy ctx = some org.organizationId ∧ Pg.uuid org.organizationId = some row.id := by
  rcases guardTenant_cases name ctx org.organizationId _ (provision savedAt org) w with
    hrejected | ⟨hctx, hrun⟩
  · exact .inl hrejected
  · have hsave := saveOrm_run savedAt (OrganizationMapper.toOrm org) (w.noting ctx)
    split at hsave
    · next table htable =>
        obtain ⟨stored, row, hstored, -, rfl, hmerged⟩ := Typeorm.saveRow_cases htable
        have hid : row.id = stored.id := by
          rcases hmerged with ⟨-, rfl⟩ | ⟨old, -, rfl⟩
          · rfl
          · rfl
        refine .inr ⟨_, row, hrun.trans (Program.bind_run_ok hsave), hctx, ?_⟩
        rw [hid]
        exact (OrganizationOrmEntity.storedAs hstored).id
    · exact .inl ⟨_, hrun.trans (Program.bind_run_error hsave)⟩

/-- An organization that is created is in the table, whatever the context. -/
theorem provision_ok {savedAt : Js.Date} {org saved : OrganizationAggregate} {w w' : World}
    (h : (provision savedAt org).run w = (.ok saved, w')) :
    ∃ table, w' = { w with organizations := table } ∧
      OrganizationMapper.toDomain { OrganizationMapper.toOrm org with updatedAt := savedAt } =
        .ok saved := by
  obtain ⟨orm, w₁, hsave, hlift⟩ := Program.bind_run_eq_ok h
  obtain ⟨rfl, table, -, rfl⟩ := saveOrm_ok hsave
  obtain ⟨hdomain, rfl⟩ := lift_ok hlift
  exact ⟨table, rfl, hdomain⟩

/-- What is provisioned is written to one row, in its normal form. -/
theorem provision_writes {savedAt : Js.Date} {org saved : OrganizationAggregate} {w w' : World}
    (h : (provision savedAt org).run w = (.ok saved, w')) :
    saved.organizationId = org.organizationId ∧
      ∃ row, w' = { w with organizations := w.organizations.put row } ∧
        Pg.uuid org.organizationId = some row.id ∧ row.slug = org.slug.value ∧
        row.status = org.status ∧ Pg.uuid org.ownerId = some row.ownerId := by
  obtain ⟨orm, w₁, hsave, hlift⟩ := Program.bind_run_eq_ok h
  obtain ⟨rfl, table, htable, rfl⟩ := saveOrm_ok hsave
  obtain ⟨hdomain, rfl⟩ := lift_ok hlift
  obtain ⟨-, hid, -⟩ := OrganizationMapper.toDomain_cases hdomain
  obtain ⟨stored, row, hstored, -, rfl, hmerged⟩ := Typeorm.saveRow_cases htable
  have hcolumns := OrganizationOrmEntity.storedAs hstored
  have hslug : stored.slug = org.slug.value :=
    Pg.varchar_eq (slug_short org.slug.pattern) hcolumns.slug
  refine ⟨hid, row, rfl, ?_⟩
  rcases hmerged with ⟨-, rfl⟩ | ⟨old, -, rfl⟩
  · exact ⟨hcolumns.id, hslug, hcolumns.status, hcolumns.ownerId⟩
  · exact ⟨hcolumns.id, hslug, hcolumns.status, hcolumns.ownerId⟩

/-- The look-up by slug rejects, finds nothing, or answers the aggregate of the
row. -/
theorem findBySlug_cases (slug : String) (w : World) :
    (∃ e, (findBySlug slug).run w = (.error e, w)) ∨
    ((findBySlug slug).run w = (.ok none, w) ∧
      (w.organizations.rows.find? fun row => row.slug = slug) = none) ∨
    ∃ row org, (findBySlug slug).run w = (.ok (some org), w) ∧
      (w.organizations.rows.find? fun row => row.slug = slug) = some row ∧
      OrganizationMapper.toDomain row = .ok org := by
  rw [findBySlug]
  exact textLookup_cases OrganizationMapper.toDomain slug
    (fun slug w => w.organizations.rows.find? fun row => row.slug = slug) w

/-- A look-up by slug answers the aggregate of the row with the slug. -/
theorem findBySlug_run {slug : String} {w : World} {row : OrganizationOrmEntity}
    {org : OrganizationAggregate} (htext : Pg.text slug = some slug)
    (hrow : (w.organizations.rows.find? fun row => row.slug = slug) = some row)
    (hdomain : OrganizationMapper.toDomain row = .ok org) :
    (findBySlug slug).run w = (.ok (some org), w) := by
  rw [findBySlug]
  exact textLookup_run htext hrow hdomain

/-- Whether a slug is taken is only read. -/
theorem existsBySlug_ok {slug : String} {found : Bool} {w w' : World}
    (h : (existsBySlug slug).run w = (.ok found, w')) : w' = w := by
  obtain ⟨s, w₁, hparameter, hread⟩ := Program.bind_run_eq_ok h
  obtain ⟨-, rfl⟩ := written_ok hparameter
  cases hread
  rfl

end OrganizationRepository

end Atlas
