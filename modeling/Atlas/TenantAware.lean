import Atlas.World

/-!
# Atlas.TenantAware

The repository bases of the shared kernel: every tenant-scoped operation asks
`requireTenantId` for the tenant of the active context, and either filters by
it (`scopedWhere`, `scopedQb`) or compares it with what it was given
(`guardTenantOwnership`, `guardTenantRoot`).

`ctx` is what `tryGetTenantId` answers, and `name` the class of the repository.
-/

namespace Atlas

open StoreKit

/-- The tenant given to an operation goes on record. -/
def World.noting (w : World) (tenant : Option String) : World :=
  { w with tenants := w.tenants ++ [tenant] }

namespace TenantAwareRepository

def noteTenant (tenant : Option String) : App Unit := .modify fun w => w.noting tenant

def requireTenantId (name : String) (ctx : Option String) : App String := do
  noteTenant ctx
  match Js.truthy ctx with
  | some id => pure id
  | none => .reject (.error (s!"{name}: operation requires an active tenant context. " ++
      "For system-level operations, use a method that accepts SystemQueryContext."))

/-- The columns a repository puts in a `where` clause; one that is absent
restricts nothing. -/
structure FindOptionsWhere where
  tenantId : Option String
  id : Option String
deriving DecidableEq

/-- `{ tenantId, ...extra }`. -/
def scopedWhere (name : String) (ctx : Option String) (extra : FindOptionsWhere) :
    App FindOptionsWhere := do
  let tenantId ← requireTenantId name ctx
  return { tenantId := extra.tenantId.or (some tenantId), id := extra.id }

/-- The tenant a scoped query builder filters by. -/
def scopedQb (name : String) (ctx : Option String) : App String := requireTenantId name ctx

/-- What is given has to be the active tenant. -/
def guardTenant (name : String) (ctx : Option String) (id : String)
    (violation : String → Exception) : App Unit := do
  let tenantId ← requireTenantId name ctx
  if id ≠ tenantId then .reject (violation tenantId) else pure ()

def guardTenantOwnership (name : String) (ctx : Option String) (entityTenantId : String) :
    App Unit :=
  guardTenant name ctx entityTenantId fun tenantId =>
    .forbidden (s!"Tenant isolation violation in {name}: " ++
      s!"entity.tenantId={entityTenantId} but context.tenantId={tenantId}")

def guardTenantRoot (name : String) (ctx : Option String) (aggregateId : String) : App Unit :=
  guardTenant name ctx aggregateId fun tenantId =>
    .forbidden (s!"{name}: cannot access organization {aggregateId} " ++
      s!"from tenant context {tenantId}")

/-- A context with a tenant gives it. -/
theorem requireTenantId_run {name : String} {ctx : Option String} {id : String} (w : World)
    (h : Js.truthy ctx = some id) :
    (requireTenantId name ctx).run w = (.ok id, w.noting ctx) := by
  have hrun : (requireTenantId name ctx).run w = (match Js.truthy ctx with
      | some id => (pure id : App String)
      | none => .reject _).run (w.noting ctx) := rfl
  rw [hrun, h]
  rfl

/-- Without a tenant the operation stops here, whatever the state. -/
theorem requireTenantId_absent (name : String) {ctx : Option String} (h : Js.truthy ctx = none) :
    ∃ message, ∀ w, (requireTenantId name ctx).run w = (.error (.error message), w.noting ctx) := by
  refine ⟨s!"{name}: operation requires an active tenant context. " ++
    "For system-level operations, use a method that accepts SystemQueryContext.", fun w => ?_⟩
  have hrun : (requireTenantId name ctx).run w = (match Js.truthy ctx with
      | some id => (pure id : App String)
      | none => .reject _).run (w.noting ctx) := rfl
  rw [hrun, h]
  rfl

/-- Without a tenant in the context `requireTenantId` throws. -/
theorem requireTenantId_run_none (name : String) {ctx : Option String} (w : World)
    (h : Js.truthy ctx = none) : ∃ message,
    (requireTenantId name ctx).run w = (.error (.error message), w.noting ctx) := by
  obtain ⟨message, hrun⟩ := requireTenantId_absent name h
  exact ⟨message, hrun w⟩

/-- The guard lets the active tenant pass. -/
theorem guardTenant_run (name : String) {ctx : Option String} {id : String}
    {violation : String → Exception} (w : World) (h : Js.truthy ctx = some id) :
    (guardTenant name ctx id violation).run w = (.ok (), w.noting ctx) := by
  rw [guardTenant, Program.bind_run_ok (requireTenantId_run w h), if_neg (not_not.mpr rfl)]
  rfl

/-- The guard rejects whatever belongs to somebody else. -/
theorem guardTenant_run_error (name : String) {ctx : Option String} {id : String}
    {violation : String → Exception} (w : World) (h : Js.truthy ctx ≠ some id) : ∃ e,
    (guardTenant name ctx id violation).run w = (.error e, w.noting ctx) := by
  cases hctx : Js.truthy ctx with
  | none =>
      obtain ⟨message, hrequire⟩ := requireTenantId_run_none name w hctx
      exact ⟨_, Program.bind_run_error hrequire⟩
  | some tenantId =>
      have hne : id ≠ tenantId := fun heq => h (heq ▸ hctx)
      rw [guardTenant, Program.bind_run_ok (requireTenantId_run w hctx), if_pos hne]
      exact ⟨_, rfl⟩

/-- What is guarded runs for the active tenant, and is refused to anybody else. -/
theorem guardTenant_cases {β : Type} (name : String) (ctx : Option String) (id : String)
    (violation : String → Exception) (m : App β) (w : World) :
    (∃ e, (guardTenant name ctx id violation >>= fun _ => m).run w = (.error e, w.noting ctx)) ∨
    (Js.truthy ctx = some id ∧
      (guardTenant name ctx id violation >>= fun _ => m).run w = m.run (w.noting ctx)) := by
  by_cases hctx : Js.truthy ctx = some id
  · exact .inr ⟨hctx, Program.bind_run_ok (guardTenant_run name w hctx)⟩
  · have hguard : ∃ e, (guardTenant name ctx id violation).run w = (.error e, w.noting ctx) :=
      guardTenant_run_error name w hctx
    obtain ⟨e, hrejected⟩ := hguard
    exact .inl ⟨e, Program.bind_run_error hrejected⟩

/-- A guarded save writes nothing, or one row of the active tenant. -/
theorem guardedSave_cases {ρ α : Type} (t : DatedTable ρ) (name : String) (ctx : Option String)
    (tenantId : String) (savedAt : Js.Date) (orm : ρ) (toDomain : ρ → α) (w : World) :
    (∃ e, (guardTenantOwnership name ctx tenantId >>= fun _ => t.saveOrm savedAt orm >>= fun saved =>
        pure (toDomain saved)).run w = (.error e, w.noting ctx)) ∨
    ∃ createdAt row, (guardTenantOwnership name ctx tenantId >>= fun _ =>
          t.saveOrm savedAt orm >>= fun saved => pure (toDomain saved)).run w =
        (.ok (toDomain (t.dated createdAt (some savedAt) orm)),
          t.setTable (w.noting ctx) ((t.table (w.noting ctx)).put row)) ∧
      Js.truthy ctx = some tenantId ∧ t.Writes savedAt orm (w.noting ctx) row := by
  rcases guardTenant_cases name ctx tenantId _
    (t.saveOrm savedAt orm >>= fun saved => pure (toDomain saved)) w with hrejected | ⟨hctx, hrun⟩
  · exact .inl hrejected
  · rcases t.saveOrm_cases savedAt orm (w.noting ctx) with
      ⟨e, hsave⟩ | ⟨createdAt, row, hsave, hwrites⟩
    · exact .inl ⟨e, hrun.trans (Program.bind_run_error hsave)⟩
    · exact .inr ⟨createdAt, row, hrun.trans (Program.bind_run_ok hsave), hctx, hwrites⟩

/-- A guard that lets the aggregate pass has compared it with the tenant of the
context. -/
theorem guardTenant_ok {name : String} {ctx : Option String} {id : String}
    {violation : String → Exception} {w w' : World}
    (h : (guardTenant name ctx id violation).run w = (.ok (), w')) :
    Js.truthy ctx = some id ∧ w' = w.noting ctx := by
  by_cases hctx : Js.truthy ctx = some id
  · rw [guardTenant_run name w hctx] at h
    exact ⟨hctx, (Prod.mk.inj h).2.symm⟩
  · obtain ⟨e, hrun⟩ := guardTenant_run_error name w hctx
    rw [hrun] at h
    cases h

/-! ## Queries -/

/-- The value of a `uuid` column in a `where` clause. -/
def columnParameter : Option String → App (Option String)
  | some s => do
      let id ← uuidParameter s
      return some id
  | none => pure none

/-- The column has the value asked for, if one is. -/
def columnMatches (value : Option String) (column : String) : Bool :=
  match value with
  | some v => column = v
  | none => true

/-- `repo.findOne({ where })` on a table with the two columns. -/
def findOne {ρ : Type} (rows : World → List ρ) (tenantId id : ρ → String)
    (options : FindOptionsWhere) : App (Option ρ) := do
  let tenant ← columnParameter options.tenantId
  let key ← columnParameter options.id
  .gets fun w => (rows w).find? fun row =>
    columnMatches tenant (tenantId row) && columnMatches key (id row)

/-- A scoped condition names the tenant of the context. -/
theorem scopedWhere_run (name : String) {ctx : Option String} {tenant : String}
    (id : Option String) (w : World) (h : Js.truthy ctx = some tenant) :
    (scopedWhere name ctx { tenantId := none, id }).run w =
      (.ok { tenantId := some tenant, id }, w.noting ctx) := by
  rw [scopedWhere, Program.bind_run_ok (requireTenantId_run w h)]
  rfl

/-- Without a tenant there is no scoped condition. -/
theorem scopedWhere_run_none (name : String) {ctx : Option String} (extra : FindOptionsWhere)
    (w : World) (h : Js.truthy ctx = none) :
    ∃ e, (scopedWhere name ctx extra).run w = (.error e, w.noting ctx) := by
  obtain ⟨message, hrequire⟩ := requireTenantId_run_none name w h
  rw [scopedWhere, Program.bind_run_error hrequire]
  exact ⟨_, rfl⟩

/-- A value that is compared is a `uuid`, or the query is refused. -/
theorem columnParameter_run (value : String) (w : World) :
    (columnParameter (some value)).run w =
      match Pg.uuid value with
      | some id => (.ok (some id), w)
      | none => (.error .database, w) := by
  cases hid : Pg.uuid value with
  | some id =>
      rw [columnParameter, Program.bind_run_ok (uuidParameter_run w hid)]
      rfl
  | none =>
      have hrefused : (uuidParameter value).run w = (.error .database, w) := by
        rw [uuidParameter, hid]
        rfl
      rw [columnParameter, Program.bind_run_error hrefused]

/-- One that is not given is not compared. -/
theorem columnParameter_nullable (value : Option String) (w : World) :
    (columnParameter value).run w =
      (match Pg.nullable Pg.uuid value with
        | some id => .ok id
        | none => .error .database, w) := by
  cases value with
  | none => rfl
  | some s =>
      rw [columnParameter_run, Pg.nullable]
      cases Pg.uuid s with
      | some id => rfl
      | none => rfl

/-- The query compares both columns, or is refused. -/
theorem findOne_run {ρ : Type} (rows : World → List ρ) (tenantId id : ρ → String)
    (tenant key : String) (w : World) :
    (findOne rows tenantId id { tenantId := some tenant, id := some key }).run w =
      match Pg.uuid tenant, Pg.uuid key with
      | some t, some k => (.ok ((rows w).find? fun row => tenantId row = t && id row = k), w)
      | _, _ => (.error .database, w) := by
  have htenant := columnParameter_run tenant w
  cases ht : Pg.uuid tenant with
  | none =>
      rw [ht] at htenant
      rw [findOne, Program.bind_run_error htenant]
  | some t =>
      rw [ht] at htenant
      have hkey := columnParameter_run key w
      cases hk : Pg.uuid key with
      | none =>
          rw [hk] at hkey
          rw [findOne, Program.bind_run_ok htenant, Program.bind_run_error hkey]
      | some k =>
          rw [hk] at hkey
          rw [findOne, Program.bind_run_ok htenant, Program.bind_run_ok hkey, Program.gets_run]
          rfl

/-- A row is looked up under the active tenant. -/
theorem scopedFindOne_run {ρ β : Type} (name : String) {ctx : Option String} {key tenant t k : String}
    (rows : World → List ρ) (tenantId id : ρ → String) (next : Option ρ → App β) {w : World}
    (hrows : rows (w.noting ctx) = rows w) (hctx : Js.truthy ctx = some tenant)
    (ht : Pg.uuid tenant = some t) (hk : Pg.uuid key = some k) :
    (scopedWhere name ctx { tenantId := none, id := some key } >>= fun options =>
        findOne rows tenantId id options >>= next).run w =
      (next ((rows w).find? fun row => tenantId row = t && id row = k)).run (w.noting ctx) := by
  have hfind := findOne_run rows tenantId id tenant key (w.noting ctx)
  simp only [ht, hk, hrows] at hfind
  rw [Program.bind_run_ok (scopedWhere_run name _ w hctx), Program.bind_run_ok hfind]

/-- A scoped look-up rejects, or goes on with what it has found. -/
theorem scopedFindOne_cases {ρ β : Type} (name : String) (ctx : Option String) (key : String)
    (rows : World → List ρ) (tenantId id : ρ → String) (next : Option ρ → App β) (w : World)
    (hrows : rows (w.noting ctx) = rows w) :
    (∃ e, (scopedWhere name ctx { tenantId := none, id := some key } >>= fun options =>
        findOne rows tenantId id options >>= next).run w = (.error e, w.noting ctx)) ∨
    ∃ tenant t k, Js.truthy ctx = some tenant ∧ Pg.uuid tenant = some t ∧ Pg.uuid key = some k ∧
      (scopedWhere name ctx { tenantId := none, id := some key } >>= fun options =>
        findOne rows tenantId id options >>= next).run w =
        (next ((rows w).find? fun row => tenantId row = t && id row = k)).run (w.noting ctx) := by
  cases hctx : Js.truthy ctx with
  | none =>
      obtain ⟨e, hwhere⟩ := scopedWhere_run_none name { tenantId := none, id := some key } w hctx
      rw [Program.bind_run_error hwhere]
      exact .inl ⟨e, rfl⟩
  | some tenant =>
      have hfind := findOne_run rows tenantId id tenant key (w.noting ctx)
      cases ht : Pg.uuid tenant with
      | none =>
          simp only [ht] at hfind
          rw [Program.bind_run_ok (scopedWhere_run name _ w hctx), Program.bind_run_error hfind]
          exact .inl ⟨_, rfl⟩
      | some t =>
          cases hk : Pg.uuid key with
          | none =>
              simp only [ht, hk] at hfind
              rw [Program.bind_run_ok (scopedWhere_run name _ w hctx), Program.bind_run_error hfind]
              exact .inl ⟨_, rfl⟩
          | some k =>
              exact .inr ⟨tenant, t, k, rfl, ht, rfl,
                scopedFindOne_run name rows tenantId id next hrows hctx ht hk⟩

/-- `qb.orderBy(date, 'DESC').skip(skip).take(take).getManyAndCount()` over the
rows of a tenant that meet the other conditions.  The rows are counted where the
page does not tell how many there are. -/
def getManyAndCount {ρ : Type} (arithmetic : Js.Arithmetic) (rows : World → List ρ)
    (ties : Typeorm.Arrangement ρ) (date : ρ → Js.Date) (condition : ρ → Bool)
    (skip take : Js.Number) : App (List ρ × Js.Number) := do
  let matching ← .gets fun w => (rows w).filter condition
  let data ← .lift (Typeorm.paginate skip take (Typeorm.orderByDesc ties date matching))
  return (data, (Typeorm.lazyCount arithmetic skip take data.length).getD matching.length)

/-! ## What they leave alone -/

section Leaves

variable {τ : Type} {f : World → τ}

/-- A value that is written, or refused, changes nothing by itself. -/
theorem leaves_written {α : Type} (result : Option α) : Program.Leaves f (written result) := by
  cases result with
  | some a => exact .pure a
  | none => exact .reject _

theorem leaves_uuidParameter (s : String) : Program.Leaves f (uuidParameter s) := by
  unfold uuidParameter
  cases Pg.uuid s with
  | some id => exact .pure id
  | none => exact .reject _

theorem leaves_columnParameter (value : Option String) :
    Program.Leaves f (columnParameter value) := by
  cases value with
  | some s => exact .bind (leaves_uuidParameter s) fun id => .pure (some id)
  | none => exact .pure none

/-- A look-up changes nothing. -/
theorem leaves_findOne {ρ : Type} (rows : World → List ρ) (tenantId id : ρ → String)
    (options : FindOptionsWhere) : Program.Leaves f (findOne rows tenantId id options) :=
  .bind (leaves_columnParameter _) fun _ => .bind (leaves_columnParameter _) fun _ => .gets _

/-- A page and its total change nothing. -/
theorem leaves_getManyAndCount {ρ : Type} (arithmetic : Js.Arithmetic) (rows : World → List ρ)
    (ties : Typeorm.Arrangement ρ) (date : ρ → Js.Date) (condition : ρ → Bool)
    (skip take : Js.Number) :
    Program.Leaves f (getManyAndCount arithmetic rows ties date condition skip take) :=
  .bind (.gets _) fun _ => .bind (.lift _) fun _ => .pure _

variable (hf : ∀ w tenant, f (World.noting w tenant) = f w)

include hf

/-- `requireTenantId` changes nothing but the record of tenants. -/
theorem leaves_requireTenantId (name : String) (ctx : Option String) :
    Program.Leaves f (requireTenantId name ctx) := by
  refine .bind (.modify fun w => hf w ctx) fun _ => ?_
  cases Js.truthy ctx with
  | some id => exact .pure id
  | none => exact .reject _

/-- A scoped condition changes nothing but the record of tenants. -/
theorem leaves_scopedWhere (name : String) (ctx : Option String) (extra : FindOptionsWhere) :
    Program.Leaves f (scopedWhere name ctx extra) :=
  .bind (leaves_requireTenantId hf name ctx) fun _ => .pure _

/-- A guard changes nothing but the record of tenants. -/
theorem leaves_guardTenant (name : String) (ctx : Option String) (id : String)
    (violation : String → Exception) : Program.Leaves f (guardTenant name ctx id violation) := by
  refine .bind (leaves_requireTenantId hf name ctx) fun tenantId => ?_
  split
  · exact .reject _
  · exact .pure ()

end Leaves

end TenantAwareRepository

end Atlas
