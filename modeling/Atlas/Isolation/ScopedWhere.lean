import Mathlib.Data.List.Find
import Atlas.Lib.Filter
import Atlas.TenantAware

/-!
# Atlas.Isolation.ScopedWhere

`scopedWhere` on every filter a repository may pass.

`{ tenantId, ...extra }` spreads the filter over the tenant of the context, so
a `tenantId` in the filter replaces it: with another value the rows of another
tenant are found, and with `undefined`, which is no condition, the rows of all.
`scopedWhere_scoped_iff` says which filters keep the query within the tenant.

The repositories pass `{ id }`, and on that the query is the one `findOne`
makes (`findOne_scopedWhere`).
-/

namespace Atlas

open StoreKit

namespace TenantScopedRepository

/-! ## Filters and rows -/

/-- What is passed under a key and is not `undefined`: a string, or anything
else (`null`, a number, a date, a `FindOperator`). -/
inductive WhereValue (V : Type) where
  | text (s : String)
  | other (v : V)
deriving DecidableEq

/-- A `where` object; a key without a value is one that is `undefined`. -/
abbrev FindOptionsWhere (V : Type) := Filter String (WhereValue V)

/-- A row of a table with a `tenant_id uuid` column. -/
structure TenantRow (ρ : Type) where
  tenantId : String
  isUuid : Pg.uuid tenantId = some tenantId
  columns : ρ

/-- What the query makes of values: a condition on the tenant, of those that are
no strings, and conditions on the other columns. -/
structure Conditions (V ρ : Type) where
  tenantId : V → String → Bool
  column : String → WhereValue V → ρ → Bool

variable {V ρ : Type} (c : Conditions V ρ)

/-- The condition of a value under its key.  A string under `tenantId` is compared
as a `uuid`; one that is none is refused, so that no row is found. -/
def Conditions.admits (key : String) (value : WhereValue V) (row : TenantRow ρ) : Bool :=
  if key = "tenantId" then
    match value with
    | .text s => Pg.uuid s = some row.tenantId
    | .other v => c.tenantId v row.tenantId
  else c.column key value row.columns

/-- `repo.find({ where: options })`. -/
def Conditions.find (options : FindOptionsWhere V) (rows : List (TenantRow ρ)) :
    List (TenantRow ρ) :=
  rows.filter (Filter.selects c.admits options)

/-- The row meets the conditions of a filter on everything but the tenant. -/
def Conditions.meetsRest (extra : FindOptionsWhere V) (row : TenantRow ρ) : Bool :=
  Filter.selects c.admits (extra.erase "tenantId") row

/-- `{ tenantId: this.requireTenantId(), ...(extra ?? {}) }`. -/
def scopedWhere (name : String) (ctx : Option String) (extra : Option (FindOptionsWhere V)) :
    App (FindOptionsWhere V) := do
  let tenantId ← TenantAwareRepository.requireTenantId name ctx
  return Filter.spread (.singleton "tenantId" (some (.text tenantId))) (extra.getD ∅)

/-- Every table is searched within the tenant: what is found is the tenant's, and
it is all of the tenant's rows that meet the rest of the filter. -/
structure Conditions.Scoped (tenant : String) (extra options : FindOptionsWhere V) : Prop where
  tenantId : ∀ rows, ∀ row ∈ c.find options rows, Pg.uuid tenant = some row.tenantId
  rows : ∀ rows, c.find options rows = rows.filter fun row =>
    Pg.uuid tenant = some row.tenantId && c.meetsRest extra row

/-- The value stands for the tenant and for no other. -/
def Conditions.Names (tenant : String) : WhereValue V → Prop
  | .text s => Pg.uuid s = Pg.uuid tenant
  | .other v => ∀ id, Pg.uuid id = some id → (c.tenantId v id = true ↔ Pg.uuid tenant = some id)

/-- The filter has no `tenantId`, or one that names the tenant, or the rest of it
is met by no row. -/
def Conditions.Unwidened (tenant : String) (extra : FindOptionsWhere V) : Prop :=
  "tenantId" ∉ extra ∨
  (∃ value, extra.lookup "tenantId" = some (some value) ∧ c.Names tenant value) ∨
  ∀ row : TenantRow ρ, c.meetsRest extra row = false

/-- The conditions of a lookup by id: no key but `tenantId` and `id`, and no value
but a string. -/
def byId (id : ρ → String) : Conditions Empty ρ where
  tenantId v _ := nomatch v
  column
    | "id", .text s, columns => Pg.uuid s = some (id columns)
    | _, _, _ => false

variable {c} {tenant : String} {extra options : FindOptionsWhere V}

/-! ## One row -/

/-- To name the tenant is to admit its rows and no others. -/
theorem names_iff (value : WhereValue V) (columns : ρ) : c.Names tenant value ↔
    ∀ id, (h : Pg.uuid id = some id) →
      (c.admits "tenantId" value ⟨id, h, columns⟩ = true ↔ Pg.uuid tenant = some id) := by
  cases value with
  | other v => simp only [Conditions.Names, Conditions.admits, if_pos]
  | text s =>
      simp only [Conditions.Names, Conditions.admits, if_pos, decide_eq_true_eq]
      constructor
      · intro hsame id _
        rw [hsame]
      · intro h
        apply Option.ext
        intro id
        constructor
        · intro hs
          exact (h id (Pg.uuid_uuid hs)).mp hs
        · intro htenant
          exact (h id (Pg.uuid_uuid htenant)).mpr htenant

/-- The rest of a filter does not look at the tenant. -/
theorem meetsRest_moved (row : TenantRow ρ) {id : String} (hid : Pg.uuid id = some id) :
    c.meetsRest extra ⟨id, hid, row.columns⟩ = c.meetsRest extra row := by
  unfold Conditions.meetsRest
  apply Filter.selects_congr
  intro key v hmem
  have hkey : key ≠ "tenantId" := (AList.mem_erase.mp hmem).1
  simp only [Conditions.admits, if_neg hkey]

/-- Two identifiers differ, so one of them is not the tenant's. -/
theorem exists_other_tenant (tenant : String) :
    ∃ id, Pg.uuid id = some id ∧ Pg.uuid tenant ≠ some id := by
  by_cases h : Pg.uuid tenant = some (Pg.uuidOf 1)
  · refine ⟨Pg.uuidOf 2, Pg.uuid_uuidOf 2, ?_⟩
    rw [h]
    decide
  · exact ⟨Pg.uuidOf 1, Pg.uuid_uuidOf 1, h⟩

/-- **A table is searched within the tenant** if and only if every row is. -/
theorem scoped_iff : c.Scoped tenant extra options ↔ ∀ row : TenantRow ρ,
    (Filter.selects c.admits options row = true ↔
      Pg.uuid tenant = some row.tenantId ∧ c.meetsRest extra row = true) := by
  constructor
  · intro h row
    have hrows := h.rows [row]
    have hmem : row ∈ c.find options [row] ↔ row ∈ [row].filter fun row =>
        Pg.uuid tenant = some row.tenantId && c.meetsRest extra row := by
      rw [hrows]
    simpa [Conditions.find] using hmem
  · intro h
    have hrows : ∀ rows, c.find options rows = rows.filter fun row =>
        Pg.uuid tenant = some row.tenantId && c.meetsRest extra row := by
      intro rows
      apply List.filter_congr
      intro row _
      rw [Bool.eq_iff_iff, h row, Bool.and_eq_true, decide_eq_true_eq]
    constructor
    · intro rows row hrow
      rw [hrows, List.mem_filter, Bool.and_eq_true, decide_eq_true_eq] at hrow
      exact hrow.2.1
    · exact hrows

/-! ## `scopedWhere` -/

/-- The filter that `scopedWhere` answers under a tenant. -/
def withTenant (tenant : String) (extra : FindOptionsWhere V) : FindOptionsWhere V :=
  Filter.spread (.singleton "tenantId" (some (.text tenant))) extra

theorem scopedWhere_run (name : String) {ctx : Option String} (h : Js.truthy ctx = some tenant)
    (extra : Option (FindOptionsWhere V)) (w : World) :
    (scopedWhere name ctx extra).run w = (.ok (withTenant tenant (extra.getD ∅)), w.noting ctx) := by
  rw [scopedWhere, Program.bind_run_ok (TenantAwareRepository.requireTenantId_run w h)]
  rfl

/-- A filter without a tenant is added to the condition on the tenant. -/
theorem scoped_of_absent (h : "tenantId" ∉ extra) :
    c.Scoped tenant extra (withTenant tenant extra) := by
  have habsent : extra.lookup "tenantId" = none := AList.lookup_eq_none.mpr h
  rw [scoped_iff]
  intro row
  rw [withTenant, Filter.selects_spread_singleton, habsent]
  simp [Conditions.admits, Conditions.meetsRest]

/-- A tenant in the filter takes the place of the one of the context. -/
theorem selects_scoped {value : Option (WhereValue V)} (h : extra.lookup "tenantId" = some value)
    (row : TenantRow ρ) : Filter.selects c.admits (withTenant tenant extra) row = true ↔
      (∀ v, value = some v → c.admits "tenantId" v row = true) ∧ c.meetsRest extra row = true := by
  rw [withTenant, Filter.selects_spread_singleton, h]
  simp [Conditions.meetsRest]

/-- A value searches within the tenant if it names it, or if no row meets the
rest of the filter. -/
theorem scoped_iff_names {value : WhereValue V}
    (h : extra.lookup "tenantId" = some (some value)) :
    c.Scoped tenant extra (withTenant tenant extra) ↔
      c.Names tenant value ∨ ∀ row : TenantRow ρ, c.meetsRest extra row = false := by
  rw [scoped_iff]
  constructor
  · intro hscoped
    by_cases hempty : ∀ row : TenantRow ρ, c.meetsRest extra row = false
    · exact .inr hempty
    · -- a row that meets the rest meets it as any tenant's row
      simp only [not_forall, Bool.not_eq_false] at hempty
      obtain ⟨row, hrest⟩ := hempty
      refine .inl ((names_iff value row.columns).mpr fun id hid => ?_)
      have hmoved : c.meetsRest extra ⟨id, hid, row.columns⟩ = true := by
        rw [meetsRest_moved, hrest]
      have hid' := hscoped ⟨id, hid, row.columns⟩
      rw [selects_scoped h] at hid'
      simpa [hmoved] using hid'
  · intro hcases row
    rw [selects_scoped h]
    cases hcases with
    | inr hempty => simp [hempty row]
    | inl hnames =>
        have hrow := (names_iff value row.columns).mp hnames row.tenantId row.isUuid
        simp [hrow]

/-- `undefined` searches all tenants, unless no row meets the rest of the filter. -/
theorem scoped_iff_undefined (h : extra.lookup "tenantId" = some none) :
    c.Scoped tenant extra (withTenant tenant extra) ↔
      ∀ row : TenantRow ρ, c.meetsRest extra row = false := by
  rw [scoped_iff]
  constructor
  · intro hscoped row
    rw [Bool.eq_false_iff]
    intro hrest
    obtain ⟨id, hid, hother⟩ := exists_other_tenant tenant
    have hmoved : c.meetsRest extra ⟨id, hid, row.columns⟩ = true := by
      rw [meetsRest_moved, hrest]
    have hfound : Filter.selects c.admits (withTenant tenant extra) ⟨id, hid, row.columns⟩ = true :=
      (selects_scoped h _).mpr ⟨by simp, hmoved⟩
    exact hother ((hscoped _).mp hfound).1
  · intro hempty row
    rw [selects_scoped h]
    simp [hempty row]

/-- **`scopedWhere` stays within the tenant** if and only if the filter it is
given is one that cannot widen it. -/
theorem scopedWhere_scoped_iff (c : Conditions V ρ) (name : String) {ctx : Option String}
    {tenant : String} (hctx : Js.truthy ctx = some tenant) (extra : Option (FindOptionsWhere V))
    (w : World) :
    (∃ options, (scopedWhere name ctx extra).run w = (.ok options, w.noting ctx) ∧
      c.Scoped tenant (extra.getD ∅) options) ↔ c.Unwidened tenant (extra.getD ∅) := by
  have hrun := scopedWhere_run name hctx extra w
  generalize extra.getD ∅ = given at hrun ⊢
  have hscoped : (∃ options, (scopedWhere name ctx extra).run w = (.ok options, w.noting ctx) ∧
      c.Scoped tenant given options) ↔ c.Scoped tenant given (withTenant tenant given) := by
    rw [hrun]
    constructor
    · intro h
      obtain ⟨options, hoptions, h⟩ := h
      obtain rfl := Except.ok.inj (Prod.mk.inj hoptions).1
      exact h
    · intro h
      exact ⟨_, rfl, h⟩
  rw [hscoped, Conditions.Unwidened, ← AList.lookup_eq_none]
  cases hlookup : given.lookup "tenantId" with
  | none => simp [scoped_of_absent (AList.lookup_eq_none.mp hlookup)]
  | some value =>
      cases value with
      | none => simp [scoped_iff_undefined hlookup]
      | some value => simp [scoped_iff_names hlookup]

/-- `{ id }`. -/
def idOnly (key : String) : FindOptionsWhere Empty := .singleton "id" (some (.text key))

theorem tenantId_not_mem_idOnly (key : String) : "tenantId" ∉ idOnly key := by
  rw [AList.mem_keys, idOnly, AList.keys_singleton]
  decide

/-- An audit event is looked up by its id alone. -/
theorem scopedWhere_scoped_sample :
    let extra := idOnly (Pg.uuidOf 2)
    ∃ options, (scopedWhere "AuditEventRepository" (some (Pg.uuidOf 3)) (some extra)).run emptyWorld =
        (.ok options, emptyWorld.noting (some (Pg.uuidOf 3))) ∧
      (byId Prod.fst : Conditions Empty (String × Js.Date)).Scoped (Pg.uuidOf 3) extra options := by
  intro extra
  have hctx : Js.truthy (some (Pg.uuidOf 3)) = some (Pg.uuidOf 3) := rfl
  have habsent : "tenantId" ∉ extra := tenantId_not_mem_idOnly _
  exact (scopedWhere_scoped_iff _ _ hctx (some extra) emptyWorld).mpr (.inl habsent)

/-- Under tenant `3`, a filter that names tenant `4` finds the rows of tenant `4`. -/
theorem scopedWhere_widened : ¬ ∀ (V ρ : Type) (c : Conditions V ρ) (name : String)
    (ctx : Option String) (tenant : String) (extra : Option (FindOptionsWhere V)) (w : World),
    Js.truthy ctx = some tenant →
      ∃ options, (scopedWhere name ctx extra).run w = (.ok options, w.noting ctx) ∧
        c.Scoped tenant (extra.getD ∅) options := by
  intro hclaim
  let extra : FindOptionsWhere Empty := .singleton "tenantId" (some (.text (Pg.uuidOf 4)))
  let row : TenantRow (String × Js.Date) :=
    ⟨Pg.uuidOf 4, Pg.uuid_uuidOf 4, (Pg.uuidOf 2, 1716500000000)⟩
  have hctx : Js.truthy (some (Pg.uuidOf 3)) = some (Pg.uuidOf 3) := rfl
  obtain ⟨options, hoptions, hscoped⟩ := hclaim Empty _ (byId Prod.fst) "AuditEventRepository"
    (some (Pg.uuidOf 3)) (Pg.uuidOf 3) (some extra) emptyWorld hctx
  rw [scopedWhere_run _ hctx] at hoptions
  obtain rfl := Except.ok.inj (Prod.mk.inj hoptions).1
  have hfound : Filter.selects (byId Prod.fst).admits (withTenant (Pg.uuidOf 3) extra) row = true :=
    (selects_scoped rfl row).mpr ⟨by simp [Conditions.admits, row, Pg.uuid_uuidOf], rfl⟩
  have htenant := (scoped_iff.mp hscoped row).mp hfound
  rw [Pg.uuid_uuidOf] at htenant
  exact absurd htenant.1 (by decide)

/-! ## The lookups of the repositories -/

/-- The row has the key looked up. -/
theorem meetsRest_idOnly (id : ρ → String) (key : String) (row : TenantRow ρ) :
    (byId id).meetsRest (idOnly key) row = true ↔ Pg.uuid key = some (id row.columns) := by
  have hrest : (idOnly key).erase "tenantId" = idOnly key := rfl
  rw [Conditions.meetsRest, hrest]
  simp [Filter.selects, idOnly, Conditions.admits, byId]

/-- **`findById` of a tenant-scoped repository** answers the first row that
`scopedWhere({ id })` finds, so it stays within the tenant. -/
theorem findOne_scopedWhere (name : String) {ctx : Option String}
    {tenant : String} (hctx : Js.truthy ctx = some tenant) (rows : World → List ρ)
    (tenantId id : ρ → String) (key : String) {w : World} {stored : List (TenantRow ρ)}
    (hrows : rows w = stored.map TenantRow.columns) (hnoting : rows (w.noting ctx) = rows w)
    (htenant : ∀ row ∈ stored, tenantId row.columns = row.tenantId) {found : Option ρ} {w' : World}
    (h : (TenantAwareRepository.scopedWhere name ctx { tenantId := none, id := some key } >>=
      TenantAwareRepository.findOne rows tenantId id).run w = (.ok found, w')) :
    ∃ options, (scopedWhere name ctx (some (idOnly key))).run w = (.ok options, w.noting ctx) ∧
      (byId id).Scoped tenant (idOnly key) options ∧
      found = ((byId id).find options stored).head?.map TenantRow.columns := by
  have hscoped : (byId id).Scoped tenant (idOnly key) (withTenant tenant (idOnly key)) :=
    scoped_of_absent (tenantId_not_mem_idOnly key)
  refine ⟨_, scopedWhere_run name hctx (some (idOnly key)) w, hscoped, ?_⟩
  rw [Program.bind_run_ok (TenantAwareRepository.scopedWhere_run name _ w hctx),
    TenantAwareRepository.findOne_run] at h
  cases ht : Pg.uuid tenant with
  | none =>
      rw [ht] at h
      cases (Prod.mk.inj h).1
  | some t =>
      cases hk : Pg.uuid key with
      | none =>
          rw [ht, hk] at h
          cases (Prod.mk.inj h).1
      | some k =>
          rw [ht, hk] at h
          have hsame : ∀ row ∈ stored, (tenantId row.columns = t && id row.columns = k) =
              Filter.selects (byId id).admits (withTenant tenant (idOnly key)) row := by
            intro row hrow
            rw [Bool.eq_iff_iff, scoped_iff.mp hscoped row, meetsRest_idOnly, htenant row hrow,
              ht, hk]
            simp only [Bool.and_eq_true, decide_eq_true_eq, Option.some.injEq]
            rw [eq_comm (a := t), eq_comm (a := k)]
          rw [← Except.ok.inj (Prod.mk.inj h).1, hnoting, hrows, List.find?_map, Conditions.find,
            List.head?_filter]
          exact congrArg _ (List.find?_congr hsame)

end TenantScopedRepository

end Atlas
