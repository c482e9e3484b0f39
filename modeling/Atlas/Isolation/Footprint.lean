import Atlas.Constraints
import Atlas.Isolation.WriteFrame

/-!
# Atlas.Isolation.Footprint

What an operation of a tenant reads and what it leaves, for two runs at once.

Two databases are `Alike` to a tenant when its own rows are the same and so is
what all tenants share: the users, the definitions that executions refer to,
and which organization has which slug.  Run in two such databases, each method
of the four repositories answers the same and leaves two such databases, and in
each of them it leaves the rows of everybody else (`Kept`).  A database is
alike to itself, so the second half holds of single runs too.
-/

namespace Atlas

open StoreKit TenantAwareRepository

/-! ## What tenants share -/

/-- Which organization has which slug. -/
def World.slugs (w : World) : List (String × String) :=
  w.organizations.rows.map fun row => (row.id, row.slug)

/-- The keys that a new execution or audit event must not have. -/
def World.keys (w : World) : List String :=
  w.workflowExecutions.rows.map (·.id) ++ w.auditEvents.rows.map (·.id)

/-- A database that only the application writes: the server spells keys in one
way, and slugs are in normal form. -/
structure World.Normal (w : World) : Prop where
  slugs : ∀ s ∈ w.slugs, Pg.uuid s.1 = some s.1 ∧ ∃ slug : TenantSlug, s.2 = slug.value
  executions : ∀ row ∈ w.workflowExecutions.rows, Pg.uuid row.id = some row.id

/-- What an operation of tenant `u`, with the key `g` for a new row, leaves of
the database it began with. -/
structure Kept (u : String) (g : Option String) (w₀ w : World) : Prop where
  users : w.users = w₀.users
  definitions : w.workflowDefinitions = w₀.workflowDefinitions
  slugs : w.slugs = w₀.slugs
  others : ∀ selects : String → Bool, selects u = false → w.part selects = w₀.part selects
  keys : ∀ k ∈ w.keys, k ∈ w₀.keys ∨ g = some k
  normal : w.Normal

/-- Where nothing happens, everything is kept. -/
theorem kept_refl (u : String) (g : Option String) {w : World} (hw : w.Normal) :
    Kept u g w w :=
  ⟨rfl, rfl, rfl, fun _ _ => rfl, fun _ hk => .inl hk, hw⟩

/-- The rows of the tenant. -/
def World.own (w : World) (u : String) : Part := w.part fun owner => owner = u

/-- The two databases are the same to tenant `u`, and each is what was kept of
the one it came from. -/
structure Alike (u : String) (g : Option String) (s₀ t₀ s t : World) : Prop where
  own : s.own u = t.own u
  left : Kept u g s₀ s
  right : Kept u g t₀ t

/-- Both databases meet a condition as well. -/
def Both (R : World → World → Prop) (P : World → Prop) (s t : World) : Prop := R s t ∧ P s ∧ P t

section Tables

variable {u : String} {g : Option String} {s₀ t₀ s t : World}

/-- What is on record about tenants is not part of what is kept. -/
theorem Kept.noting (h : Kept u g s₀ s) (tenant : Option String) :
    Kept u g s₀ (s.noting tenant) :=
  ⟨h.users, h.definitions, h.slugs, h.others, h.keys, h.normal.slugs, h.normal.executions⟩

/-- What is on record about tenants is not part of what is alike. -/
theorem Alike.noting (h : Alike u g s₀ t₀ s t) (tenant : Option String) :
    Alike u g s₀ t₀ (s.noting tenant) (t.noting tenant) :=
  ⟨h.own, h.left.noting tenant, h.right.noting tenant⟩

/-- What is published is no matter of the tables. -/
theorem Kept.publish (h : Kept u g s₀ s) (published : List TenantAwareEvent) :
    Kept u g s₀ { s with published } :=
  ⟨h.users, h.definitions, h.slugs, h.others, h.keys, h.normal.slugs, h.normal.executions⟩

/-- What has been published is not part of what is alike. -/
theorem Alike.publish (h : Alike u g s₀ t₀ s t) (p q : List TenantAwareEvent) :
    Alike u g s₀ t₀ { s with published := p } { t with published := q } :=
  ⟨h.own, h.left.publish p, h.right.publish q⟩

/-! ## Executions -/

/-- The row under a key, if there is one, is the tenant's, and the key is not
news. -/
def OwnKey (u : String) (g : Option String) (w₀ : World) (key : String) (w : World) : Prop :=
  ∀ k, Pg.uuid key = some k → (k ∈ w₀.keys ∨ g = some k) ∧
    ∀ old, w.workflowExecutions.find? k = some old → old.tenantId = u

/-- An execution of the tenant is put where the id was the tenant's own. -/
theorem Kept.putExecution (h : Kept u g s₀ s) {row : WorkflowExecutionOrmEntity} {key : String}
    (hrow : row.tenantId = u) (hid : Pg.uuid key = some row.id) (hown : OwnKey u g s₀ key s) :
    Kept u g s₀ { s with workflowExecutions := s.workflowExecutions.put row } where
  users := h.users
  definitions := h.definitions
  slugs := h.slugs
  others selects hselects := by
    obtain ⟨-, hold⟩ := hown row.id hid
    have hput := (@part_putExecution s selects row (by rw [hrow, hselects])).mpr
      fun old hfind => by rw [hold old hfind, hselects]
    rw [hput]
    exact h.others selects hselects
  keys k hk := by
    rcases List.mem_append.mp hk with hk | hk
    · rcases (Table.mem_keys_put _ _ _).mp hk with rfl | hk
      · exact (hown row.id hid).1
      · exact h.keys k (List.mem_append_left _ hk)
    · exact h.keys k (List.mem_append_right _ hk)
  normal := by
    refine ⟨h.normal.slugs, fun r hr => ?_⟩
    rcases (Table.mem_put_iff _ _ _).mp hr with rfl | ⟨hr, -⟩
    · exact Pg.uuid_uuid hid
    · exact h.normal.executions r hr

/-- The row under a key of the tenant's is the same in both. -/
theorem find?_own {k : String} (hown : s.own u = t.own u)
    (hs : ∀ old, s.workflowExecutions.find? k = some old → old.tenantId = u)
    (ht : ∀ old, t.workflowExecutions.find? k = some old → old.tenantId = u) :
    s.workflowExecutions.find? k = t.workflowExecutions.find? k := by
  have hrows : s.workflowExecutions.rows.filter (fun row => row.tenantId = u) =
      t.workflowExecutions.rows.filter fun row => row.tenantId = u :=
    congrArg Part.workflowExecutions hown
  have hmem : ∀ row : WorkflowExecutionOrmEntity, row.tenantId = u →
      (row ∈ s.workflowExecutions.rows ↔ row ∈ t.workflowExecutions.rows) := by
    intro row hrow
    have hfilter := Iff.of_eq (congrArg (row ∈ ·) hrows)
    simpa [List.mem_filter, hrow] using hfilter
  apply Option.ext
  intro row
  rw [Table.find?_eq_some_iff, Table.find?_eq_some_iff]
  constructor
  · rintro ⟨hrow, hkey⟩
    exact ⟨(hmem row (hs row ((Table.find?_eq_some_iff _ _ _).mpr ⟨hrow, hkey⟩))).mp hrow, hkey⟩
  · rintro ⟨hrow, hkey⟩
    exact ⟨(hmem row (ht row ((Table.find?_eq_some_iff _ _ _).mpr ⟨hrow, hkey⟩))).mpr hrow, hkey⟩

/-- A row of the tenant's is written under a key of the tenant's. -/
theorem own_putExecution {row : WorkflowExecutionOrmEntity} (hown : s.own u = t.own u)
    (hrow : row.tenantId = u)
    (hs : ∀ old, s.workflowExecutions.find? row.id = some old → old.tenantId = u)
    (ht : ∀ old, t.workflowExecutions.find? row.id = some old → old.tenantId = u) :
    { s with workflowExecutions := s.workflowExecutions.put row }.own u =
      { t with workflowExecutions := t.workflowExecutions.put row }.own u := by
  simp only [World.own, World.part, Part.mk.injEq] at hown ⊢
  obtain ⟨horganizations, hdefinitions, hexecutions, haudit⟩ := hown
  have hput : ∀ w : World, (∀ old, w.workflowExecutions.find? row.id = some old →
      old.tenantId = u) → _ :=
    fun w hw => @Table.filter_rows_put _ _ WorkflowExecutionOrmEntity.id _ w.workflowExecutions row
      (fun r => decide (r.tenantId = u)) (decide_eq_true hrow) fun x hx hkey =>
        decide_eq_true (hw x ((Table.find?_eq_some_iff _ _ _).mpr ⟨hx, hkey⟩))
  refine ⟨horganizations, hdefinitions, ?_, haudit⟩
  rw [hput s hs, hput t ht, hexecutions]

/-! ## Audit events -/

/-- A row under a new key is inserted. -/
theorem insertAll?_new {table : AuditEventTable} {row : AuditEventOrmEntity}
    (h : row.id ∉ table.rows.map (·.id)) : ∃ table', table.insertAll? [row] = some table' := by
  cases hinsert : table.insertAll? [row] with
  | some table' => exact ⟨table', rfl⟩
  | none => exact absurd ((Table.insert?_eq_none_iff table row).mp hinsert) h

/-- An audit event of the tenant is inserted under the fresh id. -/
theorem Kept.insertAuditEvent (h : Kept u g s₀ s) {row : AuditEventOrmEntity}
    {table : AuditEventTable} (hrow : row.tenantId = u) (hid : g = some row.id)
    (htable : s.auditEvents.insertAll? [row] = some table) :
    Kept u g s₀ { s with auditEvents := table } where
  users := h.users
  definitions := h.definitions
  slugs := h.slugs
  others selects hselects := by
    have hinsert : { s with auditEvents := table }.part selects = s.part selects := by
      refine part_insertAll htable fun row' hrow' => ?_
      rw [List.mem_singleton.mp hrow', hrow, hselects]
    rw [hinsert]
    exact h.others selects hselects
  keys k hk := by
    rcases List.mem_append.mp hk with hk | hk
    · exact h.keys k (List.mem_append_left _ hk)
    · rw [Table.rows_of_insertAll? htable, List.map_append, List.mem_append] at hk
      rcases hk with hk | hk
      · exact h.keys k (List.mem_append_right _ hk)
      · rw [List.map_singleton, List.mem_singleton] at hk
        exact .inr (hk ▸ hid)
  normal := ⟨h.normal.slugs, h.normal.executions⟩

/-- The same insert on both sides leaves the tenant the same part. -/
theorem own_insertAuditEvent {row : AuditEventOrmEntity} {table table' : AuditEventTable}
    (hown : s.own u = t.own u) (hs : s.auditEvents.insertAll? [row] = some table)
    (ht : t.auditEvents.insertAll? [row] = some table') :
    { s with auditEvents := table }.own u = { t with auditEvents := table' }.own u := by
  simp only [World.own, World.part, Part.mk.injEq] at hown ⊢
  obtain ⟨horganizations, hdefinitions, hexecutions, haudit⟩ := hown
  refine ⟨horganizations, hdefinitions, hexecutions, ?_⟩
  rw [Table.rows_of_insertAll? hs, Table.rows_of_insertAll? ht, List.filter_append,
    List.filter_append, haudit]

/-! ## Organizations -/

/-- The aggregate is the tenant's organization, with the slug that it has. -/
def Held (u : String) (org : OrganizationAggregate) (w : World) : Prop :=
  ∃ row, w.organizations.find? u = some row ∧ row.slug = org.slug.value

/-- The organization of the tenant is found alike on both sides. -/
theorem find?_organization (hown : s.own u = t.own u) :
    s.organizations.find? u = t.organizations.find? u := by
  have hrows : s.organizations.rows.filter (fun row => row.id = u) =
      t.organizations.rows.filter fun row => row.id = u := congrArg Part.organizations hown
  have hhead : ∀ w : World, w.organizations.find? u =
      (w.organizations.rows.filter fun row => row.id = u).head? :=
    fun w => List.head?_filter.symm
  rw [hhead s, hhead t, hrows]

/-- What organizations share decides whether a row is let in. -/
theorem allowed_alike (husers : s.users = t.users) (hslugs : s.slugs = t.slugs)
    (row : OrganizationOrmEntity) :
    OrganizationRepository.allowed s row = OrganizationRepository.allowed t row := by
  have hall : ∀ w : World, (w.organizations.rows.all fun r => r.id = row.id || r.slug ≠ row.slug) =
      w.slugs.all fun p => p.1 = row.id || p.2 ≠ row.slug := by
    intro w
    rw [World.slugs, List.all_map]
    rfl
  rw [OrganizationRepository.allowed, OrganizationRepository.allowed, hall s, hall t, husers,
    hslugs]

/-- Writing an organization under the slug that it has changes no slug. -/
theorem slugs_putOrganization {row new : OrganizationOrmEntity}
    (hfind : s.organizations.find? u = some row) (hid : new.id = u) (hslug : new.slug = row.slug) :
    { s with organizations := s.organizations.put new }.slugs = s.slugs := by
  have hrow := Table.mem_of_find? hfind
  have hkey : row.id = new.id := (Table.key_of_find? hfind).trans hid.symm
  have hmem : new.id ∈ s.organizations.rows.map (·.id) := hkey ▸ List.mem_map_of_mem hrow
  show (s.organizations.put new).rows.map _ = _
  rw [Table.rows_put_of_mem hmem, List.map_map, World.slugs]
  refine List.map_congr_left fun x hx => ?_
  by_cases hxid : x.id = new.id
  · have hsame : x = row := s.organizations.eq_of_key_eq hx hrow (hxid.trans hkey.symm)
    simp [Table.overwrite, hsame, hkey, hslug]
  · simp [Table.overwrite, hxid]

/-- The organization of the tenant is put in its own place, with its own slug. -/
theorem Kept.putOrganization (h : Kept u g s₀ s) {row new : OrganizationOrmEntity}
    (hfind : s.organizations.find? u = some row) (hid : new.id = u) (hslug : new.slug = row.slug) :
    Kept u g s₀ { s with organizations := s.organizations.put new } where
  users := h.users
  definitions := h.definitions
  slugs := (slugs_putOrganization hfind hid hslug).trans h.slugs
  others selects hselects :=
    (part_putOrganization (hid.symm ▸ hselects)).trans (h.others selects hselects)
  keys := h.keys
  normal := by
    refine ⟨?_, h.normal.executions⟩
    rw [slugs_putOrganization hfind hid hslug]
    exact h.normal.slugs

/-- The same organization on both sides leaves the tenant the same part. -/
theorem own_putOrganization {new : OrganizationOrmEntity} (hown : s.own u = t.own u)
    (hid : new.id = u) :
    { s with organizations := s.organizations.put new }.own u =
      { t with organizations := t.organizations.put new }.own u := by
  simp only [World.own, World.part, Part.mk.injEq] at hown ⊢
  obtain ⟨horganizations, hrest⟩ := hown
  have hput : ∀ w : World, _ :=
    fun w => @Table.filter_rows_put _ _ OrganizationOrmEntity.id _ w.organizations new
      (fun r => decide (r.id = u)) (decide_eq_true hid) fun x _ hkey =>
        decide_eq_true (hkey.trans hid)
  refine ⟨?_, hrest⟩
  rw [hput s, hput t, horganizations]

end Tables

end Atlas
