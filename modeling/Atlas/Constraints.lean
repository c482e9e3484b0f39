import Atlas.Identity.Repository
import Atlas.TenantCore.Repository

/-!
# Atlas.Constraints

What can be said of the users and organizations of a database that only the
application writes: the columns give their values back unchanged, an address
or a slug is in normal form, and no two rows share one.

`Consistent` says it, and the lemmas below that the two repositories keep it.
-/

namespace Atlas

open StoreKit

/-- A row of `users` as the application leaves it. -/
structure UserOrmEntity.Regular (row : UserOrmEntity) : Prop where
  columns : row.Columns
  address : ∃ email : Email, row.email = email.value

/-- A row of `organizations` as the application leaves it. -/
structure OrganizationOrmEntity.Regular (row : OrganizationOrmEntity) : Prop where
  columns : row.Columns
  slug : ∃ slug : TenantSlug, row.slug = slug.value

/-- A database that only the application writes. -/
structure World.Consistent (w : World) : Prop where
  users : ∀ row ∈ w.users.rows, row.Regular
  emails : ∀ r ∈ w.users.rows, ∀ s ∈ w.users.rows, r.email = s.email → r.id = s.id
  organizations : ∀ row ∈ w.organizations.rows, row.Regular
  slugs : ∀ r ∈ w.organizations.rows, ∀ s ∈ w.organizations.rows, r.slug = s.slug → r.id = s.id

/-- A column stays unique when the row put into a table shares its value with
no other. -/
theorem unique_put {ρ : Type} {key column : ρ → String} {t : Table String ρ key} {row : ρ}
    (hunique : ∀ r ∈ t.rows, ∀ s ∈ t.rows, column r = column s → key r = key s)
    (hfree : ∀ r ∈ t.rows, key r ≠ key row → column r ≠ column row) :
    ∀ r ∈ (t.put row).rows, ∀ s ∈ (t.put row).rows, column r = column s → key r = key s := by
  intro r hr s hs hsame
  rw [Table.mem_put_iff] at hr hs
  grind

theorem forall_put {ρ : Type} {key : ρ → String} {t : Table String ρ key} {row : ρ}
    {p : ρ → Prop} (ht : ∀ r ∈ t.rows, p r) (hrow : p row) : ∀ r ∈ (t.put row).rows, p r := by
  intro r hr
  rw [Table.mem_put_iff] at hr
  grind

/-! ## Users -/

namespace UserRepository

/-- An update keeps what the columns give back. -/
theorem columns_merge {old row : UserOrmEntity} (hold : old.Columns) (hrow : row.Columns) :
    (merge old row).Columns where
  id := hrow.id
  email := hrow.email
  passwordHash := hrow.passwordHash
  displayName := hrow.displayName
  lastLoginAt := Pg.nullable_or hrow.lastLoginAt hold.lastLoginAt
  emailVerifiedAt := Pg.nullable_or hrow.emailVerifiedAt hold.emailVerifiedAt

/-- A row written from an aggregate has the address of the aggregate. -/
theorem email_of_writes {savedAt : Js.Date} {user : UserAggregate} {w : World}
    {row : UserOrmEntity} (h : table.Writes savedAt (toOrm user) w row) :
    row.email = user.email.value := by
  obtain ⟨stored, hstored, hmerged⟩ := h.merged
  have hshort : user.email.value.length ≤ 320 :=
    (Js.length_le _).trans user.email.bounded
  have hemail : stored.email = user.email.value :=
    Pg.varchar_eq hshort (UserOrmEntity.storedAs hstored).email
  rcases hmerged with ⟨-, rfl⟩ | ⟨old, -, rfl⟩
  · exact hemail
  · exact hemail

/-- A row written from an aggregate is regular. -/
theorem regular_of_writes {savedAt : Js.Date} {user : UserAggregate} {w : World}
    {row : UserOrmEntity} (hw : w.Consistent) (h : table.Writes savedAt (toOrm user) w row) :
    row.Regular := by
  refine ⟨?_, user.email, email_of_writes h⟩
  obtain ⟨stored, hstored, hmerged⟩ := h.merged
  have hcolumns := UserOrmEntity.columns_of_stored hstored
  rcases hmerged with ⟨-, rfl⟩ | ⟨old, hold, rfl⟩
  · exact hcolumns
  · exact columns_merge (hw.users old (Table.mem_of_find? hold)).columns hcolumns

/-- No other row has the address of a row that is written. -/
theorem free_of_allowed {w : World} {row : UserOrmEntity} (h : allowed w row = true) :
    ∀ r ∈ w.users.rows, r.id ≠ row.id → r.email ≠ row.email := by
  intro r hr hid
  have hfree := List.all_eq_true.mp h r hr
  simpa [hid] using hfree

/-- **A user that is saved leaves a consistent database.** -/
theorem consistent_put {savedAt : Js.Date} {user : UserAggregate} {w : World}
    {row : UserOrmEntity} (hw : w.Consistent) (h : table.Writes savedAt (toOrm user) w row) :
    { w with users := w.users.put row }.Consistent where
  users := forall_put hw.users (regular_of_writes hw h)
  emails := unique_put hw.emails (free_of_allowed h.allowed)
  organizations := hw.organizations
  slugs := hw.slugs

/-- What an aggregate is written as is the row it was built from, the dates of
the database apart. -/
theorem toOrm_of_toDomain {row : UserOrmEntity} {user : UserAggregate} (hrow : row.Regular)
    (h : toDomain row = .ok user) :
    toOrm user = { row with createdAt := none, updatedAt := none } := by
  obtain ⟨email, hemail⟩ := hrow.address
  have hcreate : Email.create row.email = .ok email := by
    rw [hemail]
    exact email.create_value
  rw [toDomain, hcreate] at h
  obtain rfl := Except.ok.inj h
  rw [toOrm, hemail]

/-- A regular row is built into an aggregate. -/
theorem toDomain_of_regular {row : UserOrmEntity} (hrow : row.Regular) :
    ∃ user, toDomain row = .ok user := by
  obtain ⟨email, hemail⟩ := hrow.address
  have hcreate : Email.create row.email = .ok email := by
    rw [hemail]
    exact email.create_value
  rw [toDomain, hcreate]
  exact ⟨_, rfl⟩

/-- A stored user whose last login alone changes can be updated. -/
theorem saveRow_login {row logged : UserOrmEntity} {w : World} (hw : w.Consistent)
    (hrow : row ∈ w.users.rows) (hcolumns : logged.Columns) (hid : logged.id = row.id)
    (hemail : logged.email = row.email) :
    Typeorm.saveRow UserOrmEntity.stored merge (allowed w) w.users logged =
      some (w.users.put (merge row logged)) := by
  have hfind : w.users.find? logged.id = some row := by
    rw [hid]
    exact w.users.find?_key hrow
  have hallowed : allowed w (merge row logged) = true := by
    refine List.all_eq_true.mpr fun r hr => ?_
    by_cases hsame : r.email = row.email
    · simp [merge, hid, hw.emails r hr row hrow hsame]
    · simp [merge, hemail, hsame]
  rw [Typeorm.saveRow_of_stored hcolumns.stored rfl hfind, hallowed]
  rfl

/-- A login that is recorded on a stored user is saved. -/
theorem save_recordLogin {row : UserOrmEntity} {user : UserAggregate} {w : World}
    {now : Js.Date} (savedAt : Js.Date) (hw : w.Consistent) (hrow : row ∈ w.users.rows)
    (hdomain : toDomain row = .ok user) (hnow : Pg.timestamptz now = some now) :
    ∃ w', (save savedAt (user.recordLogin now)).run w = (.ok (user.recordLogin now), w') := by
  have hcolumns := (hw.users row hrow).columns
  have horm : toOrm (user.recordLogin now) =
      { row with lastLoginAt := some now, createdAt := none, updatedAt := none } := by
    have htoOrm := toOrm_of_toDomain (hw.users row hrow) hdomain
    have hlogin : toOrm (user.recordLogin now) = { toOrm user with lastLoginAt := some now } := rfl
    rw [hlogin, htoOrm]
  have hlogin : Pg.nullable Pg.timestamptz (some now) = some (some now) := by
    show (Pg.timestamptz now).map some = _
    rw [hnow]
    rfl
  have hlogged : UserOrmEntity.Columns { row with
      lastLoginAt := some now, createdAt := some savedAt, updatedAt := some savedAt } :=
    ⟨hcolumns.id, hcolumns.email, hcolumns.passwordHash, hcolumns.displayName, hlogin,
      hcolumns.emailVerifiedAt⟩
  have hdated : table.dated (some savedAt) (some savedAt) (toOrm (user.recordLogin now)) =
      { row with lastLoginAt := some now, createdAt := some savedAt, updatedAt := some savedAt } := by
    rw [horm]
    rfl
  have htable : Typeorm.saveRow table.stored table.merge (table.allowed w) (table.table w) _ =
      some _ := saveRow_login hw hrow hlogged rfl rfl
  have hrun := table.saveOrm_run savedAt (toOrm (user.recordLogin now)) w
  rw [hdated, htable] at hrun
  have hback : ∀ createdAt, toDomain (table.dated createdAt (some savedAt)
      (toOrm (user.recordLogin now))) = .ok (user.recordLogin now) :=
    fun createdAt => toDomain_toOrm _ createdAt _
  rw [save, Program.bind_run_ok hrun, Program.lift_run, hback]
  exact ⟨_, rfl⟩

end UserRepository

/-! ## Organizations -/

namespace OrganizationRepository

/-- An update keeps what the columns give back. -/
theorem columns_merge {old row : OrganizationOrmEntity} (hold : old.Columns)
    (hrow : row.Columns) : (merge old row).Columns where
  id := hrow.id
  name := hrow.name
  slug := hrow.slug
  ownerId := hrow.ownerId
  provisionedAt := Pg.nullable_or hrow.provisionedAt hold.provisionedAt
  settings := hrow.settings
  createdAt := hrow.createdAt
  updatedAt := hrow.updatedAt

/-- A regular row is built into an aggregate. -/
theorem toDomain_of_regular {row : OrganizationOrmEntity} (hrow : row.Regular) :
    ∃ org, OrganizationMapper.toDomain row = .ok org := by
  obtain ⟨slug, hslug⟩ := hrow.slug
  obtain ⟨org, hdomain, -⟩ := OrganizationMapper.toDomain_of_slug row slug hslug
  exact ⟨org, hdomain⟩

/-- No other row has the slug of a row that is written. -/
theorem free_of_allowed {w : World} {row : OrganizationOrmEntity} (h : allowed w row = true) :
    ∀ r ∈ w.organizations.rows, r.id ≠ row.id → r.slug ≠ row.slug := by
  intro r hr hid
  have hboth : ((w.users.rows.any fun u => u.id = row.ownerId) = true) ∧
      (w.organizations.rows.all fun r => r.id = row.id || r.slug ≠ row.slug) = true :=
    Bool.and_eq_true_iff.mp h
  have hfree := List.all_eq_true.mp hboth.2 r hr
  simpa [hid] using hfree

/-- **An organization that is saved leaves a consistent database.** -/
theorem consistent_save {savedAt : Js.Date} {org : OrganizationAggregate} {w : World}
    {table : OrganizationTable} (hw : w.Consistent)
    (h : Typeorm.saveRow OrganizationOrmEntity.stored merge (allowed w) w.organizations
      { OrganizationMapper.toOrm org with updatedAt := savedAt } = some table) :
    { w with organizations := table }.Consistent := by
  obtain ⟨stored, row, hstored, hallowed, rfl, hmerged⟩ := Typeorm.saveRow_cases h
  have hshort : org.slug.value.length ≤ 63 := slug_short org.slug.pattern
  have hslug : stored.slug = org.slug.value :=
    Pg.varchar_eq hshort (OrganizationOrmEntity.storedAs hstored).slug
  have hcolumns := OrganizationOrmEntity.columns_of_stored hstored
  have hregular : row.Regular := by
    rcases hmerged with ⟨-, rfl⟩ | ⟨old, hold, rfl⟩
    · exact ⟨hcolumns, org.slug, hslug⟩
    · exact ⟨columns_merge (hw.organizations old (Table.mem_of_find? hold)).columns hcolumns,
        org.slug, hslug⟩
  exact {
    users := hw.users
    emails := hw.emails
    organizations := forall_put hw.organizations hregular
    slugs := unique_put hw.slugs (free_of_allowed hallowed) }

end OrganizationRepository

end Atlas
