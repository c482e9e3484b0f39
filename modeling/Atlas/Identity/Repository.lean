import Atlas.World

/-!
# Atlas.Identity.Repository

`UserRepository`, which asks for no tenant: users are global.
-/

namespace Atlas

open StoreKit

namespace UserRepository

def toDomain (orm : UserOrmEntity) : Except Exception UserAggregate := do
  let email ← Email.create orm.email
  return {
    userId := orm.id
    email
    passwordHash := ⟨orm.passwordHash⟩
    displayName := orm.displayName
    status := orm.status
    lastLoginAt := orm.lastLoginAt
    emailVerifiedAt := orm.emailVerifiedAt }

def toOrm (user : UserAggregate) : UserOrmEntity where
  id := user.userId
  email := user.email.value
  passwordHash := user.passwordHash.hash
  displayName := user.displayName
  status := user.status
  lastLoginAt := user.lastLoginAt
  emailVerifiedAt := user.emailVerifiedAt
  createdAt := none
  updatedAt := none

/-- On an update, a column without a value keeps the one it has. -/
def merge (old row : UserOrmEntity) : UserOrmEntity :=
  { row with
    lastLoginAt := row.lastLoginAt.or old.lastLoginAt
    emailVerifiedAt := row.emailVerifiedAt.or old.emailVerifiedAt
    createdAt := old.createdAt }

/-- `email` is unique. -/
def allowed (w : World) (row : UserOrmEntity) : Bool :=
  w.users.rows.all fun r => r.id = row.id || r.email ≠ row.email

/-- The table of the repository. -/
def table : DatedTable UserOrmEntity where
  id := UserOrmEntity.id
  uuids := [UserOrmEntity.id]
  dated createdAt updatedAt orm := { orm with createdAt, updatedAt }
  stored := UserOrmEntity.stored
  merge := merge
  allowed := allowed
  table w := w.users
  setTable w table := { w with users := table }
  uuids_dated := by simp
  uuids_stored := by
    intro column hcolumn row row' h
    obtain rfl := List.mem_singleton.mp hcolumn
    exact (UserOrmEntity.storedAs h).id
  uuids_merge := by simp [merge]

def findByEmail (email : String) : App (Option UserAggregate) := do
  let email ← written (Pg.text (Js.toLowerCase email))
  let orm ← .gets fun w => w.users.rows.find? fun row => row.email = email
  foundAs toDomain orm

def save (savedAt : Js.Date) (user : UserAggregate) : App UserAggregate := do
  let orm := toOrm user
  let saved ← table.saveOrm savedAt orm
  .lift (toDomain saved)

def existsByEmail (email : String) : App Bool := do
  let email ← written (Pg.text (Js.toLowerCase email))
  .gets fun w => w.users.rows.any fun row => row.email = email

/-! ## What they answer -/

/-- What an aggregate takes over from its row. -/
theorem toDomain_cases {orm : UserOrmEntity} {user : UserAggregate}
    (h : toDomain orm = .ok user) : Email.create orm.email = .ok user.email ∧
      user.userId = orm.id ∧ user.passwordHash.hash = orm.passwordHash ∧
      user.status = orm.status := by
  unfold toDomain at h
  cases hemail : Email.create orm.email with
  | error e =>
      rw [hemail] at h
      cases h
  | ok email =>
      rw [hemail] at h
      cases h
      exact ⟨rfl, rfl, rfl, rfl⟩

/-- An instance made from an aggregate is read back as that aggregate, the
dates apart. -/
theorem toDomain_toOrm (user : UserAggregate) (createdAt updatedAt : Option Js.Date) :
    toDomain { toOrm user with createdAt, updatedAt } = .ok user := by
  have hemail : Email.create (toOrm user).email = .ok user.email := user.email.create_value
  rw [toDomain, hemail]
  rfl

/-- Nothing is written and the call rejects, or one row is and it answers. -/
theorem save_cases (savedAt : Js.Date) (user : UserAggregate) (w : World) :
    (∃ e, (save savedAt user).run w = (.error e, w)) ∨
    ∃ row, (save savedAt user).run w = (.ok user, { w with users := w.users.put row }) ∧
      table.Writes savedAt (toOrm user) w row := by
  rcases table.saveOrm_cases savedAt (toOrm user) w with
    ⟨e, hsave⟩ | ⟨createdAt, row, hsave, hwrites⟩
  · exact .inl ⟨e, Program.bind_run_error hsave⟩
  · refine .inr ⟨row, (Program.bind_run_ok hsave).trans ?_, hwrites⟩
    show (toDomain (table.dated createdAt (some savedAt) (toOrm user)), _) = _
    have hdomain := toDomain_toOrm user createdAt (some savedAt)
    simp only [table]
    rw [hdomain]

end UserRepository

end Atlas
