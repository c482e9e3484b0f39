import Atlas.Kernel
import Atlas.Pg

/-!
# Atlas.Identity.User

The user: its value objects, the aggregate and the row.

`bcrypt` is outside the repository: what it makes of a password, and whether it
accepts a password for a hash, are parameters.
-/

namespace Atlas

open StoreKit

/-! ## Value objects -/

/-- `Email.PATTERN`: `/^[^\s@]+@[^\s@]+\.[^\s@]+$/`. -/
def emailPattern (s : String) : Bool :=
  match s.toList.dropWhile (· != '@') with
  | _ :: domain =>
      !(s.toList.takeWhile (· != '@')).isEmpty && s.toList.all (fun c => !Js.isWhiteSpace c) &&
        !domain.contains '@' && (domain.drop 1).dropLast.contains '.'
  | [] => false

structure Email where
  value : String
  pattern : emailPattern value = true
  lower : Js.toLowerCase value = value
  bounded : Js.length value ≤ 320
deriving DecidableEq

namespace Email

def create (value : String) : Except Exception Email :=
  let normalized := Js.trim (Js.toLowerCase value)
  if hpattern : emailPattern normalized = true then
    if hlength : Js.length normalized > 320 then
      .error (.validation [("email", ["Email address exceeds maximum length of 320 characters"])])
    else
      .ok ⟨normalized, hpattern, Js.toLowerCase_trim_toLowerCase value, by omega⟩
  else .error (.validation [("email", ["Invalid email address format"])])

theorem noWhiteSpace (email : Email) : ∀ c ∈ email.value.toList, Js.isWhiteSpace c = false := by
  have hpattern := email.pattern
  unfold emailPattern at hpattern
  split at hpattern
  · simp only [Bool.and_eq_true, List.all_eq_true, Bool.not_eq_true'] at hpattern
    exact hpattern.1.1.2
  · contradiction

/-- **An e-mail address is its own normal form.** -/
theorem create_value (email : Email) : create email.value = .ok email := by
  have htrim : Js.trim email.value = email.value := Js.trim_eq email.noWhiteSpace
  have hlength : ¬ Js.length email.value > 320 := Nat.not_lt.mpr email.bounded
  simp only [create, email.lower, htrim, email.pattern, hlength, dite_true, dite_false]

/-- An address is stored in lower case and trimmed. -/
theorem value_of_create {value : String} {email : Email} (h : create value = .ok email) :
    email.value = Js.trim (Js.toLowerCase value) := by
  simp only [create] at h
  split at h
  · split at h
    · cases h
    · rw [← Except.ok.inj h]
  · cases h

/-- An address is put in lower case anyway. -/
theorem create_toLowerCase (value : String) : create (Js.toLowerCase value) = create value := by
  simp only [create, Js.toLowerCase_toLowerCase]

end Email

structure PasswordHash where
  hash : String
deriving DecidableEq

namespace PasswordHash

def MIN_LENGTH : Nat := 8

def fromPlaintext (bcryptHash : String → String) (plaintext : String) :
    Except Exception PasswordHash :=
  if Js.length plaintext < MIN_LENGTH then
    .error (.validation [("password", [s!"Password must be at least {MIN_LENGTH} characters"])])
  else .ok ⟨bcryptHash plaintext⟩

def verify (bcryptCompare : String → String → Bool) (passwordHash : PasswordHash)
    (plaintext : String) : Bool :=
  bcryptCompare plaintext passwordHash.hash

end PasswordHash

/-! ## The aggregate -/

inductive UserStatus where
  | pending_verification
  | active
  | suspended
deriving DecidableEq

def UserStatus.text : UserStatus → String
  | .pending_verification => "pending_verification"
  | .active => "active"
  | .suspended => "suspended"

/-- A user, without the `createdAt` and `updatedAt` it inherits: nothing reads
them. -/
structure UserAggregate where
  userId : String
  email : Email
  passwordHash : PasswordHash
  displayName : String
  status : UserStatus
  lastLoginAt : Option Js.Date
  emailVerifiedAt : Option Js.Date
deriving DecidableEq

namespace UserAggregate

def create (bcryptHash : String → String) (generateId email password displayName : String) :
    Except Exception UserAggregate := do
  let email ← Email.create email
  let passwordHash ← PasswordHash.fromPlaintext bcryptHash password
  return {
    userId := generateId
    email, passwordHash, displayName
    status := .pending_verification
    lastLoginAt := none
    emailVerifiedAt := none }

def isActive (user : UserAggregate) : Bool := user.status = .active

def activate (user : UserAggregate) (now : Js.Date) : Except Exception UserAggregate :=
  if user.status ≠ .pending_verification then
    .error (.conflict s!"Cannot activate user in status: {user.status.text}")
  else .ok { user with status := .active, emailVerifiedAt := some now }

def recordLogin (user : UserAggregate) (now : Js.Date) : UserAggregate :=
  { user with lastLoginAt := some now }

/-- A new user has the id it was given and the normal form of the address. -/
theorem create_cases {bcryptHash : String → String}
    {generateId email password displayName : String} {user : UserAggregate}
    (h : create bcryptHash generateId email password displayName = .ok user) :
    user.userId = generateId ∧ Email.create email = .ok user.email := by
  unfold create at h
  cases hemail : Email.create email with
  | error e =>
      rw [hemail] at h
      cases h
  | ok address =>
      cases hhash : PasswordHash.fromPlaintext bcryptHash password with
      | error e =>
          rw [hemail, hhash] at h
          cases h
      | ok passwordHash =>
          rw [hemail, hhash] at h
          cases h
          exact ⟨rfl, rfl⟩

/-- A user that is activated is active, and has the id and the address it had. -/
theorem activate_cases {user activated : UserAggregate} {now : Js.Date}
    (h : user.activate now = .ok activated) :
    activated.userId = user.userId ∧ activated.email = user.email ∧ activated.status = .active := by
  unfold activate at h
  split at h
  · cases h
  · obtain rfl := Except.ok.inj h
    exact ⟨rfl, rfl, rfl⟩

end UserAggregate

/-! ## The row -/

/-- A row of `users`. -/
structure UserOrmEntity where
  id : String
  email : String
  passwordHash : String
  displayName : String
  status : UserStatus
  lastLoginAt : Option Js.Date
  emailVerifiedAt : Option Js.Date
  createdAt : Option Js.Date
  updatedAt : Option Js.Date
deriving DecidableEq

/-- What the columns make of a row, or `none` if one of them refuses its value. -/
def UserOrmEntity.stored (row : UserOrmEntity) : Option UserOrmEntity := do
  let id ← Pg.uuid row.id
  let email ← Pg.varchar 320 row.email
  let passwordHash ← Pg.varchar 72 row.passwordHash
  let displayName ← Pg.varchar 100 row.displayName
  let lastLoginAt ← Pg.nullable Pg.timestamptz row.lastLoginAt
  let emailVerifiedAt ← Pg.nullable Pg.timestamptz row.emailVerifiedAt
  some { row with id, email, passwordHash, displayName, lastLoginAt, emailVerifiedAt }

/-- What is stored of a row. -/
structure UserOrmEntity.StoredAs (row row' : UserOrmEntity) : Prop where
  id : Pg.uuid row.id = some row'.id
  email : Pg.varchar 320 row.email = some row'.email
  passwordHash : Pg.varchar 72 row.passwordHash = some row'.passwordHash
  displayName : Pg.varchar 100 row.displayName = some row'.displayName
  status : row'.status = row.status

theorem UserOrmEntity.storedAs {row row' : UserOrmEntity} (h : row.stored = some row') :
    row.StoredAs row' := by
  obtain ⟨id, hid, h⟩ := Option.bind_eq_some_iff.mp h
  obtain ⟨email, hemail, h⟩ := Option.bind_eq_some_iff.mp h
  obtain ⟨passwordHash, hhash, h⟩ := Option.bind_eq_some_iff.mp h
  obtain ⟨displayName, hname, h⟩ := Option.bind_eq_some_iff.mp h
  obtain ⟨lastLoginAt, -, h⟩ := Option.bind_eq_some_iff.mp h
  obtain ⟨emailVerifiedAt, -, h⟩ := Option.bind_eq_some_iff.mp h
  obtain rfl := Option.some.inj h
  exact ⟨hid, hemail, hhash, hname, rfl⟩

/-- A row that the columns give back unchanged. -/
structure UserOrmEntity.Columns (row : UserOrmEntity) : Prop where
  id : Pg.uuid row.id = some row.id
  email : Pg.varchar 320 row.email = some row.email
  passwordHash : Pg.varchar 72 row.passwordHash = some row.passwordHash
  displayName : Pg.varchar 100 row.displayName = some row.displayName
  lastLoginAt : Pg.nullable Pg.timestamptz row.lastLoginAt = some row.lastLoginAt
  emailVerifiedAt : Pg.nullable Pg.timestamptz row.emailVerifiedAt = some row.emailVerifiedAt

theorem UserOrmEntity.Columns.stored {row : UserOrmEntity} (h : row.Columns) :
    row.stored = some row := by
  simp only [UserOrmEntity.stored, h.id, h.email, h.passwordHash, h.displayName, h.lastLoginAt,
    h.emailVerifiedAt, Option.bind_eq_bind, Option.bind_some]

/-- What is stored, the columns give back unchanged. -/
theorem UserOrmEntity.columns_of_stored {row row' : UserOrmEntity} (h : row.stored = some row') :
    row'.Columns := by
  obtain ⟨id, hid, h⟩ := Option.bind_eq_some_iff.mp h
  obtain ⟨email, hemail, h⟩ := Option.bind_eq_some_iff.mp h
  obtain ⟨passwordHash, hhash, h⟩ := Option.bind_eq_some_iff.mp h
  obtain ⟨displayName, hname, h⟩ := Option.bind_eq_some_iff.mp h
  obtain ⟨lastLoginAt, hlogin, h⟩ := Option.bind_eq_some_iff.mp h
  obtain ⟨emailVerifiedAt, hverified, h⟩ := Option.bind_eq_some_iff.mp h
  obtain rfl := Option.some.inj h
  exact ⟨Pg.uuid_uuid hid, Pg.varchar_varchar hemail, Pg.varchar_varchar hhash,
    Pg.varchar_varchar hname, Pg.nullable_nullable (fun _ _ => Pg.timestamptz_timestamptz) hlogin,
    Pg.nullable_nullable (fun _ _ => Pg.timestamptz_timestamptz) hverified⟩

end Atlas
