import Atlas.Lib.Relation
import Atlas.Pg

/-!
# Atlas.Schema.Migrations

The tables that the migrations create, column by column.

The application runs with `synchronize: false`, so these are the tables it
finds.  Those of users and organizations, which `InitialSchema` creates too,
are left out: no repository modelled over the migrated tables reads them.
-/

namespace Atlas

open StoreKit

namespace Schema

/-! ## Values and column types -/

/-- A value sent to a column or read from it. -/
inductive Value where
  | null
  | text (s : String)
  | integer (n : Int)
  | number (a : Js.Double)
  | json (j : Json)
  | instant (t : Js.Date)
deriving DecidableEq

inductive ColumnType where
  | uuid
  | varchar (n : Nat)
  | text
  | jsonb
  | integer
  | timestamptz
  | inet
  | enum (labels : List String)

/-- What the server decides: the `inet` type, and the id and the instant that
defaults hand out. -/
structure Server where
  inet : String → Option String
  uuidGenerateV4 : String
  now : Js.Date

/-- What a column of the type makes of a value. -/
def ColumnType.store (server : Server) : ColumnType → Value → Option Value
  | _, .null => some .null
  | .uuid, .text s => (Pg.uuid s).map .text
  | .varchar n, .text s => (Pg.varchar n s).map .text
  | .text, .text s => (Pg.text s).map .text
  | .inet, .text s => (server.inet s).map .text
  | .enum labels, .text s => if s ∈ labels then some (.text s) else none
  | .jsonb, .json j => (Pg.jsonb j).map .json
  | .integer, .integer n => (Pg.int4 n).map .integer
  | .integer, .number a => (Pg.int4OfNumber a).map .number
  | .timestamptz, .instant t => (Pg.timestamptz t).map .instant
  | _, _ => none

inductive ColumnDefault where
  | value (v : Value)
  | uuidGenerateV4
  | now

def ColumnDefault.get (server : Server) : ColumnDefault → Value
  | .value v => v
  | .uuidGenerateV4 => .text server.uuidGenerateV4
  | .now => .instant server.now

/-- A column of a `CREATE TABLE` statement. -/
structure ColumnDefinition where
  name : String
  type : ColumnType
  notNull : Bool
  default : ColumnDefault := .value .null
  primaryKey : Bool := false
  /-- The table whose `id` the column references. -/
  references : Option String := none

/-- The columns as a relation knows them. -/
def Server.columns (server : Server) : Columns ColumnDefinition Value where
  name := ColumnDefinition.name
  store c sent :=
    match sent.getD (c.default.get server) with
    | .null => if c.notNull then none else some .null
    | value => c.type.store server value

/-! ## The migrations -/

structure CreateTable where
  name : String
  columns : List ColumnDefinition

def audit_events : CreateTable where
  name := "audit_events"
  columns := [
    { name := "id", type := .uuid, notNull := true, default := .uuidGenerateV4,
      primaryKey := true },
    { name := "tenant_id", type := .uuid, notNull := true },
    { name := "actor_id", type := .uuid, notNull := false },
    { name := "actor_type", type := .varchar 20, notNull := true },
    { name := "action", type := .varchar 100, notNull := true },
    { name := "resource_type", type := .varchar 100, notNull := true },
    { name := "resource_id", type := .varchar 255, notNull := true },
    { name := "outcome", type := .varchar 10, notNull := true },
    { name := "metadata", type := .jsonb, notNull := true, default := .value (.json (.obj [])) },
    { name := "correlation_id", type := .uuid, notNull := true },
    { name := "ip_address", type := .inet, notNull := false },
    { name := "user_agent", type := .text, notNull := false },
    { name := "occurred_at", type := .timestamptz, notNull := true, default := .now }]

def workflow_definitions : CreateTable where
  name := "workflow_definitions"
  columns := [
    { name := "id", type := .uuid, notNull := true, primaryKey := true },
    { name := "tenant_id", type := .uuid, notNull := true },
    { name := "name", type := .varchar 100, notNull := true },
    { name := "description", type := .text, notNull := false },
    { name := "trigger", type := .jsonb, notNull := true },
    { name := "steps", type := .jsonb, notNull := true, default := .value (.json (.arr [])) },
    { name := "version", type := .integer, notNull := true, default := .value (.integer 1) },
    { name := "status", type := .varchar 20, notNull := true, default := .value (.text "draft") },
    { name := "created_by", type := .uuid, notNull := true },
    { name := "created_at", type := .timestamptz, notNull := true, default := .now },
    { name := "updated_at", type := .timestamptz, notNull := true, default := .now }]

def workflow_executions : CreateTable where
  name := "workflow_executions"
  columns := [
    { name := "id", type := .uuid, notNull := true, primaryKey := true },
    { name := "definition_id", type := .uuid, notNull := true,
      references := some "workflow_definitions" },
    { name := "tenant_id", type := .uuid, notNull := true },
    { name := "correlation_id", type := .uuid, notNull := true },
    { name := "triggered_by", type := .varchar 255, notNull := true },
    { name := "trigger_type", type := .varchar 20, notNull := true },
    { name := "input", type := .jsonb, notNull := true, default := .value (.json (.obj [])) },
    { name := "status", type := .varchar 20, notNull := true, default := .value (.text "pending") },
    { name := "step_results", type := .jsonb, notNull := true, default := .value (.json (.arr [])) },
    { name := "started_at", type := .timestamptz, notNull := false },
    { name := "completed_at", type := .timestamptz, notNull := false },
    { name := "duration_ms", type := .integer, notNull := false },
    { name := "error_message", type := .text, notNull := false },
    { name := "created_at", type := .timestamptz, notNull := true, default := .now },
    { name := "updated_at", type := .timestamptz, notNull := true, default := .now }]

def outbox_entries : CreateTable where
  name := "outbox_entries"
  columns := [
    { name := "id", type := .uuid, notNull := true, default := .uuidGenerateV4,
      primaryKey := true },
    { name := "event_id", type := .uuid, notNull := true },
    { name := "event_type", type := .varchar 150, notNull := true },
    { name := "tenant_id", type := .uuid, notNull := true },
    { name := "correlation_id", type := .uuid, notNull := true },
    { name := "payload", type := .jsonb, notNull := true, default := .value (.json (.obj [])) },
    { name := "status", type := .enum ["pending", "processed", "failed"], notNull := true,
      default := .value (.text "pending") },
    { name := "attempts", type := .integer, notNull := true, default := .value (.integer 0) },
    { name := "last_error", type := .text, notNull := false },
    { name := "occurred_at", type := .timestamptz, notNull := true },
    { name := "created_at", type := .timestamptz, notNull := true, default := .now },
    { name := "processed_at", type := .timestamptz, notNull := false }]

/-- `InitialSchema1716000000000.up`. -/
def initialSchema : List CreateTable := [audit_events, workflow_definitions, workflow_executions]

/-- `AddOutboxEntries1716500000000.up`. -/
def addOutboxEntries : List CreateTable := [outbox_entries]

/-! ## The database -/

abbrev Database := List (Relation ColumnDefinition Value)

def Database.table? (db : Database) (name : String) : Option (Relation ColumnDefinition Value) :=
  db.find? fun r => r.name = name

def Database.put (db : Database) (r : Relation ColumnDefinition Value) : Database :=
  db.map fun r' => if r'.name = r.name then r else r'

/-- A row meets the constraints of its table: its key is new, and what it
references is there. -/
def Database.allowed (db : Database) (r : Relation ColumnDefinition Value) (row : Record Value) :
    Bool :=
  r.columns.all fun c =>
    (!c.primaryKey || r.rows.all fun old => old.lookup c.name ≠ row.lookup c.name) &&
    match c.references with
    | none => true
    | some name => (db.table? name).any fun referenced =>
        referenced.rows.any fun old => old.lookup "id" = row.lookup c.name

/-- **A state of the migrated tables**: each has the columns it was created
with. -/
def Migrated (db : Database) : Prop :=
  ∀ table ∈ initialSchema ++ addOutboxEntries,
    ∃ r, db.table? table.name = some r ∧ r.columns = table.columns

/-- The database before anything is written to it. -/
def migrated : Database :=
  (initialSchema ++ addOutboxEntries).map fun table => ⟨table.name, table.columns, []⟩

theorem migrated_migrated : Migrated migrated := by
  intro table htable
  simp only [initialSchema, addOutboxEntries, List.cons_append, List.nil_append, List.mem_cons,
    List.not_mem_nil, or_false] at htable
  rcases htable with rfl | rfl | rfl | rfl
  · exact ⟨⟨_, _, []⟩, rfl, rfl⟩
  · exact ⟨⟨_, _, []⟩, rfl, rfl⟩
  · exact ⟨⟨_, _, []⟩, rfl, rfl⟩
  · exact ⟨⟨_, _, []⟩, rfl, rfl⟩

end Schema

end Atlas
