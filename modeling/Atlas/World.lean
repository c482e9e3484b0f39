import Atlas.Audit.Event
import Atlas.Identity.User
import Atlas.Lib.Table
import Atlas.Outbox.Entry
import Atlas.TenantCore.Organization
import Atlas.Workflow.Entities
import Mathlib.Data.List.Sort

/-!
# Atlas.World

The database the application runs on, and what TypeORM does to it.

`save` updates the row that has the instance's primary key and inserts one
otherwise; on an update a column whose value the instance leaves unset keeps
its value.  `insert` is refused where the primary key is taken.

`tenants` and `published` record what the application asked for and sent; they
decide nothing.
-/

namespace Atlas

open StoreKit

abbrev UserTable := Table String UserOrmEntity UserOrmEntity.id

abbrev OrganizationTable := Table String OrganizationOrmEntity OrganizationOrmEntity.id

abbrev WorkflowDefinitionTable :=
  Table String WorkflowDefinitionOrmEntity WorkflowDefinitionOrmEntity.id

abbrev WorkflowExecutionTable :=
  Table String WorkflowExecutionOrmEntity WorkflowExecutionOrmEntity.id

abbrev AuditEventTable := Table String AuditEventOrmEntity AuditEventOrmEntity.id

structure World where
  users : UserTable
  organizations : OrganizationTable
  workflowDefinitions : WorkflowDefinitionTable
  workflowExecutions : WorkflowExecutionTable
  auditEvents : AuditEventTable
  outboxEntries : OutboxTable
  /-- The tenant each tenant-scoped operation and each `@TenantId()` was given. -/
  tenants : List (Option String)
  /-- The events handed to the event bus. -/
  published : List TenantAwareEvent
deriving DecidableEq

def emptyWorld : World :=
  ⟨.empty, .empty, .empty, .empty, .empty, .empty, [], []⟩

/-- A method of the application: it may throw, and what it wrote before stays. -/
abbrev App := Program World Exception

/-- A method that returned `Result.ok`. -/
def answered {α : Type} : Except Exception (Result α) × World → Bool
  | (.ok (.ok _), _) => true
  | _ => false

theorem answer_of_answered {α : Type} {x : Except Exception (Result α) × World}
    (h : answered x = true) : ∃ a w', x = (.ok (.ok a), w') := by
  unfold answered at h
  split at h
  · next a w' => exact ⟨a, w', rfl⟩
  · contradiction

namespace Typeorm

/-! ## Writing -/

/-- What `save` leaves in the table: the row is updated or inserted, unless a
column or a constraint refuses it.  `merge` keeps the columns whose fields are
`undefined`.  The instance is known by its id as a text: where the column writes
that differently, a row that has it is not recognised, and the insert refused. -/
def saveRow {ρ : Type} {key : ρ → String} (stored : ρ → Option ρ) (merge : ρ → ρ → ρ)
    (allowed : ρ → Bool) (table : Table String ρ key) (orm : ρ) : Option (Table String ρ key) :=
  (stored orm).bind fun row =>
    match table.find? (key row) with
    | some old =>
      let row' := merge old row
      if key row = key orm ∧ allowed row' then some (table.put row') else none
    | none => if allowed row then some (table.put row) else none

theorem saveRow_of_stored {ρ : Type} {key : ρ → String} {stored : ρ → Option ρ}
    {merge : ρ → ρ → ρ} {allowed : ρ → Bool} {table : Table String ρ key} {orm row old : ρ}
    (hstored : stored orm = some row) (hkey : key row = key orm)
    (hold : table.find? (key row) = some old) :
    saveRow stored merge allowed table orm =
      if allowed (merge old row) then some (table.put (merge old row)) else none := by
  simp only [saveRow, hstored, Option.bind_some, hold]
  by_cases hallowed : allowed (merge old row) = true
  · rw [if_pos ⟨hkey, hallowed⟩, if_pos hallowed]
  · rw [if_neg fun h => hallowed h.2, if_neg hallowed]

/-- A row that is saved was stored by the columns, and merged with the row
under its key if there was one. -/
theorem saveRow_cases {ρ : Type} {key : ρ → String} {stored : ρ → Option ρ}
    {merge : ρ → ρ → ρ} {allowed : ρ → Bool} {table table' : Table String ρ key} {orm : ρ}
    (h : saveRow stored merge allowed table orm = some table') :
    ∃ row new, stored orm = some row ∧ allowed new = true ∧ table' = table.put new ∧
      ((table.find? (key row) = none ∧ new = row) ∨
        ∃ old, table.find? (key row) = some old ∧ new = merge old row) := by
  obtain ⟨row, hrow, hput⟩ := Option.bind_eq_some_iff.mp h
  cases hfind : table.find? (key row) with
  | none =>
      simp only [hfind] at hput
      split at hput
      · next hallowed => exact ⟨row, row, hrow, hallowed, (Option.some.inj hput).symm,
          .inl ⟨hfind, rfl⟩⟩
      · contradiction
  | some old =>
      simp only [hfind] at hput
      split at hput
      · next hallowed => exact ⟨row, _, hrow, hallowed.2, (Option.some.inj hput).symm,
          .inr ⟨old, hfind, rfl⟩⟩
      · contradiction

/-- Where two tables have the same row under its key, and let in the same rows,
a row is refused by both or written to both. -/
theorem saveRow_alike {ρ : Type} {key : ρ → String} {stored : ρ → Option ρ}
    {merge : ρ → ρ → ρ} {allowed₁ allowed₂ : ρ → Bool} {t₁ t₂ : Table String ρ key} {orm : ρ}
    (hfind : ∀ row, stored orm = some row → t₁.find? (key row) = t₂.find? (key row))
    (hallowed : ∀ row, allowed₁ row = allowed₂ row) :
    (saveRow stored merge allowed₁ t₁ orm = none ∧ saveRow stored merge allowed₂ t₂ orm = none) ∨
    ∃ row new, stored orm = some row ∧
      ((t₁.find? (key row) = none ∧ new = row) ∨
        ∃ old, t₁.find? (key row) = some old ∧ new = merge old row) ∧
      saveRow stored merge allowed₁ t₁ orm = some (t₁.put new) ∧
      saveRow stored merge allowed₂ t₂ orm = some (t₂.put new) := by
  cases hstored : stored orm with
  | none => simp [saveRow, hstored]
  | some row =>
      have hsame := hfind row hstored
      cases hold : t₁.find? (key row) with
      | none =>
          simp only [saveRow, hstored, Option.bind_some, ← hsame, hold, ← hallowed]
          by_cases hrow : allowed₁ row = true
          · simp only [if_pos hrow]
            exact .inr ⟨row, row, rfl, .inl ⟨hold, rfl⟩, rfl, rfl⟩
          · simp only [if_neg hrow]
            exact .inl ⟨trivial, trivial⟩
      | some old =>
          simp only [saveRow, hstored, Option.bind_some, ← hsame, hold, ← hallowed]
          by_cases hrow : key row = key orm ∧ allowed₁ (merge old row) = true
          · simp only [if_pos hrow]
            exact .inr ⟨row, _, rfl, .inr ⟨old, hold, rfl⟩, rfl, rfl⟩
          · simp only [if_neg hrow]
            exact .inl ⟨trivial, trivial⟩

/-! ## Reading -/

/-- An order the server puts rows in when the query does not say which. -/
structure Arrangement (ρ : Type) where
  arrange : List ρ → List ρ
  perm : ∀ rows, (arrange rows).Perm rows

/-- `ORDER BY date DESC`. -/
def orderByDesc {ρ : Type} (ties : Arrangement ρ) (date : ρ → Js.Date) (rows : List ρ) : List ρ :=
  (ties.arrange rows).insertionSort fun a b => date b ≤ date a

/-- The server rounds the number of a `LIMIT` or `OFFSET` clause and refuses a
negative one. -/
def clause : Js.Number → Except Exception Nat
  | .of q =>
    let n := if 0 ≤ q then (q + 1 / 2).floor else (q - 1 / 2).ceil
    if 0 ≤ n ∧ n < 9223372036854775808 then .ok n.toNat else .error .database
  | _ => .error .database

/-- `.skip(skip).take(take)`. -/
def checkNumbers (skip take : Js.Number) : Except Exception Unit :=
  if skip = .nan then .error (.error
    "Provided \"skip\" value is not a number. Please provide a numeric value.")
  else if take = .nan then .error (.error
    "Provided \"take\" value is not a number. Please provide a numeric value.")
  else .ok ()

/-- The rows between `OFFSET` and `LIMIT`; a clause is left out for 0. -/
def paginate {ρ : Type} (skip take : Js.Number) (rows : List ρ) : Except Exception (List ρ) := do
  let offset ← if skip = 0 then .ok 0 else clause skip
  let limit ← if take = 0 then .ok rows.length else clause take
  return (rows.drop offset).take limit

/-- `lazyCount`: the number of all rows, where the page tells it.  It does not
when it has as many rows as a page may have, or none behind an offset. -/
def lazyCount (arithmetic : Js.Arithmetic) (skip take : Js.Number) (entities : Nat) :
    Option Js.Number :=
  let hasSkip := Js.Number.lt 0 skip
  if (entities : Js.Number) = take then none
  else if entities = 0 ∧ hasSkip then none
  else some (arithmetic.add entities (if hasSkip then skip else 0))

end Typeorm

/-- A value sent where a `uuid` is compared: the driver reports one that is no
`uuid`. -/
def uuidParameter (s : String) : App String :=
  match Pg.uuid s with
  | some id => pure id
  | none => .reject .database

/-- A parameter that is taken is a uuid, in its normal form. -/
theorem uuidParameter_ok {s id : String} {w w' : World}
    (h : (uuidParameter s).run w = (.ok id, w')) : Pg.uuid s = some id ∧ w' = w := by
  unfold uuidParameter at h
  split at h
  · next u hu =>
      cases h
      exact ⟨hu, rfl⟩
  · cases h

/-- Every uuid is taken as a parameter. -/
theorem uuidParameter_run {s id : String} (w : World) (h : Pg.uuid s = some id) :
    (uuidParameter s).run w = (.ok id, w) := by
  rw [uuidParameter, h]
  rfl

/-- A write that the database may refuse. -/
def written {α : Type} (result : Option α) : App α :=
  match result with
  | some a => pure a
  | none => .reject .database

/-- A value that is written is the one the column takes. -/
theorem written_ok {α : Type} {result : Option α} {a : α} {w w' : World}
    (h : (written result).run w = (.ok a, w')) : result = some a ∧ w' = w := by
  cases result with
  | some b =>
      cases h
      exact ⟨rfl, rfl⟩
  | none => cases h

/-- A value is worked out from the state, and refused or used. -/
theorem write_run {α β : Type} (find : World → Option α) (next : α → App β) (w : World) :
    (Program.gets find >>= fun found => written found >>= next).run w =
      match find w with
      | some a => (next a).run w
      | none => (.error .database, w) := by
  have hrun : (Program.gets find >>= fun found => written found >>= next).run w =
      (written (find w) >>= next).run w := rfl
  rw [hrun]
  cases find w with
  | some a => rfl
  | none => rfl

/-- `orm ? toDomain(orm) : null`. -/
def foundAs {ρ α : Type} (toDomain : ρ → Except Exception α) : Option ρ → App (Option α)
  | some orm => do
      let a ← .lift (toDomain orm)
      return some a
  | none => return none

/-- A row that maps is answered as what it maps to. -/
theorem foundAs_run {ρ α : Type} {toDomain : ρ → Except Exception α} {orm : ρ} {a : α} (w : World)
    (h : toDomain orm = .ok a) : (foundAs toDomain (some orm)).run w = (.ok (some a), w) := by
  rw [foundAs, Program.bind_run, Program.lift_run, h]
  rfl

/-- A look-up rejects at the mapping, finds nothing, or answers what its row maps
to. -/
theorem foundAs_cases {ρ α : Type} (toDomain : ρ → Except Exception α) (orm : Option ρ)
    (w : World) :
    (∃ e, (foundAs toDomain orm).run w = (.error e, w)) ∨
    ((foundAs toDomain orm).run w = (.ok none, w) ∧ orm = none) ∨
    ∃ row a, (foundAs toDomain orm).run w = (.ok (some a), w) ∧ orm = some row ∧
      toDomain row = .ok a := by
  cases orm with
  | none => exact .inr (.inl ⟨rfl, rfl⟩)
  | some row =>
      have hrun : (foundAs toDomain (some row)).run w =
          (Program.lift (toDomain row) >>= fun a => pure (some a)).run w := rfl
      rw [hrun, Program.bind_run, Program.lift_run]
      cases hdomain : toDomain row with
      | error e => exact .inl ⟨e, rfl⟩
      | ok a => exact .inr (.inr ⟨row, a, rfl, rfl, hdomain⟩)

/-- A lookup by a text is refused, or answers what the row it finds is read as. -/
theorem textLookup_cases {ρ α : Type} (toDomain : ρ → Except Exception α) (key : String)
    (find : String → World → Option ρ) (w : World) :
    (∃ e, (written (Pg.text key) >>= fun key => Program.gets (find key) >>= fun orm =>
      foundAs toDomain orm).run w = (.error e, w)) ∨
    ((written (Pg.text key) >>= fun key => Program.gets (find key) >>= fun orm =>
      foundAs toDomain orm).run w = (.ok none, w) ∧ find key w = none) ∨
    ∃ row a, (written (Pg.text key) >>= fun key => Program.gets (find key) >>= fun orm =>
      foundAs toDomain orm).run w = (.ok (some a), w) ∧ find key w = some row ∧
      toDomain row = .ok a := by
  cases htext : Pg.text key with
  | none => exact .inl ⟨.database, rfl⟩
  | some sent =>
      obtain rfl := Pg.text_eq htext
      have hparameter : (written (some sent)).run w = (.ok sent, w) := rfl
      rw [Program.bind_run_ok hparameter, Program.bind_run_ok (Program.gets_run _ w)]
      exact foundAs_cases toDomain _ w

/-- A text that the server takes finds its row. -/
theorem textLookup_run {ρ α : Type} {toDomain : ρ → Except Exception α} {key : String}
    {find : String → World → Option ρ} {w : World} {row : ρ} {a : α}
    (htext : Pg.text key = some key) (hrow : find key w = some row)
    (hdomain : toDomain row = .ok a) :
    (written (Pg.text key) >>= fun key => Program.gets (find key) >>= fun orm =>
      foundAs toDomain orm).run w = (.ok (some a), w) := by
  have hparameter : (written (Pg.text key)).run w = (.ok key, w) := by
    rw [htext]
    rfl
  rw [Program.bind_run_ok hparameter, Program.bind_run_ok (Program.gets_run _ w), hrow]
  exact foundAs_run w hdomain

/-- Whether a value is written depends on the column alone. -/
theorem written_run {α : Type} (result : Option α) (w : World) :
    (written result).run w =
      (match result with
        | some a => .ok a
        | none => .error .database, w) := by
  cases result with
  | some a => rfl
  | none => rfl

/-- A calculation that ends with a value has changed nothing. -/
theorem lift_ok {α : Type} {x : Except Exception α} {a : α} {w w' : World}
    (h : (Program.lift x : App α).run w = (.ok a, w')) : x = .ok a ∧ w' = w := by
  cases h
  exact ⟨rfl, rfl⟩

/-! ## Tables with dates -/

/-- A table whose `created_at` and `updated_at` the database sets, and those of
its `uuid` columns that an update overwrites. -/
structure DatedTable (ρ : Type) where
  id : ρ → String
  uuids : List (ρ → String)
  dated : (createdAt updatedAt : Option Js.Date) → ρ → ρ
  stored : ρ → Option ρ
  merge : ρ → ρ → ρ
  allowed : World → ρ → Bool
  table : World → Table String ρ id
  setTable : World → Table String ρ id → World
  uuids_dated : ∀ column ∈ uuids, ∀ createdAt updatedAt row,
    column (dated createdAt updatedAt row) = column row
  uuids_stored : ∀ column ∈ uuids, ∀ row row', stored row = some row' →
    Pg.uuid (column row) = some (column row')
  uuids_merge : ∀ column ∈ uuids, ∀ old row, column (merge old row) = column row

namespace DatedTable

variable {ρ : Type} (t : DatedTable ρ)

/-- `repo.save(orm)`: the database hands back the dates it set. -/
def saveOrm (savedAt : Js.Date) (orm : ρ) : App ρ := do
  let inserted ← .gets fun w => ((Pg.uuid (t.id orm)).bind (t.table w).find?).isNone
  let table ← .gets fun w => Typeorm.saveRow t.stored t.merge (t.allowed w) (t.table w)
    (t.dated (some savedAt) (some savedAt) orm)
  let table ← written table
  .modify fun w => t.setTable w table
  return t.dated (if inserted then some savedAt else none) (some savedAt) orm

/-- The statement writes the table that `saveRow` computes, or is refused. -/
theorem saveOrm_run (savedAt : Js.Date) (orm : ρ) (w : World) :
    (t.saveOrm savedAt orm).run w =
      match Typeorm.saveRow t.stored t.merge (t.allowed w) (t.table w)
          (t.dated (some savedAt) (some savedAt) orm) with
      | some table => (.ok (t.dated
          (if ((Pg.uuid (t.id orm)).bind (t.table w).find?).isNone then some savedAt else none)
          (some savedAt) orm), t.setTable w table)
      | none => (.error .database, w) := by
  have hinserted : (Program.gets fun w => ((Pg.uuid (t.id orm)).bind (t.table w).find?).isNone :
      App _).run w = (.ok ((Pg.uuid (t.id orm)).bind (t.table w).find?).isNone, w) := rfl
  refine (Program.bind_run_ok hinserted).trans ?_
  refine (write_run (fun w => Typeorm.saveRow t.stored t.merge (t.allowed w) (t.table w)
    (t.dated (some savedAt) (some savedAt) orm)) _ w).trans ?_
  cases Typeorm.saveRow t.stored t.merge (t.allowed w) (t.table w)
      (t.dated (some savedAt) (some savedAt) orm) with
  | some table => rfl
  | none => rfl

/-- A row that `save` writes for an instance: what the columns make of it,
merged with the row under its key if there is one. -/
structure Writes (savedAt : Js.Date) (orm : ρ) (w : World) (row : ρ) : Prop where
  allowed : t.allowed w row = true
  merged : ∃ stored, t.stored (t.dated (some savedAt) (some savedAt) orm) = some stored ∧
    (((t.table w).find? (t.id stored) = none ∧ row = stored) ∨
      ∃ old, (t.table w).find? (t.id stored) = some old ∧ row = t.merge old stored)
  uuids : ∀ column ∈ t.uuids, Pg.uuid (column orm) = some (column row)

/-- A save of TypeORM's fails with nothing written, or writes one row. -/
theorem saveOrm_cases (savedAt : Js.Date) (orm : ρ) (w : World) :
    (∃ e, (t.saveOrm savedAt orm).run w = (.error e, w)) ∨
    ∃ createdAt row, (t.saveOrm savedAt orm).run w =
        (.ok (t.dated createdAt (some savedAt) orm), t.setTable w ((t.table w).put row)) ∧
      t.Writes savedAt orm w row := by
  have hrun := t.saveOrm_run savedAt orm w
  split at hrun
  · next table htable =>
      obtain ⟨stored, row, hstored, hallowed, rfl, hmerged⟩ := Typeorm.saveRow_cases htable
      refine .inr ⟨_, row, hrun, hallowed, ⟨stored, hstored, hmerged⟩, fun column hcolumn => ?_⟩
      have hsame : column row = column stored := by
        rcases hmerged with ⟨-, rfl⟩ | ⟨old, -, rfl⟩
        · rfl
        · exact t.uuids_merge column hcolumn old stored
      have hcolumnStored := t.uuids_stored column hcolumn _ _ hstored
      rw [t.uuids_dated column hcolumn] at hcolumnStored
      rw [hsame]
      exact hcolumnStored
  · exact .inl ⟨_, hrun⟩

/-- Where two databases have the same row under its key, and let in the same
rows, a row is refused by both or written to both. -/
theorem saveOrm_alike {savedAt : Js.Date} {orm : ρ} {v w : World} (hid : t.id ∈ t.uuids)
    (hfind : ∀ k, Pg.uuid (t.id orm) = some k → (t.table v).find? k = (t.table w).find? k)
    (hallowed : ∀ row, t.allowed v row = t.allowed w row) :
    (∃ e, (t.saveOrm savedAt orm).run v = (.error e, v) ∧
      (t.saveOrm savedAt orm).run w = (.error e, w)) ∨
    ∃ saved row,
      (t.saveOrm savedAt orm).run v = (.ok saved, t.setTable v ((t.table v).put row)) ∧
      (t.saveOrm savedAt orm).run w = (.ok saved, t.setTable w ((t.table w).put row)) ∧
      ∀ column ∈ t.uuids, Pg.uuid (column orm) = some (column row) := by
  have hv := t.saveOrm_run savedAt orm v
  have hw := t.saveOrm_run savedAt orm w
  have hinserted : (Pg.uuid (t.id orm)).bind (t.table v).find? =
      (Pg.uuid (t.id orm)).bind (t.table w).find? := by
    cases hk : Pg.uuid (t.id orm) with
    | none => rfl
    | some k => exact hfind k hk
  have hcolumn : ∀ row, t.stored (t.dated (some savedAt) (some savedAt) orm) = some row →
      ∀ column ∈ t.uuids, Pg.uuid (column orm) = some (column row) := by
    intro row hstored column hcolumn
    have hrow := t.uuids_stored column hcolumn _ _ hstored
    rwa [t.uuids_dated column hcolumn] at hrow
  rcases Typeorm.saveRow_alike (fun row hstored => hfind _ (hcolumn row hstored _ hid)) hallowed with
    ⟨hnone, hnone'⟩ | ⟨row, new, hstored, hmerged, hsome, hsome'⟩
  · rw [hnone] at hv
    rw [hnone'] at hw
    exact .inl ⟨_, hv, hw⟩
  · rw [hsome] at hv
    rw [hsome', ← hinserted] at hw
    refine .inr ⟨_, new, hv, hw, fun column hmem => ?_⟩
    rcases hmerged with ⟨-, rfl⟩ | ⟨old, -, rfl⟩
    · exact hcolumn _ hstored column hmem
    · rw [t.uuids_merge column hmem]
      exact hcolumn row hstored column hmem

end DatedTable

end Atlas
