import Mathlib.Logic.Basic
import Mathlib.Data.Bool.AllAny

/-!
# Atlas.Lib.Relation

Relations with named columns, and mappers that write and read objects.

A statement names columns, and the names are resolved before it runs: where
the relation lacks one of them the statement is refused, whatever the rows are.
A mapper names every column of its mapping in every statement it sends
(`Mapping.insert`, `Mapping.find`, `Mapping.save`), so nothing is written and
nothing is read unless the relation has them all (`has_of_insert`,
`has_of_find`, `has_of_save`).

`γ` is what defines a column and `ν` are the values.
-/

namespace StoreKit

/-- What a relation needs to know of its columns: their names, and what they
make of a value sent to them, or of none. -/
structure Columns (γ ν : Type) where
  name : γ → String
  store : γ → Option ν → Option ν

/-- A row, or an object, by the names of its values. -/
abbrev Record (ν : Type) := List (String × ν)

structure Relation (γ ν : Type) where
  name : String
  columns : List γ
  rows : List (Record ν)

section Statements

variable {γ ν : Type} (C : Columns γ ν)

def Relation.column? (r : Relation γ ν) (name : String) : Option γ :=
  r.columns.find? fun c => C.name c = name

/-- The relation has every column that is named. -/
def Relation.resolves (r : Relation γ ν) (names : List String) : Bool :=
  names.all fun name => (r.column? C name).isSome

theorem has_of_resolves {C : Columns γ ν} {r : Relation γ ν} {names : List String} {name : String}
    (h : r.resolves C names = true) (hname : name ∈ names) : ∃ c ∈ r.columns, C.name c = name := by
  have hsome := List.all_eq_true.mp h name hname
  obtain ⟨c, hc⟩ := Option.isSome_iff_exists.mp hsome
  have hsame := List.find?_some hc
  exact ⟨c, List.mem_of_find?_eq_some hc, of_decide_eq_true hsame⟩

/-- `INSERT`: each column stores what is sent to it, or its default. -/
def Relation.insert (allowed : Record ν → Bool) (r : Relation γ ν)
    (values : List (String × Option ν)) : Option (Relation γ ν) :=
  if r.resolves C (values.map Prod.fst) then do
    let row ← r.columns.mapM fun c => do
      let value ← C.store c (values.lookup (C.name c)).join
      return (C.name c, value)
    if allowed row then some { r with rows := r.rows ++ [row] } else none
  else none

/-- The values compared with, as the columns have them. -/
def Relation.comparands (r : Relation γ ν) (conditions : Record ν) : Option (Record ν) :=
  conditions.mapM fun condition => do
    let c ← r.column? C condition.1
    let value ← C.store c (some condition.2)
    return (condition.1, value)

variable [DecidableEq ν]

def meets (conditions row : Record ν) : Bool :=
  conditions.all fun condition => row.lookup condition.1 = some condition.2

/-- `SELECT`: the columns named, of the rows that meet the conditions. -/
def Relation.select (r : Relation γ ν) (names : List String) (conditions : Record ν) :
    Option (List (Record ν)) :=
  if r.resolves C names then do
    let conditions ← r.comparands C conditions
    return (r.rows.filter (meets conditions)).map fun row =>
      names.filterMap fun name => (row.lookup name).map fun value => (name, value)
  else none

/-- The row with the values that are sent. -/
def Record.replace (values row : Record ν) : Record ν :=
  row.map fun cell => (cell.1, (values.lookup cell.1).getD cell.2)

/-- `UPDATE`: the values that are sent replace those of the rows that meet the
conditions. -/
def Relation.update (r : Relation γ ν) (values : Record ν) (conditions : Record ν) :
    Option (Relation γ ν) :=
  if r.resolves C (values.map Prod.fst) then do
    let conditions ← r.comparands C conditions
    let values ← r.comparands C values
    return { r with
      rows := r.rows.map fun row => bif meets conditions row then Record.replace values row else row }
  else none

end Statements

/-! ## Mappers -/

/-- A property of a class and the column it is mapped to: the one that is
named, or the one of the property's own name. -/
structure Property (ρ ν : Type) where
  property : String
  name : Option String
  get : ρ → Option ν

def Property.column {ρ ν : Type} (p : Property ρ ν) : String := p.name.getD p.property

/-- How a class is mapped to a relation; `key` is the property of the primary
key. -/
structure Mapping (ρ ν : Type) where
  relation : String
  key : Property ρ ν
  others : List (Property ρ ν)

namespace Mapping

variable {γ ρ ν : Type} (C : Columns γ ν)

def properties (m : Mapping ρ ν) : List (Property ρ ν) := m.key :: m.others

/-- The columns that every statement names. -/
def columns (m : Mapping ρ ν) : List String := m.properties.map Property.column

/-- The object is written under a new key. -/
def insert (m : Mapping ρ ν) (allowed : Record ν → Bool) (r : Relation γ ν) (object : ρ) :
    Option (Relation γ ν) :=
  r.insert C allowed (m.properties.map fun p => (p.column, p.get object))

/-- A column that is mapped exists where an object is inserted. -/
theorem has_of_insert {C : Columns γ ν} {m : Mapping ρ ν} {allowed : Record ν → Bool} {r r' : Relation γ ν}
    {object : ρ} {name : String} (h : m.insert C allowed r object = some r')
    (hname : name ∈ m.columns) : ∃ c ∈ r.columns, C.name c = name := by
  unfold insert Relation.insert at h
  split at h
  · next hresolves =>
      refine has_of_resolves hresolves ?_
      rw [List.map_map]
      exact hname
  · contradiction

variable [DecidableEq ν]

/-- The objects whose properties have the values asked for, by property. -/
def find (m : Mapping ρ ν) (r : Relation γ ν) (conditions : Record ν) :
    Option (List (Record ν)) := do
  let rows ← r.select C m.columns (conditions.filterMap fun condition =>
    (m.properties.find? fun p => p.property = condition.1).map fun p => (p.column, condition.2))
  return rows.map fun row =>
    m.properties.filterMap fun p => (row.lookup p.column).map fun value => (p.property, value)

/-- The object is looked up by its key, and updated or inserted. -/
def save (m : Mapping ρ ν) (allowed : Record ν → Bool) (r : Relation γ ν) (object : ρ) :
    Option (Relation γ ν) := do
  let key ← m.key.get object
  let found ← m.find C r [(m.key.property, key)]
  if found = [] then m.insert C allowed r object
  else
    r.update C (m.others.filterMap fun p => (p.get object).map fun value => (p.column, value))
      [(m.key.column, key)]

variable {C}

/-- A query resolves every column of the mapping. -/
theorem has_of_find {m : Mapping ρ ν} {r : Relation γ ν} {conditions : Record ν}
    {objects : List (Record ν)} {name : String} (h : m.find C r conditions = some objects)
    (hname : name ∈ m.columns) : ∃ c ∈ r.columns, C.name c = name := by
  obtain ⟨rows, hrows, -⟩ := Option.bind_eq_some_iff.mp h
  unfold Relation.select at hrows
  split at hrows
  · next hresolves => exact has_of_resolves hresolves hname
  · contradiction

/-- A save resolves every column of the mapping, since it looks the object up first. -/
theorem has_of_save {m : Mapping ρ ν} {allowed : Record ν → Bool} {r r' : Relation γ ν}
    {object : ρ} {name : String} (h : m.save C allowed r object = some r')
    (hname : name ∈ m.columns) : ∃ c ∈ r.columns, C.name c = name := by
  obtain ⟨key, -, h⟩ := Option.bind_eq_some_iff.mp h
  obtain ⟨found, hfound, -⟩ := Option.bind_eq_some_iff.mp h
  exact has_of_find hfound hname

end Mapping

end StoreKit
