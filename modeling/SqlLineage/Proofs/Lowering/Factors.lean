import Mathlib.Data.List.Basic
import SqlLineage.Statement.OfSyntax

/-!
# The factors of a query block

The factors of the FROM clause of a block are what stands at the leaves of its joins, together with
the parenthesized groups of joins on the way there.  The queries among them are blocks of their own
and are not entered.  Reducing a block keeps exactly its named tables as tables.
-/

namespace SqlLineage

open Sql

mutual

/-- The factors of a relation and of those joined to it, a group before what it holds. -/
def Sql.TableWithJoins.factors : TableWithJoins → List TableFactor
  | ⟨relation, joins⟩ => TableFactor.factors relation ++ Join.factors joins

/-- The factors of joined relations. -/
def Sql.Join.factors : List Join → List TableFactor
  | [] => []
  | ⟨_, _, _, relation⟩ :: rest => TableFactor.factors relation ++ Join.factors rest

/-- A factor, with those it holds if it is a group. -/
def Sql.TableFactor.factors : TableFactor → List TableFactor
  | .nested tables aliasName => .nested tables aliasName :: TableWithJoins.factors tables
  | factor => [factor]

end

/-- The factors of a block. -/
def Sql.Select.factors (block : Sql.Select) : List TableFactor :=
  block.sources.flatMap TableWithJoins.factors

/-- The name of a factor that is a named table. -/
def Sql.TableFactor.tableName? : TableFactor → Option String
  | .table name _ _ _ => some name.plain
  | _ => none

/-- The names of the tables among the factors of a block. -/
def Sql.Select.tables (block : Sql.Select) : List String :=
  block.factors.filterMap TableFactor.tableName?

/-- A named table without an alias. -/
def Sql.TableFactor.named (name : String) : TableFactor :=
  .table ⟨[.ident ⟨name, none⟩]⟩ none none ""

/-- An undotted name. -/
def Sql.ObjectName.word (name : String) : ObjectName :=
  ⟨[.ident ⟨name, none⟩]⟩

/-- A named table with an alias. -/
def Sql.TableFactor.called (name aliasName : String) : TableFactor :=
  .table (.word name) none (some ⟨⟨aliasName, none⟩, ""⟩) ""

/-- The name and the alias of a factor that is a named table. -/
def Sql.TableFactor.ref? : TableFactor → Option TableRef
  | .table name _ aliasName _ => some ⟨name.plain, aliasName.map TableAlias.plain⟩
  | _ => none

/-- The relation that a factor is reduced to, without its place in the joins. -/
def Sql.TableFactor.item? : TableFactor → Option FromItem
  | .table name _ aliasName _ =>
    some ⟨.table name.plain, aliasName.map TableAlias.plain, false, none⟩
  | .derived _ query aliasName =>
    some ⟨.subquery (Select.ofQuery query), aliasName.map TableAlias.plain, false, none⟩
  | _ => none

/-- The name of a relation that is a named table. -/
def FromItem.tableName? : FromItem → Option String
  | ⟨.table name, _, _, _⟩ => some name
  | ⟨.subquery _, _, _, _⟩ => none

/-- The name and the alias of a relation that is a named table. -/
def FromItem.ref? : FromItem → Option TableRef
  | ⟨.table name, aliasName, _, _⟩ => some ⟨name, aliasName⟩
  | ⟨.subquery _, _, _, _⟩ => none

/-- A relation without its place in the joins. -/
def FromItem.bare (item : FromItem) : FromItem :=
  { item with join := false, condition := none }

theorem Sql.TableFactor.tableName?_eq (factor : TableFactor) :
    factor.tableName? = factor.ref?.map TableRef.name := by
  cases factor <;> rfl

theorem Sql.TableFactor.ref?_eq (factor : TableFactor) :
    factor.ref? = factor.item?.bind FromItem.ref? := by
  cases factor <;> rfl

theorem FromItem.tableName?_eq (item : FromItem) :
    item.tableName? = item.ref?.map TableRef.name := by
  obtain ⟨source, aliasName, join, condition⟩ := item
  cases source <;> rfl

theorem FromItem.ref?_bare (item : FromItem) : item.bare.ref? = item.ref? := by
  obtain ⟨source, aliasName, join, condition⟩ := item
  cases source <;> rfl

theorem FromItem.map_bare_regroup (join : Bool) (condition : Option Expression)
    (items : List FromItem) :
    (FromItem.regroup join condition items).map FromItem.bare = items.map FromItem.bare := by
  cases items <;> rfl

mutual

theorem items_ofTable (source : TableWithJoins) :
    (FromItem.ofTable source).map FromItem.bare =
      (TableWithJoins.factors source).filterMap TableFactor.item? := by
  match source with
  | ⟨relation, joins⟩ =>
    rw [FromItem.ofTable, TableWithJoins.factors, List.map_append, List.filterMap_append,
      items_ofFactor false none relation, items_ofJoins joins]

theorem items_ofJoins (joins : List Join) :
    (FromItem.ofJoins joins).map FromItem.bare =
      (Join.factors joins).filterMap TableFactor.item? := by
  match joins with
  | [] => rfl
  | ⟨_, kind, constraint, relation⟩ :: rest =>
    rw [FromItem.ofJoins, Join.factors, List.map_append, List.filterMap_append,
      items_ofFactor true (Expression.ofJoin kind constraint) relation, items_ofJoins rest]

theorem items_ofFactor (join : Bool) (condition : Option Expression) (factor : TableFactor) :
    (FromItem.ofFactor join condition factor).map FromItem.bare =
      (TableFactor.factors factor).filterMap TableFactor.item? := by
  match factor with
  | .table _ _ _ _ => rfl
  | .derived _ _ _ => rfl
  | .nested tables _ =>
    rw [FromItem.ofFactor, FromItem.map_bare_regroup, TableFactor.factors, items_ofTable tables]
    rfl
  | .rows _ _ | .reshaped _ _ _ => rfl

end

/-- The named tables and the queries of a list of relations are kept in order. -/
theorem items_ofList (sources : List TableWithJoins) :
    (FromItem.ofList sources).map FromItem.bare =
      (sources.flatMap TableWithJoins.factors).filterMap TableFactor.item? := by
  induction sources with
  | nil => rfl
  | cons source rest ih =>
    rw [FromItem.ofList, List.flatMap_cons, List.map_append, List.filterMap_append,
      items_ofTable source, ih]

/-- The named tables of a list of relations are kept, each with its alias. -/
theorem refs_ofList (sources : List TableWithJoins) :
    (FromItem.ofList sources).filterMap FromItem.ref? =
      (sources.flatMap TableWithJoins.factors).filterMap TableFactor.ref? := by
  rw [← funext FromItem.ref?_bare, funext TableFactor.ref?_eq, ← List.filterMap_filterMap,
    ← items_ofList, List.filterMap_map]
  rfl

/-- The tables of a block are those of the relations it is reduced to. -/
theorem tableNames_ofList (sources : List TableWithJoins) :
    (FromItem.ofList sources).filterMap FromItem.tableName? =
      (sources.flatMap TableWithJoins.factors).filterMap TableFactor.tableName? := by
  rw [funext FromItem.tableName?_eq, funext TableFactor.tableName?_eq, ← List.map_filterMap,
    ← List.map_filterMap, refs_ofList]

end SqlLineage
