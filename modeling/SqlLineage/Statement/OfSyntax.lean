import SqlLineage.Sql.Render
import SqlLineage.Statement.Basic
import SqlLineage.Text.Blank

/-!
# Statements of a script as lineage sees them

Each statement of a parsed script is reduced to the tables and columns it reads and writes.  A
statement that names no table where one is needed is malformed; one without lineage keeps the
words it starts with as its kind.
-/

namespace SqlLineage

/-- A part of a name without its quotes. -/
def Sql.NamePart.plain : Sql.NamePart → String
  | .ident word => word.value
  | .call text => text

/-- A dotted name without quotes. -/
def Sql.ObjectName.plain (name : Sql.ObjectName) : String :=
  ".".intercalate (name.parts.map Sql.NamePart.plain)

/-- The last part of a dotted name without quotes. -/
def Sql.ObjectName.lastPart (name : Sql.ObjectName) : String :=
  ((name.parts.map Sql.NamePart.plain).getLast?).getD ""

/-- The operators that predicates are read for. -/
def Operator.ofSyntax? : Sql.BinaryOperator → Option Operator
  | .eq => some .eq
  | .notEq => some .notEq
  | .lt => some .lt
  | .ltEq => some .ltEq
  | .gt => some .gt
  | .gtEq => some .gtEq
  | .and => some .and
  | .or => some .or
  | .other _ => none

/-- A dotted column name: the last part names the column, the parts before it the table. -/
def Expression.ofPath (parts : List Sql.Ident) : Expression :=
  match parts.map Sql.Ident.value |>.reverse with
  | [] => .other
  | [name] => .column none name
  | name :: qualifier => .column (some (".".intercalate qualifier.reverse)) name

/-- What is kept of an expression: column names and comparisons. -/
def Expression.ofSyntax : Sql.Expr → Expression
  | .ident word => .column none word.value
  | .path parts => .ofPath parts
  | .paren inner => .ofSyntax inner
  | .binary operator left right =>
    match Operator.ofSyntax? operator with
    | some operator => .binary operator (.ofSyntax left) (.ofSyntax right)
    | none => .other
  | _ => .other

/-- What is kept of an item of a projection. -/
def Expression.ofItem : Sql.SelectItem → Expression
  | .expr item _ => .ofSyntax item
  | .wildcard _ => .column none "*"
  | .qualifiedWildcard name _ => .column (some name.plain) "*"
  | .exprWildcard _ _ => .other

/-- The name in an alias. -/
def Sql.TableAlias.plain (aliasName : Sql.TableAlias) : String :=
  aliasName.name.value

/-- The condition of a join. -/
def Expression.ofJoin (kind : Sql.JoinKind) (constraint : Sql.JoinConstraint) :
    Option Expression :=
  match kind, constraint with
  | .crossApply, _ => none
  | .outerApply, _ => none
  | _, .on condition => some (.ofSyntax condition)
  | _, _ => none

/-- Gives a parenthesized group of relations the place in the joins that the group has: its first
relation carries the condition that belongs to the whole group, unless it has one of its own. -/
def FromItem.regroup (join : Bool) (condition : Option Expression) :
    List FromItem → List FromItem
  | [] => []
  | first :: rest =>
    { first with join := first.join || join, condition := first.condition <|> condition } :: rest

mutual

/-- What is kept of a query. -/
def Select.ofQuery : Sql.Query → Select
  | ⟨_, ctes, body, _⟩ =>
    let query := Select.ofBody body
    { query with ctes := CommonTable.ofList ctes ++ query.ctes }

/-- What is kept of common tables. -/
def CommonTable.ofList : List Sql.Cte → List CommonTable
  | [] => []
  | ⟨aliasName, _, query, _⟩ :: rest =>
    ⟨aliasName.plain, Select.ofQuery query⟩ :: CommonTable.ofList rest

/-- What is kept of the body of a query.  The branches of a set operation stand in a row behind the
first. -/
def Select.ofBody : Sql.SetExpr → Select
  | .select block => Select.ofBlock block
  | .query query => Select.ofQuery query
  | .operation _ left right =>
    let first := Select.ofBody left
    let branch := Select.ofBody right
    { first with union := first.union ++ { branch with union := [] } :: branch.union }
  | _ => {}

/-- What is kept of a query block. -/
def Select.ofBlock : Sql.Select → Select
  | ⟨_, _, projection, _, sources, _, selection, _⟩ =>
    { sources := FromItem.ofList sources
      columns := projection.map Expression.ofItem
      selection := selection.map Expression.ofSyntax }

/-- The relations of a list, in order. -/
def FromItem.ofList : List Sql.TableWithJoins → List FromItem
  | [] => []
  | source :: rest => FromItem.ofTable source ++ FromItem.ofList rest

/-- A relation and the ones joined to it. -/
def FromItem.ofTable : Sql.TableWithJoins → List FromItem
  | ⟨relation, joins⟩ => FromItem.ofFactor false none relation ++ FromItem.ofJoins joins

/-- The relations of a list of joins. -/
def FromItem.ofJoins : List Sql.Join → List FromItem
  | [] => []
  | ⟨_, kind, constraint, relation⟩ :: rest =>
    FromItem.ofFactor true (Expression.ofJoin kind constraint) relation ++ FromItem.ofJoins rest

/-- The relations of one factor: a name, a query, or those of a parenthesized group.  Rows that come
from no table have none.  Reshaped rows have none either, so the relation that they are made of is
lost. -/
def FromItem.ofFactor (join : Bool) (condition : Option Expression) :
    Sql.TableFactor → List FromItem
  | .table name _ aliasName _ =>
    [⟨.table name.plain, aliasName.map Sql.TableAlias.plain, join, condition⟩]
  | .derived _ query aliasName =>
    [⟨.subquery (Select.ofQuery query), aliasName.map Sql.TableAlias.plain, join, condition⟩]
  | .nested tables _ => FromItem.regroup join condition (FromItem.ofTable tables)
  | .rows _ _ => []
  | .reshaped _ _ _ => []

end

/-- Why a statement cannot be reduced. -/
inductive Malformation where
  | insertIntoFunction (call : String)
  | updateOfNoTable (relation : String)
  | deleteWithoutTarget
  deriving DecidableEq, Repr

/-- The message of a malformation. -/
def Malformation.message : Malformation → String
  | .insertIntoFunction call => s!"INSERT target `{call}` is a table function"
  | .updateOfNoTable relation => s!"UPDATE target `{relation}` is not a named table"
  | .deleteWithoutTarget => "DELETE has no named target table"

/-- What an INSERT writes. -/
def InsertSource.ofSyntax : Option Sql.Query → InsertSource
  | none => .defaultValues
  | some ⟨_, _, .values _, _⟩ => .values
  | some rows => .query (Select.ofQuery rows)

/-- What is kept of an INSERT. -/
def Insert.ofSyntax (insert : Sql.Insert) : Except Malformation Insert :=
  match insert.target with
  | .table name =>
    .ok
      { table := name.plain
        columns := insert.columns.map Sql.Ident.value
        source := .ofSyntax insert.source }
  | .function call => .error (.insertIntoFunction call)

/-- The columns that an assignment sets. -/
def Sql.AssignmentTarget.columns : Sql.AssignmentTarget → List String
  | .column name => [name.lastPart]
  | .tuple names => names.map Sql.ObjectName.lastPart

/-- The named table that stands first among relations, with the relations behind it. -/
def FromItem.takeTarget? : List FromItem → Option (TableRef × List FromItem)
  | ⟨.table name, aliasName, _, _⟩ :: rest => some (⟨name, aliasName⟩, rest)
  | _ => none

/-- What is kept of an UPDATE: its first relation is the table it changes. -/
def Update.ofSyntax (update : Sql.Update) : Except Malformation Update :=
  match FromItem.takeTarget? (FromItem.ofTable update.table) with
  | none => .error (.updateOfNoTable update.table.render)
  | some (table, joined) =>
    .ok
      { table := table
        assignments := update.assignments.flatMap (fun assignment => assignment.target.columns)
        sources := joined ++ FromItem.ofList update.beforeSet ++ FromItem.ofList update.afterSet
        selection := update.selection.map Expression.ofSyntax }

/-- The relation that a target names: the first one with that name or alias. -/
def FromItem.targetOf (target : String) : List FromItem → TableRef
  | [] => ⟨target, none⟩
  | ⟨.table name, aliasName, _, _⟩ :: rest =>
    if name == target || aliasName == some target then ⟨name, aliasName⟩
    else FromItem.targetOf target rest
  | _ :: rest => FromItem.targetOf target rest

/-- What is kept of a DELETE.  With targets named before FROM, the first of them is the table it
changes and every relation stays a source; otherwise the first relation is the table. -/
def Delete.ofSyntax (delete : Sql.Delete) : Except Malformation Delete :=
  let relations := FromItem.ofList delete.sources ++ FromItem.ofList delete.using_
  let selection := delete.selection.map Expression.ofSyntax
  match delete.targets with
  | target :: _ =>
    .ok
      { table := FromItem.targetOf target.plain relations
        sources := relations
        selection := selection }
  | [] =>
    match FromItem.takeTarget? relations with
    | some (table, rest) => .ok { table := table, sources := rest, selection := selection }
    | none => .error .deleteWithoutTarget

/-- The table that a column refers to: that of its first reference. -/
def Sql.ColumnDef.references? (column : Sql.ColumnDef) : Option String :=
  column.options.findSome? fun
    | .references table => some table.plain
    | .other => none

/-- What is kept of a constraint of a whole table. -/
def ForeignKey.ofSyntax? : Sql.TableConstraint → Option ForeignKey
  | .foreignKey columns table => some ⟨columns.map Sql.Ident.value, table.plain⟩
  | .other => none

/-- What is kept of a CREATE TABLE. -/
def CreateTable.ofSyntax (create : Sql.CreateTable) : CreateTable :=
  { table := create.name.plain
    columns := create.columns.map (fun column => ⟨column.name.value, column.references?⟩)
    foreignKeys := create.constraints.filterMap ForeignKey.ofSyntax?
    query := create.query.map Select.ofQuery }

/-- Whether a word is made of capitals and underscores only. -/
def isKindWord (word : String) : Bool :=
  word.toList.all (fun c => ('A' ≤ c && c ≤ 'Z') || c == '_')

/-- The kind of a statement without lineage: the first two words of its text at most, as long as
they are made of capitals and underscores. -/
def kindOfText (text : String) : String :=
  let words := ((Text.words text.toList).takeWhile isKindWord).take 2
  if words.isEmpty then "UNKNOWN" else " ".intercalate words

/-- What is kept of a statement.  A change of rows behind common tables takes them over. -/
def Statement.ofSyntax : Sql.Statement → Except Malformation Statement
  | .query ⟨_, ctes, .insert change, _⟩ => do
    let inner ← Insert.ofSyntax change
    return .insert { inner with ctes := CommonTable.ofList ctes }
  | .query ⟨_, ctes, .update change, _⟩ => do
    let inner ← Update.ofSyntax change
    return .update { inner with ctes := CommonTable.ofList ctes }
  | .query ⟨_, ctes, .delete change, _⟩ => do
    let inner ← Delete.ofSyntax change
    return .delete { inner with ctes := CommonTable.ofList ctes }
  | .query ⟨_, _, .directory text, _⟩ => return .unsupported (kindOfText text)
  | .query block => return .select (Select.ofQuery block)
  | .insert change => return .insert (← Insert.ofSyntax change)
  | .update change => return .update (← Update.ofSyntax change)
  | .delete change => return .delete (← Delete.ofSyntax change)
  | .createTable definition => return .createTable (.ofSyntax definition)
  | .createView definition =>
    return .createView ⟨definition.name.plain, Select.ofQuery definition.query⟩
  | .alterTable name => return .alterTable ⟨name.plain, none⟩
  | .other text => return .unsupported (kindOfText text)

end SqlLineage
