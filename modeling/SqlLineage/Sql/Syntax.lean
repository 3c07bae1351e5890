/-!
# Syntax of scripts

The tree that a script is parsed into.  Everything lineage is read from has a place of its own:
names, relations, joins and their conditions, predicates, projections, common tables and foreign
keys.  The rest is kept as text, in the spelling in which a statement is printed.
-/

namespace SqlLineage.Sql

/-- A name, with the quote it was written in. -/
structure Ident where
  value : String
  quote : Option Char := none
  deriving DecidableEq, Repr, Inhabited

/-- A part of a dotted name. -/
inductive NamePart where
  | ident (ident : Ident)
  /-- A call whose value is the name. -/
  | call (text : String)
  deriving DecidableEq, Repr

/-- A dotted name. -/
structure ObjectName where
  parts : List NamePart
  deriving DecidableEq, Repr

/-- The operators between two operands. -/
inductive BinaryOperator where
  | eq
  | notEq
  | lt
  | ltEq
  | gt
  | gtEq
  | and
  | or
  | other (spelling : String)
  deriving DecidableEq, Repr

/-- An expression. -/
inductive Expr where
  | ident (ident : Ident)
  /-- A dotted column name. -/
  | path (parts : List Ident)
  | paren (inner : Expr)
  | binary (operator : BinaryOperator) (left right : Expr)
  | wildcard
  | qualifiedWildcard (name : ObjectName)
  | other (text : String)
  deriving DecidableEq, Repr

/-- An item of a projection. -/
inductive SelectItem where
  | expr (expr : Expr) (aliasName : Option Ident)
  | wildcard (options : String)
  /-- `name.*` -/
  | qualifiedWildcard (name : ObjectName) (options : String)
  /-- `expr.*` -/
  | exprWildcard (expr : Expr) (options : String)
  deriving DecidableEq, Repr

/-- The name that a relation is given, possibly with names for its columns. -/
structure TableAlias where
  name : Ident
  columns : String := ""
  deriving DecidableEq, Repr

/-- The ways to join two relations. -/
inductive JoinKind where
  | join
  | inner
  | left
  | leftOuter
  | right
  | rightOuter
  | fullOuter
  | cross
  | semi
  | leftSemi
  | rightSemi
  | anti
  | leftAnti
  | rightAnti
  | crossApply
  | outerApply
  | straight
  | asOf (condition : String)
  deriving DecidableEq, Repr

/-- Which rows of two joined relations belong together. -/
inductive JoinConstraint where
  | on (condition : Expr)
  | using (columns : String)
  | natural
  | none
  deriving DecidableEq, Repr

/-- What an INSERT writes to. -/
inductive InsertTarget where
  | table (name : ObjectName)
  | function (call : String)
  deriving DecidableEq, Repr

/-- What an assignment sets. -/
inductive AssignmentTarget where
  | column (name : ObjectName)
  | tuple (names : List ObjectName)
  deriving DecidableEq, Repr

/-- `target = value` -/
structure Assignment where
  target : AssignmentTarget
  value : Expr
  deriving DecidableEq, Repr

/-- Where the relations of a query block stand. -/
inductive SelectLayout where
  | standard
  /-- `FROM … SELECT …` -/
  | fromFirst
  /-- `FROM …` alone. -/
  | fromOnly
  deriving DecidableEq, Repr

mutual

/-- A query with its common tables and what follows its body. -/
structure Query where
  recursive : Bool := false
  ctes : List Cte := []
  body : SetExpr
  tail : String := ""

/-- `alias AS (query)` -/
structure Cte where
  aliasName : TableAlias
  materialized : String := ""
  query : Query
  source : Option Ident := none

/-- The body of a query. -/
inductive SetExpr where
  | select (select : Select)
  | query (query : Query)
  | operation (operator : String) (left right : SetExpr)
  | values (rows : String)
  | table (name : String)
  | insert (insert : Insert)
  | update (update : Update)
  | delete (delete : Delete)
  | merge (text : String)
  /-- An INSERT that writes into a directory instead of a table. -/
  | directory (text : String)

/-- A query block. -/
structure Select where
  layout : SelectLayout := .standard
  /-- `SELECT` with its quantifier. -/
  opening : String := "SELECT"
  projection : List SelectItem := []
  /-- What stands between the projection and the relations. -/
  into : String := ""
  sources : List TableWithJoins := []
  /-- What stands between the relations and the predicate. -/
  views : String := ""
  selection : Option Expr := none
  /-- What stands after the predicate. -/
  tail : String := ""

/-- A relation with the relations joined to it. -/
structure TableWithJoins where
  relation : TableFactor
  joins : List Join := []

/-- A relation joined to the ones before it. -/
structure Join where
  global : Bool := false
  kind : JoinKind
  constraint : JoinConstraint
  relation : TableFactor

/-- A relation. -/
inductive TableFactor where
  /-- A named table, or a call of a table function by its name. -/
  | table (name : ObjectName) (arguments : Option String) (aliasName : Option TableAlias)
      (options : String)
  | derived (lateral : Bool) (query : Query) (aliasName : Option TableAlias)
  | nested (tables : TableWithJoins) (aliasName : Option TableAlias)
  /-- Rows that come from no table. -/
  | rows (text : String) (aliasName : Option TableAlias)
  /-- What PIVOT, UNPIVOT or MATCH_RECOGNIZE makes of the rows of a relation. -/
  | reshaped (relation : TableFactor) (text : String) (aliasName : Option TableAlias)

/-- `INSERT INTO target (columns) source` -/
structure Insert where
  opening : String := "INSERT INTO"
  target : InsertTarget
  columns : List Ident := []
  /-- What stands between the columns and the source. -/
  partition : String := ""
  source : Option Query := none
  tail : String := ""

/-- `UPDATE table SET assignments`; FROM may stand before or after SET. -/
structure Update where
  opening : String := "UPDATE"
  table : TableWithJoins
  beforeSet : List TableWithJoins := []
  assignments : List Assignment := []
  afterSet : List TableWithJoins := []
  selection : Option Expr := none
  tail : String := ""

/-- `DELETE targets FROM sources USING more` -/
structure Delete where
  targets : List ObjectName := []
  /-- Whether FROM was written. -/
  keyword : Bool := true
  sources : List TableWithJoins := []
  using_ : List TableWithJoins := []
  selection : Option Expr := none
  tail : String := ""

end

/-- What a column definition says of its column. -/
inductive ColumnOption where
  | references (table : ObjectName)
  | other
  deriving DecidableEq, Repr

/-- The definition of a column. -/
structure ColumnDef where
  name : Ident
  options : List ColumnOption := []
  deriving DecidableEq, Repr

/-- A constraint of a whole table. -/
inductive TableConstraint where
  | foreignKey (columns : List Ident) (table : ObjectName)
  | other
  deriving DecidableEq, Repr

/-- A definition of a table. -/
structure CreateTable where
  opening : String := "CREATE TABLE"
  name : ObjectName
  columns : List ColumnDef := []
  constraints : List TableConstraint := []
  query : Option Query := none

/-- A definition of a view. -/
structure CreateView where
  opening : String := "CREATE VIEW"
  name : ObjectName
  query : Query

/-- A statement. -/
inductive Statement where
  | query (query : Query)
  | insert (insert : Insert)
  | update (update : Update)
  | delete (delete : Delete)
  | createTable (create : CreateTable)
  | createView (create : CreateView)
  | alterTable (name : ObjectName)
  /-- Any other statement: the text that it is printed with, at least its first words. -/
  | other (text : String)

end SqlLineage.Sql
