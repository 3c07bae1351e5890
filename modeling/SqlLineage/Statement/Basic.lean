/-!
# Statements as lineage sees them

The part of a script that says which tables and columns are read and written.  A query keeps its
common tables, the relations it reads from, its projection, its predicate and the further branches
of a set operation; of an expression only column references and comparisons are kept.
-/

namespace SqlLineage

/-- The operators that a predicate is read for. -/
inductive Operator where
  | eq
  | notEq
  | lt
  | ltEq
  | gt
  | gtEq
  | and
  | or
  deriving DecidableEq, Repr

/-- The operators that join predicates, as opposed to the comparisons. -/
def Operator.isLogical : Operator → Bool
  | .and | .or => true
  | _ => false

/-- An expression.  The qualifier of a column is a table name or an alias, as it was written. -/
inductive Expression where
  | column (table : Option String) (name : String)
  | binary (operator : Operator) (left right : Expression)
  | other
  deriving DecidableEq, Repr

mutual

/-- A query.  The branches of a set operation after the first one are in `union`. -/
structure Select where
  ctes : List CommonTable := []
  sources : List FromItem := []
  columns : List Expression := []
  selection : Option Expression := none
  union : List Select := []

/-- A query that has a name for the rest of the query it introduces. -/
structure CommonTable where
  name : String
  query : Select

/-- One relation that is read from.  A joined relation carries its join condition. -/
structure FromItem where
  source : TableSource
  aliasName : Option String := none
  join : Bool := false
  condition : Option Expression := none

/-- Where the rows of a relation come from. -/
inductive TableSource where
  | table (name : String)
  | subquery (query : Select)

end

/-- A named table, possibly under an alias. -/
structure TableRef where
  name : String
  aliasName : Option String := none
  deriving DecidableEq, Repr

/-- What an INSERT writes. -/
inductive InsertSource where
  | values
  | query (query : Select)
  | defaultValues

/-- `INSERT INTO table (columns) …` -/
structure Insert where
  ctes : List CommonTable := []
  table : String
  columns : List String := []
  source : InsertSource

/-- `UPDATE table SET assignments FROM …` -/
structure Update where
  ctes : List CommonTable := []
  table : TableRef
  assignments : List String := []
  sources : List FromItem := []
  selection : Option Expression := none

/-- `DELETE FROM table USING …` -/
structure Delete where
  ctes : List CommonTable := []
  table : TableRef
  sources : List FromItem := []
  selection : Option Expression := none

/-- A column that is declared, with the table that an inline constraint refers to. -/
structure ColumnDefinition where
  name : String
  references : Option String := none
  deriving DecidableEq, Repr

/-- A constraint of a whole table that refers to another table. -/
structure ForeignKey where
  columns : List String := []
  references : String
  deriving DecidableEq, Repr

/-- `CREATE TABLE table (columns, foreign keys) AS query` -/
structure CreateTable where
  table : String
  columns : List ColumnDefinition := []
  foreignKeys : List ForeignKey := []
  query : Option Select := none

/-- `CREATE VIEW view AS query` -/
structure CreateView where
  view : String
  query : Select

/-- A statement of a script. -/
inductive Statement where
  | select (query : Select)
  | insert (insert : Insert)
  | update (update : Update)
  | delete (delete : Delete)
  | createTable (create : CreateTable)
  | createView (create : CreateView)
  | alterTable (table : TableRef)
  /-- A statement without lineage, such as DROP, GRANT or SET. -/
  | unsupported (kind : String)

/-- The name of a statement's kind in messages. -/
def Statement.kind : Statement → String
  | .select _ => "SELECT"
  | .insert _ => "INSERT"
  | .update _ => "UPDATE"
  | .delete _ => "DELETE"
  | .createTable _ => "CREATE TABLE"
  | .createView _ => "CREATE VIEW"
  | .alterTable _ => "ALTER TABLE"
  | .unsupported kind => kind

end SqlLineage
