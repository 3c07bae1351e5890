import SqlLineage.Schema.Basic
import SqlLineage.Statement.Codec

/-!
# The schema of statements
-/

namespace SqlLineage.Schema

/-- The fields of a definition beside the statement's type. -/
def statementOf (type name : String) : Schema :=
  variant "type" type [] ++ alsoDefined name

/-- A statement. -/
def statement : Schema :=
  describe
    ("One statement as seen by the lineage analyzer.\n\nSerialized with a `type` tag, so " ++
      "pre-parsed statement lists can be supplied\nas JSON instead of SQL text. An unrecognized " ++
      "tag deserializes to\n[`LineageStatement::Unsupported`] carrying the tag as its kind.")
    [.oneOf [
      statementOf "select" "SelectStatement",
      statementOf "insert" "InsertStatement",
      statementOf "update" "UpdateStatement",
      statementOf "delete" "DeleteStatement",
      statementOf "create_table" "CreateTableStatement",
      statementOf "create_view" "CreateViewStatement",
      statementOf "alter_table" "TableRef",
      describe "Any statement without lineage semantics (DROP, GRANT, SET, ...)."
        (variant "type" "unsupported" [need "kind" text])]]

/-- A common table expression. -/
def commonTable : Schema :=
  record [need "name" text, need "query" (defined "SelectStatement")]

/-- The common table expressions of a statement. -/
def commonTables : Schema :=
  list (defined "CommonTableExpr")

/-- A list that may be left out when it is empty. -/
def listOrEmpty (item : Schema) : Schema :=
  orDefault (.arr []) (list item)

/-- A query. -/
def query : Schema :=
  describe "A query block. Set operations keep their additional branches in `union`." (record [
    may "with" commonTables,
    may "from" (listOrEmpty (defined "FromItem")),
    may "columns" (listOrEmpty (defined "Expression")),
    may "selection" (optional "Expression"),
    may "union" (list (defined "SelectStatement"))])

/-- An item of a FROM list. -/
def fromItem : Schema :=
  describe
    ("One relation in a FROM list. Joined relations follow their left-hand side\nand carry the " ++
      "join condition.")
    (record [
      need "source" (defined "TableSource"),
      may "alias" optionalText,
      may "join" (describe "True when this relation was introduced by a JOIN" truth),
      may "on" (optional "Expression")])

/-- What an item of a FROM list reads. -/
def tableSource : Schema :=
  [.oneOf [
    variant "kind" "table" [need "name" text],
    variant "kind" "subquery" [need "query" (defined "SelectStatement")]]]

/-- An expression. -/
def expression : Schema :=
  describe "The part of an expression tree the extractor looks at." [.oneOf [
    describe
      ("`column` or `qualifier.column`. The qualifier is a table name or alias\nexactly as " ++
        "written.")
      (variant "type" "column_ref" [may "table" optionalText, need "column" text]),
    variant "type" "binary" [
      need "operator" (defined "BinaryOperator"),
      need "left" (defined "Expression"),
      need "right" (defined "Expression")],
    variant "type" "other" []]]

/-- An operator. -/
def operator : Schema :=
  words (Operator.choices.map (·.1))

/-- What an INSERT takes its rows from. -/
def insertSource : Schema :=
  [.oneOf [
    variant "kind" "values" [],
    variant "kind" "query" [need "query" (defined "SelectStatement")],
    variant "kind" "default_values" []]]

/-- An INSERT. -/
def insert : Schema :=
  record [
    may "with" (describe "CTEs declared ahead of the INSERT keyword" commonTables),
    need "table" text,
    may "columns" (listOrEmpty text),
    need "source" (defined "InsertSource")]

/-- A named table. -/
def tableRef : Schema :=
  describe "A named table, optionally aliased." (record [
    need "name" text,
    may "alias" optionalText])

/-- An UPDATE. -/
def update : Schema :=
  record [
    may "with" commonTables,
    need "table" (defined "TableRef"),
    may "assignments" (describe "Assigned column names" (listOrEmpty text)),
    may "from" (describe "Extra relations from `UPDATE ... FROM`" (list (defined "FromItem"))),
    may "selection" (optional "Expression")]

/-- A DELETE. -/
def delete : Schema :=
  record [
    may "with" commonTables,
    need "table" (defined "TableRef"),
    may "using"
      (describe "Extra relations from `DELETE ... USING` or a multi-table FROM"
        (list (defined "FromItem"))),
    may "selection" (optional "Expression")]

/-- A column of a CREATE TABLE. -/
def columnDefinition : Schema :=
  record [
    need "name" text,
    may "references"
      (describe "Table named by an inline `REFERENCES` clause" optionalText)]

/-- A foreign key of a CREATE TABLE. -/
def foreignKey : Schema :=
  record [may "columns" (listOrEmpty text), need "references" text]

/-- A CREATE TABLE. -/
def createTable : Schema :=
  record [
    need "table" text,
    may "columns" (listOrEmpty (defined "ColumnDefinition")),
    may "foreign_keys"
      (describe "Table-level `FOREIGN KEY (...) REFERENCES ...` constraints"
        (list (defined "ForeignKey"))),
    may "query" (describe "`CREATE TABLE ... AS SELECT`" (optional "SelectStatement"))]

/-- A CREATE VIEW. -/
def createView : Schema :=
  record [need "view" text, need "query" (defined "SelectStatement")]

/-- The schema of statements. -/
def statementDocument : SchemaDocument where
  title := "LineageStatement"
  body := statement
  definitions := [("CommonTableExpr", commonTable), ("SelectStatement", query),
    ("FromItem", fromItem), ("TableSource", tableSource), ("Expression", expression),
    ("BinaryOperator", operator), ("InsertSource", insertSource), ("InsertStatement", insert),
    ("TableRef", tableRef), ("UpdateStatement", update), ("DeleteStatement", delete),
    ("ColumnDefinition", columnDefinition), ("ForeignKey", foreignKey),
    ("CreateTableStatement", createTable), ("CreateViewStatement", createView)]

end SqlLineage.Schema
