import SqlLineage.Decode.Basic
import SqlLineage.Statement.Basic

/-!
# Statements as JSON

A statement is an object with a `type`; a `type` that is not one of the eight known ones reads as an
unsupported statement of that kind.  Empty lists, absent options and a `join` that does not hold are
left out, except that a query always shows its FROM list and its projection.
-/

namespace SqlLineage

open Decode

/-- The word for an operator. -/
def Operator.name : Operator → String
  | .eq => "eq"
  | .notEq => "not_eq"
  | .lt => "lt"
  | .ltEq => "lt_eq"
  | .gt => "gt"
  | .gtEq => "gt_eq"
  | .and => "and"
  | .or => "or"

/-- The operators with their words. -/
def Operator.choices : List (String × Operator) :=
  [Operator.eq, .notEq, .lt, .ltEq, .gt, .gtEq, .and, .or].map
    (fun operator => (operator.name, operator))

/-- An expression as JSON. -/
def Expression.toJson : Expression → Json
  | .column table name =>
    .obj (("type", .str "column_ref") ::
      (Json.optional "table" (table.map Json.str) ++ [("column", .str name)]))
  | .binary operator left right =>
    .obj [("type", .str "binary"), ("operator", .str operator.name), ("left", left.toJson),
      ("right", right.toJson)]
  | .other => .obj [("type", .str "other")]

mutual

/-- A query as JSON. -/
def Select.toJson : Select → Json
  | ⟨ctes, sources, columns, selection, union⟩ =>
    .obj (Json.unlessEmpty "with" (ctesToJson ctes) ++
      [("from", .arr (sourcesToJson sources)),
        ("columns", .arr (columns.map Expression.toJson))] ++
      Json.optional "selection" (selection.map Expression.toJson) ++
      Json.unlessEmpty "union" (branchesToJson union))

/-- A common table as JSON. -/
def CommonTable.toJson : CommonTable → Json
  | ⟨name, query⟩ => .obj [("name", .str name), ("query", query.toJson)]

/-- A relation as JSON. -/
def FromItem.toJson : FromItem → Json
  | ⟨source, aliasName, join, condition⟩ =>
    .obj (("source", source.toJson) ::
      (Json.optional "alias" (aliasName.map Json.str) ++
        (if join then [("join", .bool true)] else []) ++
        Json.optional "on" (condition.map Expression.toJson)))

/-- The origin of a relation's rows as JSON. -/
def TableSource.toJson : TableSource → Json
  | .table name => .obj [("kind", .str "table"), ("name", .str name)]
  | .subquery query => .obj [("kind", .str "subquery"), ("query", query.toJson)]

/-- Common tables as JSON. -/
def ctesToJson : List CommonTable → List Json
  | [] => []
  | cte :: rest => cte.toJson :: ctesToJson rest

/-- Relations as JSON. -/
def sourcesToJson : List FromItem → List Json
  | [] => []
  | item :: rest => item.toJson :: sourcesToJson rest

/-- Branches of a set operation as JSON. -/
def branchesToJson : List Select → List Json
  | [] => []
  | branch :: rest => branch.toJson :: branchesToJson rest

end

/-- A list of strings as JSON. -/
def stringsToJson (texts : List String) : Json :=
  .arr (texts.map Json.str)

/-- The fields of a table reference. -/
def TableRef.fields (table : TableRef) : List (String × Json) :=
  ("name", .str table.name) :: Json.optional "alias" (table.aliasName.map Json.str)

/-- A table reference as JSON. -/
def TableRef.toJson (table : TableRef) : Json :=
  .obj table.fields

/-- The source of an insert as JSON. -/
def InsertSource.toJson : InsertSource → Json
  | .values => .obj [("kind", .str "values")]
  | .query body => .obj [("kind", .str "query"), ("query", body.toJson)]
  | .defaultValues => .obj [("kind", .str "default_values")]

/-- A column definition as JSON. -/
def ColumnDefinition.toJson (column : ColumnDefinition) : Json :=
  .obj (("name", .str column.name) ::
    Json.optional "references" (column.references.map Json.str))

/-- A foreign key as JSON. -/
def ForeignKey.toJson (key : ForeignKey) : Json :=
  .obj [("columns", stringsToJson key.columns), ("references", .str key.references)]

/-- The `type` of a statement. -/
def Statement.tag : Statement → String
  | .select _ => "select"
  | .insert _ => "insert"
  | .update _ => "update"
  | .delete _ => "delete"
  | .createTable _ => "create_table"
  | .createView _ => "create_view"
  | .alterTable _ => "alter_table"
  | .unsupported _ => "unsupported"

/-- The fields of a statement besides its `type`. -/
def Statement.body : Statement → List (String × Json)
  | .select query =>
    match query.toJson with
    | .obj fields => fields
    | _ => []
  | .insert parts =>
    Json.unlessEmpty "with" (ctesToJson parts.ctes) ++
      [("table", .str parts.table), ("columns", stringsToJson parts.columns),
        ("source", parts.source.toJson)]
  | .update parts =>
    Json.unlessEmpty "with" (ctesToJson parts.ctes) ++
      [("table", parts.table.toJson), ("assignments", stringsToJson parts.assignments)] ++
      Json.unlessEmpty "from" (sourcesToJson parts.sources) ++
      Json.optional "selection" (parts.selection.map Expression.toJson)
  | .delete parts =>
    Json.unlessEmpty "with" (ctesToJson parts.ctes) ++ [("table", parts.table.toJson)] ++
      Json.unlessEmpty "using" (sourcesToJson parts.sources) ++
      Json.optional "selection" (parts.selection.map Expression.toJson)
  | .createTable parts =>
    [("table", .str parts.table),
      ("columns", .arr (parts.columns.map ColumnDefinition.toJson))] ++
      Json.unlessEmpty "foreign_keys" (parts.foreignKeys.map ForeignKey.toJson) ++
      Json.optional "query" (parts.query.map Select.toJson)
  | .createView parts => [("view", .str parts.view), ("query", parts.query.toJson)]
  | .alterTable table => table.fields
  | .unsupported name => [("kind", .str name)]

/-- A statement as JSON. -/
def Statement.toJson (statement : Statement) : Json :=
  .obj (("type", .str statement.tag) :: statement.body)

/-! ## Reading -/

namespace Decode

/-- The forms of an expression. -/
inductive ExpressionTag where
  | column
  | binary
  | other

/-- A column reference, from the parts behind its tag. -/
def columnOfParts (style : Style) (value : Json) : Except Error Expression :=
  let shape : Shape := ⟨"struct variant Expression::ColumnRef", 2⟩
  shape.record style value (fun parts =>
    let table := parts.slot style "table" 0 (nullable string)
    let name := parts.slot style "column" 1 string
    ([table.fault?, name.fault?], do
      let column ← name.require parts style shape "column" 1
      return .column (table.orElse none) column))

/-- An expression whose containers nest less than `fuel` deep. -/
def decodeExpression : Nat → Decoder Expression
  | 0, style, value => wrongType style value "internally tagged enum Expression"
  | fuel + 1, style, value => do
    let tagged ← splitTag "type" "Expression" style value
    let tag ← tagged.variant style
      [("column_ref", ExpressionTag.column), ("binary", .binary), ("other", .other)]
      (some .other)
    match tag with
    | .column => columnOfParts style tagged.parts
    | .binary =>
      let shape : Shape := ⟨"struct variant Expression::Binary", 3⟩
      shape.record style tagged.parts (fun parts =>
        let operator := parts.slot style "operator" 0 (word Operator.choices)
        let left := parts.slot style "left" 1 (decodeExpression fuel)
        let right := parts.slot style "right" 2 (decodeExpression fuel)
        ([operator.fault?, left.fault?, right.fault?], do
          let op ← operator.require parts style shape "operator" 0
          let first ← left.require parts style shape "left" 1
          let second ← right.require parts style shape "right" 2
          return .binary op first second))
    | .other => return .other

/-- An expression. -/
def expression : Decoder Expression
  | style, value => decodeExpression (value.depth + 1) style value

mutual

/-- A query whose containers nest less than `fuel` deep. -/
def decodeSelect : Nat → Decoder Select
  | 0, style, value => wrongType style value "struct SelectStatement"
  | fuel + 1, style, value =>
    let shape : Shape := ⟨"struct SelectStatement", 5⟩
    shape.record style value (fun parts =>
      let ctes := parts.slot style "with" 0 (list (decodeCommonTable fuel))
      let sources := parts.slot style "from" 1 (list (decodeFromItem fuel))
      let columns := parts.slot style "columns" 2 (list expression)
      let selection := parts.slot style "selection" 3 (nullable expression)
      let union := parts.slot style "union" 4 (list (decodeSelect fuel))
      ([ctes.fault?, sources.fault?, columns.fault?, selection.fault?, union.fault?],
        return ⟨ctes.orElse [], sources.orElse [], columns.orElse [], selection.orElse none,
          union.orElse []⟩))

/-- A common table whose containers nest less than `fuel` deep. -/
def decodeCommonTable : Nat → Decoder CommonTable
  | 0, style, value => wrongType style value "struct CommonTableExpr"
  | fuel + 1, style, value =>
    let shape : Shape := ⟨"struct CommonTableExpr", 2⟩
    shape.record style value (fun parts =>
      let name := parts.slot style "name" 0 string
      let query := parts.slot style "query" 1 (decodeSelect fuel)
      ([name.fault?, query.fault?], do
        let called ← name.require parts style shape "name" 0
        let body ← query.require parts style shape "query" 1
        return ⟨called, body⟩))

/-- A relation whose containers nest less than `fuel` deep. -/
def decodeFromItem : Nat → Decoder FromItem
  | 0, style, value => wrongType style value "struct FromItem"
  | fuel + 1, style, value =>
    let shape : Shape := ⟨"struct FromItem", 4⟩
    shape.record style value (fun parts =>
      let source := parts.slot style "source" 0 (decodeTableSource fuel)
      let aliasName := parts.slot style "alias" 1 (nullable string)
      let join := parts.slot style "join" 2 bool
      let condition := parts.slot style "on" 3 (nullable expression)
      ([source.fault?, aliasName.fault?, join.fault?, condition.fault?], do
        let origin ← source.require parts style shape "source" 0
        return ⟨origin, aliasName.orElse none, join.orElse false, condition.orElse none⟩))

/-- The origin of a relation's rows, for containers that nest less than `fuel` deep. -/
def decodeTableSource : Nat → Decoder TableSource
  | 0, style, value => wrongType style value "internally tagged enum TableSource"
  | fuel + 1, style, value => do
    let tagged ← splitTag "kind" "TableSource" style value
    let isTable ← tagged.variant style [("table", true), ("subquery", false)] none
    if isTable then
      let shape : Shape := ⟨"struct variant TableSource::Table", 1⟩
      shape.record style tagged.parts (fun parts =>
        let name := parts.slot style "name" 0 string
        ([name.fault?], do
          let called ← name.require parts style shape "name" 0
          return .table called))
    else
      let shape : Shape := ⟨"struct variant TableSource::Subquery", 1⟩
      shape.record style tagged.parts (fun parts =>
        let query := parts.slot style "query" 0 (decodeSelect fuel)
        ([query.fault?], do
          let body ← query.require parts style shape "query" 0
          return .subquery body))

end

/-- A query. -/
def select : Decoder Select
  | style, value => decodeSelect (value.depth + 1) style value

/-- A common table. -/
def commonTable : Decoder CommonTable
  | style, value => decodeCommonTable (value.depth + 1) style value

/-- A relation. -/
def fromItem : Decoder FromItem
  | style, value => decodeFromItem (value.depth + 1) style value

/-- A table reference. -/
def tableRef : Decoder TableRef
  | style, value =>
    let shape : Shape := ⟨"struct TableRef", 2⟩
    shape.record style value (fun parts =>
      let name := parts.slot style "name" 0 string
      let aliasName := parts.slot style "alias" 1 (nullable string)
      ([name.fault?, aliasName.fault?], do
        let called ← name.require parts style shape "name" 0
        return ⟨called, aliasName.orElse none⟩))

/-- The forms of an insert's source. -/
inductive InsertTag where
  | values
  | query
  | defaultValues

/-- The source of an insert. -/
def insertSource : Decoder InsertSource
  | style, value => do
    let tagged ← splitTag "kind" "InsertSource" style value
    let tag ← tagged.variant style
      [("values", InsertTag.values), ("query", .query), ("default_values", .defaultValues)] none
    match tag with
    | .values => return .values
    | .defaultValues => return .defaultValues
    | .query =>
      let shape : Shape := ⟨"struct variant InsertSource::Query", 1⟩
      shape.record style tagged.parts (fun parts =>
        let query := parts.slot style "query" 0 select
        ([query.fault?], do
          let body ← query.require parts style shape "query" 0
          return .query body))

/-- The parts of an INSERT. -/
def insert : Decoder Insert
  | style, value =>
    let shape : Shape := ⟨"struct InsertStatement", 4⟩
    shape.record style value (fun parts =>
      let ctes := parts.slot style "with" 0 (list commonTable)
      let table := parts.slot style "table" 1 string
      let columns := parts.slot style "columns" 2 (list string)
      let source := parts.slot style "source" 3 insertSource
      ([ctes.fault?, table.fault?, columns.fault?, source.fault?], do
        let target ← table.require parts style shape "table" 1
        let origin ← source.require parts style shape "source" 3
        return ⟨ctes.orElse [], target, columns.orElse [], origin⟩))

/-- The parts of an UPDATE. -/
def update : Decoder Update
  | style, value =>
    let shape : Shape := ⟨"struct UpdateStatement", 5⟩
    shape.record style value (fun parts =>
      let ctes := parts.slot style "with" 0 (list commonTable)
      let table := parts.slot style "table" 1 tableRef
      let assignments := parts.slot style "assignments" 2 (list string)
      let sources := parts.slot style "from" 3 (list fromItem)
      let selection := parts.slot style "selection" 4 (nullable expression)
      ([ctes.fault?, table.fault?, assignments.fault?, sources.fault?, selection.fault?], do
        let target ← table.require parts style shape "table" 1
        return ⟨ctes.orElse [], target, assignments.orElse [],
          sources.orElse [], selection.orElse none⟩))

/-- The parts of a DELETE. -/
def delete : Decoder Delete
  | style, value =>
    let shape : Shape := ⟨"struct DeleteStatement", 4⟩
    shape.record style value (fun parts =>
      let ctes := parts.slot style "with" 0 (list commonTable)
      let table := parts.slot style "table" 1 tableRef
      let sources := parts.slot style "using" 2 (list fromItem)
      let selection := parts.slot style "selection" 3 (nullable expression)
      ([ctes.fault?, table.fault?, sources.fault?, selection.fault?], do
        let target ← table.require parts style shape "table" 1
        return ⟨ctes.orElse [], target, sources.orElse [],
          selection.orElse none⟩))

/-- A column definition. -/
def columnDefinition : Decoder ColumnDefinition
  | style, value =>
    let shape : Shape := ⟨"struct ColumnDefinition", 2⟩
    shape.record style value (fun parts =>
      let name := parts.slot style "name" 0 string
      let references := parts.slot style "references" 1 (nullable string)
      ([name.fault?, references.fault?], do
        let called ← name.require parts style shape "name" 0
        return ⟨called, references.orElse none⟩))

/-- A foreign key. -/
def foreignKey : Decoder ForeignKey
  | style, value =>
    let shape : Shape := ⟨"struct ForeignKey", 2⟩
    shape.record style value (fun parts =>
      let columns := parts.slot style "columns" 0 (list string)
      let references := parts.slot style "references" 1 string
      ([columns.fault?, references.fault?], do
        let table ← references.require parts style shape "references" 1
        return ⟨columns.orElse [], table⟩))

/-- The parts of a CREATE TABLE. -/
def createTable : Decoder CreateTable
  | style, value =>
    let shape : Shape := ⟨"struct CreateTableStatement", 4⟩
    shape.record style value (fun parts =>
      let table := parts.slot style "table" 0 string
      let columns := parts.slot style "columns" 1 (list columnDefinition)
      let keys := parts.slot style "foreign_keys" 2 (list foreignKey)
      let query := parts.slot style "query" 3 (nullable select)
      ([table.fault?, columns.fault?, keys.fault?, query.fault?], do
        let target ← table.require parts style shape "table" 0
        return ⟨target, columns.orElse [], keys.orElse [],
          query.orElse none⟩))

/-- The parts of a CREATE VIEW. -/
def createView : Decoder CreateView
  | style, value =>
    let shape : Shape := ⟨"struct CreateViewStatement", 2⟩
    shape.record style value (fun parts =>
      let view := parts.slot style "view" 0 string
      let query := parts.slot style "query" 1 select
      ([view.fault?, query.fault?], do
        let name ← view.require parts style shape "view" 0
        let body ← query.require parts style shape "query" 1
        return ⟨name, body⟩))

/-- The kind of an unsupported statement. -/
def unsupportedKind : Decoder String
  | style, value =>
    let shape : Shape := ⟨"struct variant TaggedStatement::Unsupported", 1⟩
    shape.record style value (fun parts =>
      let kind := parts.slot style "kind" 0 string
      ([kind.fault?],
        kind.require parts style shape "kind" 0))

/-- The statement types that are read for their parts. -/
def statementTags : List String :=
  ["select", "insert", "update", "delete", "create_table", "create_view", "alter_table",
    "unsupported"]

/-- A statement of a known type, from its fields besides the type. -/
def knownStatement (tag : String) (style : Style) (body : Json) : Except Error Statement :=
  if tag == "select" then (select style body).map .select
  else if tag == "insert" then (insert style body).map .insert
  else if tag == "update" then (update style body).map .update
  else if tag == "delete" then (delete style body).map .delete
  else if tag == "create_table" then (createTable style body).map .createTable
  else if tag == "create_view" then (createView style body).map .createView
  else if tag == "alter_table" then (tableRef style body).map .alterTable
  else (unsupportedKind style body).map .unsupported

/-- A statement.  Its fields are set aside while the type is looked for. -/
def statement : Decoder Statement
  | style, value =>
    match value.field? "type" with
    | some (.str tag) =>
      if statementTags.contains tag then
        match value with
        | .obj fields => knownStatement tag .buffered (.obj (withoutField "type" fields))
        | other => wrongType style other "internally tagged enum TaggedStatement"
      else .ok (.unsupported tag)
    | _ => .error (.here style (.missingField "type"))

end Decode

end SqlLineage
