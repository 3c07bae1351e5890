import SqlLineage.Sql.Syntax
import SqlLineage.Sql.Token

/-!
# Printing syntax

The text of names, expressions, queries and relations: one blank between words, key words in
capitals, names in the quotes they were written in.
-/

namespace SqlLineage.Sql

/-- Doubles a quote inside a quoted text. -/
def doubleQuotes (quote : Char) (text : String) : String :=
  String.ofList (text.toList.flatMap (fun c => if c == quote then [c, c] else [c]))

/-- A name in its quotes. -/
def Ident.render (ident : Ident) : String :=
  match ident.quote with
  | none => ident.value
  | some '[' => "[" ++ ident.value ++ "]"
  | some quote => quote.toString ++ doubleQuotes quote ident.value ++ quote.toString

/-- A part of a name in its quotes. -/
def NamePart.render : NamePart → String
  | .ident word => word.render
  | .call text => text

/-- A dotted name with its quotes. -/
def ObjectName.render (name : ObjectName) : String :=
  ".".intercalate (name.parts.map NamePart.render)

/-- The spelling of an operator. -/
def BinaryOperator.spelling : BinaryOperator → String
  | .eq => "="
  | .notEq => "<>"
  | .lt => "<"
  | .ltEq => "<="
  | .gt => ">"
  | .gtEq => ">="
  | .and => "AND"
  | .or => "OR"
  | .other spelling => spelling

/-- The text of an expression. -/
def Expr.render : Expr → String
  | .ident word => word.render
  | .path parts => ".".intercalate (parts.map Ident.render)
  | .paren inner => "(" ++ inner.render ++ ")"
  | .binary operator left right =>
    left.render ++ " " ++ operator.spelling ++ " " ++ right.render
  | .wildcard => "*"
  | .qualifiedWildcard name => name.render ++ ".*"
  | .other text => text

/-- Items with a comma between them. -/
def commaList (items : List String) : String :=
  ", ".intercalate items

/-- The text of an item of a projection. -/
def SelectItem.render : SelectItem → String
  | .expr item none => item.render
  | .expr item (some aliasName) => item.render ++ " AS " ++ aliasName.render
  | .wildcard options => "*" ++ options
  | .qualifiedWildcard name options => name.render ++ ".*" ++ options
  | .exprWildcard item options => item.render ++ ".*" ++ options

/-- The text of an alias. -/
def TableAlias.render (aliasName : TableAlias) : String :=
  aliasName.name.render ++ aliasName.columns

/-- The text of an optional alias behind a relation. -/
def aliasSuffix : Option TableAlias → String
  | none => ""
  | some aliasName => " AS " ++ aliasName.render

/-- The words of a join. -/
def JoinKind.words : JoinKind → String
  | .join => "JOIN"
  | .inner => "INNER JOIN"
  | .left => "LEFT JOIN"
  | .leftOuter => "LEFT OUTER JOIN"
  | .right => "RIGHT JOIN"
  | .rightOuter => "RIGHT OUTER JOIN"
  | .fullOuter => "FULL JOIN"
  | .cross => "CROSS JOIN"
  | .semi => "SEMI JOIN"
  | .leftSemi => "LEFT SEMI JOIN"
  | .rightSemi => "RIGHT SEMI JOIN"
  | .anti => "ANTI JOIN"
  | .leftAnti => "LEFT ANTI JOIN"
  | .rightAnti => "RIGHT ANTI JOIN"
  | .crossApply => "CROSS APPLY"
  | .outerApply => "OUTER APPLY"
  | .straight => "STRAIGHT_JOIN"
  | .asOf _ => "ASOF JOIN"

/-- What a join says behind its relation. -/
def joinSuffix (kind : JoinKind) (constraint : JoinConstraint) : String :=
  let condition :=
    match constraint with
    | .on condition => " ON " ++ condition.render
    | .using columns => " USING" ++ columns
    | _ => ""
  match kind with
  | .asOf matching => " MATCH_CONDITION (" ++ matching ++ ")" ++ condition
  | _ => condition

/-- The text of what an INSERT writes to. -/
def InsertTarget.render : InsertTarget → String
  | .table name => name.render
  | .function call => "FUNCTION " ++ call

/-- The text of an assignment. -/
def Assignment.render (assignment : Assignment) : String :=
  let target :=
    match assignment.target with
    | .column name => name.render
    | .tuple names => "(" ++ commaList (names.map ObjectName.render) ++ ")"
  target ++ " = " ++ assignment.value.render

/-- A predicate behind WHERE. -/
def whereSuffix : Option Expr → String
  | none => ""
  | some condition => " WHERE " ++ condition.render

/-- Relations behind a key word; nothing when there are none. -/
def relationsSuffix (keyword : String) : List String → String
  | [] => ""
  | relations => " " ++ keyword ++ " " ++ commaList relations

mutual

/-- The text of a query. -/
def Query.render : Query → String
  | ⟨recursive, ctes, body, tail⟩ =>
    let opening :=
      match ctes with
      | [] => ""
      | _ =>
        (if recursive then "WITH RECURSIVE " else "WITH ") ++ commaList (renderCtes ctes) ++ " "
    opening ++ body.render ++ tail

/-- The texts of common tables. -/
def renderCtes : List Cte → List String
  | [] => []
  | ⟨aliasName, materialized, query, source⟩ :: rest =>
    let origin := (source.map (fun ident => " FROM " ++ ident.render)).getD ""
    (aliasName.render ++ " AS " ++ materialized ++ "(" ++ query.render ++ ")" ++ origin)
      :: renderCtes rest

/-- The text of the body of a query. -/
def SetExpr.render : SetExpr → String
  | .select block => block.render
  | .query inner => "(" ++ inner.render ++ ")"
  | .operation operator left right =>
    left.render ++ " " ++ operator ++ " " ++ right.render
  | .values rows => rows
  | .table name => "TABLE " ++ name
  | .insert change => change.render
  | .update change => change.render
  | .delete change => change.render
  | .merge text => text
  | .directory text => text

/-- The text of a query block. -/
def Select.render : Select → String
  | ⟨layout, opening, projection, into, sources, views, selection, tail⟩ =>
    let relations := renderSources sources
    let items := commaList (projection.map SelectItem.render)
    let projected := if items.isEmpty then opening else opening ++ " " ++ items
    let start :=
      match layout with
      | .standard => projected ++ into ++ relationsSuffix "FROM" relations
      | .fromFirst => "FROM " ++ commaList relations ++ " " ++ projected ++ into
      | .fromOnly => "FROM " ++ commaList relations
    start ++ views ++ whereSuffix selection ++ tail

/-- The texts of a list of relations. -/
def renderSources : List TableWithJoins → List String
  | [] => []
  | source :: rest => source.render :: renderSources rest

/-- The text of a relation with its joins. -/
def TableWithJoins.render : TableWithJoins → String
  | ⟨relation, joins⟩ => relation.render ++ renderJoins joins

/-- The text of joins behind a relation. -/
def renderJoins : List Join → String
  | [] => ""
  | ⟨global, kind, constraint, relation⟩ :: rest =>
    (if global then " GLOBAL " else " ")
      ++ (if constraint == .natural then "NATURAL " else "")
      ++ kind.words ++ " " ++ relation.render ++ joinSuffix kind constraint ++ renderJoins rest

/-- The text of a relation. -/
def TableFactor.render : TableFactor → String
  | .table name arguments aliasName options =>
    name.render ++ (arguments.map (fun args => "(" ++ args ++ ")")).getD ""
      ++ aliasSuffix aliasName ++ options
  | .derived lateral query aliasName =>
    (if lateral then "LATERAL (" else "(") ++ query.render ++ ")" ++ aliasSuffix aliasName
  | .nested tables aliasName => "(" ++ tables.render ++ ")" ++ aliasSuffix aliasName
  | .rows text aliasName => text ++ aliasSuffix aliasName
  | .reshaped relation text aliasName => relation.render ++ text ++ aliasSuffix aliasName

/-- The text of an INSERT. -/
def Insert.render : Insert → String
  | ⟨opening, target, columns, partition, source, tail⟩ =>
    let names :=
      if columns.isEmpty then "" else " (" ++ commaList (columns.map Ident.render) ++ ")"
    let rows :=
      match source with
      | none => " DEFAULT VALUES"
      | some query => " " ++ query.render
    opening ++ " " ++ target.render ++ names ++ partition ++ rows ++ tail

/-- The text of an UPDATE. -/
def Update.render : Update → String
  | ⟨opening, table, beforeSet, assignments, afterSet, selection, tail⟩ =>
    opening ++ " " ++ table.render ++ relationsSuffix "FROM" (renderSources beforeSet)
      ++ " SET " ++ commaList (assignments.map Assignment.render)
      ++ relationsSuffix "FROM" (renderSources afterSet) ++ whereSuffix selection ++ tail

/-- The text of a DELETE. -/
def Delete.render : Delete → String
  | ⟨targets, keyword, sources, using_, selection, tail⟩ =>
    let names :=
      if targets.isEmpty then "" else " " ++ commaList (targets.map ObjectName.render)
    "DELETE" ++ names ++ (if keyword then " FROM " else " ")
      ++ commaList (renderSources sources) ++ relationsSuffix "USING" (renderSources using_)
      ++ whereSuffix selection ++ tail

end

/-- The text of a statement; of a definition only its first words. -/
def Statement.render : Statement → String
  | .query inner => inner.render
  | .insert change => change.render
  | .update change => change.render
  | .delete change => change.render
  | .createTable create => create.opening ++ " " ++ create.name.render
  | .createView create => create.opening ++ " " ++ create.name.render
  | .alterTable name => "ALTER TABLE " ++ name.render
  | .other text => text

end SqlLineage.Sql
