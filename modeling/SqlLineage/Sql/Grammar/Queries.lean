import SqlLineage.Sql.Grammar.Changes

/-!
# Queries

Query blocks, set operations and common tables.  INTERSECT binds more tightly than UNION, EXCEPT
and MINUS; all of them group to the left.
-/

namespace SqlLineage.Sql.Parse

/-- The quantifier of a projection. -/
def quantifier (below : Nested) : Parser String := do
  let place ← peek
  let all ← keyword "ALL"
  let distinct ← keyword "DISTINCT"
  if all && distinct then refuseAt "Cannot specify both ALL and DISTINCT" place
  if all then return " ALL"
  if !distinct then return ""
  if ← keyword "ON" then
    let columns ← parenthesized (commaSeparatedUntil (exprText below) ")")
    return " DISTINCT ON (" ++ commaList columns ++ ")"
  else return " DISTINCT"

/-- The number of rows behind TOP. -/
def topClause (below : Nested) : Parser String := do
  let count ←
    if ← atSymbol "(" then pure ("(" ++ (← parenthesized (exprText below)) ++ ")")
    else literalUint
  let percent ← textIf (keyword "PERCENT") " PERCENT"
  let ties ← textIf (keywords ["WITH", "TIES"]) " WITH TIES"
  return " TOP " ++ count ++ percent ++ ties

/-- Rows that are values or structs. -/
def valueTableMode : Parser String := do
  if ← when (· matches .bigquery) then
    for mode in [["DISTINCT", "AS", "VALUE"], ["DISTINCT", "AS", "STRUCT"], ["AS", "VALUE"],
        ["AS", "STRUCT"]] do
      if ← keywords mode then return " " ++ " ".intercalate mode
    return ""
  else return ""

/-- A view of a column's elements; `none` if none stands next. -/
def lateralView (below : Nested) : Parser (Option String) := do
  if ← keywords ["LATERAL", "VIEW"] then
    let outer ← textIf (keyword "OUTER") " OUTER"
    let call ← exprText below
    let name ← objectName false
    let columns ← commaSeparated
      (aliasExcept ["WHERE", "GROUP", "CLUSTER", "HAVING", "LATERAL"])
    let names := columns.filterMap id
    let aliasName := if names.isEmpty then "" else " AS " ++ commaList (names.map Ident.render)
    return some (" LATERAL VIEW" ++ outer ++ " " ++ call ++ " " ++ name.render ++ aliasName)
  else return none

/-- A grouping set: expressions in parentheses, or one alone. -/
def groupingSet (below : Nested) : Parser String := do
  if ← atSymbol "(" then
    return "(" ++ commaList (← parenthesized (commaSeparatedUntil (exprText below) ")")) ++ ")"
  else exprText below

/-- What rows are grouped by. -/
def groupItem (below : Nested) : Parser String := do
  if ← when Dialect.hasGroupingSets then
    if ← keywords ["GROUPING", "SETS"] then
      return "GROUPING SETS ("
        ++ commaList (← parenthesized (commaSeparated (groupingSet below))) ++ ")"
    else
      match ← oneOf ["CUBE", "ROLLUP"] with
      | some key =>
        return key ++ " ("
          ++ commaList (← parenthesized (commaSeparated (groupingSet below))) ++ ")"
      | none => if ← symbols ["(", ")"] then return "()" else exprText below
  else exprText below

/-- GROUP BY with its modifiers. -/
def groupClause (below : Nested) : Parser String := do
  if !(← keywords ["GROUP", "BY"]) then return ""
  let items ←
    if ← keyword "ALL" then pure "ALL" else pure (commaList (← commaSeparated (groupItem below)))
  let modifiers ←
    if ← when Dialect.hasGroupModifiers then
      repeatWhile (do
        if ← keyword "WITH" then
          return some (" WITH " ++ (← expectOneOf ["ROLLUP", "CUBE", "TOTALS"]))
        else return none)
    else pure []
  let sets ←
    if ← keywords ["GROUPING", "SETS"] then
      pure (" GROUPING SETS ("
        ++ commaList (← parenthesized (commaSeparated (groupingSet below))) ++ ")")
    else pure ""
  return " GROUP BY " ++ items ++ "".intercalate modifiers ++ sets

/-- Expressions behind two key words. -/
def exprsBy (below : Nested) (key : String) : Parser String := do
  if ← keywords [key, "BY"] then return " " ++ key ++ " BY " ++ (← exprTexts below) else return ""

/-- A window that is given a name. -/
def namedWindow (below : Nested) : Parser String := do
  let name ← ident
  expectKeyword "AS"
  if ← symbol "(" then return name.render ++ " AS " ++ (← windowSpec below)
  else if ← when (· matches .bigquery | .generic) then
    return name.render ++ " AS " ++ (← ident).render
  else expected "("

/-- WINDOW and QUALIFY, in either order. -/
def windowClause (below : Nested) : Parser String := do
  let windows : Parser String := do
    if ← keyword "WINDOW" then
      return " WINDOW " ++ commaList (← commaSeparated (namedWindow below))
    else return ""
  let qualify : Parser String := do
    if ← keyword "QUALIFY" then return " QUALIFY " ++ (← exprText below) else return ""
  if ← atKeyword "WINDOW" then
    let first ← windows
    return first ++ (← qualify)
  else
    let first ← qualify
    if first.isEmpty then return "" else return first ++ (← windows)

/-- The hierarchy that rows follow. -/
def connectClause (below : Nested) : Parser String := do
  if !(← when Dialect.hasConnectBy) || !(← atOneOf ["START", "CONNECT"]) then return ""
  let related : Parser String := do
    expectKeywords ["CONNECT", "BY"]
    discard (keyword "NOCYCLE")
    return " CONNECT BY "
      ++ commaList (← within .connectBy (commaSeparated (exprText below)))
  if ← atKeyword "CONNECT" then
    let relation ← related
    if ← keyword "START" then
      expectKeyword "WITH"
      return relation ++ " START WITH " ++ (← exprText below)
    else return relation
  else
    expectKeywords ["START", "WITH"]
    let start ← exprText below
    return " START WITH " ++ start ++ (← related)

/-- A query block. -/
def selectBlock (below : Nested) : Parser Select := do
  let dialect ← dialect
  let early ←
    if ← pure dialect.hasFromFirst <&&> keyword "FROM" then pure (some (← relations below))
    else pure none
  match early with
  | some sources =>
    if !(← atKeyword "SELECT") then return { layout := .fromOnly, sources := sources }
  | none => pure ()
  expectKeyword "SELECT"
  let mode ← valueTableMode
  let topFirst ← if ← pure dialect.hasTopFirst <&&> keyword "TOP" then topClause below else pure ""
  let distinct ← quantifier below
  let top ← if ← pure (!dialect.hasTopFirst) <&&> keyword "TOP" then topClause below else pure ""
  let items ←
    if dialect.allowsEmptyProjection && (← atKeyword "FROM") then pure [] else projection below
  let exclude ← if dialect.hasProjectionExclude then excludeOption else pure ""
  let into ← intoClause
  let (sources, layout) : List TableWithJoins × SelectLayout ←
    match early with
    | some sources => pure (sources, .fromFirst)
    | none => if ← keyword "FROM" then pure (← relations below, .standard) else pure ([], .standard)
  let views ← repeatWhile (lateralView below)
  let prewhere ←
    if ← pure (dialect matches .clickhouse | .generic) <&&> keyword "PREWHERE" then
      pure (" PREWHERE " ++ (← exprText below))
    else pure ""
  let condition ← selection below
  let group ← groupClause below
  let cluster ← exprsBy below "CLUSTER"
  let distribute ← exprsBy below "DISTRIBUTE"
  let sort ←
    if ← keywords ["SORT", "BY"] then pure (" SORT BY " ++ (← orderByExprs below)) else pure ""
  let having ← if ← keyword "HAVING" then pure (" HAVING " ++ (← exprText below)) else pure ""
  let window ← windowClause below
  let connect ← connectClause below
  return {
    layout := layout
    opening := "SELECT" ++ mode ++ topFirst ++ distinct ++ top
    projection := items
    into := exclude ++ into
    sources := sources
    views := "".intercalate views ++ prewhere
    selection := condition
    tail := group ++ cluster ++ distribute ++ sort ++ having ++ window ++ connect }

/-- A table named instead of a query block.  Three tokens are taken whatever they are: a name, or
a schema, a full stop and a name. -/
def tableBody : Parser String := do
  let first ← next
  let second ← next
  let third ← next
  let nameOf (what : String) (found : Option Lexeme) : Parser String :=
    match found with
    | some ⟨.word value _, _, _, _⟩ => return value
    | _ => unexpected what found
  if isSymbol "." second then
    let schema ← nameOf "Schema name" first
    return schema ++ "." ++ (← nameOf "Table name" third)
  else nameOf "Table name" first

/-- A query block, or what may stand in its place. -/
def blockBody (below : Nested) : Parser SetExpr := do
  let dialect ← dialect
  if (← atKeyword "SELECT") || (dialect.hasFromFirst && (← atKeyword "FROM")) then
    return .select (← selectBlock below)
  else if ← atSymbol "(" then return .query (← parenthesized below.query)
  else if ← anyKeyword ["VALUES", "VALUE"] then
    return .values (← valueRows below (dialect == .mysql))
  else if ← keyword "TABLE" then return .table (← tableBody)
  else expected "SELECT, VALUES, or a subquery in the query body"

/-- Which rows a set operation keeps. -/
def setQuantifier : Parser String := do
  for words in [["DISTINCT", "BY", "NAME"], ["BY", "NAME"], ["ALL", "BY", "NAME"], ["ALL"],
      ["DISTINCT"]] do
    if ← keywords words then return " " ++ " ".intercalate words
  return ""

/-- Operands joined by set operations that bind equally tightly. -/
def operationsWithin (keys : List String) (operand : Parser SetExpr) :
    Nat → SetExpr → Parser SetExpr
  | 0, left => return left
  | steps + 1, left => do
    match ← oneOf keys with
    | none => return left
    | some key =>
      let operator := key ++ (← setQuantifier)
      let right ← operand
      operationsWithin keys operand steps (.operation operator left right)

/-- Blocks joined by INTERSECT. -/
def intersections (below : Nested) : Parser SetExpr := do
  let first ← blockBody below
  operationsWithin ["INTERSECT"] (blockBody below) (← budget) first

/-- The body of a query. -/
def queryBody (below : Nested) : Parser SetExpr := do
  let first ← intersections below
  operationsWithin ["UNION", "EXCEPT", "MINUS"] (intersections below) (← budget) first

/-- ORDER BY. -/
def orderClause (below : Nested) : Parser String := do
  if !(← keywords ["ORDER", "BY"]) then return ""
  let keys ←
    if ← when Dialect.hasOrderByAll <&&> keyword "ALL" then
      pure ("ALL" ++ ((← oneOf ["ASC", "DESC"]).map (" " ++ ·)).getD "")
    else orderByExprs below
  let interpolate ←
    if ← when (· matches .clickhouse | .generic) <&&> keyword "INTERPOLATE" then
      pure (" INTERPOLATE " ++ (← optionalBalanced))
    else pure ""
  return " ORDER BY " ++ keys ++ interpolate

/-- The rows skipped, behind OFFSET. -/
def offsetValue (below : Nested) : Parser String := do
  let count ← exprText below
  return " OFFSET " ++ count ++ ((← oneOf ["ROW", "ROWS"]).map (" " ++ ·)).getD ""

/-- LIMIT and OFFSET. -/
def limitClause (below : Nested) : Parser String := do
  let dialect ← dialect
  let early ← if ← keyword "OFFSET" then offsetValue below else pure ""
  if !(← keyword "LIMIT") then return early
  let all ← keyword "ALL"
  let limit ← if all then pure "" else exprText below
  if ← pure (dialect.hasLimitComma && early.isEmpty && !all) <&&> symbol "," then
    return " LIMIT " ++ limit ++ ", " ++ (← exprText below)
  let by_ ←
    if ← pure (dialect matches .clickhouse | .generic) <&&> keyword "BY" then
      pure (" BY " ++ (← exprTexts below))
    else pure ""
  let late ← if ← pure early.isEmpty <&&> keyword "OFFSET" then offsetValue below else pure early
  return (if all then "" else " LIMIT " ++ limit) ++ by_ ++ late

/-- FETCH. -/
def fetchClause : Parser String := do
  if !(← keyword "FETCH") then return ""
  discard (oneOf ["FIRST", "NEXT"])
  let count ←
    if ← anyKeyword ["ROW", "ROWS"] then pure ""
    else do
      let count ← value
      let percent ← textIf (keyword "PERCENT") " PERCENT"
      discard (oneOf ["ROW", "ROWS"])
      pure (" " ++ count ++ percent)
  let ties ←
    if ← keyword "ONLY" then pure " ONLY"
    else if ← keywords ["WITH", "TIES"] then pure " WITH TIES"
    else pure " ONLY"
  return " FETCH FIRST" ++ count ++ " ROWS" ++ ties

/-- A clause behind FOR: a lock or an output format. -/
def forClause : Parser (Option String) := do
  if !(← keyword "FOR") then return none
  if ← keyword "BROWSE" then return some " FOR BROWSE"
  else if ← keyword "XML" then
    let mode ← expectOneOf ["RAW", "AUTO", "EXPLICIT", "PATH"]
    let name ← optionalBalanced
    let options ← repeatWhile (do
      if ← symbol "," then
        let option ← expectOneOf ["ELEMENTS", "BINARY", "ROOT", "TYPE"]
        let base ← textIf (keyword "BASE64") " BASE64"
        return some (", " ++ option ++ base ++ (← optionalBalanced))
      else return none)
    return some (" FOR XML " ++ mode ++ name ++ "".intercalate options)
  else if ← keyword "JSON" then
    let mode ← expectOneOf ["AUTO", "PATH"]
    let options ← repeatWhile (do
      if ← symbol "," then
        let option ← expectOneOf ["ROOT", "INCLUDE_NULL_VALUES", "WITHOUT_ARRAY_WRAPPER"]
        return some (", " ++ option ++ (← optionalBalanced))
      else return none)
    return some (" FOR JSON " ++ mode ++ "".intercalate options)
  else
    let lock ← expectOneOf ["UPDATE", "SHARE"]
    let of_ ← if ← keyword "OF" then pure (" OF " ++ (← objectName false).render) else pure ""
    let wait ←
      if ← keyword "NOWAIT" then pure " NOWAIT"
      else if ← keywords ["SKIP", "LOCKED"] then pure " SKIP LOCKED"
      else pure ""
    return some (" FOR " ++ lock ++ of_ ++ wait)

/-- The output format of a query. -/
def formatClause : Parser String := do
  if ← when (· matches .clickhouse | .generic) <&&> keyword "FORMAT" then
    if ← keyword "NULL" then return " FORMAT NULL" else return " FORMAT " ++ (← ident).render
  else return ""

/-- One step of a pipe; `none` behind the last one. -/
def pipeStep (below : Nested) : Parser (Option String) := do
  if !(← symbol "|>") then return none
  let items : Parser String := do
    return commaList ((← projection below).map SelectItem.render)
  let key ← expectOneOf ["SELECT", "EXTEND", "SET", "DROP", "AS", "WHERE", "LIMIT", "AGGREGATE",
    "ORDER", "TABLESAMPLE", "RENAME", "UNION", "INTERSECT", "EXCEPT", "CALL", "PIVOT", "UNPIVOT",
    "JOIN", "INNER", "LEFT", "RIGHT", "FULL", "CROSS"]
  let text ←
    match key with
    | "SELECT" | "EXTEND" => items
    | "SET" => assignmentTexts below
    | "DROP" => pure (commaList ((← commaSeparated ident).map Ident.render))
    | "AS" => pure (← ident).render
    | "WHERE" => exprText below
    | "LIMIT" =>
      let limit ← exprText below
      if ← keyword "OFFSET" then pure (limit ++ " OFFSET " ++ (← exprText below)) else pure limit
    | "AGGREGATE" =>
      let full ← if ← atKeyword "GROUP" then pure "" else items
      if ← keywords ["GROUP", "BY"] then pure (full ++ " GROUP BY " ++ (← items)) else pure full
    | "ORDER" =>
      expectKeyword "BY"
      pure ("BY " ++ (← orderByExprs below))
    | "RENAME" => pure (commaList (← commaSeparated renamedIdent))
    | "UNION" | "INTERSECT" | "EXCEPT" =>
      let quantifier ← setQuantifier
      let queries ← commaSeparated (parenthesized below.query)
      pure (quantifier ++ commaList (queries.map (fun query => "(" ++ query.render ++ ")")))
    | "CALL" =>
      let name ← objectName false
      let call ← functionCall below name.render
      let aliasName ← optionalAlias mayNameTable
      pure (call ++ (aliasName.map (fun aliasName => " AS " ++ aliasName.render)).getD "")
    | "TABLESAMPLE" | "PIVOT" | "UNPIVOT" => do
      let inside ← optionalBalanced
      discard tableAlias
      pure inside
    | _ =>
      discard (oneOf ["OUTER", "SEMI", "ANTI"])
      if key != "JOIN" then expectKeyword "JOIN"
      let relation ← tableFactor below
      let constraint ← joinConstraint below false
      pure (relation.render ++ joinSuffix .join constraint)
  return some (" |> " ++ key ++ " " ++ text)

/-- A common table. -/
def commonTable (below : Nested) : Parser Cte := do
  let name ← ident
  let columns ← if ← atKeyword "AS" then pure "" else aliasColumns
  expectKeyword "AS"
  let materialized ←
    if ← when (· matches .postgres) then
      if ← keyword "MATERIALIZED" then pure "MATERIALIZED "
      else if ← keywords ["NOT", "MATERIALIZED"] then pure "NOT MATERIALIZED "
      else pure ""
    else pure ""
  let query ← parenthesized below.query
  let source ← after "FROM" ident
  return ⟨⟨name, columns⟩, materialized, query, source⟩

/-- What stands behind the body of a query. -/
def queryTail (below : Nested) : Parser String := do
  let order ← orderClause below
  let limit ← limitClause below
  let settings ← settings below
  let fetch ← fetchClause
  let clauses ← repeatWhile forClause
  let format ← formatClause
  let pipes ← if ← when Dialect.hasPipes then repeatWhile (pipeStep below) else pure []
  return order ++ limit ++ settings ++ fetch ++ "".intercalate clauses ++ format
    ++ "".intercalate pipes

/-- A query. -/
def queryAt (below : Nested) : Parser Query := do
  let (recursive, ctes) : Bool × List Cte ←
    if ← keyword "WITH" then do
      let recursive ← keyword "RECURSIVE"
      pure (recursive, ← commaSeparated (commonTable below))
    else pure (false, [])
  match ← oneOf ["INSERT", "UPDATE", "DELETE", "MERGE"] with
  | some "INSERT" =>
    match ← insertStatement below "INSERT" with
    | .insert insert => return ⟨recursive, ctes, .insert insert, ""⟩
    | statement => return ⟨recursive, ctes, .directory statement.render, ""⟩
  | some "UPDATE" => return ⟨recursive, ctes, .update (← updateStatement below), ""⟩
  | some "DELETE" => return ⟨recursive, ctes, .delete (← deleteStatement below), ""⟩
  | some _ => return ⟨recursive, ctes, .merge (← mergeStatement below), ""⟩
  | none =>
    let body ← queryBody below
    return ⟨recursive, ctes, body, ← queryTail below⟩

end SqlLineage.Sql.Parse
