import SqlLineage.Sql.Grammar.Relations
import SqlLineage.Sql.Render

/-!
# Changes of rows

INSERT, UPDATE, DELETE and MERGE, each read behind its first key word.
-/

namespace SqlLineage.Sql.Parse

/-- The table that a query block is written into. -/
def intoClause : Parser String := do
  if ← keyword "INTO" then
    let temporary ← textIf (anyKeyword ["TEMP", "TEMPORARY"]) " TEMPORARY"
    let unlogged ← textIf (keyword "UNLOGGED") " UNLOGGED"
    let table ← textIf (keyword "TABLE") " TABLE"
    return " INTO" ++ temporary ++ unlogged ++ table ++ " " ++ (← objectName false).render
  else return ""

/-- How a file is laid out. -/
def fileFormat : Parser Unit := do
  let found ← next
  let formats := ["TEXTFILE", "SEQUENCEFILE", "ORC", "PARQUET", "AVRO", "RCFILE", "JSONFILE"]
  if !formats.contains ((found.map (·.key)).getD "") then unexpected "fileformat" found

/-- What an assignment sets. -/
def assignmentTarget : Parser AssignmentTarget := do
  if ← atSymbol "(" then
    return .tuple (← parenthesized (commaSeparated (objectName false)))
  else return .column (← objectName false)

/-- `target = value` -/
def assignment (below : Nested) : Parser Assignment := do
  let target ← assignmentTarget
  expectSymbol "="
  return ⟨target, ← expr below⟩

/-- The text of assignments with a comma between them. -/
def assignmentTexts (below : Nested) : Parser String := do
  return commaList ((← commaSeparated (assignment below)).map Assignment.render)

/-- The predicate behind WHERE, if there is one. -/
def selection (below : Nested) : Parser (Option Expr) :=
  after "WHERE" (expr below)

/-- What happens to rows in conflict. -/
def conflictClause : Parser String := do
  if ← keyword "REPLACE" then return " OR REPLACE"
  for action in ["REPLACE", "ROLLBACK", "ABORT", "FAIL", "IGNORE"] do
    if ← keywords ["OR", action] then return " OR " ++ action
  return ""

/-- The table that an INSERT writes to. -/
def insertTarget (below : Nested) : Parser InsertTarget := do
  if ← when Dialect.hasInsertFormats <&&> keyword "FUNCTION" then
    let name ← objectName false
    return .function (← functionCall below name.render)
  else return .table (← objectName false)

/-- Whether a parenthesis with a query in it stands next. -/
def atParenthesizedQuery : Parser Bool := do
  return (← atSymbol "(") && ["SELECT", "WITH"].contains (← peekKeyAt 1)

/-- What an INSERT does on a conflict. -/
def onConflict (below : Nested) : Parser String := do
  if !(← keyword "ON") then return ""
  if ← keyword "CONFLICT" then
    let target ←
      if ← keywords ["ON", "CONSTRAINT"] then
        pure (" ON CONSTRAINT " ++ (← objectName false).render)
      else if ← atSymbol "(" then
        pure (" (" ++ commaList ((← identList).map Ident.render) ++ ")")
      else pure ""
    expectKeyword "DO"
    if ← keyword "NOTHING" then return " ON CONFLICT" ++ target ++ " DO NOTHING"
    expectKeywords ["UPDATE", "SET"]
    let assignments ← assignmentTexts below
    let condition ← selection below
    return " ON CONFLICT" ++ target ++ " DO UPDATE SET " ++ assignments ++ whereSuffix condition
  else
    expectKeywords ["DUPLICATE", "KEY", "UPDATE"]
    return " ON DUPLICATE KEY UPDATE " ++ (← assignmentTexts below)

/-- Columns, partition and source of an INSERT. -/
def insertRows (below : Nested) :
    Parser (List Ident × String × Option Query) := do
  let dialect ← dialect
  if ← keywords ["DEFAULT", "VALUES"] then return ([], "", none)
  let (columns, partition) : List Ident × String ←
    if ← atParenthesizedQuery then pure ([], "")
    else do
      let columns ← optionalIdentList (dialect == .mysql)
      let partition ←
        if ← keyword "PARTITION" then
          pure (" PARTITION (" ++ (← parenthesized (exprTexts below)) ++ ")")
        else pure ""
      let late ← if dialect == .hive then optionalIdentList false else pure []
      let lateText :=
        if late.isEmpty then "" else " (" ++ commaList (late.map Ident.render) ++ ")"
      pure (columns, partition ++ lateText)
  if ← atOneOf ["FORMAT", "SETTINGS"] then return (columns, partition, none)
  else if ← pure dialect.hasInsertSet <&&> keyword "SET" then
    return (columns, partition ++ " SET " ++ (← assignmentTexts below), none)
  else return (columns, partition, some (← below.query))

/-- An INSERT that writes rows into a directory. -/
def insertDirectory (below : Nested) (opening : String) : Parser Statement := do
  let path ← literalString
  if ← keywords ["STORED", "AS"] then fileFormat
  let query ← below.query
  return .other (opening ++ " DIRECTORY " ++ quoteText path ++ " " ++ query.render)

/-- An INSERT behind its key word; `verb` is that word. -/
def insertStatement (below : Nested) (verb : String) : Parser Statement := do
  let dialect ← dialect
  let conflict ← conflictClause
  let mysql := dialect matches .mysql | .generic
  let priority ← if mysql then oneOf ["LOW_PRIORITY", "DELAYED", "HIGH_PRIORITY"] else pure none
  let ignore ← textIf (pure mysql <&&> keyword "IGNORE") " IGNORE"
  let overwrite ← textIf (keyword "OVERWRITE") " OVERWRITE"
  let into ← textIf (keyword "INTO") " INTO"
  let hive ← textIf (keyword "LOCAL") " LOCAL"
  let opening := verb ++ conflict ++ (priority.map (" " ++ ·)).getD "" ++ ignore ++ overwrite
    ++ into ++ hive
  if ← keyword "DIRECTORY" then insertDirectory below opening
  else
    let tableWord ← textIf (keyword "TABLE") " TABLE"
    let target ← insertTarget below
    let aliasName ←
      if ← pure (dialect == .postgres) <&&> keyword "AS" then pure (" AS " ++ (← ident).render)
      else pure ""
    let (columns, partition, source) ← insertRows below
    let format ←
      if dialect.hasInsertFormats then do
        let settings ← settings below
        if ← keyword "FORMAT" then
          let name ← ident
          let values := ((← attempt (exprTexts below)).map (" " ++ ·)).getD ""
          pure (settings ++ " FORMAT " ++ name.render ++ values)
        else pure settings
      else pure ""
    let rowAlias ←
      if ← pure mysql <&&> keyword "AS" then do
        let name ← objectName false
        let names ← optionalIdentList false
        pure (" AS " ++ name.render ++ " (" ++ commaList (names.map Ident.render) ++ ")")
      else pure ""
    let conflict ← onConflict below
    let returned ← returning below
    return .insert
      { opening := opening ++ tableWord
        target := target
        columns := columns
        partition := aliasName ++ partition
        source := source
        tail := format ++ rowAlias ++ conflict ++ returned }

/-- A REPLACE behind its key word. -/
def replaceStatement (below : Nested) : Parser Statement := do
  if ← when (· matches .mysql | .generic) then insertStatement below "REPLACE"
  else refuseAt "Unsupported statement REPLACE" (← peek)

/-- A limit. -/
def limitValue (below : Nested) : Parser String := do
  if ← keyword "ALL" then return "ALL" else exprText below

/-- An UPDATE behind its key word. -/
def updateStatement (below : Nested) : Parser Update := do
  let conflict ← conflictClause
  let table ← tableWithJoins below
  let beforeSet ← if ← keyword "FROM" then relations below else pure []
  expectKeyword "SET"
  let assignments ← commaSeparated (assignment below)
  let afterSet ←
    if ← pure beforeSet.isEmpty <&&> keyword "FROM" then relations below else pure []
  let condition ← selection below
  let returned ← returning below
  let limit ← if ← keyword "LIMIT" then pure (" LIMIT " ++ (← exprText below)) else pure ""
  return {
    opening := "UPDATE" ++ conflict
    table := table
    beforeSet := beforeSet
    assignments := assignments
    afterSet := afterSet
    selection := condition
    tail := returned ++ limit }

/-- A DELETE behind its key word. -/
def deleteStatement (below : Nested) : Parser Delete := do
  let (targets, written) : List ObjectName × Bool ←
    if ← keyword "FROM" then pure ([], true)
    else if ← when (· matches .bigquery | .generic) then pure ([], false)
    else do
      let targets ← commaSeparated (objectName false)
      expectKeyword "FROM"
      pure (targets, true)
  let sources ← commaSeparated (tableWithJoins below)
  let more ← if ← keyword "USING" then commaSeparated (tableWithJoins below) else pure []
  let condition ← selection below
  let returned ← returning below
  let order ←
    if ← keywords ["ORDER", "BY"] then pure (" ORDER BY " ++ (← orderByExprs below)) else pure ""
  let limit ← if ← keyword "LIMIT" then pure (" LIMIT " ++ (← limitValue below)) else pure ""
  return {
    targets := targets
    keyword := written
    sources := sources
    using_ := more
    selection := condition
    tail := returned ++ order ++ limit }

/-- What a MERGE does with rows of one kind; `none` behind the last one. -/
def mergeClause (below : Nested) : Parser (Option String) := do
  if !(← keyword "WHEN") then return none
  let negated ← keyword "NOT"
  expectKeyword "MATCHED"
  let side ←
    if ← pure negated <&&> keywords ["BY", "SOURCE"] then pure " BY SOURCE"
    else if ← pure negated <&&> keywords ["BY", "TARGET"] then pure " BY TARGET"
    else pure ""
  let condition ← if ← keyword "AND" then pure (" AND " ++ (← exprText below)) else pure ""
  expectKeyword "THEN"
  let missing := negated && side != " BY SOURCE"
  let kind := if negated then "NOT MATCHED" ++ side else "MATCHED"
  let action ←
    match ← oneOf ["UPDATE", "INSERT", "DELETE"] with
    | some "UPDATE" =>
      if missing then refuse s!"UPDATE is not allowed in a {kind} merge clause"
      expectKeyword "SET"
      pure ("UPDATE SET " ++ (← assignmentTexts below))
    | some "INSERT" =>
      if !missing then refuse s!"INSERT is not allowed in a {kind} merge clause"
      let mysql := (← dialect) == .mysql
      let columns ← optionalIdentList mysql
      let names :=
        if columns.isEmpty then "" else " (" ++ commaList (columns.map Ident.render) ++ ")"
      if ← when (· matches .bigquery | .generic) <&&> keyword "ROW" then
        pure ("INSERT" ++ names ++ " ROW")
      else
        expectKeyword "VALUES"
        pure ("INSERT" ++ names ++ " " ++ (← valueRows below mysql))
    | some _ =>
      if missing then refuse s!"DELETE is not allowed in a {kind} merge clause"
      pure "DELETE"
    | none => refuse "expected UPDATE, DELETE or INSERT in merge clause"
  return some (" WHEN " ++ kind ++ condition ++ " THEN " ++ action)

/-- A MERGE behind its key word. -/
def mergeStatement (below : Nested) : Parser String := do
  let into ← textIf (keyword "INTO") " INTO"
  let table ← tableFactor below
  expectKeyword "USING"
  let source ← tableFactor below
  expectKeyword "ON"
  let condition ← exprText below
  let clauses ← repeatWhile (mergeClause below)
  let output ←
    match ← oneOf ["OUTPUT", "RETURNING"] with
    | some key =>
      let items ← projection below
      let into ← if key == "OUTPUT" then intoClause else pure ""
      pure (" " ++ key ++ " " ++ commaList (items.map SelectItem.render) ++ into)
    | none => pure ""
  return "MERGE" ++ into ++ " " ++ table.render ++ " USING " ++ source.render ++ " ON " ++ condition
    ++ "".intercalate clauses ++ output

end SqlLineage.Sql.Parse
