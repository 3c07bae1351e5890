import SqlLineage.Sql.Grammar.TableChanges

/-!
# Maintenance

Statements that look after databases, tables, caches and connections.  Each is read behind its
first key word.
-/

namespace SqlLineage.Sql.Parse

/-- A KILL. -/
def killStatement : Parser String := do
  let kind ← oneOf ["CONNECTION", "QUERY", "MUTATION"]
  if kind == some "MUTATION" && !(← when (· matches .clickhouse | .generic)) then
    expected "Unsupported type for KILL, allowed: CONNECTION | QUERY"
  return "KILL " ++ (kind.map (· ++ " ")).getD "" ++ (← literalUint)

/-- What a FLUSH may write out, apart from tables. -/
def flushKinds : List (List String) :=
  [["BINARY", "LOGS"], ["ENGINE", "LOGS"], ["ERROR", "LOGS"], ["GENERAL", "LOGS"], ["HOSTS"],
    ["PRIVILEGES"], ["OPTIMIZER_COSTS"], ["RELAY", "LOGS"], ["SLOW", "LOGS"], ["STATUS"],
    ["USER_RESOURCES"], ["LOGS"]]

/-- The tables that a FLUSH names. -/
def flushTables : Parser Unit :=
  discard (repeatWhile (do
    if ← keyword "WITH" then
      expectKeywords ["READ", "LOCK"]
      return some ()
    else if ← keyword "FOR" then
      expectKeyword "EXPORT"
      return some ()
    else if (← peek) matches some ⟨.word .., _, _, _⟩ then
      discard (commaSeparated (objectName false))
      return some ()
    else return none))

/-- A FLUSH. -/
def flushStatement : Parser String := do
  if !(← when (· matches .mysql | .generic)) then
    refuseAt "Unsupported statement FLUSH" (← peek)
  let place := ((← oneOf ["NO_WRITE_TO_BINLOG", "LOCAL"]).map (" " ++ ·)).getD ""
  for words in flushKinds do
    if ← keywords words then
      if words == ["RELAY", "LOGS"] then
        if ← keywords ["FOR", "CHANNEL"] then discard (objectName false)
      return "FLUSH" ++ place ++ " " ++ " ".intercalate words
  if ← keyword "TABLES" then
    flushTables
    return "FLUSH" ++ place ++ " TABLES"
  else
    expected ("BINARY LOGS, ENGINE LOGS, ERROR LOGS, GENERAL LOGS, HOSTS, LOGS, PRIVILEGES, "
      ++ "OPTIMIZER_COSTS, RELAY LOGS [FOR CHANNEL channel], SLOW LOGS, STATUS, USER_RESOURCES")

/-- An ANALYZE. -/
def analyzeStatement (below : Nested) : Parser String := do
  let table ← textIf (keyword "TABLE") "TABLE "
  let name ← objectName false
  discard (repeatWhile (do
    match ← oneOf ["PARTITION", "FOR", "CACHE", "NOSCAN", "COMPUTE"] with
    | some key =>
      match key with
      | "PARTITION" => discard (parenthesized (exprTexts below))
      | "FOR" =>
        expectKeyword "COLUMNS"
        discard (attempt (commaSeparated ident))
      | "CACHE" => expectKeyword "METADATA"
      | "COMPUTE" => expectKeyword "STATISTICS"
      | _ => pure ()
      return some ()
    | none => return none))
  return "ANALYZE " ++ table ++ name.render

/-- A TRUNCATE. -/
def truncateStatement (below : Nested) : Parser String := do
  let table ← textIf (keyword "TABLE") "TABLE "
  let check ← textIf (keywords ["IF", "EXISTS"]) "IF EXISTS "
  let names ← commaSeparated (do
    let only ← textIf (keyword "ONLY") "ONLY "
    return only ++ (← objectName false).render)
  if ← keyword "PARTITION" then discard (parenthesized (exprTexts below))
  if ← when (· matches .postgres | .generic) then
    if !(← keywords ["RESTART", "IDENTITY"]) then discard (keywords ["CONTINUE", "IDENTITY"])
    dropBehavior
  discard onCluster
  return "TRUNCATE " ++ table ++ check ++ commaList names

/-- An option of an attached database. -/
def attachOption : Parser Unit := do
  if ← keyword "READ_ONLY" then discard (oneOf ["TRUE", "FALSE"])
  else if ← keyword "TYPE" then discard ident
  else expected "expected one of: ), READ_ONLY, TYPE"

/-- The options of an attached database behind the opening parenthesis. -/
def attachOptionsWithin : Nat → Parser Unit
  | 0 => return ()
  | steps + 1 => do
    attachOption
    if ← symbol ")" then return ()
    else if ← symbol "," then attachOptionsWithin steps
    else expected "expected one of: ')', ','"

/-- An ATTACH. -/
def attachStatement (below : Nested) : Parser String := do
  let database ← textIf (keyword "DATABASE") " DATABASE"
  if ← when (· matches .duckdb) then
    let check ← textIf (keywords ["IF", "NOT", "EXISTS"]) " IF NOT EXISTS"
    let path ← ident
    if ← keyword "AS" then discard ident
    if ← symbol "(" then attachOptionsWithin (← budget)
    return "ATTACH" ++ database ++ check ++ " " ++ path.render
  else
    let file ← exprText below
    expectKeyword "AS"
    return "ATTACH" ++ database ++ " " ++ file ++ " AS " ++ (← ident).render

/-- A DETACH. -/
def detachStatement : Parser String := do
  let database ← textIf (keyword "DATABASE") " DATABASE"
  let check ← textIf (keywords ["IF", "EXISTS"]) " IF EXISTS"
  return "DETACH" ++ database ++ check ++ " " ++ (← ident).render

/-- A check of the partitions of a table. -/
def msckStatement : Parser String := do
  let repair ← textIf (keyword "REPAIR") "REPAIR "
  expectKeyword "TABLE"
  let name ← objectName false
  discard (attempt (do
    discard (oneOf ["ADD", "DROP", "SYNC"])
    expectKeyword "PARTITIONS"))
  return "MSCK " ++ repair ++ "TABLE " ++ name.render

/-- What is cached. -/
def cachedTable (below : Nested) : Parser Unit := do
  discard (objectName false)
  if (← peek).isSome then
    discard (optionsAfter below "OPTIONS")
    match ← peek with
    | none => pure ()
    | some ⟨.word .., _, _, _⟩ =>
      discard (keyword "AS")
      discard below.query
    | _ => expected "a QUERY statement"

/-- A CACHE. -/
def cacheStatement (below : Nested) : Parser String := do
  if ← keyword "TABLE" then
    cachedTable below
    return "CACHE TABLE"
  else
    let last ← peek
    let flag ← objectName false
    if ← keyword "TABLE" then
      cachedTable below
      return "CACHE " ++ flag.render ++ " TABLE"
    else if (← peek).isNone then unexpected "a `TABLE` keyword" last
    else expected "a `TABLE` keyword"

/-- An UNCACHE. -/
def uncacheStatement : Parser String := do
  if ← keyword "TABLE" then
    let check ← textIf (keywords ["IF", "EXISTS"]) "IF EXISTS "
    return "UNCACHE TABLE " ++ check ++ (← objectName false).render
  else expected "a `TABLE` keyword"

/-- A DISCARD. -/
def discardStatement : Parser String := do
  match ← oneOf ["ALL", "PLANS", "SEQUENCES", "TEMP", "TEMPORARY"] with
  | some "TEMPORARY" => return "DISCARD TEMP"
  | some key => return "DISCARD " ++ key
  | none => expected "ALL, PLANS, SEQUENCES, TEMP or TEMPORARY after DISCARD"

/-- A CALL. -/
def callStatement (below : Nested) : Parser String := do
  let name ← objectName false
  if ← atSymbol "(" then return "CALL " ++ (← functionCall below name.render)
  else return "CALL " ++ name.render

/-- The value of a PRAGMA. -/
def pragmaValue : Parser String := do
  let place ← peek
  let text ← value
  match place with
  | some ⟨.text .single _, _, _, _⟩ | some ⟨.text .double _, _, _, _⟩
  | some ⟨.number .., _, _, _⟩ | some ⟨.placeholder _, _, _, _⟩ | some ⟨.symbol _, _, _, _⟩
  | some ⟨.word _ (some _), _, _, _⟩ => return text
  | _ => unexpected "number or string or ? placeholder" place

/-- A PRAGMA. -/
def pragmaStatement : Parser String := do
  let name ← objectName false
  if ← symbol "(" then
    let setting ← pragmaValue
    expectSymbol ")"
    return "PRAGMA " ++ name.render ++ "(" ++ setting ++ ")"
  else if ← symbol "=" then return "PRAGMA " ++ name.render ++ " = " ++ (← pragmaValue)
  else return "PRAGMA " ++ name.render

/-- A RENAME. -/
def renameStatement : Parser String := do
  if ← keyword "TABLE" then
    let names ← commaSeparated (do
      let old ← objectName false
      expectKeyword "TO"
      return old.render ++ " TO " ++ (← objectName false).render)
    return "RENAME TABLE " ++ commaList names
  else expected "KEYWORD `TABLE` after RENAME"

/-- An OPTIMIZE. -/
def optimizeStatement (below : Nested) : Parser String := do
  expectKeyword "TABLE"
  let name ← objectName false
  discard onCluster
  if ← keyword "PARTITION" then
    if ← keyword "ID" then discard ident else discard (exprText below)
  discard (keyword "FINAL")
  if ← keyword "DEDUPLICATE" then
    if ← keyword "BY" then discard (exprText below)
  return "OPTIMIZE TABLE " ++ name.render

/-- A COMMENT. -/
def commentStatement : Parser String := do
  let check ← textIf (keywords ["IF", "EXISTS"]) "IF EXISTS "
  expectKeyword "ON"
  let kind ← next
  match kind with
  | some ⟨.word .., _, key, _⟩ =>
    if ! ["COLUMN", "TABLE", "EXTENSION", "SCHEMA", "DATABASE", "USER", "ROLE"].contains key then
      unexpected "comment object_type" kind
    let name ← objectName false
    expectKeyword "IS"
    if !(← keyword "NULL") then discard literalString
    return "COMMENT " ++ check ++ "ON " ++ key ++ " " ++ name.render
  | _ => unexpected "comment object_type" kind

/-- A VACUUM. -/
def vacuumStatement : Parser String := do
  let full ← textIf (keyword "FULL") " FULL"
  let sort ← textIf (keywords ["SORT", "ONLY"]) " SORT ONLY"
  let delete ← textIf (keywords ["DELETE", "ONLY"]) " DELETE ONLY"
  let reindex ← textIf (keyword "REINDEX") " REINDEX"
  let recluster ← textIf (keyword "RECLUSTER") " RECLUSTER"
  let opening := "VACUUM" ++ full ++ sort ++ delete ++ reindex ++ recluster
  match ← attempt (objectName false) with
  | some name =>
    if ← keyword "TO" then
      discard value
      expectKeyword "PERCENT"
    discard (keyword "BOOST")
    return opening ++ " " ++ name.render
  | none => return opening

/-- A lock on a table. -/
def tableLock : Parser String := do
  let name ← ident
  let aliasName ← aliasExcept ["READ", "WRITE", "LOW_PRIORITY"]
  let kind ←
    if ← keywords ["READ", "LOCAL"] then pure "READ LOCAL"
    else if ← keyword "READ" then pure "READ"
    else if ← keyword "WRITE" then pure "WRITE"
    else if ← keywords ["LOW_PRIORITY", "WRITE"] then pure "LOW_PRIORITY WRITE"
    else expected "an lock type in LOCK TABLES"
  let renamed := (aliasName.map (fun aliasName => " AS " ++ aliasName.render)).getD ""
  return name.render ++ renamed ++ " " ++ kind

/-- A LOCK TABLES behind its key words. -/
def lockStatement : Parser String := do
  return "LOCK TABLES " ++ commaList (← commaSeparated tableLock)

/-- A LISTEN, UNLISTEN or NOTIFY; `verb` is its first word. -/
def notificationStatement (verb : String) : Parser String := do
  if verb == "UNLISTEN" then
    if ← symbol "*" then return "UNLISTEN *"
    let place ← peek
    match ← attempt ident with
    | some channel => return "UNLISTEN " ++ channel.render
    | none => unexpected "wildcard or identifier" place
  else
    let channel ← ident
    if verb == "NOTIFY" then
      if ← symbol "," then discard literalString
    return verb ++ " " ++ channel.render

end SqlLineage.Sql.Parse
