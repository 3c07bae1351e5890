import SqlLineage.Sql.Grammar.Files
import SqlLineage.Sql.Grammar.Maintenance
import SqlLineage.Sql.Grammar.Sessions

/-!
# Statements

A statement is told by its first key word.  A dialect may read some statements its own way first.
-/

namespace SqlLineage.Sql.Parse

/-- Words between CREATE and the kind of an object in a dialect that takes the parts of a
definition in any order. -/
structure LooseOpening where
  replaces : Bool
  hasScope : Bool
  dynamic : Bool
  lifetime : Option String

/-- How many words stand in an opening. -/
def LooseOpening.words (opening : LooseOpening) : Nat :=
  1 + (if opening.replaces then 2 else 0) + (if opening.hasScope then 1 else 0)
    + (if opening.dynamic then 1 else 0) + (if opening.lifetime.isSome then 1 else 0)

/-- How many words of an opening are read again when another kind of object follows. -/
def LooseOpening.reread (opening : LooseOpening) : Nat :=
  1 + (if opening.replaces then 2 else 0)
    + (if opening.lifetime == some "TEMP" || opening.lifetime == some "TEMPORARY" then 1 else 0)

/-- The text of an opening. -/
def LooseOpening.text (opening : LooseOpening) : String :=
  "CREATE" ++ (if opening.replaces then " OR REPLACE" else "")
    ++ (if opening.dynamic then " DYNAMIC" else "")
    ++ (opening.lifetime.map (" " ++ ·)).getD ""

/-- A CREATE of a stage, a table or a database whose parts stand in any order; `none` if it is
another object. -/
def looseCreate (below : Nested) : Parser (Option Statement) := do
  let start ← get
  if !(← keyword "CREATE") then return none
  let replaces ← keywords ["OR", "REPLACE"]
  let hasScope ← anyKeyword ["LOCAL", "GLOBAL"]
  let dynamic ← keyword "DYNAMIC"
  let lifetime ← oneOf ["TEMP", "TEMPORARY", "VOLATILE", "TRANSIENT", "ICEBERG"]
  let opening : LooseOpening := ⟨replaces, hasScope, dynamic, lifetime⟩
  if ← keyword "STAGE" then
    createStage
    return some (.other (opening.text ++ " STAGE"))
  else if ← keyword "TABLE" then
    return some (.createTable (← createTableOfParts below (opening.text ++ " TABLE")))
  else if ← keyword "DATABASE" then
    createDatabaseOfParts
    return some (.other (opening.text ++ " DATABASE"))
  else
    set { start with rest := start.rest.drop (opening.words - opening.reread) }
    return none

/-- A change of the settings of a session, behind ALTER SESSION. -/
def alterSession : Parser String := do
  match ← oneOf ["SET", "UNSET"] with
  | some "SET" =>
    keyValueOptions []
    return "ALTER SESSION SET"
  | some _ =>
    discard (commaSeparated ident)
    return "ALTER SESSION UNSET"
  | none => expected "SET or UNSET"

/-- Whether BEGIN, which stands next, starts a transaction and no block. -/
def beginsTransaction : Parser Bool := do
  return (← peekKeyAt 1) == "TRANSACTION" || (← peekAt 1).isNone || (← atSymbolAt 1 ";")

/-- A block if BEGIN stands next and starts one. -/
def optionalBlock (below : Nested) : Parser (Option Statement) := do
  if (← atKeyword "BEGIN") && !(← beginsTransaction) then
    drop 1
    return some (.other (← beginBlock below))
  else return none

/-- A statement that only one dialect reads so; `none` if none stands next. -/
def dialectStatement (below : Nested) : Parser (Option Statement) := do
  match ← dialect with
  | .mysql =>
    if ← keywords ["LOCK", "TABLES"] then return some (.other (← lockStatement))
    else if ← keywords ["UNLOCK", "TABLES"] then return some (.other "UNLOCK TABLES")
    else return none
  | .sqlite =>
    if ← atKeyword "REPLACE" then return some (← insertStatement below "INSERT") else return none
  | .mssql =>
    if ← atKeyword "IF" then return some (.other (← shortIfStatement below))
    else if ← keywords ["CREATE", "TRIGGER"] then
      createTableTrigger below
      return some (.other "CREATE TRIGGER")
    else if ← keywords ["CREATE", "OR", "ALTER", "TRIGGER"] then
      createTableTrigger below
      return some (.other "CREATE OR ALTER TRIGGER")
    else return none
  | .bigquery => optionalBlock below
  | .snowflake =>
    if ← keywords ["ALTER", "SESSION"] then return some (.other (← alterSession))
    match ← optionalBlock below with
    | some block => return some block
    | none =>
      match ← looseCreate below with
      | some statement => return some statement
      | none =>
        if ← keywords ["COPY", "INTO"] then return some (.other (← copyIntoStatement below))
        else if ← anyKeyword ["LIST", "LS"] then
          return some (.other (← stageFilesStatement "LIST"))
        else if ← anyKeyword ["REMOVE", "RM"] then
          return some (.other (← stageFilesStatement "REMOVE"))
        else return none
  | _ => return none

/-- The rest of a statement behind its first key word `key`; `none` if no statement of the
dialect starts with it.  The statements that only say a text are here. -/
def plainStatement (below : Nested) (dialect : Dialect) (key : String) :
    Option (Parser String) :=
  match key with
  | "KILL" => some killStatement
  | "FLUSH" => some flushStatement
  | "DESC" | "DESCRIBE" | "EXPLAIN" => some (explainStatement below key)
  | "ANALYZE" => some (analyzeStatement below)
  | "RAISE" => some (raiseStatement below)
  | "TRUNCATE" => some (truncateStatement below)
  | "ATTACH" => some (attachStatement below)
  | "DETACH" => if dialect matches .duckdb | .generic then some detachStatement else none
  | "MSCK" => some msckStatement
  | "CACHE" => some (cacheStatement below)
  | "DROP" => some (dropStatement below)
  | "DISCARD" => some discardStatement
  | "DECLARE" => some (declareStatement below)
  | "FETCH" => some fetchStatement
  | "UNCACHE" => some uncacheStatement
  | "CALL" => some (callStatement below)
  | "COPY" => some (copyStatement below)
  | "OPEN" => some (do return "OPEN " ++ (← ident).render)
  | "CLOSE" => some (do
    if ← keyword "ALL" then return "CLOSE ALL" else return "CLOSE " ++ (← ident).render)
  | "SET" => some (setStatement below)
  | "SHOW" => some (showStatement below)
  | "USE" => some useStatement
  | "GRANT" => some grantStatement
  | "DENY" => some denyStatement
  | "REVOKE" => some revokeStatement
  | "START" => some (do
    expectKeyword "TRANSACTION"
    return "START TRANSACTION" ++ (← transactionModes))
  | "BEGIN" => some beginTransaction
  | "END" => some endStatement
  | "SAVEPOINT" => some (do return "SAVEPOINT " ++ (← ident).render)
  | "RELEASE" => some (do
    discard (keyword "SAVEPOINT")
    return "RELEASE SAVEPOINT " ++ (← ident).render)
  | "COMMIT" => some (do return "COMMIT" ++ (← chain))
  | "RAISERROR" => some (raiserrorStatement below)
  | "ROLLBACK" => some rollbackStatement
  | "ASSERT" => some (do
    let condition ← exprText below
    if ← keyword "AS" then discard (exprText below)
    return "ASSERT " ++ condition)
  | "DEALLOCATE" => some (do
    let prepare ← textIf (keyword "PREPARE") "PREPARE "
    return "DEALLOCATE " ++ prepare ++ (← ident).render)
  | "EXECUTE" | "EXEC" => some (executeStatement below)
  | "PREPARE" => some (prepareStatement below)
  | "MERGE" => some (mergeStatement below)
  | "LISTEN" | "UNLISTEN" | "NOTIFY" =>
    if dialect.hasNotifications then some (notificationStatement key) else none
  | "PRAGMA" => some pragmaStatement
  | "UNLOAD" => some (unloadStatement below)
  | "RENAME" => some renameStatement
  | "INSTALL" =>
    if dialect matches .duckdb | .generic then some (do return "INSTALL " ++ (← ident).render)
    else none
  | "LOAD" => some (loadStatement below)
  | "OPTIMIZE" =>
    if dialect matches .clickhouse | .generic then some (optimizeStatement below) else none
  | "COMMENT" => if dialect.hasCommentOn then some commentStatement else none
  | "PRINT" => some (do return "PRINT " ++ (← exprText below))
  | "RETURN" => some (do
    return "RETURN" ++ ((← attempt (exprText below)).map (" " ++ ·)).getD "")
  | "EXPORT" => some (exportStatement below)
  | "VACUUM" => some vacuumStatement
  | _ => none

/-- A statement. -/
def statementAt (below : Nested) : Parser Statement := do
  match ← dialectStatement below with
  | some statement => return statement
  | none =>
    let found ← peek
    match ← peekKey with
    | "SELECT" | "WITH" | "VALUES" | "FROM" => return .query (← below.query)
    | "CASE" => return .other (← caseStatement below)
    | "IF" => return .other (← ifStatement below)
    | "WHILE" => return .other (← whileStatement below)
    | key =>
      if isSymbol "(" found then return .query (← below.query)
      drop 1
      match key with
      | "CREATE" => createStatement below
      | "ALTER" => alterStatement below
      | "INSERT" => insertStatement below "INSERT"
      | "REPLACE" => replaceStatement below
      | "UPDATE" => return .update (← updateStatement below)
      | "DELETE" => return .delete (← deleteStatement below)
      | _ =>
        match plainStatement below (← dialect) key with
        | some parser => return .other (← parser)
        | none => unexpected "an SQL statement" found

end SqlLineage.Sql.Parse
