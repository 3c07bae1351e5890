import SqlLineage.Sql.Grammar.Tables

/-!
# Changes of tables

ALTER TABLE: a list of changes, each told by its first key word.
-/

namespace SqlLineage.Sql.Parse

/-- The place of a column among the others. -/
def columnPosition : Parser Unit := do
  if ← when (· matches .mysql | .generic) then
    if ← keyword "FIRST" then pure ()
    else if ← keyword "AFTER" then discard ident

/-- What becomes of objects that depend on a dropped one. -/
def dropBehavior : Parser Unit :=
  discard (oneOf ["CASCADE", "RESTRICT"])

/-- The expressions of a partition, in parentheses. -/
def partitionValues (below : Nested) : Parser Unit :=
  discard (parenthesized (exprTexts below))

/-- The rows that a projection of a table keeps, in parentheses. -/
def keptProjection (below : Nested) : Parser Unit :=
  parenthesized (do
    expectKeyword "SELECT"
    discard (projection below)
    discard (groupClause below)
    discard (orderClause below))

/-- What is added to a table. -/
def addOperation (below : Nested) : Parser Unit := do
  match ← tableConstraint below with
  | some _ => discard (keywords ["NOT", "VALID"])
  | none =>
    if ← when (· matches .clickhouse | .generic) <&&> keyword "PROJECTION" then
      discard (keywords ["IF", "NOT", "EXISTS"])
      discard ident
      keptProjection below
    else
      discard (keywords ["IF", "NOT", "EXISTS"])
      let partitions ← repeatWhile (do
        if ← keyword "PARTITION" then return some (← partitionValues below) else return none)
      if partitions.isEmpty then
        discard (keyword "COLUMN")
        if ← when (· matches .postgres | .bigquery | .duckdb | .generic) then
          discard (keywords ["IF", "NOT", "EXISTS"])
        discard (columnDef below)
        columnPosition

/-- How a table or column is renamed. -/
def renameOperation : Parser Unit := do
  if ← when (· matches .postgres) <&&> keyword "CONSTRAINT" then
    discard ident
    expectKeyword "TO"
    discard ident
  else if ← anyKeyword ["TO", "AS"] then discard (objectName false)
  else
    discard (keyword "COLUMN")
    discard ident
    expectKeyword "TO"
    discard ident

/-- What is no longer enforced or fired. -/
def disableOperation : Parser Unit := do
  if ← keywords ["ROW", "LEVEL", "SECURITY"] then pure ()
  else if ← anyKeyword ["RULE", "TRIGGER"] then discard ident
  else expected "ROW LEVEL SECURITY, RULE, or TRIGGER after DISABLE"

/-- What is enforced or fired. -/
def enableOperation : Parser Unit := do
  if ← keywords ["ROW", "LEVEL", "SECURITY"] then return ()
  for words in [["ALWAYS", "RULE"], ["ALWAYS", "TRIGGER"], ["REPLICA", "RULE"],
      ["REPLICA", "TRIGGER"], ["RULE"], ["TRIGGER"]] do
    if ← keywords words then
      discard ident
      return ()
  expected "ALWAYS, REPLICA, ROW LEVEL SECURITY, RULE, or TRIGGER after ENABLE"

/-- A projection of a table, possibly of one partition. -/
def projectionOfPartition : Parser Unit := do
  discard (keywords ["IF", "EXISTS"])
  discard ident
  if ← keywords ["IN", "PARTITION"] then discard ident

/-- What is dropped from a table. -/
def dropOperation (below : Nested) : Parser Unit := do
  if ← keywords ["IF", "EXISTS", "PARTITION"] <||> keyword "PARTITION" then partitionValues below
  else if ← keyword "CONSTRAINT" then
    discard (keywords ["IF", "EXISTS"])
    discard ident
    dropBehavior
  else if ← keywords ["PRIMARY", "KEY"] then dropBehavior
  else if ← keywords ["FOREIGN", "KEY"] then
    discard ident
    dropBehavior
  else if ← keyword "INDEX" then discard ident
  else if ← keyword "PROJECTION" <&&> when (· matches .clickhouse | .generic) then
    discard (keywords ["IF", "EXISTS"])
    discard ident
  else if ← keywords ["CLUSTERING", "KEY"] then pure ()
  else
    discard (keyword "COLUMN")
    discard (keywords ["IF", "EXISTS"])
    if ← when (· matches .snowflake) then discard (commaSeparated ident) else discard ident
    dropBehavior

/-- A column with a new definition. -/
def redefinedColumn (below : Nested) : Parser Unit := do
  discard ident
  discard dataType
  discard (repeatWhile (columnOption below))
  columnPosition

/-- A new type of a column. -/
def columnType (below : Nested) : Parser Unit := do
  discard dataType
  if ← when (· matches .postgres) <&&> keyword "USING" then discard (exprText below)

/-- How a column is altered. -/
def alterColumnOperation (below : Nested) : Parser Unit := do
  discard (keyword "COLUMN")
  discard ident
  if ← keywords ["SET", "NOT", "NULL"] <||> keywords ["DROP", "NOT", "NULL"] then pure ()
  else if ← keywords ["SET", "DEFAULT"] then discard (exprText below)
  else if ← keywords ["DROP", "DEFAULT"] then pure ()
  else if ← keywords ["SET", "DATA", "TYPE"] <||> keyword "TYPE" then columnType below
  else if ← keywords ["ADD", "GENERATED"] then
    if !(← keyword "ALWAYS") then discard (keywords ["BY", "DEFAULT"])
    expectKeywords ["AS", "IDENTITY"]
    sequenceOptionsInParentheses
  else if ← when (· matches .postgres) then
    expected "SET/DROP NOT NULL, SET DEFAULT, SET DATA TYPE, or ADD GENERATED after ALTER COLUMN"
  else expected "SET/DROP NOT NULL, SET DEFAULT, or SET DATA TYPE after ALTER COLUMN"

/-- How a table is changed, of the changes behind one of the first key words; whether one stands
next. -/
def structureOperation (below : Nested) : Parser Bool := do
  let done (parser : Parser Unit) : Parser Bool := do
    parser
    return true
  if ← keyword "ADD" then done (addOperation below)
  else if ← keyword "RENAME" then done renameOperation
  else if ← keyword "DISABLE" then done disableOperation
  else if ← keyword "ENABLE" then done enableOperation
  else if ← (keywords ["CLEAR", "PROJECTION"] <||> keywords ["MATERIALIZE", "PROJECTION"])
      <&&> when (· matches .clickhouse | .generic) then
    done projectionOfPartition
  else if ← keyword "DROP" then done (dropOperation below)
  else if ← keyword "PARTITION" then
    done (do
      partitionValues below
      expectKeywords ["RENAME", "TO", "PARTITION"]
      partitionValues below)
  else if ← keyword "CHANGE" then
    done (do
      discard (keyword "COLUMN")
      discard ident
      redefinedColumn below)
  else if ← keyword "MODIFY" then
    done (do
      discard (keyword "COLUMN")
      redefinedColumn below)
  else if ← keyword "ALTER" then done (alterColumnOperation below)
  else return false

/-- A choice behind a key word and possibly an equals sign. -/
def tableChoice (keys : List String) (what : String) : Parser Unit := do
  discard (symbol "=")
  if (← oneOf keys).isNone then expected what

/-- What tells the rows of a table apart where they are copied. -/
def replicaIdentity : Parser Unit := do
  if ← keywords ["USING", "INDEX"] then discard ident
  else if ← not <$> anyKeyword ["NOTHING", "FULL", "DEFAULT"] then
    expected "NOTHING, FULL, DEFAULT, or USING INDEX index_name after REPLICA IDENTITY"

/-- New options of a table; whether any are set. -/
def optionOperation (below : Nested) : Parser Bool := do
  if ← keywords ["SET", "TBLPROPERTIES"] then
    discard (parenthesized (commaSeparated (definitionOption below)))
    return true
  else if ← keyword "SET" then
    let options ← parenthesized (commaSeparatedUntil (definitionOption below) ")")
    return !options.isEmpty
  else return false

/-- A change of a table. -/
def alterOperation (below : Nested) : Parser Unit := do
  if ← structureOperation below then return ()
  let clickhouse ← when (· matches .clickhouse | .generic)
  if ← keyword "SWAP" then
    expectKeyword "WITH"
    discard (objectName false)
  else if ← when (· matches .postgres | .generic) <&&> keywords ["OWNER", "TO"] then owner
  else if ← pure clickhouse <&&> anyKeyword ["ATTACH", "DETACH"] then
    discard (expectOneOf ["PART", "PARTITION"])
    discard (exprText below)
  else if ← pure clickhouse <&&> anyKeyword ["FREEZE", "UNFREEZE"] then
    discard (expectOneOf ["PART", "PARTITION"])
    discard (exprText below)
    if ← keyword "WITH" then
      expectKeyword "NAME"
      discard ident
  else if ← keywords ["CLUSTER", "BY"] then partitionValues below
  else if ← keywords ["SUSPEND", "RECLUSTER"] <||> keywords ["RESUME", "RECLUSTER"] then pure ()
  else if ← keyword "LOCK" then
    tableChoice ["DEFAULT", "EXCLUSIVE", "NONE", "SHARED"]
      "DEFAULT, EXCLUSIVE, NONE or SHARED after LOCK [=]"
  else if ← keyword "ALGORITHM" then
    tableChoice ["DEFAULT", "INSTANT", "INPLACE", "COPY"]
      "DEFAULT, INSTANT, INPLACE, or COPY after ALGORITHM [=]"
  else if ← keyword "AUTO_INCREMENT" then
    discard (symbol "=")
    discard numberValue
  else if ← keywords ["REPLICA", "IDENTITY"] then replicaIdentity
  else if ← keywords ["VALIDATE", "CONSTRAINT"] then discard ident
  else if ← not <$> optionOperation below then
    expected ("ADD, RENAME, PARTITION, SWAP, DROP, REPLICA IDENTITY, SET, or SET TBLPROPERTIES "
      ++ "after ALTER TABLE")

/-- An ALTER TABLE behind its key words. -/
def alterTable (below : Nested) : Parser ObjectName := do
  discard (keywords ["IF", "EXISTS"])
  discard (keyword "ONLY")
  let name ← objectName false
  discard onCluster
  discard (commaSeparated (alterOperation below))
  if ← keyword "LOCATION" <||> keywords ["SET", "LOCATION"] then discard ident
  return name

end SqlLineage.Sql.Parse
