import SqlLineage.Sql.Grammar.Queries

/-!
# Definitions of tables and views

CREATE TABLE and CREATE VIEW, with the definitions of columns and constraints.
-/

namespace SqlLineage.Sql.Parse

/-- `name = value` -/
def keyValue (below : Nested) : Parser String := do
  let name ← ident
  expectSymbol "="
  return name.render ++ " = " ++ (← exprText below)

/-- How the rows of a table are kept together. -/
def clusteredOption : Parser String := do
  if ← keywords ["CLUSTERED", "COLUMNSTORE", "INDEX", "ORDER"] then
    let columns ← columnList
    return "CLUSTERED COLUMNSTORE INDEX ORDER (" ++ commaList (columns.map Ident.render) ++ ")"
  else if ← keywords ["CLUSTERED", "COLUMNSTORE", "INDEX"] then
    return "CLUSTERED COLUMNSTORE INDEX"
  else if ← keywords ["CLUSTERED", "INDEX"] then
    let columns ← parenthesized (commaSeparated (do
      let name ← ident
      return name.render ++ ((← oneOf ["ASC", "DESC"]).map (" " ++ ·)).getD ""))
    return "CLUSTERED INDEX (" ++ commaList columns ++ ")"
  else refuse "invalid CLUSTERED sequence"

/-- The ranges of a column that rows are divided by, in parentheses. -/
def rangePartition (below : Nested) : Parser String :=
  parenthesized (do
    let column ← ident
    expectKeyword "RANGE"
    let side := ((← oneOf ["LEFT", "RIGHT"]).map (" " ++ ·)).getD ""
    expectKeywords ["FOR", "VALUES"]
    let bounds ← parenthesized (exprTexts below)
    return column.render ++ " RANGE" ++ side ++ " FOR VALUES (" ++ bounds ++ ")")

/-- An option of a definition. -/
def definitionOption (below : Nested) : Parser String := do
  if ← when (· matches .mssql | .generic) then
    if ← keyword "HEAP" then return "HEAP"
    else if ← keyword "PARTITION" then return "PARTITION (" ++ (← rangePartition below) ++ ")"
    else if ← atKeyword "CLUSTERED" then clusteredOption
    else keyValue below
  else keyValue below

/-- Options in parentheses behind a key word. -/
def optionsAfter (below : Nested) (key : String) : Parser String := do
  if ← keyword key then
    let options ← parenthesized (commaSeparatedUntil (definitionOption below) ")")
    return " " ++ key ++ " (" ++ commaList options ++ ")"
  else return ""

/-- The cluster that a definition runs on. -/
def onCluster : Parser String := do
  if ← keywords ["ON", "CLUSTER"] then return " ON CLUSTER " ++ (← ident).render else return ""

/-- When a constraint is checked. -/
def constraintCharacteristics : Parser String := do
  let parts ← repeatWhile (do
    if ← keywords ["NOT", "DEFERRABLE"] then return some " NOT DEFERRABLE"
    else if ← keyword "DEFERRABLE" then return some " DEFERRABLE"
    else if ← keyword "INITIALLY" then
      return some (" INITIALLY " ++ (← expectOneOf ["DEFERRED", "IMMEDIATE"]))
    else if ← keywords ["NOT", "ENFORCED"] then return some " NOT ENFORCED"
    else if ← keyword "ENFORCED" then return some " ENFORCED"
    else return none)
  return "".intercalate parts

/-- What happens to referring rows. -/
def referentialAction : Parser String := do
  if ← keyword "RESTRICT" then return "RESTRICT"
  else if ← keyword "CASCADE" then return "CASCADE"
  else if ← keywords ["SET", "NULL"] then return "SET NULL"
  else if ← keywords ["NO", "ACTION"] then return "NO ACTION"
  else if ← keywords ["SET", "DEFAULT"] then return "SET DEFAULT"
  else expected "one of RESTRICT, CASCADE, SET NULL, NO ACTION or SET DEFAULT"

/-- The rules behind a reference. -/
def referenceRules : Parser Unit := do
  discard (repeatWhile (do
    if ← keyword "MATCH" then
      discard (expectOneOf ["FULL", "PARTIAL", "SIMPLE"])
      return some ()
    else if ← keywords ["ON", "DELETE"] <||> keywords ["ON", "UPDATE"] then
      discard referentialAction
      return some ()
    else return none))
  discard constraintCharacteristics

/-- The table and columns referred to. -/
def reference : Parser ObjectName := do
  let table ← objectName false
  discard (optionalIdentList false)
  referenceRules
  return table

/-- The text of a comment. -/
def commentValue : Parser String := do
  let found ← next
  match found with
  | some ⟨.text .single text, _, _, _⟩ => return text
  | some ⟨.dollar _ text, _, _, _⟩ => return text
  | _ => unexpected "string literal" found

/-- A bound of a sequence, or that there is none. -/
def sequenceBound (key : String) : Parser Unit := do
  if ← keyword key then discard signedNumber
  else discard (keywords ["NO", key])

/-- The options of a sequence. -/
def sequenceOptions : Parser Unit := do
  if ← keyword "INCREMENT" then
    discard (keyword "BY")
    discard signedNumber
  sequenceBound "MINVALUE"
  sequenceBound "MAXVALUE"
  if ← keyword "START" then
    discard (keyword "WITH")
    discard signedNumber
  if ← keyword "CACHE" then discard signedNumber
  if !(← keywords ["NO", "CYCLE"]) then discard (keyword "CYCLE")

/-- The options of a sequence in parentheses, if a parenthesis stands next. -/
def sequenceOptionsInParentheses : Parser Unit := do
  if ← symbol "(" then
    sequenceOptions
    expectSymbol ")"

/-- What stands behind GENERATED; `none` if it says nothing. -/
def generatedOption (below : Nested) : Parser (Option ColumnOption) := do
  if ← keywords ["ALWAYS", "AS", "IDENTITY"] <||> keywords ["BY", "DEFAULT", "AS", "IDENTITY"] then
    sequenceOptionsInParentheses
    return some .other
  else if ← keywords ["ALWAYS", "AS"] then
    if ← symbol "(" then
      discard (within .plain (exprText below))
      expectSymbol ")"
      if !(← keyword "STORED") then
        if ← when (· matches .postgres) then expected "STORED"
        discard (keyword "VIRTUAL")
      return some .other
    else return none
  else return none

/-- A seed and a step in parentheses, if a parenthesis stands next; whether they do. -/
def seedAndStep : Parser Bool := do
  if ← symbol "(" then
    discard signedNumber
    expectSymbol ","
    discard signedNumber
    expectSymbol ")"
    return true
  else return false

/-- The identity of a column behind its key word. -/
def identityParameters : Parser Unit := do
  if !(← seedAndStep) then
    if ← keyword "START" then
      discard signedNumber
      expectKeyword "INCREMENT"
      discard signedNumber
  if !(← keyword "ORDER") then discard (keyword "NOORDER")

/-- Tags with their values, in parentheses. -/
def tags : Parser Unit :=
  discard (parenthesized (commaSeparated (do
    discard (objectName false)
    expectSymbol "="
    literalString)))

/-- An option that only one dialect knows; `none` if none stands next. -/
def dialectColumnOption : Parser (Option ColumnOption) := do
  if !(← when (· matches .snowflake)) then return none
  let start ← get
  discard (keyword "WITH")
  if ← anyKeyword ["IDENTITY", "AUTOINCREMENT"] then
    identityParameters
    return some .other
  else if ← keywords ["MASKING", "POLICY"] <||> keywords ["PROJECTION", "POLICY"] then
    discard (objectName false)
    if ← keyword "USING" then discard identList
    return some .other
  else if ← keyword "TAG" then
    tags
    return some .other
  else
    set start
    return none

/-- What a column definition says behind the type; `none` if it says no more.  A key word that only
other dialects give a meaning is taken and says nothing. -/
def columnOption (below : Nested) : Parser (Option ColumnOption) := do
  match ← dialectColumnOption with
  | some option => return some option
  | none =>
    let dialect ← dialect
    let other {α : Type} (parser : Parser α) : Parser (Option ColumnOption) := do
      discard parser
      return some .other
    within .columnDefinition (do
      if ← keywords ["CHARACTER", "SET"] then other (objectName false)
      else if ← keyword "COLLATE" then other (objectName false)
      else if ← keywords ["NOT", "NULL"] then return some .other
      else if ← keyword "COMMENT" then other commentValue
      else if ← keyword "NULL" then return some .other
      else if ← keyword "DEFAULT" then other (exprText below)
      else if ← pure (dialect matches .clickhouse | .generic)
          <&&> anyKeyword ["MATERIALIZED", "ALIAS"] then
        other (exprText below)
      else if ← pure (dialect matches .clickhouse | .generic) <&&> keyword "EPHEMERAL" then
        if (← atSymbol ",") || (← atSymbol ")") then return some .other
        else other (exprText below)
      else if ← keywords ["PRIMARY", "KEY"] then other constraintCharacteristics
      else if ← keyword "UNIQUE" then other constraintCharacteristics
      else if ← keyword "REFERENCES" then return some (.references (← reference))
      else if ← keyword "CHECK" then
        other (parenthesized (within .plain (exprText below)))
      else if ← keyword "AUTO_INCREMENT" <&&> pure (dialect matches .mysql | .generic) then
        return some .other
      else if ← keyword "AUTOINCREMENT" <&&> pure (dialect matches .sqlite | .generic) then
        return some .other
      else if ← keyword "ASC" <&&> pure dialect.ordersInColumnDefinitions then
        return some .other
      else if ← keyword "DESC" <&&> pure dialect.ordersInColumnDefinitions then
        return some .other
      else if ← keywords ["ON", "UPDATE"] <&&> pure (dialect matches .mysql | .generic) then
        other (exprText below)
      else if ← keyword "GENERATED" then generatedOption below
      else if (dialect matches .bigquery | .generic) && (← atKeyword "OPTIONS") then
        other (optionsAfter below "OPTIONS")
      else if ← keyword "AS" <&&> pure (dialect matches .mysql | .sqlite | .duckdb | .generic) then
        discard (parenthesized (exprText below))
        if !(← keyword "STORED") then discard (keyword "VIRTUAL")
        return some .other
      else if ← keyword "SRID" <&&> pure (dialect matches .mysql | .generic) then
        other (exprText below)
      else if ← keyword "IDENTITY" <&&> pure (dialect matches .mssql | .generic) then
        other seedAndStep
      else if ← pure (dialect matches .sqlite | .generic) <&&> keywords ["ON", "CONFLICT"] then
        other (expectOneOf ["ROLLBACK", "ABORT", "FAIL", "IGNORE", "REPLACE"])
      else return none)

/-- Whether a column has no type. -/
def hasNoType : Parser Bool := do
  if ← when (· matches .sqlite) then
    match ← peek with
    | some ⟨.word _ _, _, key, _⟩ =>
      return ["CONSTRAINT", "PRIMARY", "NOT", "UNIQUE", "CHECK", "DEFAULT", "COLLATE", "REFERENCES",
        "GENERATED", "AS"].contains key
    | _ => return true
  else return false

/-- The definition of a column. -/
def columnDef (below : Nested) : Parser ColumnDef := do
  let name ← ident
  if !(← hasNoType) then discard dataType
  let options ← repeatWhile (do
    if ← keyword "CONSTRAINT" then
      discard ident
      match ← columnOption below with
      | some option => return some option
      | none => expected "constraint details after CONSTRAINT <name>"
    else columnOption below)
  return ⟨name, options⟩

/-- A column of an index: an expression, possibly with the name of its operators, and its order. -/
def indexColumn (below : Nested) : Parser String := do
  let text ← exprText below
  let operators ←
    if ← atOneOf ["ASC", "DESC", "NULLS", "WITH"] then pure none
    else attempt (objectName false)
  let operatorText := (operators.map (fun name => " " ++ name.render)).getD ""
  return text ++ operatorText ++ (← sortOrder below)

/-- The columns of an index, in parentheses. -/
def indexColumns (below : Nested) : Parser String := do
  return "(" ++ commaList (← columnListOf (indexColumn below)) ++ ")"

/-- The method of an index, if one is named. -/
def indexMethod : Parser Unit := do
  if ← keyword "USING" then discard ident

/-- The options behind an index. -/
def indexOptions : Parser Unit :=
  discard (repeatWhile (do
    if ← keyword "USING" then
      discard ident
      return some ()
    else if ← keyword "COMMENT" then
      discard literalString
      return some ()
    else return none))

/-- The index of a unique or primary key. -/
def keyConstraint (below : Nested) : Parser Unit := do
  discard optionalIdent
  indexMethod
  discard (indexColumns below)
  indexOptions
  discard constraintCharacteristics

/-- A constraint of a whole table; `none` if a column is defined next. -/
def tableConstraint (below : Nested) : Parser (Option TableConstraint) := do
  let dialect ← dialect
  let named ← after "CONSTRAINT" ident
  let start ← get
  let found ← next
  let key := (found.map (·.key)).getD ""
  let mysql := dialect matches .mysql | .generic
  match key with
  | "UNIQUE" =>
    if ← anyKeyword ["KEY", "INDEX"] <&&> pure (!mysql) then
      expected "`index_name` or `(column_name [, ...])`"
    if ← keyword "NULLS" then
      discard (keyword "NOT")
      expectKeyword "DISTINCT"
    keyConstraint below
    return some .other
  | "PRIMARY" =>
    expectKeyword "KEY"
    keyConstraint below
    return some .other
  | "FOREIGN" =>
    expectKeyword "KEY"
    discard optionalIdent
    let columns ← columnList
    expectKeyword "REFERENCES"
    return some (.foreignKey columns (← reference))
  | "CHECK" =>
    discard (parenthesized (exprText below))
    if !(← keyword "ENFORCED") then discard (keywords ["NOT", "ENFORCED"])
    return some .other
  | _ =>
    if mysql && named.isNone && (key == "INDEX" || key == "KEY") then
      if !(← atKeyword "USING") then discard optionalIdent
      indexMethod
      discard (indexColumns below)
      indexOptions
      return some .other
    else if mysql && (key == "FULLTEXT" || key == "SPATIAL") then
      if let some name := named then
        let place := found.map (fun lexeme => { lexeme with token := .word name.render none })
        unexpected "FULLTEXT or SPATIAL option without constraint name" place
      discard (oneOf ["KEY", "INDEX"])
      discard optionalIdent
      discard (indexColumns below)
      return some .other
    else if named.isSome then unexpected "PRIMARY, UNIQUE, FOREIGN, or CHECK" found
    else
      set start
      return none

/-- An element of a table definition: a column, or a constraint. -/
inductive TableElement where
  | column (definition : ColumnDef)
  | constraint (constraint : TableConstraint)

/-- The elements of a table definition behind the opening parenthesis. -/
def tableElementsWithin (below : Nested) : Nat → Parser (List TableElement)
  | 0 => return []
  | steps + 1 => do
    let element : TableElement ←
      match ← tableConstraint below with
      | some constraint => pure (.constraint constraint)
      | none =>
        match ← peek with
        | some ⟨.word .., _, _, _⟩ => pure (.column (← columnDef below))
        | _ => expected "column name or constraint definition"
    let comma ← symbol ","
    let closing ← atSymbol ")"
    if !comma && !closing then expected "',' or ')' after column definition"
    if closing && (!comma || (← when Dialect.allowsTrailingColumnComma)) then
      drop 1
      return [element]
    else return element :: (← tableElementsWithin below steps)

/-- The columns among the elements of a table. -/
def columnsOf (elements : List TableElement) : List ColumnDef :=
  elements.filterMap (fun element =>
    match element with
    | .column definition => some definition
    | .constraint _ => none)

/-- The constraints among the elements of a table. -/
def constraintsOf (elements : List TableElement) : List TableConstraint :=
  elements.filterMap (fun element =>
    match element with
    | .column _ => none
    | .constraint constraint => some constraint)

/-- The elements of a table definition in parentheses, if a parenthesis stands next. -/
def tableElements (below : Nested) : Parser (List TableElement) := do
  if ← (not <$> symbol "(") <||> symbol ")" then return []
  else tableElementsWithin below (← budget)

/-- What separates the parts of a row in a file; `none` if no more is said of it.  The key word of
a part is taken even if the rest of its rule does not follow. -/
def rowDelimiter : Parser (Option Unit) := do
  let rule (words : List String) : Parser (Option Unit) := do
    if ← keywords words then
      discard ident
      return some ()
    else return none
  match ← oneOf ["FIELDS", "COLLECTION", "MAP", "LINES", "NULL"] with
  | some "FIELDS" =>
    let found ← rule ["TERMINATED", "BY"]
    if ← pure found.isSome <&&> keywords ["ESCAPED", "BY"] then discard ident
    return found
  | some "COLLECTION" => rule ["ITEMS", "TERMINATED", "BY"]
  | some "MAP" => rule ["KEYS", "TERMINATED", "BY"]
  | some "LINES" => rule ["TERMINATED", "BY"]
  | some _ => rule ["DEFINED", "AS"]
  | none => return none

/-- The storage of a table; `none` if no more is said of it. -/
def storageOption (below : Nested) : Parser (Option Unit) := do
  match ← oneOf ["ROW", "STORED", "LOCATION"] with
  | some "ROW" =>
    expectKeyword "FORMAT"
    if ← keyword "SERDE" then discard literalString
    else
      discard (keyword "DELIMITED")
      discard (repeatWhile rowDelimiter)
    return some ()
  | some "STORED" =>
    expectKeyword "AS"
    if ← keyword "INPUTFORMAT" then
      discard (exprText below)
      expectKeyword "OUTPUTFORMAT"
      discard (exprText below)
    else fileFormat
    return some ()
  | some _ =>
    discard literalString
    return some ()
  | none =>
    if ← keywords ["WITH", "SERDEPROPERTIES"] then
      discard (parenthesized (commaSeparated (definitionOption below)))
      return some ()
    else return none

/-- The storage of a table. -/
def storageOptions (below : Nested) : Parser Unit :=
  discard (repeatWhile (storageOption below))

/-- The keys of options that need no parentheses. -/
def plainOptionKeys : List (List String) :=
  [["DEFAULT", "CHARSET"], ["CHARSET"], ["DEFAULT", "CHARACTER", "SET"], ["CHARACTER", "SET"],
    ["DEFAULT", "COLLATE"], ["COLLATE"], ["DATA", "DIRECTORY"], ["INDEX", "DIRECTORY"],
    ["KEY_BLOCK_SIZE"], ["ROW_FORMAT"], ["PACK_KEYS"], ["STATS_AUTO_RECALC"], ["STATS_PERSISTENT"],
    ["STATS_SAMPLE_PAGES"], ["DELAY_KEY_WRITE"], ["COMPRESSION"], ["ENCRYPTION"], ["MAX_ROWS"],
    ["MIN_ROWS"], ["AUTOEXTEND_SIZE"], ["AVG_ROW_LENGTH"], ["CHECKSUM"], ["CONNECTION"],
    ["ENGINE_ATTRIBUTE"], ["PASSWORD"], ["SECONDARY_ENGINE_ATTRIBUTE"], ["INSERT_METHOD"],
    ["AUTO_INCREMENT"]]

/-- Where the rows of a table space are kept. -/
def spaceStorage : Parser Unit := do
  if ← keyword "STORAGE" then
    discard (symbol "=")
    let found ← next
    match found with
    | some ⟨.word value _, _, _, _⟩ =>
      if ! ["DISK", "MEMORY"].contains (Text.upper value) then
        unexpected "Storage type (DISK or MEMORY)" found
    | _ => unexpected "Token::Word" found

/-- An option without parentheses; `none` if none stands next. -/
def plainOption : Parser (Option Unit) := do
  if ← keywords ["START", "TRANSACTION"] then return some ()
  if ← keyword "COMMENT" then
    discard (symbol "=")
    match ← next with
    | some ⟨.text .single _, _, _, _⟩ => return some ()
    | found =>
      let text := (found.map (·.token.render)).getD "EOF"
      refuse ("Expected: Token::SingleQuotedString, found: " ++ text)
  if ← keyword "ENGINE" then
    discard (symbol "=")
    let found ← next
    match found with
    | some ⟨.word .., _, _, _⟩ =>
      if ← atSymbol "(" then discard identListOrEmpty
      return some ()
    | _ => unexpected "Token::Word" found
  if ← keyword "TABLESPACE" then
    discard (symbol "=")
    let found ← next
    match found with
    | some ⟨.word .., _, _, _⟩ | some ⟨.text .single _, _, _, _⟩ =>
      spaceStorage
      return some ()
    | _ => unexpected "Token::Word" found
  if ← keyword "UNION" then
    discard (symbol "=")
    if ← atSymbol "(" then discard identListOrEmpty else expected "Token::LParen"
    return some ()
  for keys in plainOptionKeys do
    if ← keywords keys then
      discard (symbol "=")
      match ← attempt value with
      | some _ => return some ()
      | none =>
        discard ident
        return some ()
  return none

/-- Options between the elements of a table and its query. -/
def tableConfiguration (below : Nested) : Parser Unit := do
  let dialect ← dialect
  if ← keyword "INHERITS" then discard (columnListOf (objectName false))
  let with_ ← optionsAfter below "WITH"
  let properties ← optionsAfter below "TBLPROPERTIES"
  if dialect matches .bigquery | .postgres | .generic then
    if ← keywords ["PARTITION", "BY"] then discard (exprText below)
  let options ←
    if dialect matches .bigquery | .generic then do
      if ← keywords ["CLUSTER", "BY"] then discard (exprTexts below)
      optionsAfter below "OPTIONS"
    else pure ""
  if dialect != .hive && with_.isEmpty && properties.isEmpty && options.isEmpty then
    discard (repeatWhile (do
      let option ← plainOption
      if option.isSome then discard (symbol ",")
      return option))

/-- What becomes of the rows of a temporary table. -/
def onCommit : Parser Unit := do
  if ← not <$> (keywords ["DELETE", "ROWS"] <||> keywords ["PRESERVE", "ROWS"]
      <||> keyword "DROP") then
    let found := ((← peek).map (·.token.render)).getD "EOF"
    refuse ("Expecting DELETE ROWS, PRESERVE ROWS or DROP" ++ found)

/-- The table that a new one is like. -/
def likeClause : Parser Unit := do
  let opens ← when Dialect.hasLikeInParentheses <&&> atSymbol "("
  if opens && (← peekKeyAt 1) == "LIKE" then
    drop 2
    discard (objectName true)
    if !(← keywords ["INCLUDING", "DEFAULTS"]) then discard (keywords ["EXCLUDING", "DEFAULTS"])
    expectSymbol ")"
  else if ← anyKeyword ["LIKE", "ILIKE"] then discard (objectName true)

/-- A definition of a table behind the words that open it. -/
def createTable (below : Nested) (opening : String) : Parser CreateTable := do
  let dialect ← dialect
  discard (keywords ["IF", "NOT", "EXISTS"])
  let name ← objectName true
  discard onCluster
  likeClause
  if ← keyword "CLONE" then discard (attempt (objectName true))
  let elements ← tableElements below
  if ← pure (dialect == .hive) <&&> keyword "COMMENT" then
    let found ← next
    match found with
    | some ⟨.text .single _, _, _, _⟩ => pure ()
    | _ => unexpected "comment" found
  discard (keywords ["WITHOUT", "ROWID"])
  if ← keywords ["PARTITIONED", "BY"] then
    discard (parenthesized (commaSeparated (columnDef below)))
  if ← pure (dialect matches .hive | .generic) <&&> keywords ["CLUSTERED", "BY"] then
    discard columnList
    if ← keywords ["SORTED", "BY"] then
      discard (parenthesized (commaSeparated (orderByExpr below)))
    expectKeyword "INTO"
    discard numberValue
    expectKeyword "BUCKETS"
  storageOptions below
  tableConfiguration below
  if ← pure (dialect matches .clickhouse | .generic) <&&> keywords ["PRIMARY", "KEY"] then
    discard (exprText below)
  if ← keywords ["ORDER", "BY"] then
    if ← atSymbol "(" then discard (parenthesized (commaSeparatedUntil (exprText below) ")"))
    else discard (exprText below)
  if ← keywords ["ON", "COMMIT"] then onCommit
  discard (keyword "STRICT")
  let query ←
    if ← keyword "AS" then pure (some (← below.query))
    else if dialect.hasCreateTableSelect && (← atKeyword "SELECT") then
      pure (some (← below.query))
    else pure none
  return ⟨opening, name, columnsOf elements, constraintsOf elements, query⟩

/-- A part of a definition of a table in a dialect that takes the parts in any order. -/
inductive TablePart where
  | elements (elements : List TableElement)
  | query (query : Query)
  | other

/-- A switch that is on or off. -/
def switch : Parser Unit := do
  if (← oneOf ["TRUE", "FALSE"]).isNone then expected "TRUE or FALSE"

/-- The value of a part that stands behind an equals sign; `none` if the part has no such value. -/
def partValue? (key : String) : Option (Parser Unit) :=
  let text : Parser Unit := discard literalString
  let number : Parser Unit := discard literalUint
  let choice (keys : List String) (what : String) : Parser Unit := do
    if (← oneOf keys).isNone then expected what
  match key with
  | "ENABLE_SCHEMA_EVOLUTION" | "CHANGE_TRACKING" => some switch
  | "DATA_RETENTION_TIME_IN_DAYS" | "MAX_DATA_EXTENSION_TIME_IN_DAYS" => some number
  | "DEFAULT_DDL_COLLATION" | "EXTERNAL_VOLUME" | "CATALOG" | "BASE_LOCATION" | "CATALOG_SYNC"
  | "TARGET_LAG" => some text
  | "WAREHOUSE" => some (discard ident)
  | "STORAGE_SERIALIZATION_POLICY" =>
    some (choice ["COMPATIBLE", "OPTIMIZED"] "storage_serialization_policy")
  | "REFRESH_MODE" => some (choice ["AUTO", "FULL", "INCREMENTAL"] "AUTO, FULL or INCREMENTAL")
  | "INITIALIZE" => some (choice ["ON_CREATE", "ON_SCHEDULE"] "ON_CREATE or ON_SCHEDULE")
  | _ => none

/-- A part of a definition of a table; `none` at its end. -/
def tablePart (below : Nested) : Parser (Option TablePart) := do
  if ← atSemicolonOrEnd then return none
  if ← atSymbol "(" then return some (.elements (← tableElements below))
  let found ← peek
  drop 1
  match (found.map (·.key)).getD "" with
  | "COPY" =>
    expectKeyword "GRANTS"
    return some .other
  | "COMMENT" =>
    discard (symbol "=")
    discard commentValue
    return some .other
  | "AS" => return some (.query (← below.query))
  | "CLONE" =>
    discard (attempt (objectName false))
    return some .other
  | "LIKE" =>
    discard (objectName false)
    return some .other
  | "CLUSTER" =>
    expectKeyword "BY"
    discard (parenthesized (exprTexts below))
    return some .other
  | "WITH" =>
    if !(← atOneOf ["AGGREGATION", "TAG", "ROW"]) then
      expected "one of AGGREGATION or TAG or ROW"
    return some .other
  | "AGGREGATION" =>
    expectKeyword "POLICY"
    discard (objectName false)
    return some .other
  | "ROW" =>
    expectKeywords ["ACCESS", "POLICY"]
    discard (objectName false)
    expectKeyword "ON"
    discard identList
    return some .other
  | "TAG" =>
    tags
    return some .other
  | "AT" | "BEFORE" =>
    discard (functionCall below ((found.map (·.token.render)).getD ""))
    return some .other
  | "ON" =>
    if ← keyword "COMMIT" then
      onCommit
      return some .other
    else unexpected "end of statement" found
  | "IF" =>
    if ← keywords ["NOT", "EXISTS"] then return some .other else unexpected "end of statement" found
  | "REQUIRE" =>
    if ← keyword "USER" then return some .other else unexpected "end of statement" found
  | key =>
    match partValue? key with
    | some value =>
      expectSymbol "="
      value
      return some .other
    | none => unexpected "end of statement" found

/-- A definition of a table whose parts stand in any order. -/
def createTableOfParts (below : Nested) (opening : String) : Parser CreateTable := do
  discard (keywords ["IF", "NOT", "EXISTS"])
  let name ← objectName false
  let parts ← repeatWhile (tablePart below)
  let elements := (parts.filterMap (fun part =>
    match part with
    | .elements elements => some elements
    | _ => none)).getLast?.getD []
  let query := (parts.filterMap (fun part =>
    match part with
    | .query query => some query
    | _ => none)).getLast?
  return ⟨opening, name, columnsOf elements, constraintsOf elements, query⟩

/-- A definition of a table that lies outside the database. -/
def createExternalTable (below : Nested) (opening : String) : Parser CreateTable := do
  expectKeyword "TABLE"
  discard (keywords ["IF", "NOT", "EXISTS"])
  let name ← objectName false
  let elements ← tableElements below
  if ← keywords ["PARTITIONED", "BY"] then
    discard (parenthesized (commaSeparated (columnDef below)))
  storageOptions below
  discard (optionsAfter below "TBLPROPERTIES")
  return ⟨opening, name, columnsOf elements, constraintsOf elements, none⟩

/-- A column of a view. -/
def viewColumn (below : Nested) : Parser Unit := do
  discard ident
  discard (repeatWhile (columnOption below))
  if ← when (· matches .clickhouse) then discard dataType

/-- The columns of a view in parentheses, if a parenthesis stands next. -/
def viewColumns (below : Nested) : Parser Unit := do
  if ← symbol "(" <&&> (not <$> symbol ")") then
    let trailing ← when Dialect.allowsTrailingColumnComma
    discard (separated (viewColumn below)
      (commaGoesOn trailing Dialect.reservedForColumns.contains))
    expectSymbol ")"

/-- What MySQL says before VIEW. -/
def viewParameters : Parser Unit := do
  if ← keyword "ALGORITHM" then
    expectSymbol "="
    discard (expectOneOf ["UNDEFINED", "MERGE", "TEMPTABLE"])
  if ← keyword "DEFINER" then
    expectSymbol "="
    granteeName
  if ← keywords ["SQL", "SECURITY"] then discard (expectOneOf ["DEFINER", "INVOKER"])

/-- A definition of a view behind the words that open it. -/
def createView (below : Nested) (opening : String) : Parser CreateView := do
  let dialect ← dialect
  let secure ← textIf (keyword "SECURE") " SECURE"
  let materialized ← textIf (keyword "MATERIALIZED") " MATERIALIZED"
  expectKeyword "VIEW"
  let early ← keywords ["IF", "NOT", "EXISTS"]
  let name ← objectName true
  if !early then discard (keywords ["IF", "NOT", "EXISTS"])
  viewColumns below
  discard (optionsAfter below "WITH")
  if ← keyword "CLUSTER" then
    expectKeyword "BY"
    discard (optionalIdentList false)
  if dialect matches .bigquery | .generic then discard (optionsAfter below "OPTIONS")
  if ← when (· matches .clickhouse | .generic) <&&> keyword "TO" then discard (objectName false)
  if ← pure (dialect matches .snowflake | .generic) <&&> keyword "COMMENT" then
    expectSymbol "="
    discard commentValue
  expectKeyword "AS"
  let query ← below.query
  if dialect matches .redshift | .generic then
    discard (keywords ["WITH", "NO", "SCHEMA", "BINDING"])
  return ⟨opening ++ secure ++ materialized ++ " VIEW", name, query⟩

end SqlLineage.Sql.Parse
