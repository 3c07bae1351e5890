import SqlLineage.Sql.Grammar.Blocks

/-!
# Sessions

Variables, transactions, what a session shows and uses, cursors and prepared statements.  Each is
read behind its first key word.
-/

namespace SqlLineage.Sql.Parse

/-- The token that stands behind the place where a fault arose. -/
def behindFault (fault : Fault) (start : Stream) : Option Lexeme :=
  match fault with
  | .expected _ (some found) =>
    ((start.rest.dropWhile (fun lexeme => lexeme.position != found.position)).drop 1).head?
  | .expected _ none => none
  | _ => start.rest.head?

/-- The value of a variable. -/
def variableValue (below : Nested) : Parser String := do
  let start ← get
  match (exprText below).run start with
  | .ok (text, rest) =>
    set rest
    return text
  | .error .tooDeep => throw .tooDeep
  | .error fault => unexpected "variable value" (behindFault fault start)

/-- The values of a variable. -/
def variableValues (below : Nested) : Parser String := do
  return commaList (← separated (variableValue below) (symbol ","))

/-- Whether a value follows. -/
def assigns : Parser Bool := do
  symbol "=" <||> keyword "TO"

/-- What a variable or a transaction belongs to; empty if it is not said. -/
def scopeWord : Parser String := do
  return ((← oneOf ["LOCAL", "SESSION", "GLOBAL"]).map (· ++ " ")).getD ""

/-- The modes of a transaction. -/
def transactionModesWithin : Nat → Bool → Parser (List String)
  | 0, _ => return []
  | steps + 1, required => do
    let mode : Option String ←
      if ← keywords ["ISOLATION", "LEVEL"] then do
        let mut level := ""
        for words in [["READ", "UNCOMMITTED"], ["READ", "COMMITTED"], ["REPEATABLE", "READ"],
            ["SERIALIZABLE"], ["SNAPSHOT"]] do
          if ← pure level.isEmpty <&&> keywords words then level := " ".intercalate words
        if level.isEmpty then expected "isolation level"
        pure (some ("ISOLATION LEVEL " ++ level))
      else if ← keywords ["READ", "ONLY"] then pure (some "READ ONLY")
      else if ← keywords ["READ", "WRITE"] then pure (some "READ WRITE")
      else if required then expected "transaction mode"
      else pure none
    match mode with
    | none => return []
    | some mode => return mode :: (← transactionModesWithin steps (← symbol ","))

/-- The modes of a transaction, behind a blank if there are any. -/
def transactionModes : Parser String := do
  let modes ← transactionModesWithin (← budget) false
  return if modes.isEmpty then "" else " " ++ commaList modes

/-- `name = value` in a list of variables. -/
def variableAssignment (below : Nested) : Parser String := do
  let scope ← scopeWord
  if (← when Dialect.setsTupleVariables) && (← atSymbol "(") then
    expected "Unparenthesized assignment"
  let name ← objectName false
  if !(← assigns) then expected "assignment operator"
  return scope ++ name.render ++ " = " ++ (← exprText below)

/-- ON or OFF. -/
def onOrOff : Parser String := do
  match ← oneOf ["ON", "OFF"] with
  | some key => return key
  | none => expected "ON or OFF"

/-- A word that stands for itself. -/
def plainWord (what : String) : Parser String := do
  let found ← next
  match found with
  | some ⟨.word .., _, _, _⟩ => return (found.map (·.token.render)).getD ""
  | _ => unexpected what found

/-- Settings of a session that take no operator. -/
def sessionSetting (below : Nested) : Parser String := do
  if ← keyword "STATISTICS" then
    match ← oneOf ["IO", "PROFILE", "TIME", "XML"] with
    | some topic => return "STATISTICS " ++ topic ++ " " ++ (← onOrOff)
    | none => expected "IO, PROFILE, TIME or XML"
  else if ← keyword "IDENTITY_INSERT" then
    let table ← objectName false
    return "IDENTITY_INSERT " ++ table.render ++ " " ++ (← onOrOff)
  else if ← keyword "OFFSETS" then
    let words ← commaSeparated (plainWord "SQL keyword")
    return "OFFSETS " ++ commaList words ++ " " ++ (← onOrOff)
  else
    let names ← commaSeparated (plainWord "Session param name")
    return commaList names ++ " " ++ (← exprText below)

/-- The role of a session. -/
def roleSetting (scope : String) : Parser String := do
  expectKeyword "ROLE"
  if ← keyword "NONE" then return "SET " ++ scope ++ "ROLE NONE"
  else return "SET " ++ scope ++ "ROLE " ++ (← ident).render

/-- The names of the characters that a session uses. -/
def namesSetting : Parser String := do
  if ← keyword "DEFAULT" then return "SET NAMES DEFAULT"
  else
    let charset ← ident
    if ← keyword "COLLATE" then discard literalString
    return "SET NAMES " ++ charset.render

/-- The variables of a SET without a name of its own. -/
def variableSetting (below : Nested) (scope hive : String) (start : Stream) : Parser String := do
  let dialect ← dialect
  let several ←
    if dialect.setsSeveralVariables then do
      if !scope.isEmpty then set start
      attempt (commaSeparated (variableAssignment below))
    else pure none
  match several with
  | some [assignment] => return "SET " ++ hive ++ assignment
  | some assignments => return "SET " ++ commaList assignments
  | none =>
    let before ← get
    let tuple ←
      if ← pure dialect.setsTupleVariables <&&> symbol "(" then do
        let names ← commaSeparated ident
        expectSymbol ")"
        pure (some ("(" ++ commaList (names.map Ident.render) ++ ")"))
      else pure none
    let name ← match tuple with
      | some names => pure names
      | none => pure (← objectName false).render
    if ← assigns then
      let values ←
        if tuple.isSome then parenthesized (variableValues below) else variableValues below
      return "SET " ++ scope ++ hive ++ name ++ " = " ++ values
    else if dialect == .mssql then
      set before
      return "SET " ++ (← sessionSetting below)
    else expected "equals sign or TO"

/-- A SET. -/
def setStatement (below : Nested) : Parser String := do
  let hivevar ← keyword "HIVEVAR"
  let start ← get
  let scope ← if hivevar then pure "" else scopeWord
  if hivevar then expectSymbol ":"
  let hive := if hivevar then "HIVEVAR:" else ""
  match ← attempt (roleSetting scope) with
  | some text => return text
  | none =>
    if ← keywords ["TIME", "ZONE"] <||> keyword "TIMEZONE" then
      if ← assigns then
        return "SET " ++ scope ++ hive ++ "TIMEZONE = " ++ (← variableValues below)
      else
        let local_ := if scope == "LOCAL " then "LOCAL " else ""
        return "SET " ++ local_ ++ "TIME ZONE " ++ (← exprText below)
    else if ← when (· matches .mysql | .postgres | .generic) <&&> keyword "NAMES" then
      namesSetting
    else if ← keyword "CHARACTERISTICS" then
      expectKeywords ["AS", "TRANSACTION"]
      return "SET SESSION CHARACTERISTICS AS TRANSACTION" ++ (← transactionModes)
    else if ← keyword "TRANSACTION" then
      if ← keyword "SNAPSHOT" then return "SET TRANSACTION SNAPSHOT " ++ (← value)
      else return "SET TRANSACTION" ++ (← transactionModes)
    else
      let authorization ← peek
      if ← keyword "AUTHORIZATION" then
        if scope.isEmpty then
          unexpected "SESSION, LOCAL, or other scope modifier before AUTHORIZATION" authorization
        let user ← if ← keyword "DEFAULT" then pure "DEFAULT" else pure (← ident).render
        return "SET " ++ scope ++ "AUTHORIZATION " ++ user
      else variableSetting below scope hive start

/-- A filter of what is shown. -/
def showFilter (below : Nested) : Parser Unit := do
  if ← anyKeyword ["LIKE", "ILIKE"] then discard literalString
  else if ← keyword "WHERE" then discard (exprText below)
  else discard (attempt literalString)

/-- Where what is shown is looked for. -/
def showPlace : Parser Unit := do
  if ← anyKeyword ["FROM", "IN"] then
    let kind ← oneOf ["ACCOUNT", "DATABASE", "SCHEMA", "TABLE", "VIEW"]
    if kind.isSome then
      let goesOn := (← atKeywords ["STARTS", "WITH"]) || (← atKeyword "LIMIT")
      if !(goesOn && (kind == some "DATABASE" || kind == some "SCHEMA")) then
        discard (attempt (objectName false))
    else
      discard (objectName false)
      if ← anyKeyword ["FROM", "IN"] then discard ident

/-- Which of the objects of a kind are shown. -/
def showOptions (below : Nested) : Parser Unit := do
  if ← when (· matches .snowflake) then
    showFilter below
    showPlace
  else
    showPlace
    showFilter below
  if ← keywords ["STARTS", "WITH"] then discard value
  if ← keyword "LIMIT" then discard (limitValue below)
  if ← keyword "FROM" then discard value

/-- The words up to the end of a statement; other tokens among them are skipped. -/
def remainingWords : Parser (List String) := do
  let rest := (← get).rest
  let taken := rest.takeWhile (fun lexeme =>
    !(lexeme.token == .symbol "=" || lexeme.token == .symbol ";"))
  drop taken.length
  return taken.filterMap (fun lexeme =>
    match lexeme.token with
    | .word .. => some lexeme.token.render
    | _ => none)

/-- The kinds of objects that a SHOW CREATE shows. -/
def createKinds : List String :=
  ["TABLE", "TRIGGER", "FUNCTION", "PROCEDURE", "EVENT", "VIEW"]

/-- A SHOW. -/
def showStatement (below : Nested) : Parser String := do
  let dialect ← dialect
  let mysql := dialect matches .mysql | .generic
  let terse ← textIf (keyword "TERSE") "TERSE "
  if ← pure (dialect == .snowflake) <&&> keyword "OBJECTS" then
    showOptions below
    return "SHOW " ++ terse ++ "OBJECTS"
  let extended ← textIf (keyword "EXTENDED") "EXTENDED "
  let full ← textIf (keyword "FULL") "FULL "
  let session ← textIf (keyword "SESSION") "SESSION "
  let global ← textIf (keyword "GLOBAL") "GLOBAL "
  let external ← textIf (keyword "EXTERNAL") "EXTERNAL "
  if ← anyKeyword ["COLUMNS", "FIELDS"] then
    showOptions below
    return "SHOW " ++ extended ++ full ++ "COLUMNS"
  else if ← keyword "TABLES" then
    showOptions below
    return "SHOW " ++ terse ++ extended ++ full ++ external ++ "TABLES"
  else if ← keywords ["MATERIALIZED", "VIEWS"] then
    showOptions below
    return "SHOW " ++ terse ++ "MATERIALIZED VIEWS"
  else if ← keyword "VIEWS" then
    showOptions below
    return "SHOW " ++ terse ++ "VIEWS"
  else if ← keyword "FUNCTIONS" then
    showFilter below
    return "SHOW FUNCTIONS"
  else if !extended.isEmpty || !full.isEmpty then
    refuse "EXTENDED/FULL are not supported with this type of SHOW query"
  else if ← keyword "CREATE" then
    let kind ← expectOneOf createKinds
    return "SHOW CREATE " ++ kind ++ " " ++ (← objectName false).render
  else if ← keyword "COLLATION" then
    showFilter below
    return "SHOW COLLATION"
  else
    let variableNames ← keyword "VARIABLES"
    if variableNames && mysql then
      showFilter below
      return "SHOW " ++ global ++ session ++ "VARIABLES"
    let status ← keyword "STATUS"
    if status && mysql then
      showFilter below
      return "SHOW " ++ global ++ session ++ "STATUS"
    else if ← keyword "DATABASES" then
      discard (keyword "HISTORY")
      showOptions below
      return "SHOW " ++ terse ++ "DATABASES"
    else if ← keyword "SCHEMAS" then
      discard (keyword "HISTORY")
      showOptions below
      return "SHOW " ++ terse ++ "SCHEMAS"
    else if ← keywords ["CHARACTER", "SET"] then
      showFilter below
      return "SHOW CHARACTER SET"
    else if ← keyword "CHARSET" then
      showFilter below
      return "SHOW CHARSET"
    else return " ".intercalate ("SHOW" :: (← remainingWords))

/-- The roles that a session uses besides its first. -/
def secondaryRoles : Parser String := do
  discard (expectOneOf ["ROLES", "ROLE"])
  if ← keyword "NONE" then return "NONE"
  else if ← keyword "ALL" then return "ALL"
  else return commaList ((← commaSeparated ident).map Ident.render)

/-- The kinds of objects that a dialect can name in a USE. -/
def usableKinds : Dialect → List String
  | .databricks => ["CATALOG", "DATABASE", "SCHEMA"]
  | .snowflake => ["DATABASE", "SCHEMA", "WAREHOUSE", "ROLE", "SECONDARY"]
  | _ => []

/-- A USE. -/
def useStatement : Parser String := do
  let dialect ← dialect
  if ← pure (dialect == .hive) <&&> keyword "DEFAULT" then return "USE DEFAULT"
  match ← oneOf (usableKinds dialect) with
  | some "SECONDARY" => return "USE SECONDARY ROLES " ++ (← secondaryRoles)
  | some kind => return "USE " ++ kind ++ " " ++ (← objectName false).render
  | none => return "USE " ++ (← objectName false).render

/-- A transaction behind BEGIN. -/
def beginTransaction : Parser String := do
  let modifier ←
    if ← when Dialect.hasTransactionModifiers then
      oneOf ["DEFERRED", "IMMEDIATE", "EXCLUSIVE", "TRY", "CATCH"]
    else pure none
  let kind ← oneOf ["TRANSACTION", "WORK", "TRAN"]
  let word : Option String → String := fun word => (word.map (" " ++ ·)).getD ""
  return "BEGIN" ++ word modifier ++ word kind ++ (← transactionModes)

/-- Whether the end of a transaction starts the next one. -/
def chain : Parser String := do
  discard (oneOf ["TRANSACTION", "WORK", "TRAN"])
  if ← keyword "AND" then
    let negated ← keyword "NO"
    expectKeyword "CHAIN"
    return if negated then "" else " AND CHAIN"
  else return ""

/-- An END. -/
def endStatement : Parser String := do
  let modifier ←
    if ← when (· matches .mssql) then oneOf ["TRY", "CATCH"] else pure none
  let chained ← chain
  return "END" ++ (modifier.map (" " ++ ·)).getD "" ++ chained

/-- A ROLLBACK. -/
def rollbackStatement : Parser String := do
  let chained ← chain
  if ← keyword "TO" then
    discard (keyword "SAVEPOINT")
    return "ROLLBACK" ++ chained ++ " TO SAVEPOINT " ++ (← ident).render
  else return "ROLLBACK" ++ chained

/-- An error that is raised with its severity and state. -/
def raiserrorStatement (below : Nested) : Parser String := do
  expectSymbol "("
  let message ← exprText below
  expectSymbol ","
  discard (exprText below)
  expectSymbol ","
  discard (exprText below)
  if ← symbol "," then discard (exprTexts below)
  expectSymbol ")"
  if ← keyword "WITH" then
    discard (commaSeparated (do
      if (← oneOf ["LOG", "NOWAIT", "SETERROR"]).isNone then
        expected "LOG, NOWAIT OR SETERROR raiserror option"))
  return "RAISERROR(" ++ message ++ ")"

/-- The declaration of a cursor. -/
def declareCursor (below : Nested) : Parser String := do
  let name ← ident
  let binary ← textIf (keyword "BINARY") " BINARY"
  let sensitive ← oneOf ["INSENSITIVE", "ASENSITIVE"]
  if !(← keyword "SCROLL") then discard (keywords ["NO", "SCROLL"])
  expectKeyword "CURSOR"
  if ← anyKeyword ["WITH", "WITHOUT"] then expectKeyword "HOLD"
  expectKeyword "FOR"
  discard below.query
  return "DECLARE " ++ name.render ++ binary ++ (sensitive.map (" " ++ ·)).getD "" ++ " CURSOR"

/-- A declaration of variables that share a type or a default. -/
def declareTyped (below : Nested) : Parser String := do
  let names ← commaSeparated ident
  if ← keyword "DEFAULT" then discard (exprText below)
  else
    discard dataType
    if ← keyword "DEFAULT" then discard (exprText below)
  return "DECLARE " ++ commaList (names.map Ident.render)

/-- The value of a declared variable; whether there is one. -/
def declaredValue (below : Nested) : Parser Bool := do
  if ← keyword "DEFAULT" <||> symbol ":=" then
    discard (exprText below)
    return true
  else return false

/-- The key words that start a statement, and so end a list of declarations. -/
def statementKeys : List String :=
  ["ALTER", "ANALYZE", "ASSERT", "ATTACH", "BEGIN", "CACHE", "CALL", "CASE", "CLOSE", "COMMENT",
    "COMMIT", "COPY", "CREATE", "DEALLOCATE", "DECLARE", "DELETE", "DENY", "DESC", "DESCRIBE",
    "DETACH", "DISCARD", "DROP", "END", "EXEC", "EXECUTE", "EXPLAIN", "EXPORT", "FETCH", "FLUSH",
    "FROM", "GRANT", "IF", "INSERT", "INSTALL", "KILL", "LIST", "LISTEN", "LOAD", "LOCK", "LS",
    "MERGE", "MSCK", "NOTIFY", "OPEN", "OPTIMIZE", "PRAGMA", "PREPARE", "PRINT", "RAISE",
    "RAISERROR", "RELEASE", "REMOVE", "RENAME", "REPLACE", "RETURN", "REVOKE", "RM", "ROLLBACK",
    "SAVEPOINT", "SELECT", "SET", "SHOW", "START", "TABLE", "TRUNCATE", "UNCACHE", "UNLISTEN",
    "UNLOAD", "UPDATE", "USE", "VACUUM", "VALUES", "WHILE", "WITH"]

/-- One of several declarations. -/
def declareVariable (below : Nested) : Parser Ident := do
  let name ← ident
  if ← keyword "CURSOR" then
    expectKeyword "FOR"
    if ← atKeyword "SELECT" then discard below.query else discard (exprText below)
  else if ← keyword "RESULTSET" then discard (declaredValue below)
  else if ← keyword "EXCEPTION" then
    if ← atSymbol "(" then discard (exprText below)
  else if !(← declaredValue below) then
    if (← peek) matches some ⟨.word .., _, _, _⟩ then
      discard dataType
      discard (declaredValue below)
  return name

/-- Declarations with a semicolon between them. -/
def declareSeveral (below : Nested) : Parser String := do
  let names ← separated (declareVariable below) (do
    match ← peekAt 1 with
    | some ⟨.word .., _, key, _⟩ =>
      if statementKeys.contains key then return false else symbol ";"
    | _ => return false)
  return "DECLARE " ++ "; ".intercalate (names.map Ident.render)

/-- A declaration of a variable whose name starts with an at sign, or of a cursor. -/
def declareMarked (below : Nested) : Parser Ident := do
  let name ← ident
  if !name.value.startsWith "@" && !(← atKeyword "CURSOR") then
    refuse "Invalid MsSql variable declaration."
  if !(← keyword "CURSOR") then
    discard (keyword "AS")
    discard dataType
  if ← keyword "FOR" then discard below.query
  else if ← symbol "=" then discard (exprText below)
  return name

/-- A DECLARE. -/
def declareStatement (below : Nested) : Parser String := do
  match ← dialect with
  | .bigquery => declareTyped below
  | .snowflake => declareSeveral below
  | .mssql =>
    return "DECLARE " ++ commaList ((← commaSeparated (declareMarked below)).map Ident.render)
  | _ => declareCursor below

/-- Which rows are fetched. -/
def fetchDirection : Parser String := do
  match ← oneOf ["NEXT", "PRIOR", "FIRST", "LAST", "ABSOLUTE", "RELATIVE", "FORWARD", "BACKWARD",
      "ALL"] with
  | some key =>
    match key with
    | "ABSOLUTE" | "RELATIVE" => return key ++ " " ++ (← numberValue)
    | "FORWARD" | "BACKWARD" =>
      if ← keyword "ALL" then return key ++ " ALL" else return key ++ " " ++ (← numberValue)
    | _ => return key
  | none => numberValue

/-- A FETCH. -/
def fetchStatement : Parser String := do
  let direction ← fetchDirection
  match ← oneOf ["FROM", "IN"] with
  | some place =>
    let name ← ident
    if ← keyword "INTO" then discard (objectName false)
    return "FETCH " ++ direction ++ " " ++ place ++ " " ++ name.render
  | none => refuseAt "Expected FROM or IN" (← peek)

/-- An EXECUTE. -/
def executeStatement (below : Nested) : Parser String := do
  let immediate ← pure ((← dialect) matches .bigquery | .snowflake) <&&> keyword "IMMEDIATE"
  let name ← if immediate then pure "IMMEDIATE" else pure (← objectName false).render
  if ← symbol "(" then
    let arguments ← commaSeparatedUntil (exprText below) ")"
    expectSymbol ")"
    if ← keyword "INTO" then discard (commaSeparated ident)
    if ← keyword "USING" then discard (commaSeparated (aliasedExpr below))
    discard (keyword "OUTPUT")
    discard (keyword "DEFAULT")
    return "EXECUTE " ++ name ++ "(" ++ commaList arguments ++ ")"
  else
    let arguments ←
      if (← atSemicolonOrEnd) || (← atOneOf ["USING", "OUTPUT", "DEFAULT"]) then pure []
      else commaSeparated (exprText below)
    if ← keyword "INTO" then discard (commaSeparated ident)
    if ← keyword "USING" then discard (commaSeparated (aliasedExpr below))
    discard (keyword "OUTPUT")
    discard (keyword "DEFAULT")
    let gap := if arguments.isEmpty then "" else " "
    return "EXECUTE " ++ name ++ gap ++ commaList arguments

/-- A PREPARE. -/
def prepareStatement (below : Nested) : Parser String := do
  let name ← ident
  if ← symbol "(" then
    discard (commaSeparated dataType)
    expectSymbol ")"
  expectKeyword "AS"
  discard below.statement
  return "PREPARE " ++ name.render ++ " AS"

/-- The options of an EXPLAIN, in parentheses. -/
def explainOptions (below : Nested) : Parser String := do
  let options ← parenthesized (commaSeparated (do
    let name ← ident
    if (← atSymbol ",") || (← atSymbol ")") then return name.render
    else return name.render ++ " " ++ (← exprText below)))
  return "(" ++ commaList options ++ ") "

/-- How a plan is written. -/
def planFormat : Parser String := do
  let mark ← if ← symbol "=" then pure "=" else pure " "
  match ← oneOf ["TEXT", "GRAPHVIZ", "JSON", "TRADITIONAL", "TREE"] with
  | some key => return "FORMAT" ++ mark ++ key ++ " "
  | none => expected "fileformat"

/-- The key words that explain a statement or describe a table. -/
def explainKeys : List String :=
  ["EXPLAIN", "DESCRIBE", "DESC"]

/-- An EXPLAIN, DESCRIBE or DESC; `verb` is the word it starts with. -/
def explainStatement (below : Nested) (verb : String) : Parser String := do
  let dialect ← dialect
  let options ←
    if verb == "EXPLAIN" && dialect.hasExplainOptions && (← atSymbol "(") then explainOptions below
    else if ← keywords ["QUERY", "PLAN"] then pure "QUERY PLAN "
    else if ← keyword "ESTIMATE" then pure "ESTIMATE "
    else do
      let analyze ← textIf (keyword "ANALYZE") "ANALYZE "
      let verbose ← textIf (keyword "VERBOSE") "VERBOSE "
      let format ← if ← keyword "FORMAT" then planFormat else pure ""
      pure (analyze ++ verbose ++ format)
  let nested ← atOneOf explainKeys
  match ← attempt below.statement with
  | some statement =>
    if nested then refuse "Explain must be root of the plan"
    return verb ++ " " ++ options ++ statement.render
  | none =>
    let format := ((← oneOf ["EXTENDED", "FORMATTED"]).map (· ++ " ")).getD ""
    let table ← textIf (pure dialect.describesWithTable <&&> keyword "TABLE") "TABLE "
    return verb ++ " " ++ format ++ table ++ (← objectName false).render

end SqlLineage.Sql.Parse
