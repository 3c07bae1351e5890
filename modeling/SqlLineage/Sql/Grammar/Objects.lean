import SqlLineage.Sql.Grammar.Blocks
import SqlLineage.Sql.Grammar.Privileges

/-!
# Definitions of other objects

CREATE, ALTER and DROP of everything that is neither a table nor a view.  Of each statement the
text is kept up to the kind of the object.
-/

namespace SqlLineage.Sql.Parse

/-- The words that allow an object to be there already. -/
def ifNotExists : Parser Unit :=
  discard (keywords ["IF", "NOT", "EXISTS"])

/-- The words that allow an object not to be there. -/
def ifExists : Parser Unit :=
  discard (keywords ["IF", "EXISTS"])

/-- The rows that a policy is about. -/
def policyConditions (below : Nested) : Parser Unit := do
  if ← keyword "TO" then discard (commaSeparated owner)
  if ← keyword "USING" then discard (parenthesized (exprText below))
  if ← keywords ["WITH", "CHECK"] then discard (parenthesized (exprText below))

/-- The definition of a policy. -/
def createPolicy (below : Nested) : Parser String := do
  discard ident
  expectKeyword "ON"
  discard (objectName false)
  if ← keyword "AS" then discard (expectOneOf ["PERMISSIVE", "RESTRICTIVE"])
  if ← keyword "FOR" then
    discard (expectOneOf ["ALL", "SELECT", "INSERT", "UPDATE", "DELETE"])
  policyConditions below
  return "CREATE POLICY"

/-- A parameter of a function: possibly a mode and a name, and a type.  What is read first is the
name if another type follows it; then it has to end in a word. -/
def functionParameter (below : Nested) : Parser Unit := do
  discard (oneOf ["IN", "OUT", "INOUT"])
  let start := (← get).rest
  discard dataType
  let first := (start.take (start.length - (← get).rest.length)).getLast?
  if ← not <$> atKeyword "DEFAULT" <&&> (do return (← attempt dataType).isSome) then
    if !(first matches some ⟨.word .., _, _, _⟩) then unexpected "a name or type" first
  if ← keyword "DEFAULT" <||> symbol "=" then discard (exprText below)

/-- Parameters in parentheses. -/
def functionParameters (below : Nested) : Parser Unit := do
  expectSymbol "("
  if !(← symbol ")") then
    discard (commaSeparated (functionParameter below))
    expectSymbol ")"

/-- A function with the types that tell it from others of its name. -/
def functionReference (below : Nested) : Parser ObjectName := do
  let name ← objectName false
  if ← atSymbol "(" then functionParameters below
  return name

/-- The body of a function as a text. -/
def functionText : Parser Unit := do
  match ← peek with
  | some ⟨.dollar .., _, _, _⟩ =>
    if ← when (· matches .postgres | .generic) then drop 1 else discard literalString
  | _ => discard literalString

/-- A property of a function. -/
structure FunctionProperty where
  /-- What is given once at most: properties of one slot exclude each other. -/
  slot : String
  /-- How a message calls the property. -/
  name : String
  /-- What stands behind its key words. -/
  rest : Parser Unit

/-- The key words of the properties of a function. -/
def functionPropertyOf (below : Nested) : Parser (Option FunctionProperty) := do
  let only (name : String) (rest : Parser Unit) : Option FunctionProperty :=
    some ⟨name, name, rest⟩
  if ← keyword "AS" then return some ⟨"body", "AS", functionText⟩
  else if ← keyword "LANGUAGE" then return only "LANGUAGE" (discard ident)
  else if ← anyKeyword ["IMMUTABLE", "STABLE", "VOLATILE"] then
    return only "IMMUTABLE | STABLE | VOLATILE" (pure ())
  else if ← keywords ["CALLED", "ON", "NULL", "INPUT"]
      <||> keywords ["RETURNS", "NULL", "ON", "NULL", "INPUT"] <||> keyword "STRICT" then
    return only "CALLED ON NULL INPUT | RETURNS NULL ON NULL INPUT | STRICT" (pure ())
  else if ← keyword "PARALLEL" then
    return only "PARALLEL \x7b UNSAFE | RESTRICTED | SAFE \x7d" (do
      if (← oneOf ["UNSAFE", "RESTRICTED", "SAFE"]).isNone then
        expected "one of UNSAFE | RESTRICTED | SAFE")
  else if ← keyword "RETURN" then return some ⟨"body", "RETURN", discard (exprText below)⟩
  else return none

/-- The properties of a function, each given at most once. -/
def functionPropertiesWithin (below : Nested) : Nat → List String → Parser Unit
  | 0, _ => return ()
  | steps + 1, given => do
    match ← functionPropertyOf below with
    | none => return ()
    | some property =>
      if given.contains property.slot then refuse (property.name ++ " specified more than once")
      property.rest
      functionPropertiesWithin below steps (property.slot :: given)

/-- The definition of a function with properties in any order. -/
def createFunctionWithProperties (below : Nested) : Parser Unit := do
  discard (objectName false)
  functionParameters below
  if ← keyword "RETURNS" then discard dataType
  functionPropertiesWithin below (← budget) []

/-- The definition of a function whose code stands in files. -/
def createFunctionFromFiles : Parser Unit := do
  discard (objectName false)
  expectKeyword "AS"
  functionText
  if ← keyword "USING" then
    discard (expectOneOf ["JAR", "FILE", "ARCHIVE"])
    discard literalString

/-- Named parameters in parentheses behind the name of a function. -/
def functionHead (below : Nested) : Parser Unit := do
  discard (objectName false)
  expectSymbol "("
  discard (commaSeparatedUntil (do
    discard ident
    discard dataType
    if ← symbol "=" then discard (exprText below)) ")")
  expectSymbol ")"

/-- The definition of a function whose body is an expression. -/
def createFunctionAsExpr (below : Nested) : Parser Unit := do
  ifNotExists
  functionHead below
  if ← keyword "RETURNS" then discard dataType
  if !(← keyword "DETERMINISTIC") then discard (keywords ["NOT", "DETERMINISTIC"])
  if ← keyword "LANGUAGE" then discard ident
  let remote ← keywords ["REMOTE", "WITH", "CONNECTION"]
  if remote then discard (objectName false)
  let options ← optionsAfter below "OPTIONS"
  if !remote then
    expectKeyword "AS"
    discard (exprText below)
    if options.isEmpty then discard (optionsAfter below "OPTIONS")

/-- The definition of a function whose body is a block or a RETURN. -/
def createFunctionAsBlock (below : Nested) : Parser Unit := do
  functionHead below
  expectKeyword "RETURNS"
  let table ← attempt (do
    discard ident
    expectKeyword "TABLE"
    balanced)
  if table.isNone then discard dataType
  discard (keyword "AS")
  if ← atKeyword "BEGIN" then discard (statementBlock below ["END"])
  else if ← keyword "RETURN" then
    if ← atSymbol "(" then discard (exprText below)
    else if ← atKeyword "SELECT" then discard (selectBlock below)
    else refuseAt "Expected a subquery (or bare SELECT statement) after RETURN" (← peek)
  else refuseAt "Unparsable function body" (← peek)

/-- The definition of a macro. -/
def createMacro (below : Nested) : Parser Unit := do
  discard (objectName false)
  expectSymbol "("
  if !(← symbol ")") then
    discard (commaSeparated (do
      discard ident
      if ← symbol ":=" <||> symbol "=>" then discard (exprText below)))
    expectSymbol ")"
  expectKeyword "AS"
  if ← keyword "TABLE" then discard below.query else discard (exprText below)

/-- The definition of a function behind its key word; `opening` stands before that word. -/
def createFunction (below : Nested) (opening : String) (word : Option Lexeme) :
    Parser String := do
  match ← dialect with
  | .hive =>
    createFunctionFromFiles
    return opening ++ " FUNCTION"
  | .postgres | .generic =>
    createFunctionWithProperties below
    return opening ++ " FUNCTION"
  | .duckdb =>
    createMacro below
    return opening ++ " MACRO"
  | .bigquery =>
    createFunctionAsExpr below
    return opening ++ " FUNCTION"
  | .mssql =>
    createFunctionAsBlock below
    return opening ++ " FUNCTION"
  | _ => unexpected "an object type after CREATE" word

/-- The definition of a domain. -/
def createDomain (below : Nested) : Parser String := do
  discard (objectName false)
  expectKeyword "AS"
  discard dataType
  if ← keyword "COLLATE" then discard ident
  if ← keyword "DEFAULT" then discard (exprText below)
  discard (repeatWhile (tableConstraint below))
  return "CREATE DOMAIN"

/-- When a trigger fires. -/
def triggerPeriod : Parser Unit := do
  if (← expectOneOf ["FOR", "BEFORE", "AFTER", "INSTEAD"]) == "INSTEAD" then expectKeyword "OF"

/-- What a trigger fires on. -/
def triggerEvent : Parser Unit := do
  if (← expectOneOf ["INSERT", "UPDATE", "DELETE", "TRUNCATE"]) == "UPDATE" then
    if ← keyword "OF" then discard (commaSeparated ident)

/-- A name for the rows before or after a change; `none` if none is given. -/
def triggerRows : Parser (Option Unit) := do
  if ← anyKeyword ["OLD", "NEW"] <&&> keyword "TABLE" then
    discard (keyword "AS")
    discard (objectName false)
    return some ()
  else return none

/-- The definition of a trigger. -/
def createTrigger (below : Nested) : Parser Unit := do
  discard (objectName false)
  discard (attempt triggerPeriod)
  discard (separated triggerEvent (keyword "OR"))
  expectKeyword "ON"
  discard (objectName false)
  if ← keyword "FROM" then discard (objectName true)
  discard constraintCharacteristics
  if ← keyword "REFERENCING" then discard (repeatWhile triggerRows)
  if ← keyword "FOR" then
    discard (keyword "EACH")
    discard (expectOneOf ["ROW", "STATEMENT"])
  if ← keyword "WHEN" then discard (exprText below)
  if ← keyword "EXECUTE" then
    discard (expectOneOf ["FUNCTION", "PROCEDURE"])
    discard (functionReference below)
  else discard (statementBlock below ["END"])

/-- The definition of a trigger that names its table first. -/
def createTableTrigger (below : Nested) : Parser Unit := do
  discard (objectName false)
  expectKeyword "ON"
  discard (objectName false)
  triggerPeriod
  discard (commaSeparated triggerEvent)
  expectKeyword "AS"
  discard (statementBlock below ["END"])

/-- Whether a dialect has triggers. -/
def hasTriggers (dialect : Dialect) : Bool :=
  dialect matches .postgres | .sqlite | .generic | .mysql | .mssql

/-- The definition of a secret. -/
def createSecret : Parser Unit := do
  ifNotExists
  if !(← atSymbol "(") then
    let stored ← keyword "IN"
    discard optionalIdent
    if ← pure (!stored) <&&> keyword "IN" then discard optionalIdent
  expectSymbol "("
  expectKeyword "TYPE"
  discard ident
  if ← symbol "," then
    discard (commaSeparated (do
      discard ident
      ident))
  expectSymbol ")"

/-- A value of an option. -/
def optionValue : Parser Unit := do
  match ← peek with
  | some ⟨.text .single _, _, _, _⟩ | some ⟨.text .double _, _, _, _⟩
  | some ⟨.number .., _, _, _⟩ | some ⟨.word .., _, _, _⟩ => drop 1
  | some ⟨.symbol "(", _, _, _⟩ => discard balanced
  | _ => expected "expected option value"

/-- Options up to a closing parenthesis, or up to the end of the statement. -/
def keyValueOptions (ends : List String) : Parser Unit := do
  let inside ← symbol "("
  discard (repeatWhile (do
    match ← peek with
    | none => return none
    | some lexeme =>
      match lexeme.token with
      | .symbol "," =>
        drop 1
        return some ()
      | .word .. =>
        if ends.contains lexeme.key then return none
        drop 1
        expectSymbol "="
        optionValue
        return some ()
      | .symbol mark =>
        if (inside && mark == ")") || (!inside && mark == ";") then return none
        drop 1
        expected "another option, EOF, Comma or ')'"
      | _ =>
        drop 1
        expected "another option, EOF, Comma or ')'"))
  if inside then discard (symbol ")")

/-- Options that have to stand in parentheses. -/
def optionsInParentheses : Parser Unit := do
  if ← atSymbol "(" then keyValueOptions [] else expected "("

/-- The definition of a user. -/
def createUser : Parser Unit := do
  ifNotExists
  discard ident
  keyValueOptions ["WITH", "TAG"]
  discard (keyword "WITH")
  if ← keyword "TAG" then optionsInParentheses

/-- The definition of an extension. -/
def createExtension : Parser String := do
  ifNotExists
  discard ident
  if ← keyword "WITH" then
    if ← keyword "SCHEMA" then discard ident
    if ← keyword "VERSION" then discard ident
    discard (keyword "CASCADE")
  return "CREATE EXTENSION"

/-- The definition of an index. -/
def createIndex (below : Nested) (opening : String) : Parser String := do
  discard (keyword "CONCURRENTLY")
  let allowed ← keywords ["IF", "NOT", "EXISTS"]
  if ← pure allowed <||> (not <$> keyword "ON") then
    discard (objectName false)
    indexMethod
    expectKeyword "ON"
  discard (objectName false)
  indexMethod
  discard (indexColumns below)
  if ← keyword "INCLUDE" then discard identList
  if ← keyword "NULLS" then
    discard (keyword "NOT")
    expectKeyword "DISTINCT"
  if ← when (· matches .postgres | .generic) <&&> keyword "WITH" then
    discard (parenthesized (exprTexts below))
  if ← keyword "WHERE" then discard (exprText below)
  indexOptions
  discard (repeatWhile (do
    if ← atOneOf ["ALGORITHM", "LOCK"] then
      alterOperation below
      return some ()
    else return none))
  return opening ++ " INDEX"

/-- The definition of a table that a module keeps. -/
def createVirtualTable : Parser String := do
  expectKeyword "TABLE"
  ifNotExists
  discard (objectName false)
  expectKeyword "USING"
  discard ident
  discard (optionalIdentList false)
  return "CREATE VIRTUAL TABLE"

/-- The definition of a schema. -/
def createSchema (below : Nested) : Parser String := do
  ifNotExists
  if ← keyword "AUTHORIZATION" then discard ident
  else
    discard (objectName false)
    if ← keyword "AUTHORIZATION" then discard ident
  if ← keywords ["DEFAULT", "COLLATE"] then discard (exprText below)
  discard (optionsAfter below "WITH")
  discard (optionsAfter below "OPTIONS")
  if ← keyword "CLONE" then discard (objectName false)
  return "CREATE SCHEMA"

/-- The definition of a database. -/
def createDatabase : Parser String := do
  ifNotExists
  discard (objectName false)
  discard (repeatWhile (do
    if ← anyKeyword ["LOCATION", "MANAGEDLOCATION"] then
      discard literalString
      return some ()
    else return none))
  if ← keyword "CLONE" then discard (objectName false)
  return "CREATE DATABASE"

/-- The definition of a sequence. -/
def createSequence (opening : String) : Parser String := do
  ifNotExists
  discard (objectName false)
  if ← keyword "AS" then discard dataType
  sequenceOptions
  if ← keywords ["OWNED", "BY"] then
    if !(← keyword "NONE") then discard (objectName false)
  return opening ++ " SEQUENCE"

/-- The attributes of a type behind the opening parenthesis. -/
def typeAttributesWithin : Nat → Parser Unit
  | 0 => return ()
  | steps + 1 => do
    discard ident
    discard dataType
    if ← keyword "COLLATE" then discard (objectName false)
    let comma ← symbol ","
    if ← symbol ")" then return ()
    else if !comma then expected "',' or ')' after attribute definition"
    else typeAttributesWithin steps

/-- The definition of a type. -/
def createType : Parser String := do
  discard (objectName false)
  expectKeyword "AS"
  if ← keyword "ENUM" then discard identListOrEmpty
  else if ← symbol "(" <&&> (not <$> symbol ")") then typeAttributesWithin (← budget)
  return "CREATE TYPE"

/-- The parameters of a procedure behind the opening parenthesis. -/
def procedureParametersWithin (below : Nested) : Nat → Parser Unit
  | 0 => return ()
  | steps + 1 => do
    if (← peek) matches some ⟨.word .., _, _, _⟩ then
      discard (oneOf ["IN", "OUT", "INOUT"])
      discard ident
      discard dataType
      if ← symbol "=" then discard (exprText below)
    let comma ← symbol ","
    if ← symbol ")" then return ()
    else if !comma then expected "',' or ')' after parameter definition"
    else procedureParametersWithin below steps

/-- The definition of a procedure. -/
def createProcedure (below : Nested) (opening : String) : Parser String := do
  discard (objectName false)
  if ← symbol "(" <&&> (not <$> symbol ")") then procedureParametersWithin below (← budget)
  if ← keyword "LANGUAGE" then discard ident
  expectKeyword "AS"
  discard (statementBlock below ["END"])
  return opening ++ " PROCEDURE"

/-- The definition of a connector. -/
def createConnector (below : Nested) : Parser String := do
  ifNotExists
  discard ident
  if ← keyword "TYPE" then discard literalString
  if ← keyword "URL" then discard literalString
  if ← keyword "COMMENT" then
    discard (symbol "=")
    discard commentValue
  if ← keyword "WITH" then
    expectKeyword "DCPROPERTIES"
    discard (parenthesized (commaSeparatedUntil (definitionOption below) ")"))
  return "CREATE CONNECTOR"

/-- The definition of a foreign server. -/
def createServer : Parser String := do
  ifNotExists
  discard (objectName false)
  if ← keyword "TYPE" then discard ident
  if ← keyword "VERSION" then discard ident
  expectKeywords ["FOREIGN", "DATA", "WRAPPER"]
  discard (objectName false)
  if ← keyword "OPTIONS" then
    discard (parenthesized (commaSeparated (do
      discard ident
      ident)))
  return "CREATE SERVER"

/-- The objects that only a new definition can have: one that replaces none. -/
def createFresh (below : Nested) (opening temporary : String) : Parser String := do
  match ← oneOf ["EXTENSION", "INDEX", "VIRTUAL", "SCHEMA", "DATABASE", "ROLE", "SEQUENCE", "TYPE",
      "PROCEDURE", "CONNECTOR", "SERVER"] with
  | some key =>
    match key with
    | "EXTENSION" => createExtension
    | "INDEX" => createIndex below "CREATE"
    | "VIRTUAL" => createVirtualTable
    | "SCHEMA" => createSchema below
    | "DATABASE" => createDatabase
    | "ROLE" => createRole
    | "SEQUENCE" => createSequence ("CREATE" ++ temporary)
    | "TYPE" => createType
    | "PROCEDURE" => createProcedure below opening
    | "CONNECTOR" => createConnector below
    | _ => createServer
  | none =>
    if ← keywords ["UNIQUE", "INDEX"] then createIndex below "CREATE UNIQUE"
    else expected "an object type after CREATE"

/-- Whether a view is defined next. -/
def atView : Parser Bool := do
  return (← atOneOf ["MATERIALIZED", "VIEW"]) || (← atKeywords ["SECURE", "MATERIALIZED", "VIEW"])
    || (← atKeywords ["SECURE", "VIEW"])

/-- A CREATE behind its key word. -/
def createStatement (below : Nested) : Parser Statement := do
  let dialect ← dialect
  let replaces ← keywords ["OR", "REPLACE"]
  let alters ← keywords ["OR", "ALTER"]
  let scope := ((← oneOf ["LOCAL", "GLOBAL"]).map (" " ++ ·)).getD ""
  let transient ← textIf (keyword "TRANSIENT") " TRANSIENT"
  let temporary ← textIf (anyKeyword ["TEMP", "TEMPORARY"]) " TEMPORARY"
  let persistent ←
    textIf (pure (dialect == .duckdb) <&&> keyword "PERSISTENT") " PERSISTENT"
  let replacing := if replaces then " OR REPLACE" else ""
  let altering := if alters then " OR ALTER" else ""
  viewParameters
  if ← keyword "TABLE" then
    let opening := "CREATE" ++ replacing ++ scope ++ temporary ++ transient ++ " TABLE"
    return .createTable (← createTable below opening)
  else if ← atView then
    return .createView (← createView below ("CREATE" ++ altering ++ replacing ++ temporary))
  else if ← keyword "POLICY" then return .other (← createPolicy below)
  else if ← keyword "EXTERNAL" then
    return .createTable
      (← createExternalTable below ("CREATE" ++ replacing ++ " EXTERNAL TABLE"))
  else
    let word ← peek
    let opening := "CREATE" ++ altering ++ replacing ++ temporary
    if ← keyword "FUNCTION" then return .other (← createFunction below opening word)
    else if ← keyword "DOMAIN" then return .other (← createDomain below)
    else if ← keyword "TRIGGER" then
      if !hasTriggers dialect then unexpected "an object type after CREATE" word
      createTrigger below
      return .other ("CREATE" ++ altering ++ temporary ++ replacing ++ " TRIGGER")
    else if ← atKeywords ["CONSTRAINT", "TRIGGER"] then
      drop 1
      if !hasTriggers dialect then expected "an object type after CREATE"
      drop 1
      createTrigger below
      return .other ("CREATE" ++ altering ++ temporary ++ replacing ++ " CONSTRAINT TRIGGER")
    else if ← keyword "MACRO" then
      if !(dialect matches .duckdb | .generic) then unexpected "an object type after CREATE" word
      createMacro below
      return .other ("CREATE" ++ replacing ++ temporary ++ " MACRO")
    else if ← keyword "SECRET" then
      createSecret
      return .other ("CREATE" ++ replacing ++ temporary ++ persistent ++ " SECRET")
    else if ← keyword "USER" then
      createUser
      return .other ("CREATE" ++ replacing ++ " USER")
    else if replaces then
      expected "[EXTERNAL] TABLE or [MATERIALIZED] VIEW or FUNCTION after CREATE OR REPLACE"
    else return .other (← createFresh below ("CREATE" ++ altering) temporary)

/-- The kinds of objects that are dropped by their names alone. -/
def droppableKinds : List String :=
  ["TABLE", "VIEW", "INDEX", "ROLE", "SCHEMA", "DATABASE", "SEQUENCE", "STAGE", "TYPE", "USER",
    "STREAM"]

/-- Objects that are dropped by their names. -/
def dropObjects (opening : String) (ofRole : Bool) : Parser String := do
  ifExists
  discard (commaSeparated (objectName false))
  let place ← peek
  let cascade ← keyword "CASCADE"
  let restrict ← keyword "RESTRICT"
  let purge ← keyword "PURGE"
  if cascade && restrict then
    refuseAt "Cannot specify both CASCADE and RESTRICT in DROP" place
  if ofRole && (cascade || restrict || purge) then
    refuseAt "Cannot specify CASCADE, RESTRICT, or PURGE in DROP ROLE" place
  if ← keyword "ON" then discard (objectName false)
  return opening

/-- The kinds of objects that a message about DROP names. -/
def dropKinds : String :=
  "CONNECTOR, DATABASE, EXTENSION, FUNCTION, INDEX, POLICY, PROCEDURE, ROLE, SCHEMA, SECRET, "
    ++ "SEQUENCE, STAGE, TABLE, TRIGGER, TYPE, VIEW, MATERIALIZED VIEW or USER after DROP"

/-- A DROP behind its key word. -/
def dropStatement (below : Nested) : Parser String := do
  let dialect ← dialect
  let mayBeTemporary := dialect matches .mysql | .generic | .duckdb
  let temporary ← textIf (pure mayBeTemporary <&&> keyword "TEMPORARY") " TEMPORARY"
  let persistent ← textIf (pure (dialect == .duckdb) <&&> keyword "PERSISTENT") " PERSISTENT"
  match ← oneOf droppableKinds with
  | some kind => dropObjects ("DROP" ++ temporary ++ " " ++ kind) (kind == "ROLE")
  | none =>
    if ← keywords ["MATERIALIZED", "VIEW"] then
      dropObjects ("DROP" ++ temporary ++ " MATERIALIZED VIEW") false
    else
      let word ← peek
      match ← oneOf ["FUNCTION", "POLICY", "CONNECTOR", "DOMAIN", "PROCEDURE", "SECRET", "TRIGGER",
          "EXTENSION"] with
      | none => expected dropKinds
      | some key =>
        if key == "TRIGGER" && !hasTriggers dialect then
          unexpected "an object type after DROP" word
        ifExists
        match key with
        | "FUNCTION" | "PROCEDURE" =>
          discard (commaSeparated (functionReference below))
          dropBehavior
        | "POLICY" =>
          discard ident
          expectKeyword "ON"
          discard (objectName false)
          dropBehavior
        | "CONNECTOR" => discard ident
        | "DOMAIN" =>
          discard (objectName false)
          dropBehavior
        | "SECRET" =>
          discard ident
          if ← keyword "FROM" then discard ident
        | "TRIGGER" =>
          discard (objectName false)
          if ← keyword "ON" then discard (objectName false)
          dropBehavior
        | _ =>
          discard (commaSeparated ident)
          dropBehavior
        let secret := if key == "SECRET" then temporary ++ persistent else ""
        return "DROP" ++ secret ++ " " ++ key

/-- A change of a schema. -/
def alterSchema (below : Nested) : Parser Unit := do
  ifExists
  discard (objectName false)
  if (← atKeywords ["SET", "OPTIONS"]) then
    drop 1
    discard (optionsAfter below "OPTIONS")
  else if ← keywords ["SET", "DEFAULT", "COLLATE"] then discard (exprText below)
  else if ← keywords ["ADD", "REPLICA"] then
    discard ident
    discard (optionsAfter below "OPTIONS")
  else if ← keywords ["DROP", "REPLICA"] then discard ident
  else if ← keywords ["RENAME", "TO"] then discard (objectName false)
  else if ← keywords ["OWNER", "TO"] then owner
  else expected "ALTER SCHEMA operation"

/-- A change of a view. -/
def alterView (below : Nested) : Parser Unit := do
  discard (objectName false)
  discard (optionalIdentList false)
  discard (optionsAfter below "WITH")
  expectKeyword "AS"
  discard below.query

/-- A change of a type. -/
def alterType : Parser Unit := do
  discard (objectName false)
  if ← keywords ["RENAME", "TO"] then discard ident
  else if ← keywords ["RENAME", "VALUE"] then
    discard ident
    expectKeyword "TO"
    discard ident
  else if ← keywords ["ADD", "VALUE"] then
    ifNotExists
    discard ident
    if ← anyKeyword ["BEFORE", "AFTER"] then discard ident
  else
    expected "\x7bRENAME TO | \x7b RENAME | ADD \x7d VALUE\x7d"

/-- A change of an index. -/
def alterIndex : Parser Unit := do
  discard (objectName false)
  if ← keyword "RENAME" then
    if ← keyword "TO" then discard (objectName false) else expected "TO after RENAME"
  else expected "RENAME after ALTER INDEX"

/-- A change of a policy. -/
def alterPolicy (below : Nested) : Parser Unit := do
  discard ident
  expectKeyword "ON"
  discard (objectName false)
  if ← keyword "RENAME" then
    expectKeyword "TO"
    discard ident
  else policyConditions below

/-- A change of a connector. -/
def alterConnector (below : Nested) : Parser Unit := do
  discard ident
  expectKeyword "SET"
  discard (optionsAfter below "DCPROPERTIES")
  if ← keyword "URL" then discard literalString
  if ← keyword "OWNER" then
    discard (expectOneOf ["USER", "ROLE"])
    discard ident

/-- An ALTER behind its key word. -/
def alterStatement (below : Nested) : Parser Statement := do
  let kind ← expectOneOf
    ["VIEW", "TYPE", "TABLE", "INDEX", "ROLE", "POLICY", "CONNECTOR", "ICEBERG", "SCHEMA"]
  match kind with
  | "TABLE" => return .alterTable (← alterTable below)
  | "ICEBERG" =>
    expectKeyword "TABLE"
    return .alterTable (← alterTable below)
  | "ROLE" => return .other (← alterRole below)
  | _ =>
    match kind with
    | "VIEW" => alterView below
    | "TYPE" => alterType
    | "INDEX" => alterIndex
    | "POLICY" => alterPolicy below
    | "CONNECTOR" => alterConnector below
    | _ => alterSchema below
    return .other ("ALTER " ++ kind)

end SqlLineage.Sql.Parse
