import SqlLineage.Sql.Grammar.Objects

/-!
# Files and stages

Statements that move rows between tables and files, and the stages that hold files.
-/

namespace SqlLineage.Sql.Parse

/-- A text of one character. -/
def literalCharacter : Parser Unit := do
  let place ← peek
  let text ← literalString
  if text.length != 1 then refuseAt s!"Expect a char, found {text}" place

/-- The role under which files are read. -/
def iamRole : Parser Unit := do
  if !(← keyword "DEFAULT") then discard literalString

/-- A switch, if it is given. -/
def optionalSwitch : Parser Unit :=
  discard (oneOf ["TRUE", "FALSE", "ON", "OFF"])

/-- An option of a COPY in parentheses. -/
def copyOption : Parser Unit := do
  match ← oneOf ["FORMAT", "FREEZE", "DELIMITER", "NULL", "HEADER", "QUOTE", "ESCAPE",
      "FORCE_QUOTE", "FORCE_NOT_NULL", "FORCE_NULL", "ENCODING"] with
  | some key =>
    match key with
    | "FORMAT" => discard ident
    | "FREEZE" | "HEADER" => discard (oneOf ["TRUE", "FALSE"])
    | "DELIMITER" | "QUOTE" | "ESCAPE" => literalCharacter
    | "NULL" | "ENCODING" => discard literalString
    | _ => discard columnList
  | none => expected "option"

/-- An option of comma-separated files. -/
def csvOption : Parser (Option Unit) := do
  match ← oneOf ["HEADER", "QUOTE", "ESCAPE", "FORCE"] with
  | some "HEADER" => return some ()
  | some "FORCE" =>
    if ← keywords ["NOT", "NULL"] then discard (commaSeparated ident)
    else if ← keyword "QUOTE" then discard (commaSeparated ident)
    else expected "csv option"
    return some ()
  | some _ =>
    discard (keyword "AS")
    literalCharacter
    return some ()
  | none => return none

/-- The options of a COPY without parentheses that take nothing. -/
def bareCopyOptions : List String :=
  ["ACCEPTANYDATE", "ADDQUOTES", "ALLOWOVERWRITE", "BINARY", "BLANKSASNULL", "BZIP2", "CLEANPATH",
    "EMPTYASNULL", "ESCAPE", "GZIP", "HEADER", "PARQUET", "TRUNCATECOLUMNS", "ZSTD"]

/-- The options of a COPY without parentheses that take a text, and those that may. -/
def textCopyOptions : List (String × Bool) :=
  [("EXTENSION", true), ("FIXEDWIDTH", true), ("NULL", true), ("REGION", true),
    ("ACCEPTINVCHARS", false), ("DATEFORMAT", false), ("JSON", false), ("TIMEFORMAT", false)]

/-- The size of a file. -/
def fileSize : Parser Unit := do
  discard literalUint
  discard (oneOf ["MB", "GB"])

/-- An option of a COPY without parentheses. -/
def bareCopyOption : Parser Unit := do
  discard (keyword "FORMAT")
  if ← anyKeyword bareCopyOptions then return ()
  let key ← peekKey
  match textCopyOptions.find? (·.1 == key) with
  | some (_, required) =>
    drop 1
    discard (keyword "AS")
    if required then discard literalString else discard (attempt literalString)
  | none =>
    match ← oneOf ["COMPUPDATE", "CSV", "DELIMITER", "ENCRYPTED", "IAM_ROLE", "IGNOREHEADER",
        "MANIFEST", "MAXFILESIZE", "PARALLEL", "PARTITION", "ROWGROUPSIZE", "STATUPDATE"] with
    | some key =>
      match key with
      | "COMPUPDATE" =>
        discard (keyword "PRESET")
        optionalSwitch
      | "CSV" => discard (repeatWhile csvOption)
      | "DELIMITER" =>
        discard (keyword "AS")
        literalCharacter
      | "ENCRYPTED" => discard (keyword "AUTO")
      | "IAM_ROLE" => iamRole
      | "IGNOREHEADER" =>
        discard (keyword "AS")
        discard literalUint
      | "MANIFEST" => discard (keyword "VERBOSE")
      | "MAXFILESIZE" | "ROWGROUPSIZE" =>
        discard (keyword "AS")
        fileSize
      | "PARTITION" =>
        expectKeyword "BY"
        discard columnList
        discard (keyword "INCLUDE")
      | _ => optionalSwitch
    | none => expected "option"

/-- The options of a COPY without parentheses. -/
def bareCopyOptionList : Parser Unit :=
  discard (repeatWhile (attempt bareCopyOption))

/-- Skips rows of data up to the line that ends them. -/
def skipRows : Parser Unit :=
  modify fun stream =>
    let after := stream.rest.dropWhile (fun lexeme => lexeme.token != .symbol "\\")
    { stream with rest := after.drop 2 }

/-- A COPY behind its key word. -/
def copyStatement (below : Nested) : Parser String := do
  let (source, ofQuery) : String × Bool ←
    if ← symbol "(" then do
      let query ← below.query
      expectSymbol ")"
      pure ("(" ++ query.render ++ ")", true)
    else do
      let table ← objectName false
      let columns ← optionalIdentList false
      let names :=
        if columns.isEmpty then "" else " (" ++ commaList (columns.map Ident.render) ++ ")"
      pure (table.render ++ names, false)
  let direction ←
    match ← oneOf ["FROM", "TO"] with
    | some key => pure key
    | none => expected "FROM or TO"
  if direction == "FROM" && ofQuery then
    refuse "COPY ... FROM does not support query as a source"
  let fromInput ← keyword "STDIN"
  if ← pure (!fromInput) <&&> (not <$> keyword "STDOUT") then
    discard (keyword "PROGRAM")
    discard literalString
  discard (keyword "WITH")
  if ← symbol "(" then
    discard (commaSeparated copyOption)
    expectSymbol ")"
  bareCopyOptionList
  if fromInput then
    expectSymbol ";"
    skipRows
  return "COPY " ++ source ++ " " ++ direction

/-- An UNLOAD behind its key word. -/
def unloadStatement (below : Nested) : Parser String := do
  expectSymbol "("
  let source ←
    if (← peek) matches some ⟨.text .single _, _, _, _⟩ then pure (quoteText (← literalString))
    else pure (← below.query).render
  expectSymbol ")"
  expectKeyword "TO"
  discard ident
  if ← keyword "IAM_ROLE" then iamRole
  discard (optionsAfter below "WITH")
  bareCopyOptionList
  return "UNLOAD(" ++ source ++ ")"

/-- A LOAD behind its key word. -/
def loadStatement (below : Nested) : Parser String := do
  let dialect ← dialect
  if dialect.loadsExtensions then return "LOAD " ++ (← ident).render
  else if ← keyword "DATA" <&&> pure (dialect == .hive) then
    let local_ ← textIf (keyword "LOCAL") "LOCAL "
    expectKeyword "INPATH"
    discard literalString
    discard (keyword "OVERWRITE")
    expectKeywords ["INTO", "TABLE"]
    discard (objectName false)
    if ← keyword "PARTITION" then discard (parenthesized (exprTexts below))
    if ← keyword "INPUTFORMAT" then
      discard (exprText below)
      expectKeyword "SERDE"
      discard (exprText below)
    return "LOAD DATA " ++ local_ ++ "INPATH"
  else expected "`DATA` or an extension name after `LOAD`"

/-- An EXPORT behind its key word. -/
def exportStatement (below : Nested) : Parser String := do
  expectKeyword "DATA"
  if ← keywords ["WITH", "CONNECTION"] then discard (objectName false)
  if !(← atKeyword "OPTIONS") then expected "OPTIONS"
  discard (optionsAfter below "OPTIONS")
  expectKeyword "AS"
  discard below.query
  return "EXPORT DATA"

/-- The marks that may stand in the name of a stage. -/
def stageMarks : List String :=
  ["@", "~", "%", "/", "+", "-", "=", ":"]

/-- Whether a token may stand in the name of a stage. -/
def isStageToken : Token → Bool
  | .word .. => true
  | .number .. => true
  | .symbol mark => stageMarks.contains mark || mark == "."
  | _ => false

/-- The name of a stage, or of a table.  A semicolon right behind a stage is taken. -/
def stageName : Parser String := do
  if ← atSymbol "@" then
    let rest := (← get).rest
    let tail := (rest.drop 1).takeWhile (fun lexeme => isStageToken lexeme.token && !lexeme.spaced)
    drop (tail.length + 1)
    match ← peek with
    | some ⟨.symbol ";", _, _, false⟩ => drop 1
    | some ⟨.symbol mark, _, _, false⟩ =>
      if ! ["(", ")"].contains mark then
        drop 1
        expected "stage name identifier"
    | some ⟨_, _, _, false⟩ =>
      drop 1
      expected "stage name identifier"
    | _ => pure ()
    return "".intercalate ("@" :: tail.map (·.token.render))
  else return (← objectName false).render

/-- The parameters of a stage. -/
def stageParameters : Parser Unit := do
  if ← keyword "URL" then
    expectSymbol "="
    discard literalString
  if ← keyword "STORAGE_INTEGRATION" then
    expectSymbol "="
    discard next
  if ← keyword "ENDPOINT" then
    expectSymbol "="
    discard literalString
  for key in ["CREDENTIALS", "ENCRYPTION"] do
    if ← keyword key then
      expectSymbol "="
      optionsInParentheses

/-- The definition of a stage. -/
def createStage : Parser Unit := do
  ifNotExists
  discard (objectName false)
  stageParameters
  for key in ["DIRECTORY", "FILE_FORMAT", "COPY_OPTIONS"] do
    if ← keyword key then
      expectSymbol "="
      optionsInParentheses
  if ← keyword "COMMENT" then
    expectSymbol "="
    discard commentValue

/-- A part of the definition of a database; `none` at its end. -/
def databasePart : Parser (Option Unit) := do
  if ← atSemicolonOrEnd then return none
  let found ← peek
  drop 1
  match (found.map (·.key)).getD "" with
  | "CLONE" =>
    discard (attempt (objectName false))
    if (← atOneOf ["AT", "BEFORE"]) then
      drop 1
      discard optionalBalanced
    return some ()
  | "COMMENT" =>
    discard (symbol "=")
    discard literalString
    return some ()
  | "WITH" =>
    discard (expectOneOf ["TAG", "CONTACT"])
    discard balanced
    return some ()
  | "TAG" =>
    discard balanced
    return some ()
  | key =>
    if ← pure key.isEmpty <||> (not <$> symbol "=") then unexpected "end of statement" found
    discard next
    return some ()

/-- The definition of a database whose parts stand in any order. -/
def createDatabaseOfParts : Parser Unit := do
  ifNotExists
  discard (objectName false)
  discard (repeatWhile databasePart)

/-- What a COPY INTO reads. -/
def copyIntoSource (below : Nested) (toStage : Bool) : Parser Unit := do
  if ← symbol "(" then
    if toStage then discard below.query
    else
      expectKeyword "SELECT"
      discard (projection below)
      expectKeyword "FROM"
      discard stageName
      stageParameters
      discard tableAlias
    expectSymbol ")"
  else
    discard stageName
    stageParameters
    if ← keyword "AS" then discard ident

/-- An option of a COPY INTO; `none` at its end, which takes a semicolon. -/
def copyIntoOption (below : Nested) : Parser (Option Unit) := do
  if ← pure ((← peek).isNone) <||> symbol ";" then return none
  if ← keywords ["PARTITION", "BY"] then discard (exprText below)
  else if ← keyword "VALIDATION_MODE" then
    expectSymbol "="
    discard next
  else if !(← symbol ",") then
    match ← next with
    | some ⟨.word .., _, _, _⟩ =>
      expectSymbol "="
      optionValue
    | _ => expected "another copy option, ; or EOF'"
  return some ()

/-- A COPY INTO behind its key words. -/
def copyIntoStatement (below : Nested) : Parser String := do
  let toStage ←
    match ← peek with
    | some ⟨.symbol "@", _, _, _⟩ => pure true
    | some ⟨.text .single text, _, _, _⟩ => pure ((text.splitOn "://").length > 1)
    | _ => pure false
  let target ← stageName
  if toStage then stageParameters
  discard (optionalIdentList true)
  expectKeyword "FROM"
  copyIntoSource below toStage
  discard (repeatWhile (copyIntoOption below))
  return "COPY INTO " ++ target

/-- A command about the files of a stage, behind its key word. -/
def stageFilesStatement (verb : String) : Parser String := do
  let stage ← stageName
  if ← keyword "PATTERN" then
    expectSymbol "="
    discard literalString
  return verb ++ " " ++ stage

end SqlLineage.Sql.Parse
