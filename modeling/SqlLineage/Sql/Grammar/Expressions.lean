import SqlLineage.Sql.Grammar.Values

/-!
# Expressions

Expressions are read by precedence: a first operand, then operators for as long as they bind more
tightly than the operator before.  Only names, parentheses and the operators between them keep a
structure; every other form is kept as text.
-/

namespace SqlLineage.Sql.Parse

open Dialect (Precedence)

/-- An expression one level further down. -/
def expr (below : Nested) : Parser Expr :=
  below.expression 0

/-- The text of an expression one level further down. -/
def exprText (below : Nested) : Parser String := do
  return (← expr below).render

/-- The texts of expressions with a comma between them. -/
def exprTexts (below : Nested) : Parser String := do
  return commaList (← commaSeparated (exprText below))

/-- How tightly an operator of the dialect binds. -/
def bindingOf (precedence : Precedence) : Parser Nat := do
  return (← dialect).binding precedence

/-- Whether a query stands next. -/
def atQuery : Parser Bool :=
  atOneOf ["SELECT", "WITH"]

/-- The order of a sort key, and what becomes of nulls and gaps. -/
def sortOrder (below : Nested) : Parser String := do
  let order ← oneOf ["ASC", "DESC"]
  let nulls ←
    if ← keywords ["NULLS", "FIRST"] then pure " NULLS FIRST"
    else if ← keywords ["NULLS", "LAST"] then pure " NULLS LAST"
    else pure ""
  let fill ←
    if ← when (· matches .clickhouse | .generic) <&&> keywords ["WITH", "FILL"] then do
      let start ← textIf (keyword "FROM") " FROM "
      let start ← if start.isEmpty then pure "" else pure (start ++ (← exprText below))
      let stop ← if ← keyword "TO" then pure (" TO " ++ (← exprText below)) else pure ""
      let step ← if ← keyword "STEP" then pure (" STEP " ++ (← exprText below)) else pure ""
      pure (" WITH FILL" ++ start ++ stop ++ step)
    else pure ""
  return (order.map (" " ++ ·)).getD "" ++ nulls ++ fill

/-- `expr ASC NULLS FIRST` -/
def orderByExpr (below : Nested) : Parser String := do
  let text ← exprText below
  return text ++ (← sortOrder below)

/-- The texts of sort keys with a comma between them. -/
def orderByExprs (below : Nested) : Parser String := do
  return commaList (← commaSeparated (orderByExpr below))

/-- The bound of a window frame. -/
def windowBound (below : Nested) : Parser String := do
  if ← keywords ["CURRENT", "ROW"] then return "CURRENT ROW"
  let distance ← if ← keyword "UNBOUNDED" then pure "UNBOUNDED" else exprText below
  match ← oneOf ["PRECEDING", "FOLLOWING"] with
  | some side => return distance ++ " " ++ side
  | none => expected "PRECEDING or FOLLOWING"

/-- The frame of a window. -/
def windowFrame (below : Nested) : Parser String := do
  match ← oneOf ["ROWS", "RANGE", "GROUPS"] with
  | none => expected "ROWS, RANGE, GROUPS"
  | some units =>
    if ← keyword "BETWEEN" then
      let start ← windowBound below
      expectKeyword "AND"
      return units ++ " BETWEEN " ++ start ++ " AND " ++ (← windowBound below)
    else return units ++ " " ++ (← windowBound below)

/-- A window behind its opening parenthesis. -/
def windowSpec (below : Nested) : Parser String := do
  let name ←
    match ← peek with
    | some lexeme => if lexeme.token.isPlainWord then optionalIdent else pure none
    | none => pure none
  let partitions ←
    if ← keywords ["PARTITION", "BY"] then pure ["PARTITION BY " ++ (← exprTexts below)]
    else pure []
  let order ←
    if ← keywords ["ORDER", "BY"] then pure ["ORDER BY " ++ (← orderByExprs below)] else pure []
  let frame ←
    if ← symbol ")" then pure []
    else do
      let frame ← windowFrame below
      expectSymbol ")"
      pure [frame]
  let names := (name.map (fun name => [name.render])).getD []
  return "(" ++ " ".intercalate (names ++ partitions ++ order ++ frame) ++ ")"

/-- An expression in which `*` and `name.*` may stand too. -/
def wildcardExpr (below : Nested) : Parser Expr := do
  let start ← get
  let first ← next
  match first with
  | some ⟨.symbol "*", _, _, _⟩ => return .wildcard
  | some lexeme =>
    let name :=
      match lexeme.token with
      | .word value quote => some (⟨value, quote⟩ : Ident)
      | .text .single text => some ⟨text, some '\''⟩
      | _ => none
    match name with
    | some name =>
      if ← atSymbol "." then
        match ← qualified (← budget) [name] with
        | some parts => return .qualifiedWildcard ⟨parts.map .ident⟩
        | none =>
          set start
          expr below
      else
        set start
        expr below
    | none =>
      set start
      expr below
  | none =>
    set start
    expr below
where
  /-- The parts of a dotted name that ends in `*`; `none` if it ends in no `*`. -/
  qualified : Nat → List Ident → Parser (Option (List Ident))
    | 0, _ => return none
    | steps + 1, parts => do
      if !(← symbol ".") then return none
      let found ← next
      match found with
      | some ⟨.word value quote, _, _, _⟩ => qualified steps (parts ++ [⟨value, quote⟩])
      | some ⟨.text .single text, _, _, _⟩ => qualified steps (parts ++ [⟨text, some '\''⟩])
      | some ⟨.placeholder name, _, _, _⟩ => qualified steps (parts ++ [⟨name, none⟩])
      | some ⟨.symbol "*", _, _, _⟩ => return some parts
      | _ => unexpected "an identifier or a '*' after '.'" found

/-- The operator between the name and the value of an argument. -/
def argumentOperator : Parser String := do
  if ← keyword "VALUE" then return " VALUE "
  let dialect ← dialect
  if ← pure dialect.namesArgumentsWithArrow <&&> symbol "=>" then return " => "
  else if ← pure dialect.namesArgumentsWithEquals <&&> symbol "=" then return " = "
  else if ← pure dialect.namesArgumentsWithAssignment <&&> symbol ":=" then return " := "
  else if ← pure dialect.namesArgumentsWithColon <&&> symbol ":" then return " : "
  else expected "argument operator"

/-- An argument of a function. -/
def argument (below : Nested) : Parser String := do
  let exprName ← when Dialect.hasExprNamedArguments
  let named ← attempt (do
    let name ← if exprName then exprText below else pure (← ident).render
    let operator ← argumentOperator
    return name ++ operator ++ (← wildcardExpr below).render)
  match named with
  | some text => return text
  | none => return (← wildcardExpr below).render

/-- How nulls are treated, if that is said. -/
def nullTreatment : Parser String := do
  if ← keywords ["RESPECT", "NULLS"] then return " RESPECT NULLS"
  else if ← keywords ["IGNORE", "NULLS"] then return " IGNORE NULLS"
  else return ""

/-- How a value made of JSON treats nulls, if that is said. -/
def jsonNulls : Parser String := do
  if ← keywords ["ABSENT", "ON", "NULL"] then return " ABSENT ON NULL"
  else if ← keywords ["NULL", "ON", "NULL"] then return " NULL ON NULL"
  else return ""

/-- What a list that grows too long does, if that is said. -/
def overflow (below : Nested) : Parser String := do
  if ← keywords ["ON", "OVERFLOW"] then
    if ← keyword "ERROR" then return " ON OVERFLOW ERROR"
    expectKeyword "TRUNCATE"
    let filler ←
      match ← peek with
      | some ⟨.text .., _, _, _⟩ => pure (" " ++ (← exprText below))
      | _ => pure ""
    let count ← if ← keyword "WITH" then pure " WITH" else do
      expectKeyword "WITHOUT"
      pure " WITHOUT"
    expectKeyword "COUNT"
    return " ON OVERFLOW TRUNCATE" ++ filler ++ count ++ " COUNT"
  else return ""

/-- The arguments of a function behind the opening parenthesis; whether the treatment of nulls is
among them. -/
def arguments (below : Nested) : Parser (String × Bool) := do
  let dialect ← dialect
  let nulls ← jsonNulls
  let returning ←
    if ← keyword "RETURNING" then pure (" RETURNING " ++ (← dataType).text) else pure ""
  if ← symbol ")" then return ((nulls ++ returning).trimAscii.toString, false)
  let place ← peek
  let all ← keyword "ALL"
  let distinct ← keyword "DISTINCT"
  if all && distinct then refuseAt "Cannot specify both ALL and DISTINCT" place
  let args ← commaSeparated (argument below)
  let treatment ← if dialect.hasNullTreatmentArgument then nullTreatment else pure ""
  let order ←
    if ← keywords ["ORDER", "BY"] then pure (" ORDER BY " ++ (← orderByExprs below)) else pure ""
  let limit ← if ← keyword "LIMIT" then pure (" LIMIT " ++ (← exprText below)) else pure ""
  let having ←
    if ← pure (dialect matches .generic | .bigquery) <&&> keyword "HAVING" then do
      let bound ← expectOneOf ["MIN", "MAX"]
      pure (" HAVING " ++ bound ++ " " ++ (← exprText below))
    else pure ""
  let separator ←
    if ← pure (dialect matches .generic | .mysql) <&&> keyword "SEPARATOR" then
      pure (" SEPARATOR " ++ (← value))
    else pure ""
  let overflow ← overflow below
  let nulls ← jsonNulls
  let returning ←
    if ← keyword "RETURNING" then pure (" RETURNING " ++ (← dataType).text) else pure ""
  expectSymbol ")"
  let quantifier := if distinct then "DISTINCT " else if all then "ALL " else ""
  return (quantifier ++ commaList args ++ treatment ++ order ++ limit ++ having ++ separator
    ++ overflow ++ nulls ++ returning, !treatment.isEmpty)

/-- The call of a function from its opening parenthesis on. -/
def functionCall (below : Nested) (name : String) : Parser String := do
  let dialect ← dialect
  expectSymbol "("
  if dialect.hasQueryArguments && (← atQuery) then
    let query ← below.query
    expectSymbol ")"
    return name ++ "(" ++ query.render ++ ")"
  let (first, treated) ← arguments below
  let (parameters, args, treated) : String × String × Bool ←
    if ← pure (dialect matches .clickhouse | .generic) <&&> symbol "(" then do
      let (args, treated) ← arguments below
      pure ("(" ++ first ++ ")", args, treated)
    else pure ("", first, treated)
  let group ←
    if ← keywords ["WITHIN", "GROUP"] then do
      let order ← parenthesized (do
        expectKeywords ["ORDER", "BY"]
        orderByExprs below)
      pure (" WITHIN GROUP (ORDER BY " ++ order ++ ")")
    else pure ""
  let filter ←
    if ← pure dialect.hasAggregateFilters <&&> keyword "FILTER" then
      if ← symbol "(" then
        if ← keyword "WHERE" then do
          let condition ← exprText below
          expectSymbol ")"
          pure (" FILTER (WHERE " ++ condition ++ ")")
        else pure ""
      else pure ""
    else pure ""
  let nulls ← if treated then pure "" else nullTreatment
  let overClause ←
    if ← keyword "OVER" then
      if ← symbol "(" then pure (" OVER " ++ (← windowSpec below))
      else pure (" OVER " ++ (← ident).render)
    else pure ""
  return name ++ parameters ++ "(" ++ args ++ ")" ++ group ++ filter ++ nulls ++ overClause

/-- The parts of a CASE behind its key word. -/
def caseExpr (below : Nested) : Parser String := do
  let operand ←
    if ← keyword "WHEN" then pure ""
    else do
      let operand ← exprText below
      expectKeyword "WHEN"
      pure (" " ++ operand)
  let branches ← separated
    (do
      let condition ← exprText below
      expectKeyword "THEN"
      return " WHEN " ++ condition ++ " THEN " ++ (← exprText below))
    (keyword "WHEN")
  let otherwise ← if ← keyword "ELSE" then pure (" ELSE " ++ (← exprText below)) else pure ""
  expectKeyword "END"
  return "CASE" ++ operand ++ "".intercalate branches ++ otherwise ++ " END"

/-- The parts of a CAST behind its key word. -/
def castExpr (below : Nested) (key : String) : Parser String :=
  parenthesized (do
    let operand ← exprText below
    expectKeyword "AS"
    let type ← dataType
    let format ←
      if ← keyword "FORMAT" then do
        let format ← value
        let zone ←
          if ← keywords ["AT", "TIME", "ZONE"] then pure (" AT TIME ZONE " ++ (← value))
          else pure ""
        pure (" FORMAT " ++ format ++ zone)
      else pure ""
    return key ++ "(" ++ operand ++ " AS " ++ type.text ++ format ++ ")")

/-- The parts of a CONVERT behind its key word. -/
def convertExpr (below : Nested) (key : String) : Parser String := do
  if ← when Dialect.convertsTypeFirst then
    parenthesized (do
      let type ← dataType
      expectSymbol ","
      let operand ← exprText below
      let styles ← if ← symbol "," then pure (", " ++ (← exprTexts below)) else pure ""
      return key ++ "(" ++ type.text ++ ", " ++ operand ++ styles ++ ")")
  else
    parenthesized (do
      let operand ← exprText below
      if ← keyword "USING" then
        return key ++ "(" ++ operand ++ " USING " ++ (← objectName false).render ++ ")"
      else
        expectSymbol ","
        let type ← dataType
        let charset ←
          if ← keywords ["CHARACTER", "SET"] then
            pure (" CHARACTER SET " ++ (← objectName false).render)
          else pure ""
        return key ++ "(" ++ operand ++ ", " ++ type.text ++ charset ++ ")")

/-- The parts of an EXTRACT behind its key word. -/
def extractExpr (below : Nested) : Parser String :=
  parenthesized (do
    let field ← dateTimeField
    if ← keyword "FROM" then
      return "EXTRACT(" ++ field ++ " FROM " ++ (← exprText below) ++ ")"
    else if ← when (· matches .snowflake | .generic) <&&> symbol "," then
      return "EXTRACT(" ++ field ++ ", " ++ (← exprText below) ++ ")"
    else refuse "Expected 'FROM' or ','")

/-- The parts of a CEIL or FLOOR behind its key word. -/
def roundingExpr (below : Nested) (key : String) : Parser String :=
  parenthesized (do
    let operand ← exprText below
    if ← keyword "TO" then
      return key ++ "(" ++ operand ++ " TO " ++ (← dateTimeField) ++ ")"
    else if ← symbol "," then
      let place ← peek
      match place with
      | some ⟨.number .., _, _, _⟩ => return key ++ "(" ++ operand ++ ", " ++ (← value) ++ ")"
      | _ => do
        discard value
        refuse "Scale field can only be of number type"
    else return key ++ "(" ++ operand ++ ")")

/-- The parts of a POSITION behind its key word. -/
def positionExpr (below : Nested) (word : String) : Parser String := do
  let between ← bindingOf .between
  let special ← attempt (parenthesized (do
    let needle ← below.expression between
    expectKeyword "IN"
    return "POSITION(" ++ needle.render ++ " IN " ++ (← exprText below) ++ ")"))
  match special with
  | some text => return text
  | none => functionCall below word

/-- The parts of a SUBSTRING behind its key word. -/
def substringExpr (below : Nested) (key : String) : Parser String :=
  parenthesized (do
    let operand ← exprText below
    let commas ← symbol ","
    let start ←
      if ← pure commas <||> keyword "FROM" then
        pure ((if commas then ", " else " FROM ") ++ (← exprText below))
      else pure ""
    let length ←
      if ← pure commas <&&> symbol "," <||> keyword "FOR" then
        pure ((if commas then ", " else " FOR ") ++ (← exprText below))
      else pure ""
    return key ++ "(" ++ operand ++ start ++ length ++ ")")

/-- The parts of an OVERLAY behind its key word. -/
def overlayExpr (below : Nested) : Parser String :=
  parenthesized (do
    let operand ← exprText below
    expectKeyword "PLACING"
    let other ← exprText below
    expectKeyword "FROM"
    let start ← exprText below
    let length ← if ← keyword "FOR" then pure (" FOR " ++ (← exprText below)) else pure ""
    return "OVERLAY(" ++ operand ++ " PLACING " ++ other ++ " FROM " ++ start ++ length ++ ")")

/-- The parts of a TRIM behind its key word. -/
def trimExpr (below : Nested) : Parser String :=
  parenthesized (do
    let side ← oneOf ["BOTH", "LEADING", "TRAILING"]
    let sideText := (side.map (· ++ " ")).getD ""
    let operand ← exprText below
    if ← keyword "FROM" then
      return "TRIM(" ++ sideText ++ operand ++ " FROM " ++ (← exprText below) ++ ")"
    else if ← when (· matches .duckdb | .snowflake | .bigquery | .generic) <&&> symbol "," then
      return "TRIM(" ++ operand ++ ", " ++ (← exprTexts below) ++ ")"
    else return "TRIM(" ++ sideText ++ operand ++ ")")

/-- The parts of an INTERVAL behind its key word. -/
def intervalExpr (below : Nested) : Parser String := do
  let needsUnit ← when Dialect.needsIntervalUnit
  let amount ←
    if needsUnit then exprText below
    else do
      let tightest ← bindingOf .period
      pure (← below.expression tightest).render
  let unit ←
    if temporalUnits.contains (← peekKey) then pure (some (← dateTimeField))
    else if needsUnit then
      refuseAt "INTERVAL requires a unit after the literal value" (← peek)
    else pure none
  let detail ←
    if unit == some "SECOND" then precisionAndScale
    else do
      let digits ← precision
      if ← keyword "TO" then
        let last ← dateTimeField
        let fraction ← if last == "SECOND" then precision else pure ""
        pure (digits ++ " TO " ++ last ++ fraction)
      else pure digits
  return "INTERVAL " ++ amount ++ (unit.map (" " ++ ·)).getD "" ++ detail

/-- The elements of an array behind its opening bracket. -/
def arrayExpr (below : Nested) (named : Bool) : Parser String := do
  let elements ← commaSeparatedUntil (exprText below) "]"
  expectSymbol "]"
  return (if named then "ARRAY[" else "[") ++ commaList elements ++ "]"

/-- The elements of a value in braces, behind the opening brace. -/
def dictionaryExpr (below : Nested) (key : Parser String) : Parser String := do
  let entries ← commaSeparatedUntil
    (do
      let name ← key
      expectSymbol ":"
      return name ++ ": " ++ (← exprText below))
    "\x7d"
  expectSymbol "\x7d"
  return "\x7b" ++ commaList entries ++ "\x7d"

/-- A value or call in braces, behind the opening brace. -/
def bracedExpr (below : Nested) (brace : Option Lexeme) : Parser String := do
  let call ← attempt (do
    let word ← ident
    match Text.upper word.value with
    | "FN" =>
      let name ← objectName false
      let call ← functionCall below name.render
      expectSymbol "\x7d"
      return "\x7bfn " ++ call ++ "\x7d"
    | "D" | "T" | "TS" =>
      let text ← value
      expectSymbol "\x7d"
      return "\x7b" ++ word.value ++ " " ++ text ++ "\x7d"
    | _ => expected "fn")
  match call with
  | some text => return text
  | none =>
    if ← when Dialect.hasDictionaries then
      dictionaryExpr below (return (← ident).render)
    else unexpected "an expression" brace

/-- The parts of a STRUCT; `start` is the state before its key word. -/
def structExpr (below : Nested) (start : Stream) : Parser String := do
  let typed ← atSymbol "<"
  let type ←
    if typed then do
      set start
      let (type, closed) ← dataTypeWithin (← budget)
      if closed then refuseAt "unmatched > in STRUCT literal" (← peek)
      pure type.text
    else pure "STRUCT"
  let values ← parenthesized (commaSeparated (do
    let text ← exprText below
    let place ← peek
    if ← keyword "AS" then
      if typed then refuseAt "Typed syntax does not allow AS" place
      return text ++ " AS " ++ (← ident).render
    else return text))
  return type ++ "(" ++ commaList values ++ ")"

/-- The parts of a MATCH … AGAINST behind its key word. -/
def matchAgainst : Parser String := do
  let columns ← parenthesized (commaSeparated (objectName false))
  expectKeyword "AGAINST"
  let pattern ← parenthesized (do
    let pattern ← value
    let mode ←
      if ← keywords ["IN", "NATURAL", "LANGUAGE", "MODE", "WITH", "QUERY", "EXPANSION"] then
        pure " IN NATURAL LANGUAGE MODE WITH QUERY EXPANSION"
      else if ← keywords ["IN", "NATURAL", "LANGUAGE", "MODE"] then
        pure " IN NATURAL LANGUAGE MODE"
      else if ← keywords ["IN", "BOOLEAN", "MODE"] then pure " IN BOOLEAN MODE"
      else if ← keywords ["WITH", "QUERY", "EXPANSION"] then pure " WITH QUERY EXPANSION"
      else pure ""
    return pattern ++ mode)
  return "MATCH (" ++ commaList (columns.map ObjectName.render) ++ ") AGAINST (" ++ pattern ++ ")"

/-- The parts of an EXISTS behind its key word. -/
def existsExpr (below : Nested) : Parser String :=
  parenthesized (do return "EXISTS (" ++ (← below.query).render ++ ")")

/-- The expression that a reserved word begins, read behind the word; `none` if the word begins no
special expression.  `start` is the state before the word. -/
def reservedExpr (below : Nested) (start : Stream) (word key : String) :
    Parser (Option Expr) := do
  let dialect ← dialect
  let text (parser : Parser String) : Parser (Option Expr) := do return some (.other (← parser))
  match key with
  | "TRUE" | "FALSE" =>
    if dialect.hasBooleans then return some (.other word.toLower) else return none
  | "NULL" => return some (.other "NULL")
  | "CURRENT_CATALOG" | "CURRENT_USER" | "SESSION_USER" | "USER" =>
    if dialect matches .postgres | .generic then return some (.other word) else return none
  | "CURRENT_TIMESTAMP" | "CURRENT_TIME" | "CURRENT_DATE" | "LOCALTIME" | "LOCALTIMESTAMP" =>
    text (do
      if ← symbol "(" then return word ++ "(" ++ (← arguments below).1 ++ ")" else return word)
  | "CASE" => text (caseExpr below)
  | "CONVERT" => text (convertExpr below "CONVERT")
  | "TRY_CONVERT" =>
    if dialect.hasTryConvert then text (convertExpr below "TRY_CONVERT") else return none
  | "CAST" | "TRY_CAST" | "SAFE_CAST" => text (castExpr below key)
  | "EXISTS" =>
    if dialect != .databricks || ["SELECT", "WITH"].contains (← peekKeyAt 1) then
      text (existsExpr below)
    else return none
  | "EXTRACT" => text (extractExpr below)
  | "CEIL" | "FLOOR" => text (roundingExpr below key)
  | "POSITION" =>
    if ← atSymbol "(" then text (positionExpr below word) else return none
  | "SUBSTR" | "SUBSTRING" => text (substringExpr below key)
  | "OVERLAY" => text (overlayExpr below)
  | "TRIM" => text (trimExpr below)
  | "INTERVAL" => text (intervalExpr below)
  | "ARRAY" =>
    if ← symbol "[" then text (arrayExpr below true)
    else if !(dialect matches .clickhouse | .databricks) && (← atSymbol "(") then
      text (parenthesized (do return "ARRAY(" ++ (← below.query).render ++ ")"))
    else return none
  | "NOT" =>
    text (do
      if ← keyword "EXISTS" then return "NOT " ++ (← existsExpr below)
      let tight ← bindingOf .not
      return "NOT " ++ (← below.expression tight).render)
  | "MATCH" => if dialect.hasMatchAgainst then text matchAgainst else return none
  | "STRUCT" => if dialect.hasStructs then text (structExpr below start) else return none
  | "PRIOR" =>
    if (← get).setting == .connectBy then
      text (do
        let tight ← bindingOf .addition
        return "PRIOR " ++ (← below.expression tight).render)
    else return none
  | "MAP" =>
    if ← pure dialect.hasMaps <&&> symbol "\x7b" then
      text (do return "MAP " ++ (← dictionaryExpr below (exprText below)))
    else return none
  | _ =>
    if dialect.hasGeometricOperators && geometricTypes.contains key then
      text (do return word ++ " " ++ (← value))
    else return none

/-- The expression that an ordinary word begins, read behind the word. -/
def wordExpr (below : Nested) (name : Ident) : Parser Expr := do
  let dialect ← dialect
  let found ← peek
  match found with
  | some ⟨.symbol "(", _, _, _⟩ =>
    let marks := dialect.hasOuterJoinMarks && (← atSymbolAt 1 "+") && (← atSymbolAt 2 ")")
    if marks then return .ident name else return .other (← functionCall below name.render)
  | some ⟨.symbol "->", _, _, _⟩ =>
    if dialect.hasLambdas then
      drop 1
      return .other (name.render ++ " -> " ++ (← exprText below))
    else return .ident name
  | some ⟨.text style _, _, _, _⟩ =>
    if name.value.startsWith "_" && (style matches .single | .double | .hex) then
      return .other (name.render ++ " " ++ (← value))
    else return .ident name
  | _ => return .ident name

/-- A value behind its data type. -/
def typedValue (below : Nested) : Parser Expr := do
  let type ← dataType
  match type.family with
  | .interval => return .other (← intervalExpr below)
  | .named => expected "a data type"
  | .binary =>
    if ← when Dialect.castsWithBinary then
      return .other ("CAST(" ++ (← exprText below) ++ " AS BINARY)")
    else return .other (type.text ++ " " ++ (← value))
  | .builtin => return .other (type.text ++ " " ++ (← value))

/-- A lambda behind its opening parenthesis. -/
def lambdaExpr (below : Nested) : Parser Expr := do
  let names ← commaSeparated ident
  expectSymbol ")"
  expectSymbol "->"
  return .other ("(" ++ commaList (names.map Ident.render) ++ ") -> " ++ (← exprText below))

/-- An expression behind its opening parenthesis. -/
def parenExpr (below : Nested) : Parser Expr := do
  if ← atQuery then
    let query ← below.query
    expectSymbol ")"
    return .other ("(" ++ query.render ++ ")")
  let lambda ← if ← when Dialect.hasLambdas then attempt (lambdaExpr below) else pure none
  match lambda with
  | some lambda => return lambda
  | none =>
    let exprs ← within .plain (commaSeparated (expr below))
    expectSymbol ")"
    match exprs with
    | [single] => return .paren single
    | _ => return .other ("(" ++ commaList (exprs.map Expr.render) ++ ")")

/-- An operand behind its sign. -/
def signedExpr (below : Nested) (sign : String) (precedence : Precedence) : Parser Expr := do
  return .other (sign ++ (← below.expression (← bindingOf precedence)).render)

/-- The expression that a token begins, read behind the token; `start` is the state before it. -/
def tokenExpr (below : Nested) (start : Stream) (found : Option Lexeme) : Parser Expr := do
  let dialect ← dialect
  match found with
  | none => unexpected "an expression" none
  | some lexeme =>
    match lexeme.token with
    | .symbol "[" => return .other (← arrayExpr below false)
    | .symbol "-" => signedExpr below "-" .multiplication
    | .symbol "+" => signedExpr below "+" .multiplication
    | .symbol "~" => signedExpr below "~" .addition
    | .symbol "!" =>
      if dialect.hasBangNot then signedExpr below "!" .not else unexpected "an expression" found
    | .symbol "(" => parenExpr below
    | .symbol "\x7b" => return .other (← bracedExpr below found)
    | .symbol ":" =>
      set start
      return .other (← value)
    | .symbol sign =>
      if (dialect == .postgres && ["!!", "|/", "||/", "@"].contains sign) then
        signedExpr below (sign ++ " ") .addition
      else if dialect.hasGeometricOperators && ["#", "@-@", "@@", "?-", "?|"].contains sign then
        signedExpr below (sign ++ " ") .multiplication
      else if sign == "@" then
        set start
        return .other (← value)
      else unexpected "an expression" found
    | .text .escaped _ =>
      if dialect matches .postgres | .generic then
        set start
        return .other (← value)
      else unexpected "an expression" found
    | .number .. | .text .. | .dollar .. | .placeholder _ =>
      set start
      return .other (← value)
    | _ => unexpected "an expression" found

/-- A collation behind an operand, where one may stand. -/
def withCollation (operand : Expr) : Parser Expr := do
  if ← pure ((← get).setting != .columnDefinition) <&&> keyword "COLLATE" then
    return .other (operand.render ++ " COLLATE " ++ (← objectName false).render)
  else return operand

/-- The expression that a word begins, read behind the word; `start` is the state before it.  A
special form that does not work out is read as a name where the word may be one. -/
def wordOrReserved (below : Nested) (start : Stream) (lexeme : Lexeme) (name : Ident) :
    Parser Expr := do
  let here ← get
  match (reservedExpr below start name.value lexeme.key).run here with
  | .ok (some expr, after) =>
    set after
    withCollation expr
  | .ok (none, _) => withCollation (← wordExpr below name)
  | .error fault =>
    if (← dialect).reservedForNames.contains lexeme.key then throw fault
    match (wordExpr below name).run here with
    | .ok (expr, after) =>
      set after
      return expr
    | .error _ => throw fault

/-- The first operand of an expression. -/
def operand (below : Nested) : Parser Expr := do
  let start ← get
  let found ← peek
  match found with
  | some ⟨.word value quote, position, key, spaced⟩ =>
    match ← attempt (typedValue below) with
    | some expr => return expr
    | none =>
      drop 1
      wordOrReserved below start ⟨.word value quote, position, key, spaced⟩ ⟨value, quote⟩
  | _ =>
    drop 1
    withCollation (← tokenExpr below start found)

/-- The inside of brackets behind an operand: an index or a slice. -/
def subscript (below : Nested) : Parser String := do
  let lower ← if ← symbol ":" then pure none else pure (some (← exprText below))
  let lowerText := lower.getD ""
  if ← symbol "]" then
    return "[" ++ (if lower.isNone then ":" else lowerText) ++ "]"
  if lower.isSome then expectSymbol ":"
  if ← symbol "]" then return "[" ++ lowerText ++ ":]"
  let upper ← exprText below
  if ← symbol "]" then return "[" ++ lowerText ++ ":" ++ upper ++ "]"
  expectSymbol ":"
  if ← symbol "]" then return "[" ++ lowerText ++ ":" ++ upper ++ ":]"
  let stride ← exprText below
  expectSymbol "]"
  return "[" ++ lowerText ++ ":" ++ upper ++ ":" ++ stride ++ "]"

/-- What has been read of an operand with dots and brackets behind it: its names as long as it
consists of names, and its text. -/
structure Access where
  names : Option (List Ident)
  text : String
  plain : Expr

/-- An operand with what has been read behind it. -/
def Access.expr (access : Access) : Expr :=
  match access.names with
  | some [_] => access.plain
  | some names => .path names
  | none => access.plain

/-- Adds an element behind a dot. -/
def Access.dot (access : Access) (element : Expr) : Access :=
  let text := access.text ++ "." ++ element.render
  let names :=
    match access.names, element with
    | some names, .ident name => some (names ++ [name])
    | some names, .path more => some (names ++ more)
    | _, _ => none
  ⟨names, text, .other text⟩

/-- Reads dots and brackets behind an operand. -/
def accessWithin (below : Nested) : Nat → Access → Parser Expr
  | 0, access => return access.expr
  | steps + 1, access => do
    let dialect ← dialect
    if ← atSymbol "." then
      match ← peekAt 1 with
      | some ⟨.symbol "*", _, _, _⟩ =>
        if dialect == .postgres then
          drop 2
          match access.names with
          | some names => return .qualifiedWildcard ⟨names.map .ident⟩
          | none => expected "an identifier or a '*' after '.'"
        else return access.expr
      | some ⟨.text .single text, _, _, _⟩ =>
        drop 2
        accessWithin below steps (access.dot (.ident ⟨text, some '\''⟩))
      | _ =>
        drop 1
        let element ← below.expression (← bindingOf .period)
        accessWithin below steps (access.dot element)
    else if !dialect.hasPathNavigation && (← atSymbol "[") then
      drop 1
      let text := access.text ++ (← subscript below)
      accessWithin below steps ⟨none, text, .other text⟩
    else if ← pure dialect.hasOuterJoinMarks <&&> symbols ["(", "+", ")"] then
      match access.names with
      | some _ => return .other (access.text ++ " (+)")
      | none => expected "column identifier before (+)"
    else return access.expr

/-- An operand with the dots and brackets behind it. -/
def accessed (below : Nested) (root : Expr) : Parser Expr := do
  let names :=
    match root with
    | .ident name => some [name]
    | _ => none
  accessWithin below (← budget) ⟨names, root.render, root⟩

/-- How tightly the operator that stands next binds; zero if none does. -/
def nextBinding : Parser Nat := do
  let dialect ← dialect
  let setting := (← get).setting
  let bind (precedence : Precedence) : Nat := dialect.binding precedence
  match ← peek with
  | none => return 0
  | some lexeme =>
    match lexeme.token with
    | .word _ (some _) => return 0
    | .word _ none =>
      match lexeme.key with
      | "OR" => return bind .or
      | "AND" => return bind .and
      | "XOR" => return bind .xor
      | "AT" =>
        if (← peekKeyAt 1) == "TIME" && (← peekKeyAt 2) == "ZONE" then return bind .atTimeZone
        else return 0
      | "NOT" =>
        match ← peekKeyAt 1 with
        | "IN" | "BETWEEN" => return bind .between
        | "LIKE" | "ILIKE" | "RLIKE" | "REGEXP" | "MATCH" | "SIMILAR" | "MEMBER" =>
          return bind .like
        | "NULL" => if setting == .columnDefinition then return 0 else return bind .is
        | _ => return 0
      | "NOTNULL" => if dialect.hasNotNullOperator then return bind .is else return 0
      | "IS" => return bind .is
      | "IN" | "BETWEEN" | "OVERLAPS" | "OPERATOR" => return bind .between
      | "LIKE" | "ILIKE" | "RLIKE" | "REGEXP" | "MATCH" | "SIMILAR" | "MEMBER" => return bind .like
      | "DIV" => return bind .multiplication
      | "COLLATE" =>
        if dialect == .postgres && setting != .columnDefinition then return 120 else return 0
      | _ => return 0
    | .customOperator _ => return bind .other
    | .symbol spelling =>
      if dialect == .snowflake && spelling == ":" then return bind .doubleColon
      if dialect == .postgres then
        if spelling == "[" then return 130
        if ["->", "->>", "#>", "#>>", "@>", "<@", "#-", "@?", "@@", "?", "?&", "?|", "!", "&&",
            "^@", "||", "#", ">>", "<<"].contains spelling then return bind .other
      match spelling with
      | "." => return bind .period
      | ":=" | "=" | "<" | "<=" | "<>" | "!=" | ">" | ">=" | "==" | "~" | "~*" | "!~" | "!~*"
      | "~~" | "~~*" | "!~~" | "!~~*" | "<=>" => return bind .eq
      | "|" | "?-" | "##" | "&&" | "&<" | "&>" | "?-|" | "&<|" | "|&>" | "<->" | "<^" | ">^"
      | "?#" | "?||" | "?|" | "~=" | "@" | "<<|" | "|>>" => return bind .pipe
      | "^" | "#" | ">>" | "<<" => return bind .caret
      | "&" => return bind .ampersand
      | "+" | "-" => return bind .addition
      | "*" | "/" | "//" | "%" | "||" => return bind .multiplication
      | "::" | "!" | "[" | "^@" => return bind .doubleColon
      | "->" | "->>" | "#>" | "#>>" | "@>" | "<@" | "#-" | "@?" | "@@" | "?" | "?&" =>
        return bind .other
      | _ => return 0
    | _ => return 0

/-- The operator between two operands that a symbol stands for. -/
def symbolOperator? (dialect : Dialect) (spelling : String) : Option BinaryOperator :=
  match spelling with
  | "=" | "==" => some .eq
  | "<>" | "!=" => some .notEq
  | "<" => some .lt
  | "<=" => some .ltEq
  | ">" => some .gt
  | ">=" => some .gtEq
  | "<<" | ">>" =>
    if dialect matches .postgres | .duckdb | .generic | .redshift then some (.other spelling)
    else none
  | "#" => if dialect matches .postgres | .redshift then some (.other spelling) else none
  | "&&" =>
    if dialect matches .postgres | .redshift | .generic then some (.other spelling)
    else if dialect.hasDoubleAmpersand then some .and
    else none
  | "^@" => if dialect matches .postgres | .generic then some (.other spelling) else none
  | "//" => if dialect matches .duckdb | .generic then some (.other spelling) else none
  | "<=>" | ":=" | "+" | "-" | "*" | "%" | "||" | "|" | "^" | "&" | "/" | "~" | "~*" | "!~" | "!~*"
  | "~~" | "~~*" | "!~~" | "!~~*" | "->" | "->>" | "#>" | "#>>" | "@>" | "<@" | "#-" | "@?" | "@@"
  | "?" | "?&" | "?|" => some (.other spelling)
  | "##" | "&<" | "&>" | "?-|" | "&<|" | "|&>" | "<->" | "<^" | ">^" | "?#" | "?||" | "~=" | "@"
  | "<<|" | "|>>" | "?-" =>
    if dialect.hasGeometricOperators then some (.other spelling) else none
  | _ => none

/-- The name by which a message calls a symbol. -/
def symbolName (spelling : String) : String :=
  match spelling with
  | "." => "Period"
  | "|" => "Pipe"
  | "<<" => "ShiftLeft"
  | ">>" => "ShiftRight"
  | "#" => "Sharp"
  | "&&" => "Overlap"
  | "^@" => "CaretAt"
  | "//" => "DuckIntDiv"
  | "!" => "ExclamationMark"
  | "[" => "LBracket"
  | "@" => "AtSign"
  | "?-" => "QuestionMarkDash"
  | "~=" => "TildeEqual"
  | other => other

/-- The fault of an operator that has no meaning in the dialect. -/
def noOperator {α : Type} (lexeme : Lexeme) : Parser α :=
  let name :=
    match lexeme.token with
    | .word value _ =>
      let fields := "value: \"" ++ value ++ "\", quote_style: None, keyword: " ++ lexeme.key
      "Word(Word \x7b " ++ fields ++ " \x7d)"
    | .symbol spelling => symbolName spelling
    | token => token.render
  refuseAt ("No infix parser for token " ++ name) (some lexeme)

/-- The operators that ANY and ALL may stand behind. -/
def isComparison : BinaryOperator → Bool
  | .eq | .notEq | .lt | .ltEq | .gt | .gtEq => true
  | .other spelling =>
    ["~", "~*", "!~", "!~*", "~~", "~~*", "!~~", "!~~*"].contains spelling
  | _ => false

/-- The right operand of an operator, and the two together. -/
def binaryExpr (below : Nested) (left : Expr) (operator : BinaryOperator) (tight : Nat)
    (place : Option Lexeme) : Parser Expr := do
  match ← oneOf ["ANY", "ALL", "SOME"] with
  | some quantifier =>
    let start ← get
    expectSymbol "("
    let right ←
      if ← atQuery then do
        set start
        below.expression tight
      else do
        let right ← below.expression tight
        expectSymbol ")"
        pure (.paren right)
    if !isComparison operator then
      refuseAt ("Expected one of [=, >, <, =>, =<, !=, ~, ~*, !~, !~*, ~~, ~~*, !~~, !~~*] as "
        ++ "comparison operator, found: " ++ operator.spelling) place
    return .other
      (left.render ++ " " ++ operator.spelling ++ " " ++ quantifier ++ right.render)
  | none => return .binary operator left (← below.expression tight)

/-- What stands behind IS. -/
def isTest (below : Nested) : Parser String := do
  if ← keyword "NULL" then return "NULL"
  else if ← keywords ["NOT", "NULL"] then return "NOT NULL"
  else if ← keyword "TRUE" then return "TRUE"
  else if ← keywords ["NOT", "TRUE"] then return "NOT TRUE"
  else if ← keyword "FALSE" then return "FALSE"
  else if ← keywords ["NOT", "FALSE"] then return "NOT FALSE"
  else if ← keyword "UNKNOWN" then return "UNKNOWN"
  else if ← keywords ["NOT", "UNKNOWN"] then return "NOT UNKNOWN"
  else if ← keywords ["DISTINCT", "FROM"] then return "DISTINCT FROM " ++ (← exprText below)
  else if ← keywords ["NOT", "DISTINCT", "FROM"] then
    return "NOT DISTINCT FROM " ++ (← exprText below)
  else
    let normalized ← attempt (do
      let negated ← textIf (keyword "NOT") "NOT "
      let form ← oneOf ["NFC", "NFD", "NFKC", "NFKD"]
      expectKeyword "NORMALIZED"
      return negated ++ (form.map (· ++ " ")).getD "" ++ "NORMALIZED")
    match normalized with
    | some text => return text
    | none =>
      expected "[NOT] NULL | TRUE | FALSE | DISTINCT | [form] NORMALIZED FROM after IS"

/-- What stands behind IN. -/
def inList (below : Nested) : Parser String := do
  if ← keyword "UNNEST" then
    return "UNNEST(" ++ (← parenthesized (exprText below)) ++ ")"
  parenthesized (do
    match ← attempt below.query with
    | some query => return "(" ++ query.render ++ ")"
    | none =>
      if ← when Dialect.allowsEmptyIn then
        return "(" ++ commaList (← commaSeparatedUntil (exprText below) ")") ++ ")"
      else return "(" ++ (← exprTexts below) ++ ")")

/-- The escape character of a pattern, if one is named. -/
def escapeClause : Parser String := do
  if ← keyword "ESCAPE" then return " ESCAPE " ++ (← value) else return ""

/-- A test with IN, BETWEEN or a pattern, possibly negated. -/
def wordTest (below : Nested) (left : Expr) : Parser Expr := do
  let negated ← keyword "NOT"
  let not := if negated then " NOT" else ""
  let tight ← bindingOf .like
  let pattern (key : String) : Parser Expr := do
    let any ← textIf (keyword "ANY") " ANY"
    let right ← below.expression tight
    let escape ← escapeClause
    return .other (left.render ++ not ++ " " ++ key ++ any ++ " " ++ right.render ++ escape)
  match ← oneOf ["REGEXP", "RLIKE"] with
  | some key =>
    let right ← below.expression tight
    return .other (left.render ++ not ++ " " ++ key ++ " " ++ right.render)
  | none =>
    let null ←
      if (← get).setting == .columnDefinition then pure false else keyword "NULL"
    if negated && null then return .other (left.render ++ " IS NOT NULL")
    else if ← keyword "IN" then
      return .other (left.render ++ not ++ " IN " ++ (← inList below))
    else if ← keyword "BETWEEN" then
      let between ← bindingOf .between
      let low ← below.expression between
      expectKeyword "AND"
      let high ← below.expression between
      return .other
        (left.render ++ not ++ " BETWEEN " ++ low.render ++ " AND " ++ high.render)
    else if ← keyword "LIKE" then pattern "LIKE"
    else if ← keyword "ILIKE" then pattern "ILIKE"
    else if ← keywords ["SIMILAR", "TO"] then
      let right ← below.expression tight
      let escape ← escapeClause
      return .other (left.render ++ not ++ " SIMILAR TO " ++ right.render ++ escape)
    else expected "IN or BETWEEN after NOT"

/-- An operator named in parentheses behind OPERATOR. -/
def namedOperator : Parser BinaryOperator := do
  expectSymbol "("
  let parts ← separated
    (do return ((← next).map (·.token.render)).getD "EOF")
    (symbol ".")
  expectSymbol ")"
  return .other ("OPERATOR(" ++ ".".intercalate parts ++ ")")

/-- The keys and brackets of a path into a nested value. -/
def pathSteps (below : Nested) : Nat → Bool → Parser String
  | 0, _ => return ""
  | steps + 1, first => do
    let key : Parser String := do
      let found ← next
      match found with
      | some ⟨.word value quote, _, _, _⟩ => return Ident.render ⟨value, quote⟩
      | some ⟨.text .double value, _, _, _⟩ => return Ident.render ⟨value, some '"'⟩
      | _ => unexpected "variant object key name" found
    if ← pure first <&&> symbol ":" then
      return ":" ++ (← key) ++ (← pathSteps below steps false)
    else if ← pure (!first) <&&> symbol "." then
      return "." ++ (← key) ++ (← pathSteps below steps false)
    else if ← symbol "[" then
      let index ← exprText below
      expectSymbol "]"
      return "[" ++ index ++ "]" ++ (← pathSteps below steps false)
    else return ""

/-- An operator that a word stands for, behind its left operand. -/
def wordInfix (below : Nested) (left : Expr) (tight : Nat) (lexeme : Lexeme) : Parser Expr := do
  let dialect ← dialect
  let start ← get
  drop 1
  match lexeme.key with
  | "AND" => binaryExpr below left .and tight (some lexeme)
  | "OR" => binaryExpr below left .or tight (some lexeme)
  | "XOR" => binaryExpr below left (.other "XOR") tight (some lexeme)
  | "OVERLAPS" => binaryExpr below left (.other "OVERLAPS") tight (some lexeme)
  | "OPERATOR" =>
    if dialect matches .postgres | .generic then
      binaryExpr below left (← namedOperator) tight (some lexeme)
    else noOperator lexeme
  | "DIV" =>
    if dialect == .mysql then return .binary (.other "DIV") left (← expr below)
    else noOperator lexeme
  | "REGEXP" =>
    if dialect == .sqlite then return .binary (.other "REGEXP") left (← expr below)
    else
      set start
      wordTest below left
  | "MATCH" =>
    if dialect == .sqlite then return .binary (.other "MATCH") left (← expr below)
    else noOperator lexeme
  | "IS" => return .other (left.render ++ " IS " ++ (← isTest below))
  | "AT" =>
    expectKeywords ["TIME", "ZONE"]
    return .other (left.render ++ " AT TIME ZONE " ++ (← below.expression tight).render)
  | "NOT" | "IN" | "BETWEEN" | "LIKE" | "ILIKE" | "SIMILAR" | "RLIKE" =>
    set start
    wordTest below left
  | "NOTNULL" => return .other (left.render ++ " NOTNULL")
  | "MEMBER" =>
    if ← keyword "OF" then
      return .other
        (left.render ++ " MEMBER OF(" ++ (← parenthesized (exprText below)) ++ ")")
    else expected "OF after MEMBER"
  | _ => noOperator lexeme

/-- The operator that stands next, behind its left operand. -/
def infixExpr (below : Nested) (left : Expr) (tight : Nat) : Parser Expr := do
  let dialect ← dialect
  match ← peek with
  | none => expected "an expression"
  | some lexeme =>
    match lexeme.token with
    | .word .. => wordInfix below left tight lexeme
    | .customOperator spelling =>
      drop 1
      binaryExpr below left (.other spelling) tight (some lexeme)
    | .symbol spelling =>
      match symbolOperator? dialect spelling with
      | some operator =>
        drop 1
        binaryExpr below left operator tight (some lexeme)
      | none =>
        if spelling == "::" then
          drop 1
          return .other (left.render ++ "::" ++ (← dataType).text)
        else if spelling == "!" && dialect.hasFactorial then
          drop 1
          return .other (left.render ++ "!")
        else if (spelling == "[" && dialect.hasPathNavigation)
            || (spelling == ":" && (dialect matches .snowflake | .generic)) then
          return .other (left.render ++ (← pathSteps below (← budget) true))
        else noOperator lexeme
    | _ => noOperator lexeme

/-- Operators behind an operand, as long as they bind more tightly than `loose`. -/
def operatorsWithin (below : Nested) (loose : Nat) : Nat → Expr → Parser Expr
  | 0, left => return left
  | steps + 1, left => do
    let tight ← nextBinding
    if tight ≤ loose || (← atSymbol ".") then return left
    operatorsWithin below loose steps (← infixExpr below left tight)

/-- An expression whose operators bind more tightly than `loose`. -/
def expressionAt (below : Nested) (loose : Nat) : Parser Expr := do
  let first ← operand below
  let left ← accessed below first
  operatorsWithin below loose (← budget) left

end SqlLineage.Sql.Parse
