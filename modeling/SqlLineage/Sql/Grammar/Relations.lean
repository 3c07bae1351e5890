import SqlLineage.Sql.Grammar.Patterns

/-!
# Relations

The relations behind FROM, JOIN, USING and UPDATE.  Parentheses around relations may lie inside
each other without a query between them; a step of the recursion is one such level.
-/

namespace SqlLineage.Sql.Parse

/-- The columns behind the alias of a relation. -/
def aliasColumns : Parser String := do
  if ← atSymbol "(" then
    let columns ← parenthesized (commaSeparated (do
      let name ← ident
      let type ← attempt dataType
      return name.render ++ (type.map (fun type => " " ++ type.text)).getD ""))
    return " (" ++ commaList columns ++ ")"
  else return ""

/-- The alias of a relation, if it has one. -/
def tableAlias : Parser (Option TableAlias) := do
  match ← optionalAlias mayNameTable with
  | some name => return some ⟨name, ← aliasColumns⟩
  | none => return none

/-- Rows of values behind VALUES. -/
def valueRows (below : Nested) (allowsEmpty : Bool) : Parser String := do
  let rows ← commaSeparated (do
    let row ← textIf (keyword "ROW") "ROW"
    if ← pure allowsEmpty <&&> symbols ["(", ")"] then return row ++ "()"
    return row ++ "(" ++ (← parenthesized (exprTexts below)) ++ ")")
  return "VALUES " ++ commaList rows

/-- `SETTINGS name = value` -/
def settings (below : Nested) : Parser String := do
  if ← when (· matches .clickhouse | .generic) <&&> keyword "SETTINGS" then
    let pairs ← commaSeparated (do
      let name ← ident
      expectSymbol "="
      return name.render ++ " = " ++ (← exprText below))
    return " SETTINGS " ++ commaList pairs
  else return ""

/-- The arguments of a table function behind its opening parenthesis. -/
def tableArguments (below : Nested) : Parser String := do
  if ← symbol ")" then return ""
  let only ← settings below
  if !only.isEmpty then
    expectSymbol ")"
    return only.trimAscii.toString
  let args ← separated (argument below) (do
    if (← atSymbol ",") && (← peekKeyAt 1) != "SETTINGS" then symbol "," else return false)
  discard (symbol ",")
  let settings ← settings below
  expectSymbol ")"
  return commaList args ++ settings

/-- The arguments of a function of rows, behind its opening parenthesis. -/
def rowArguments (below : Nested) : Parser String := do
  let args ← commaSeparatedUntil (argument below) ")"
  expectSymbol ")"
  return commaList args

/-- The version of a table that is read. -/
def tableVersion (below : Nested) : Parser String := do
  if ← when Dialect.hasTableVersions then
    if ← keywords ["FOR", "SYSTEM_TIME", "AS", "OF"] then
      return " FOR SYSTEM_TIME AS OF " ++ (← exprText below)
    else if ← atOneOf ["AT", "BEFORE"] then
      let name ← objectName true
      return " " ++ (← functionCall below name.render)
    else return ""
  else return ""

/-- The sample of a table that is read. -/
def tableSample (below : Nested) : Parser String := do
  match ← oneOf ["TABLESAMPLE", "SAMPLE"] with
  | none => return ""
  | some key =>
    let method := ((← oneOf ["BERNOULLI", "ROW", "SYSTEM", "BLOCK"]).map (" " ++ ·)).getD ""
    let inside ← symbol "("
    let quantity ←
      if ← pure inside <&&> keyword "BUCKET" then do
        let chosen ← numberValue
        expectKeywords ["OUT", "OF"]
        let total ← numberValue
        let on ← if ← keyword "ON" then pure (" ON " ++ (← exprText below)) else pure ""
        pure ("BUCKET " ++ chosen ++ " OUT OF " ++ total ++ on)
      else do
        let amount ←
          match ← attempt (exprText below) with
          | some amount => pure amount
          | none =>
            match ← next with
            | some ⟨.word word _, _, _, _⟩ => pure word
            | _ => refuseAt "Expecting number or byte length e.g. 100M" (← peek)
        pure (amount ++ ((← oneOf ["ROWS", "PERCENT"]).map (" " ++ ·)).getD "")
    let size ←
      if inside then do
        expectSymbol ")"
        pure ("(" ++ quantity ++ ")")
      else pure quantity
    let seed ←
      match ← oneOf ["REPEATABLE", "SEED"] with
      | some seed => pure (" " ++ seed ++ " (" ++ (← parenthesized numberValue) ++ ")")
      | none => pure ""
    let offset ← if ← keyword "OFFSET" then pure (" OFFSET " ++ (← exprText below)) else pure ""
    return " " ++ key ++ method ++ " " ++ size ++ seed ++ offset

/-- The hints which indexes to use. -/
def indexHints : Parser String := do
  let hints ← repeatWhile (do
    match ← oneOf ["USE", "IGNORE", "FORCE"] with
    | none => return none
    | some action =>
      match ← oneOf ["INDEX", "KEY"] with
      | none => expected "INDEX or KEY"
      | some kind =>
        let purpose ←
          if ← keyword "FOR" then
            if ← keyword "JOIN" then pure " FOR JOIN"
            else if ← keywords ["ORDER", "BY"] then pure " FOR ORDER BY"
            else if ← keywords ["GROUP", "BY"] then pure " FOR GROUP BY"
            else expected "JOIN, ORDER BY or GROUP BY"
          else pure ""
        let names ← identListOrEmpty
        return some (" " ++ action ++ " " ++ kind ++ purpose
          ++ " (" ++ commaList (names.map Ident.render) ++ ")"))
  return "".intercalate hints

/-- The hints how to read a table. -/
def tableHints (below : Nested) : Parser String := do
  let start ← get
  if ← keyword "WITH" then
    if ← atSymbol "(" then return " WITH (" ++ (← parenthesized (exprTexts below)) ++ ")"
    else
      set start
      return ""
  else return ""

/-- An expression, possibly under a name. -/
def aliasedExpr (below : Nested) : Parser String := do
  let text ← exprText below
  if ← keyword "AS" then return text ++ " AS " ++ (← ident).render else return text

/-- What PIVOT makes of a relation. -/
def pivot (below : Nested) (relation : TableFactor) : Parser TableFactor := do
  let inside ← parenthesized (do
    let aggregates ← commaSeparated (do
      match ← next with
      | some ⟨.word word _, _, _, _⟩ =>
        let call ← functionCall below word
        if ← keyword "AS" then return call ++ " AS " ++ (← ident).render else return call
      | _ => expected "a function identifier")
    expectKeyword "FOR"
    let between ← bindingOf .between
    let columns ←
      if ← atSymbol "(" then
        pure ("(" ++ commaList (← parenthesized (commaSeparated
          (do return (← below.expression between).render))) ++ ")")
      else pure (← below.expression between).render
    expectKeyword "IN"
    let source ← parenthesized (do
      if ← keyword "ANY" then
        if ← keywords ["ORDER", "BY"] then return "ANY ORDER BY " ++ (← orderByExprs below)
        else return "ANY"
      else if ← atQuery then return (← below.query).render
      else return commaList (← commaSeparated (aliasedExpr below)))
    let default ←
      if ← keywords ["DEFAULT", "ON", "NULL"] then
        pure (" DEFAULT ON NULL (" ++ (← parenthesized (exprText below)) ++ ")")
      else pure ""
    return commaList aggregates ++ " FOR " ++ columns ++ " IN (" ++ source ++ ")" ++ default)
  return .reshaped relation (" PIVOT(" ++ inside ++ ")") (← tableAlias)

/-- What UNPIVOT makes of a relation. -/
def unpivot (below : Nested) (relation : TableFactor) : Parser TableFactor := do
  let nulls ←
    match ← oneOf ["INCLUDE", "EXCLUDE"] with
    | some key =>
      expectKeyword "NULLS"
      pure (" " ++ key ++ " NULLS")
    | none => pure ""
  let inside ← parenthesized (do
    let value ← exprText below
    expectKeyword "FOR"
    let name ← ident
    expectKeyword "IN"
    let columns ← columnListOf (aliasedExpr below)
    return value ++ " FOR " ++ name.render ++ " IN (" ++ commaList columns ++ ")")
  return .reshaped relation (" UNPIVOT" ++ nulls ++ " (" ++ inside ++ ")") (← tableAlias)

/-- PIVOT and UNPIVOT behind a relation. -/
def pivots (below : Nested) : Nat → TableFactor → Parser TableFactor
  | 0, relation => return relation
  | steps + 1, relation => do
    if ← keyword "PIVOT" then pivots below steps (← pivot below relation)
    else if ← keyword "UNPIVOT" then pivots below steps (← unpivot below relation)
    else return relation

/-- A query in parentheses, behind the opening one. -/
def derivedTable (below : Nested) (lateral : Bool) : Parser TableFactor := do
  let query ← below.query
  expectSymbol ")"
  return .derived lateral query (← tableAlias)

/-- Gives a relation in parentheses the alias that stands behind them. -/
def withOuterAlias (outer : Option TableAlias) (relation : TableFactor) : Parser TableFactor := do
  let join (inner : Option TableAlias) : Parser (Option TableAlias) :=
    match outer, inner with
    | some _, some inner => refuse ("duplicate alias " ++ inner.render)
    | some outer, none => return some outer
    | none, inner => return inner
  match relation with
  | .table name arguments aliasName options =>
    return .table name arguments (← join aliasName) options
  | .derived lateral query aliasName => return .derived lateral query (← join aliasName)
  | .nested tables aliasName => return .nested tables (← join aliasName)
  | .rows text aliasName => return .rows text (← join aliasName)
  | .reshaped inner text aliasName => return .reshaped inner text (← join aliasName)

/-- A relation that is named. -/
def namedTable (below : Nested) : Parser TableFactor := do
  let dialect ← dialect
  let name ← objectName true
  let path ←
    if dialect.hasPathNavigation && (← atSymbol "[") then pathSteps below (← budget) true
    else pure ""
  let partitions ←
    if ← pure dialect.hasTablePartitions <&&> keyword "PARTITION" then
      pure (" PARTITION (" ++ commaList ((← identListOrEmpty).map Ident.render) ++ ")")
    else pure ""
  let version ← tableVersion below
  let arguments ← if ← symbol "(" then pure (some (← tableArguments below)) else pure none
  let ordinality ← textIf (keywords ["WITH", "ORDINALITY"]) " WITH ORDINALITY"
  let early ← if dialect.samplesBeforeAlias then tableSample below else pure ""
  let aliasName ← tableAlias
  let indexes ←
    if dialect.hasIndexHints then pure ((← attempt indexHints).getD "") else pure ""
  let hints ← tableHints below
  let late ← if dialect.samplesBeforeAlias then pure "" else tableSample below
  let options := path ++ partitions ++ version ++ ordinality ++ early ++ indexes ++ hints ++ late
  let table ← pivots below (← budget) (.table name arguments aliasName options)
  if ← pure dialect.hasMatchRecognize <&&> keyword "MATCH_RECOGNIZE" then
    let pattern ← parenthesized (rowMatch below)
    return .reshaped table (" MATCH_RECOGNIZE(" ++ pattern ++ ")") (← tableAlias)
  else return table

/-- What becomes of a column of JSON whose path finds nothing, or no value that fits; `none` if no
more is said. -/
def jsonFallback : Parser (Option String) := do
  let action ←
    match ← oneOf ["NULL", "ERROR", "DEFAULT"] with
    | some "DEFAULT" => pure (some ("DEFAULT " ++ (← value)))
    | action => pure action
  match action with
  | none => return none
  | some action =>
    expectKeyword "ON"
    if ← keyword "EMPTY" then return some (" " ++ action ++ " ON EMPTY")
    else
      expectKeyword "ERROR"
      return some (" " ++ action ++ " ON ERROR")

/-- A column of a JSON_TABLE, in which columns lie inside each other at most so many times. -/
def jsonColumn : Nat → Parser String
  | 0 => throw .tooDeep
  | steps + 1 => do
    if ← keyword "NESTED" then
      discard (keyword "PATH")
      let path ← value
      expectKeyword "COLUMNS"
      let columns ← parenthesized (commaSeparated (jsonColumn steps))
      return "NESTED PATH " ++ path ++ " COLUMNS (" ++ commaList columns ++ ")"
    let name ← ident
    if ← keyword "FOR" then
      expectKeyword "ORDINALITY"
      return name.render ++ " FOR ORDINALITY"
    let type ← dataType
    let check ← textIf (keyword "EXISTS") " EXISTS"
    expectKeyword "PATH"
    let path ← value
    let fallbacks ← repeatWhile jsonFallback
    return name.render ++ " " ++ type.text ++ check ++ " PATH " ++ path ++ "".intercalate fallbacks

/-- A JSON_TABLE behind its key word. -/
def jsonTable (below : Nested) : Parser TableFactor := do
  let inside ← parenthesized (do
    let document ← exprText below
    expectSymbol ","
    let path ← value
    expectKeyword "COLUMNS"
    let columns ← parenthesized (commaSeparated (do jsonColumn (← budget)))
    return document ++ ", " ++ path ++ " COLUMNS(" ++ commaList columns ++ ")")
  return .rows ("JSON_TABLE(" ++ inside ++ ")") (← tableAlias)

/-- An OPENJSON behind its key word. -/
def openJson (below : Nested) : Parser TableFactor := do
  let inside ← parenthesized (do
    let document ← exprText below
    if ← symbol "," then return document ++ ", " ++ (← value) else return document)
  let columns ←
    if ← keyword "WITH" then do
      let columns ← parenthesized (commaSeparated (do
        let name ← ident
        let type ← dataType
        let path ←
          match ← peek with
          | some ⟨.text .single path, _, _, _⟩ =>
            drop 1
            pure (" " ++ quoteText path)
          | _ => pure ""
        if ← keyword "AS" then
          expectKeyword "JSON"
          return name.render ++ " " ++ type.text ++ path ++ " AS JSON"
        else return name.render ++ " " ++ type.text ++ path))
      pure (" WITH (" ++ commaList columns ++ ")")
    else pure ""
  return .rows ("OPENJSON(" ++ inside ++ ")" ++ columns) (← tableAlias)

/-- A column of an XMLTABLE. -/
def xmlColumn (below : Nested) : Parser String := do
  let name ← ident
  if ← keyword "FOR" then
    expectKeyword "ORDINALITY"
    return name.render ++ " FOR ORDINALITY"
  let type ← dataType
  let path ← if ← keyword "PATH" then pure (" PATH " ++ (← exprText below)) else pure ""
  let default ← if ← keyword "DEFAULT" then pure (" DEFAULT " ++ (← exprText below)) else pure ""
  let required ← textIf (keywords ["NOT", "NULL"]) " NOT NULL"
  if required.isEmpty then discard (keyword "NULL")
  return name.render ++ " " ++ type.text ++ path ++ default ++ required

/-- The documents that an XMLTABLE reads. -/
def xmlPassing (below : Nested) : Parser String := do
  if ← keyword "PASSING" then
    let arguments ← separated
      (do
        let byValue ← textIf (keyword "BY" <&&> keyword "VALUE") "BY VALUE "
        return byValue ++ (← aliasedExpr below))
      (symbol ",")
    return " PASSING " ++ commaList arguments
  else return ""

/-- An XMLTABLE behind its key word. -/
def xmlTable (below : Nested) : Parser TableFactor := do
  let inside ← parenthesized (do
    let namespaces ←
      if ← keyword "XMLNAMESPACES" then do
        let names ← parenthesized (commaSeparated (do
          let uri ← exprText below
          expectKeyword "AS"
          return uri ++ " AS " ++ (← ident).render))
        expectSymbol ","
        pure ("XMLNAMESPACES(" ++ commaList names ++ "), ")
      else pure ""
    let row ← exprText below
    let passing ← xmlPassing below
    expectKeyword "COLUMNS"
    let columns ← commaSeparated (xmlColumn below)
    return namespaces ++ row ++ passing ++ " COLUMNS " ++ commaList columns)
  return .rows ("XMLTABLE(" ++ inside ++ ")") (← tableAlias)

/-- The clauses of a SEMANTIC_VIEW, each given at most once. -/
def semanticClauses (below : Nested) : Nat → List String → Parser String
  | 0, _ => return ""
  | steps + 1, given => do
    if ← atSymbol ")" then return ""
    let place ← peek
    match ← oneOf ["DIMENSIONS", "METRICS", "FACTS", "WHERE"] with
    | none =>
      let found := (place.map (·.token.render)).getD "EOF"
      refuseAt ("Expected one of DIMENSIONS, METRICS, FACTS or WHERE, got " ++ found) place
    | some key =>
      if given.contains key then refuse (key ++ " clause can only be specified once")
      let text ←
        if key == "WHERE" then exprText below
        else do
          let items ← commaSeparated (wildcardExpr below)
          pure (commaList (items.map Expr.render))
      return " " ++ key ++ " " ++ text ++ (← semanticClauses below steps (key :: given))

/-- A SEMANTIC_VIEW behind its key word. -/
def semanticView (below : Nested) : Parser TableFactor := do
  let inside ← parenthesized (do
    let name ← objectName true
    return name.render ++ (← semanticClauses below (← budget) []))
  return .rows ("SEMANTIC_VIEW(" ++ inside ++ ")") (← tableAlias)

/-- Rows out of arrays. -/
def unnest (below : Nested) : Parser TableFactor := do
  let arrays ← parenthesized (exprTexts below)
  let ordinality ← textIf (keywords ["WITH", "ORDINALITY"]) " WITH ORDINALITY"
  let aliasName ← tableAlias
  let offset ← keyword "WITH" <&&> keyword "OFFSET"
  if offset then discard (aliasExcept Dialect.reservedForColumns)
  return .rows ("UNNEST(" ++ arrays ++ ")" ++ ordinality) aliasName

/-- The condition of a join. -/
def joinConstraint (below : Nested) (natural : Bool) : Parser JoinConstraint := do
  if natural then return .natural
  else if ← keyword "ON" then return .on (← expr below)
  else if ← keyword "USING" then
    let columns ← columnListOf (objectName false)
    return .using ("(" ++ commaList (columns.map ObjectName.render) ++ ")")
  else return .none

/-- The words of an ordinary join; `none` if no join stands next. -/
def joinKind (natural : Bool) : Parser (Option JoinKind) := do
  match ← peekKey with
  | "INNER" =>
    expectKeywords ["INNER", "JOIN"]
    return some .inner
  | "JOIN" =>
    drop 1
    return some .join
  | "LEFT" =>
    drop 1
    match ← oneOf ["OUTER", "SEMI", "ANTI", "JOIN"] with
    | some "OUTER" =>
      expectKeyword "JOIN"
      return some .leftOuter
    | some "SEMI" =>
      expectKeyword "JOIN"
      return some .leftSemi
    | some "ANTI" =>
      expectKeyword "JOIN"
      return some .leftAnti
    | some _ => return some .left
    | none => refuse "expected OUTER, SEMI, ANTI or JOIN after LEFT"
  | "RIGHT" =>
    drop 1
    match ← oneOf ["OUTER", "SEMI", "ANTI", "JOIN"] with
    | some "OUTER" =>
      expectKeyword "JOIN"
      return some .rightOuter
    | some "SEMI" =>
      expectKeyword "JOIN"
      return some .rightSemi
    | some "ANTI" =>
      expectKeyword "JOIN"
      return some .rightAnti
    | some _ => return some .right
    | none => refuse "expected OUTER, SEMI, ANTI or JOIN after RIGHT"
  | "ANTI" =>
    expectKeywords ["ANTI", "JOIN"]
    return some .anti
  | "SEMI" =>
    expectKeywords ["SEMI", "JOIN"]
    return some .semi
  | "FULL" =>
    drop 1
    discard (keyword "OUTER")
    expectKeyword "JOIN"
    return some .fullOuter
  | "OUTER" => expected "LEFT, RIGHT, or FULL"
  | "STRAIGHT_JOIN" =>
    drop 1
    return some .straight
  | _ => if natural then expected "a join type after NATURAL" else return none

/-- The joins behind a relation.  Where a join without a condition takes the joins behind it as its
right side, these are a step further down. -/
def joinsWithin (below : Nested) (factor : Parser TableFactor) : Nat → Parser (List Join)
  | 0 => return []
  | steps + 1 => do
    let rest : Parser (List Join) := joinsWithin below factor steps
    let global ← keyword "GLOBAL"
    if ← keyword "CROSS" then
      if ← keyword "JOIN" then
        let relation ← factor
        let constraint ←
          if ← when Dialect.hasCrossJoinConstraints then joinConstraint below false
          else pure .none
        return ⟨global, .cross, constraint, relation⟩ :: (← rest)
      else if ← keyword "APPLY" then
        let relation ← factor
        return ⟨global, .crossApply, .none, relation⟩ :: (← rest)
      else expected "JOIN or APPLY after CROSS"
    else if ← keyword "OUTER" then
      expectKeyword "APPLY"
      let relation ← factor
      return ⟨global, .outerApply, .none, relation⟩ :: (← rest)
    else if ← keyword "ASOF" then
      expectKeyword "JOIN"
      let relation ← factor
      expectKeyword "MATCH_CONDITION"
      let condition ← parenthesized (exprText below)
      let constraint ← joinConstraint below false
      return ⟨global, .asOf condition, constraint, relation⟩ :: (← rest)
    else
      let natural ← keyword "NATURAL"
      match ← joinKind natural with
      | none => return []
      | some kind =>
        let relation ← factor
        let relation ←
          if (← when Dialect.nestsJoins)
              && (← atOneOf ["JOIN", "INNER", "LEFT", "RIGHT", "FULL"]) then do
            pure (.nested ⟨relation, ← rest⟩ none)
          else pure relation
        let constraint ← joinConstraint below natural
        return ⟨global, kind, constraint, relation⟩ :: (← rest)

/-- A relation with the joins behind it. -/
def joinedWith (below : Nested) (factor : Parser TableFactor) : Parser TableWithJoins := do
  let relation ← factor
  return ⟨relation, ← joinsWithin below factor (← budget)⟩

/-- What stands behind an opening parenthesis that begins a relation. -/
def parenthesizedTable (below : Nested) (factor : Parser TableFactor) : Parser TableFactor := do
  match ← attempt (derivedTable below false) with
  | some derived => pivots below (← budget) derived
  | none =>
    let inside ← joinedWith below factor
    let nested := !inside.joins.isEmpty || (inside.relation matches .nested ..)
    if nested then
      expectSymbol ")"
      return .nested inside (← tableAlias)
    else if ← when (· matches .snowflake | .generic) then
      expectSymbol ")"
      withOuterAlias (← tableAlias) inside.relation
    else expected "joined table"

/-- A relation; `inner` reads the relations inside parentheses. -/
def tableFactorOver (below : Nested) (inner : Parser TableFactor) : Parser TableFactor := do
  let dialect ← dialect
  if ← keyword "LATERAL" then
    if ← symbol "(" then derivedTable below true
    else
      let name ← objectName false
      expectSymbol "("
      let arguments ← rowArguments below
      return .rows ("LATERAL " ++ name.render ++ "(" ++ arguments ++ ")") (← tableAlias)
  else if ← keyword "TABLE" then
    let call ← parenthesized (exprText below)
    return .rows ("TABLE(" ++ call ++ ")") (← tableAlias)
  else if ← symbol "(" then parenthesizedTable below inner
  else if (dialect matches .snowflake | .databricks | .generic)
      && (← atKeyword "VALUES") && (← atSymbolAt 1 "(") then
    drop 1
    let rows ← valueRows below false
    return .derived false { body := .values rows } (← tableAlias)
  else if ← pure (dialect matches .bigquery | .postgres | .generic) <&&> keyword "UNNEST" then
    unnest below
  else if ← atSymbolAt 1 "(" then
    match ← oneOf ["JSON_TABLE", "OPENJSON", "XMLTABLE"] with
    | some "JSON_TABLE" => jsonTable below
    | some "OPENJSON" => openJson below
    | some _ => xmlTable below
    | none =>
      if ← pure (dialect matches .snowflake | .generic) <&&> keyword "SEMANTIC_VIEW" then
        semanticView below
      else namedTable below
  else namedTable below

/-- A relation in which parentheses lie inside each other at most so many times. -/
def tableFactorWithin (below : Nested) : Nat → Parser TableFactor
  | 0 => throw .tooDeep
  | steps + 1 => tableFactorOver below (tableFactorWithin below steps)

/-- A relation. -/
def tableFactor (below : Nested) : Parser TableFactor := do
  tableFactorWithin below (← budget)

/-- A relation with its joins. -/
def tableWithJoins (below : Nested) : Parser TableWithJoins :=
  joinedWith below (tableFactor below)

/-- The key words behind a comma that begin no relation. -/
def beginsNoTable (key : String) : Bool :=
  ! ["LATERAL", "TABLE", "UNNEST", "VALUES"].contains key && Dialect.reservedForTables.contains key

/-- Relations with a comma between them. -/
def relations (below : Nested) : Parser (List TableWithJoins) := do
  let trailing ← when Dialect.allowsTrailingRelationComma
  separated (tableWithJoins below) (commaGoesOn trailing beginsNoTable)

end SqlLineage.Sql.Parse
