import SqlLineage.Sql.Grammar.Names
import SqlLineage.Sql.Keyword

/-!
# Data types

A data type is kept as text.  Which family it belongs to decides whether it may stand before a
quoted value.
-/

namespace SqlLineage.Sql

/-- The families of data types that expressions tell apart. -/
inductive TypeFamily where
  | builtin
  /-- A name that is no data type of its own. -/
  | named
  | interval
  | binary
  deriving DecidableEq, Repr

/-- A data type. -/
structure DataType where
  text : String
  family : TypeFamily := .builtin
  deriving Repr

namespace Parse

/-- An integer without sign. -/
def literalUint : Parser String := do
  let found ← next
  match found with
  | some ⟨.number digits _, _, _, _⟩ => return digits
  | _ => unexpected "literal int" found

/-- A text in single or other plain quotes, or a word that is no key word. -/
def literalString : Parser String := do
  let found ← next
  let token : Option Token := found.map (·.token)
  match token with
  | some (.text .single value) => return value
  | some (.text .double value) => return value
  | some (.dollar _ value) => return value
  | some (.text .unicode value) => return value
  | some (.text .escaped value) =>
    if ← when (· matches .postgres | .generic) then return value
    else unexpected "literal string" found
  | some (.word value quote) =>
    if (Token.word value quote).isPlainWord then return value
    else unexpected "literal string" found
  | _ => unexpected "literal string" found

/-- A precision in parentheses, if there is one. -/
def precision : Parser String := do
  if ← symbol "(" then
    let digits ← literalUint
    expectSymbol ")"
    return "(" ++ digits ++ ")"
  else return ""

/-- A length in parentheses, if there is one. -/
def characterLength : Parser String := do
  if ← symbol "(" then
    let length ← if ← keyword "MAX" then pure "MAX" else literalUint
    let unit ← oneOf ["CHARACTERS", "OCTETS"]
    expectSymbol ")"
    return "(" ++ length ++ (unit.map (" " ++ ·)).getD "" ++ ")"
  else return ""

/-- A precision and a scale in parentheses, if there are any. -/
def precisionAndScale : Parser String := do
  if ← symbol "(" then
    let whole ← literalUint
    let scale ←
      if ← symbol "," then
        let sign ← textIf (symbol "-") "-"
        pure ("," ++ sign ++ (← literalUint))
      else pure ""
    expectSymbol ")"
    return "(" ++ whole ++ scale ++ ")"
  else return ""

/-- Whether a number type has a sign, if that is said. -/
def signedness : Parser String := do
  if ← keyword "UNSIGNED" then return " UNSIGNED"
  else if ← when (· matches .generic | .mysql) <&&> keyword "SIGNED" then return ""
  else return ""

/-- With or without a time zone, if that is said. -/
def timeZoneWords : Parser String := do
  if ← keywords ["WITH", "TIME", "ZONE"] then return " WITH TIME ZONE"
  else if ← keywords ["WITHOUT", "TIME", "ZONE"] then return " WITHOUT TIME ZONE"
  else return ""

/-- The types without parameters. -/
def plainTypes : List String :=
  ["BOOLEAN", "BOOL", "FLOAT4", "FLOAT32", "FLOAT64", "FLOAT8", "INT16", "INT32", "INT64", "INT128",
    "INT256", "UINT8", "UINT16", "UINT32", "UINT64", "UINT128", "UINT256", "UBIGINT", "UHUGEINT",
    "USMALLINT", "UTINYINT", "UUID", "DATE", "DATE32", "JSON", "JSONB", "REGCLASS", "TEXT",
    "TINYTEXT", "MEDIUMTEXT", "LONGTEXT", "BYTEA", "TINYBLOB", "MEDIUMBLOB", "LONGBLOB", "TRIGGER"]

/-- The types with a display width and a sign. -/
def integerTypes : List String :=
  ["TINYINT", "INT2", "SMALLINT", "MEDIUMINT", "INT", "INT4", "INT8", "INTEGER", "BIGINT",
    "HUGEINT"]

/-- The types with a length in characters. -/
def characterTypes : List String :=
  ["VARCHAR", "NVARCHAR"]

/-- The types with one number. -/
def sizedTypes : List String :=
  ["CLOB", "BLOB", "STRING", "FIXEDSTRING", "DATETIME", "TIMESTAMP_NTZ", "BYTES"]

/-- The types with precision and scale. -/
def exactTypes : List String :=
  ["NUMERIC", "DECIMAL", "DEC", "BIGNUMERIC", "BIGDECIMAL"]

/-- The names of geometric types. -/
def geometricTypes : List String :=
  ["POINT", "LINE", "LSEG", "BOX", "PATH", "POLYGON", "CIRCLE"]

/-- The modifiers behind a named type. -/
def typeModifiers : Nat → Parser (List String)
  | 0 => return []
  | steps + 1 => do
    let found ← next
    match found with
    | some ⟨.symbol ")", _, _, _⟩ => return []
    | some ⟨.symbol ",", _, _, _⟩ => typeModifiers steps
    | some ⟨.word value _, _, _, _⟩ => return value :: (← typeModifiers steps)
    | some ⟨.number digits _, _, _, _⟩ => return digits :: (← typeModifiers steps)
    | some ⟨.text .single value, _, _, _⟩ => return value :: (← typeModifiers steps)
    | _ => unexpected "type modifiers" found

/-- A type that is named. -/
def namedType : Parser DataType := do
  let name ← objectName false
  if ← symbol "(" then
    let modifiers ← typeModifiers (← budget)
    return ⟨name.render ++ "(" ++ commaList modifiers ++ ")", .named⟩
  else return ⟨name.render, .named⟩

/-- Values of an enumeration, in parentheses. -/
def stringValues : Parser String := do
  let values ← parenthesized (commaSeparated (do
    let value ← literalString
    let number ← if ← symbol "=" then
        let sign ← textIf (symbol "-") "-"
        pure (" = " ++ sign ++ (← literalUint))
      else pure ""
    return "'" ++ doubleQuotes '\'' value ++ "'" ++ number))
  return "(" ++ commaList values ++ ")"

/-- The end of the parameters of a type between angle brackets.  Two brackets written together
close two types; the answer is whether one of them is left. -/
def closeAngle (closed : Bool) : Parser Bool := do
  if closed then return false
  if ← symbol ">" then return false
  if ← symbol ">>" then return true
  expected ">"

/-- A field of a structured type, with or without a name.  Two words, or a word and a colon, start a
field with a name. -/
def typeField (type : Parser (DataType × Bool)) : Parser (String × Bool) := do
  let isWord (lexeme : Option Lexeme) : Bool :=
    match lexeme with
    | some ⟨.word .., _, _, _⟩ => true
    | _ => false
  let named := isWord (← peek) && (isWord (← peekAt 1) || (← atSymbolAt 1 ":"))
  let name ←
    if named then do
      let name ← ident
      pure (name.render ++ (if ← symbol ":" then ": " else " "))
    else pure ""
  let (type, closed) ← type
  if ← keyword "OPTIONS" then discard balanced
  return (name ++ type.text, closed)

/-- The fields of a structured type, up to one whose end closed the type as well. -/
def typeFields (field : Parser (String × Bool)) : Nat → Parser (List String × Bool)
  | 0 => return ([], false)
  | steps + 1 => do
    let (text, closed) ← field
    if ← pure (!closed) <&&> symbol "," then
      let (texts, closed) ← typeFields field steps
      return (text :: texts, closed)
    else return ([text], closed)

/-- The units of an interval type, if they are said. -/
def intervalFields : Parser String := do
  let upTo (unit : String) (last : List String) : Parser String := do
    if ← keyword "TO" then return " " ++ unit ++ " TO " ++ (← expectOneOf last)
    else return " " ++ unit
  match ← oneOf ["YEAR", "DAY", "HOUR", "MINUTE", "MONTH", "SECOND"] with
  | some "YEAR" => upTo "YEAR" ["MONTH"]
  | some "DAY" => upTo "DAY" ["HOUR", "MINUTE", "SECOND"]
  | some "HOUR" => upTo "HOUR" ["MINUTE", "SECOND"]
  | some "MINUTE" => upTo "MINUTE" ["SECOND"]
  | some unit => return " " ++ unit
  | none => return ""

/-- A type, and whether a bracket behind it closed the type around it. -/
def dataTypeWithin : Nat → Parser (DataType × Bool)
  | 0 => throw .tooDeep
  | steps + 1 => do
    let inner := dataTypeWithin steps
    let start ← get
    let found ← next
    let (type, closed) : DataType × Bool ←
      match found with
      | some ⟨.word value _, _, key, _⟩ => do
        let dialect ← dialect
        if plainTypes.contains key then pure (⟨key, .builtin⟩, false)
        else if integerTypes.contains key then
          let width ← precision
          pure (⟨key ++ width ++ (← signedness), .builtin⟩, false)
        else if characterTypes.contains key then
          pure (⟨key ++ (← characterLength), .builtin⟩, false)
        else if sizedTypes.contains key then
          pure (⟨key ++ (← characterLength), .builtin⟩, false)
        else if exactTypes.contains key then
          let numbers ← precisionAndScale
          pure (⟨key ++ numbers ++ (← signedness), .builtin⟩, false)
        else
          match key with
          | "BIT" =>
            let varying ← textIf (keyword "VARYING") " VARYING"
            pure (⟨"BIT" ++ varying ++ (← precision), .builtin⟩, false)
          | "VARBIT" => pure (⟨"VARBIT" ++ (← precision), .builtin⟩, false)
          | "REAL" => pure (⟨key ++ (← signedness), .builtin⟩, false)
          | "FLOAT" | "DOUBLE" =>
            if ← pure (key == "DOUBLE") <&&> keyword "PRECISION" then
              pure (⟨key ++ " PRECISION" ++ (← signedness), .builtin⟩, false)
            else
              let numbers ← precisionAndScale
              pure (⟨key ++ numbers ++ (← signedness), .builtin⟩, false)
          | "CHARACTER" | "CHAR" =>
            if ← keyword "VARYING" then
              pure (⟨key ++ " VARYING" ++ (← characterLength), .builtin⟩, false)
            else if ← keywords ["LARGE", "OBJECT"] then
              pure (⟨key ++ " LARGE OBJECT" ++ (← precision), .builtin⟩, false)
            else pure (⟨key ++ (← characterLength), .builtin⟩, false)
          | "BINARY" => pure (⟨"BINARY" ++ (← precision), .binary⟩, false)
          | "VARBINARY" => pure (⟨"VARBINARY" ++ (← characterLength), .builtin⟩, false)
          | "DATETIME64" =>
            expectSymbol "("
            let digits ← literalUint
            let zone ← if ← symbol "," then pure (", '" ++ (← literalString) ++ "'") else pure ""
            expectSymbol ")"
            pure (⟨"DATETIME64(" ++ digits ++ zone ++ ")", .builtin⟩, false)
          | "TIMESTAMP" | "TIME" =>
            let digits ← precision
            pure (⟨key ++ digits ++ (← timeZoneWords), .builtin⟩, false)
          | "TIMESTAMPTZ" | "TIMETZ" => pure (⟨key ++ (← precision), .builtin⟩, false)
          | "INTERVAL" =>
            if dialect matches .generic | .postgres then
              let fields ← intervalFields
              pure (⟨"INTERVAL" ++ fields ++ (← precision), .interval⟩, false)
            else pure (⟨"INTERVAL", .interval⟩, false)
          | "ENUM" | "ENUM8" | "ENUM16" | "SET" =>
            pure (⟨key ++ (← stringValues), .builtin⟩, false)
          | "SIGNED" | "UNSIGNED" =>
            let integer ← textIf (keyword "INTEGER") " INTEGER"
            pure (⟨key ++ integer, .builtin⟩, false)
          | "ARRAY" =>
            if dialect == .snowflake then pure (⟨"ARRAY", .builtin⟩, false)
            else if dialect == .clickhouse then
              let element ← parenthesized inner
              pure (⟨"Array(" ++ element.1.text ++ ")", .builtin⟩, false)
            else
              expectSymbol "<"
              let (element, closed) ← inner
              let closed ← closeAngle closed
              pure (⟨"ARRAY<" ++ element.text ++ ">", .builtin⟩, closed)
          | "STRUCT" =>
            if dialect == .duckdb then
              let fields ← parenthesized (commaSeparated (do
                let name ← ident
                return name.render ++ " " ++ (← inner).1.text))
              pure (⟨"STRUCT(" ++ commaList fields ++ ")", .builtin⟩, false)
            else if dialect matches .bigquery | .databricks | .generic then
              if ← symbol "<" then
                let (fields, closed) ← typeFields (typeField inner) (← budget)
                let closed ← closeAngle closed
                pure (⟨"STRUCT<" ++ commaList fields ++ ">", .builtin⟩, closed)
              else pure (⟨"STRUCT", .builtin⟩, false)
            else
              set start
              pure (← namedType, false)
          | "UNION" =>
            if dialect matches .duckdb | .generic then
              let fields ← parenthesized (commaSeparated (do
                let name ← ident
                return name.render ++ " " ++ (← inner).1.text))
              pure (⟨"UNION(" ++ commaList fields ++ ")", .builtin⟩, false)
            else
              set start
              pure (← namedType, false)
          | "NULLABLE" | "LOWCARDINALITY" =>
            if dialect matches .clickhouse | .generic then
              let (type, _) ← parenthesized inner
              pure (⟨value ++ "(" ++ type.text ++ ")", .builtin⟩, false)
            else
              set start
              pure (← namedType, false)
          | "MAP" =>
            if dialect matches .clickhouse | .generic then
              let (keys, values) ← parenthesized (do
                let (keys, _) ← inner
                expectSymbol ","
                return (keys, (← inner).1))
              pure (⟨"Map(" ++ keys.text ++ ", " ++ values.text ++ ")", .builtin⟩, false)
            else
              set start
              pure (← namedType, false)
          | "TUPLE" =>
            if dialect matches .clickhouse | .generic then
              let (fields, _) ← parenthesized (do
                typeFields (do return ((← typeField inner).1, false)) (← budget))
              pure (⟨"Tuple(" ++ commaList fields ++ ")", .builtin⟩, false)
            else
              set start
              pure (← namedType, false)
          | "NESTED" =>
            if dialect matches .clickhouse | .generic then
              let fields ← parenthesized (commaSeparated (do
                let name ← ident
                return name.render ++ " " ++ (← inner).1.text))
              pure (⟨"Nested(" ++ commaList fields ++ ")", .builtin⟩, false)
            else
              set start
              pure (← namedType, false)
          | "ANY" =>
            if ← keyword "TYPE" then pure (⟨"ANY TYPE", .builtin⟩, false)
            else
              set start
              pure (← namedType, false)
          | "TABLE" =>
            let columns ← optionalBalanced
            pure (⟨"TABLE" ++ columns, .builtin⟩, false)
          | _ =>
            if (dialect matches .postgres | .generic) && (key == "TSVECTOR" || key == "TSQUERY")
                || dialect.hasGeometricOperators && geometricTypes.contains key then
              pure (⟨key, .builtin⟩, false)
            else
              set start
              pure (← namedType, false)
      | _ => unexpected "a data type name" found
    if ← when Dialect.hasBracketArrays then
      let brackets ← repeatWhile (do
        if ← symbol "[" then
          let size ← attempt literalUint
          expectSymbol "]"
          return some ("[" ++ size.getD "" ++ "]")
        else return none)
      if brackets.isEmpty then return (type, closed)
      else return (⟨type.text ++ "".intercalate brackets, .builtin⟩, closed)
    else return (type, closed)

/-- A data type. -/
def dataType : Parser DataType := do
  let (type, closed) ← dataTypeWithin (← budget)
  if closed then
    let next := ((← peek).map (·.token.render)).getD "EOF"
    refuse ("unexpected > after parsing data type " ++ type.text ++ next)
  else return type

end Parse

end SqlLineage.Sql
