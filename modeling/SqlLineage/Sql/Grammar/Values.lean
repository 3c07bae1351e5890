import SqlLineage.Sql.Grammar.DataTypes

/-!
# Values and units

Literal values, the units of time, and the data types that may stand before a quoted value.
-/

namespace SqlLineage.Sql.Parse

/-- A text in single quotes. -/
def quoteText (value : String) : String :=
  "'" ++ doubleQuotes '\'' value ++ "'"

/-- A literal value, as text. -/
def value : Parser String := do
  let found ← next
  match found with
  | none => unexpected "a value" none
  | some lexeme =>
    match lexeme.token with
    | .word word none =>
      if lexeme.key == "NULL" then return "NULL"
      else if (lexeme.key == "TRUE" || lexeme.key == "FALSE") && (← when Dialect.hasBooleans) then
        return word.toLower
      else unexpected "a concrete value" found
    | .word word (some quote) =>
      if quote == '"' then return "\"" ++ doubleQuotes '"' word ++ "\""
      else unexpected "A value?" found
    | .text .single text => return quoteText text
    | .number .. | .text .. | .dollar .. | .placeholder _ => return lexeme.token.render
    | .symbol mark =>
      if mark == ":" || mark == "@" then
        let name ← next
        match name with
        | some ⟨.word word _, _, _, false⟩ => return mark ++ word
        | some ⟨.number digits false, _, _, false⟩ => return mark ++ digits
        | _ => unexpected "placeholder" name
      else unexpected "a value" found
    | _ => unexpected "a value" found

/-- A number or a placeholder. -/
def numberValue : Parser String := do
  let place ← peek
  let text ← value
  match place with
  | some ⟨.number .., _, _, _⟩ | some ⟨.placeholder _, _, _, _⟩ | some ⟨.symbol _, _, _, _⟩ =>
    return text
  | _ => unexpected "literal number" place

/-- A number that may have a sign. -/
def signedNumber : Parser String := do
  if ← symbol "+" then return "+" ++ (← numberValue)
  else if ← symbol "-" then return "-" ++ (← numberValue)
  else numberValue

/-- The units of time. -/
def temporalUnits : List String :=
  ["YEAR", "YEARS", "MONTH", "MONTHS", "WEEK", "WEEKS", "DAY", "DAYS", "HOUR", "HOURS", "MINUTE",
    "MINUTES", "SECOND", "SECONDS", "CENTURY", "DECADE", "DOW", "DOY", "EPOCH", "ISODOW", "ISOYEAR",
    "JULIAN", "MICROSECOND", "MICROSECONDS", "MILLENIUM", "MILLENNIUM", "MILLISECOND",
    "MILLISECONDS", "NANOSECOND", "NANOSECONDS", "QUARTER", "TIMEZONE", "TIMEZONE_HOUR",
    "TIMEZONE_MINUTE"]

/-- The fields of a date that are no units of time. -/
def dateFields : List String :=
  ["DATE", "DATETIME", "TIME", "DAYOFWEEK", "DAYOFYEAR", "ISOWEEK", "TIMEZONE_ABBR",
    "TIMEZONE_REGION"]

/-- A unit of time or another field of a date. -/
def dateTimeField : Parser String := do
  let found ← next
  match found with
  | some ⟨.word word quote, _, key, _⟩ =>
    if ← pure (key == "WEEK") <&&> when (· matches .bigquery | .generic) <&&> symbol "(" then
      let start ← ident
      expectSymbol ")"
      return "WEEK(" ++ start.render ++ ")"
    else if temporalUnits.contains key || dateFields.contains key then return key
    else if ← when Dialect.extractsAnyUnit then return Ident.render ⟨word, quote⟩
    else unexpected "date/time field" found
  | some ⟨.text .single text, _, _, _⟩ =>
    if ← when Dialect.extractsQuotedUnit then return quoteText text
    else unexpected "date/time field" found
  | _ => unexpected "date/time field" found

end SqlLineage.Sql.Parse
