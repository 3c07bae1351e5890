import SqlLineage.Sql.Grammar.Basic
import SqlLineage.Sql.Grammar.Features
import SqlLineage.Sql.Render

/-!
# Names

Names of columns, tables and aliases.
-/

namespace SqlLineage.Sql.Parse

/-- The name that a token stands for. -/
def identOf? : Token → Option Ident
  | .word value quote => some ⟨value, quote⟩
  | .text .single value => some ⟨value, some '\''⟩
  | .text .double value => some ⟨value, some '"'⟩
  | _ => none

/-- A name. -/
def ident : Parser Ident := do
  let found ← next
  match found.bind (fun lexeme => identOf? lexeme.token) with
  | some ident => return ident
  | none => unexpected "identifier" found

/-- A name if one stands next. -/
def optionalIdent : Parser (Option Ident) :=
  attempt ident

/-- Items with a comma between them. -/
def commaSeparated {α : Type} (item : Parser α) : Parser (List α) := do
  let trailing ← when Dialect.allowsTrailingCommas
  separated item (commaGoesOn trailing Dialect.reservedForColumns.contains)

/-- Items with a comma between them, or none before a closing symbol. -/
def commaSeparatedUntil {α : Type} (item : Parser α) (closing : String) : Parser (List α) := do
  if ← atSymbol closing then return []
  if ← when Dialect.allowsTrailingCommas <&&> atSymbolAt 1 closing <&&> symbol "," then
    return []
  commaSeparated item

/-- Names in parentheses. -/
def identList : Parser (List Ident) :=
  parenthesized (commaSeparated ident)

/-- Names in parentheses, possibly none. -/
def identListOrEmpty : Parser (List Ident) :=
  parenthesized (commaSeparatedUntil ident ")")

/-- Names in parentheses if a parenthesis stands next. -/
def optionalIdentList (allowsEmpty : Bool) : Parser (List Ident) := do
  if !(← atSymbol "(") then return []
  if ← pure allowsEmpty <&&> symbols ["(", ")"] then return []
  identList

/-- Items in parentheses where columns are named, which have to stand next. -/
def columnListOf {α : Type} (item : Parser α) : Parser (List α) := do
  if ← atSymbol "(" then parenthesized (commaSeparated item)
  else expected "a list of columns in parentheses"

/-- Names in parentheses, which have to stand next. -/
def columnList : Parser (List Ident) :=
  columnListOf ident

/-- The texts of the tokens up to the parenthesis that closes `depth` open ones. -/
def balancedTexts : Nat → Nat → Parser (List String)
  | 0, _ => return []
  | steps + 1, depth => do
    let found ← next
    match found with
    | none => unexpected ")" none
    | some lexeme =>
      match lexeme.token with
      | .symbol ")" =>
        match depth with
        | 0 => return []
        | depth + 1 => return ")" :: (← balancedTexts steps depth)
      | .symbol "(" => return "(" :: (← balancedTexts steps (depth + 1))
      | token => return token.render :: (← balancedTexts steps depth)

/-- Texts with one blank between them, and none before a comma or inside parentheses. -/
def joinTexts : List String → String
  | [] => ""
  | [text] => text
  | text :: next :: rest =>
    let gap := if [",", ")", "("].contains next || ["(", ":"].contains text then "" else " "
    text ++ gap ++ joinTexts (next :: rest)

/-- What stands in parentheses, as text. -/
def balanced : Parser String := do
  expectSymbol "("
  return joinTexts (← balancedTexts (← budget) 0)

/-- Skips what stands in parentheses, if a parenthesis stands next. -/
def optionalBalanced : Parser String := do
  if ← atSymbol "(" then return "(" ++ (← balanced) ++ ")" else return ""

/-- Whether the name is the function that stands for another name. -/
def isIdentifierCall (name : Ident) : Bool :=
  name.quote.isNone && Text.upper name.value == "IDENTIFIER"

/-- A part of a dotted name. -/
def namePart : Parser NamePart := do
  let name ← ident
  if isIdentifierCall name && (← when Dialect.hasIdentifierCalls) then
    return .call (name.value ++ "(" ++ (← balanced) ++ ")")
  else return .ident name

/-- The parts of a dotted name from the part at `position` on. -/
def nameParts (steps position : Nat) : Parser (List NamePart) := do
  match steps with
  | 0 => return []
  | steps + 1 =>
    let part : NamePart ←
      if position == 1 && (← when Dialect.allowsDoubleDots) && (← atSymbol ".") then
        pure (.ident ⟨"", none⟩)
      else namePart
    if ← symbol "." then return part :: (← nameParts steps (position + 1)) else return [part]

/-- The hyphenated rest of a name; whether it ended in the full stop of a number. -/
def hyphenatedRest (steps : Nat) (name : String) : Parser (String × Bool) := do
  match steps with
  | 0 => return (name, false)
  | steps + 1 =>
    match ← peek with
    | some ⟨.symbol "-", _, _, false⟩ =>
      drop 1
      let found ← next
      match found with
      | some ⟨.word value none, _, _, false⟩ => hyphenatedRest steps (name ++ "-" ++ value)
      | some ⟨.number digits false, _, _, false⟩ =>
        if digits.endsWith "." then
          let whole := String.ofList (digits.toList.takeWhile (· != '.'))
          if whole.isEmpty then unexpected "continuation of hyphenated identifier" found
          else return (name ++ "-" ++ whole, true)
        else
          let name := name ++ "-" ++ digits
          match ← peek with
          | some ⟨.symbol ".", _, _, _⟩ => return (name, false)
          | some ⟨.symbol "-", _, _, false⟩ => hyphenatedRest steps name
          | none => return (name, false)
          | some lexeme =>
            if lexeme.spaced then return (name, false)
            else unexpected "whitespace following hyphenated identifier" (some lexeme)
      | _ => unexpected "continuation of hyphenated identifier" found
    | _ => return (name, false)

/-- The parts of a dotted name that may hold hyphens. -/
def hyphenatedParts (steps : Nat) : Parser (List NamePart) := do
  match steps with
  | 0 => return []
  | steps + 1 =>
    let first ← ident
    let (name, stopped) : Ident × Bool ←
      match first.quote with
      | none => do
        let (value, stopped) ← hyphenatedRest steps first.value
        pure (⟨value, none⟩, stopped)
      | some _ => pure (first, false)
    let goesOn ← symbol "."
    if goesOn || stopped then return .ident name :: (← hyphenatedParts steps)
    else return [.ident name]

/-- Splits a quoted part at its dots. -/
def splitPart : NamePart → List NamePart
  | .ident name => (name.value.splitOn ".").map (fun value => .ident ⟨value, name.quote⟩)
  | part => [part]

/-- A dotted name; that of a table may hold hyphens. -/
def objectName (ofTable : Bool) : Parser ObjectName := do
  if ← when Dialect.hasHyphenatedNames then
    let parts ←
      if ofTable then hyphenatedParts (← budget) else nameParts (← budget) 0
    return ⟨parts.flatMap splitPart⟩
  else return ⟨← nameParts (← budget) 0⟩

/-- One who is granted something: a name, or a user and the host behind an at sign. -/
def granteeName : Parser Unit := do
  let name ← objectName false
  let hosted ← when (· matches .mysql | .generic)
  if ← pure (hosted && name.parts.length == 1) <&&> symbol "@" then discard ident

/-- One who owns an object. -/
def owner : Parser Unit := do
  if ← not <$> anyKeyword ["CURRENT_USER", "CURRENT_ROLE", "SESSION_USER"] then
    let found ← next
    if (found.bind (fun lexeme => identOf? lexeme.token)).isNone then
      refuse ("Expected: CURRENT_USER, CURRENT_ROLE, SESSION_USER or identifier after OWNER TO. "
        ++ "sql parser error: " ++ (Fault.expected "identifier" found).text)

/-- Whether a limit follows the word just read. -/
def limitFollows : Parser Bool := do
  match ← peek with
  | some lexeme =>
    match lexeme.token with
    | .number .. | .placeholder _ => return true
    | .text .single value | .dollar _ value => return value.isEmpty
    | _ => return lexeme.key == "NULL"
  | none => return false

/-- Whether the statement may end after the word just read. -/
def atSemicolonOrEnd : Parser Bool := do
  return (← peek).isNone || (← atSymbol ";")

/-- Whether a list goes on or the script ends after the word just read. -/
def atCommaOrEnd : Parser Bool := do
  return (← peek).isNone || (← atSymbol ",")

/-- Whether the word just read may name a column of a projection. -/
def mayNameColumn (key : String) : Parser Bool := do
  match ← dialect with
  | .snowflake =>
    if key == "EXCEPT" || key == "RETURNING" then atCommaOrEnd
    else if key == "LIMIT" || key == "OFFSET" then return !(← limitFollows)
    else if key == "FETCH" then return !((← atOneOf ["FIRST", "NEXT"]) || (← limitFollows))
    else
      return ! ["FROM", "GROUP", "HAVING", "INTERSECT", "INTO", "MINUS", "ORDER", "SELECT", "UNION",
        "WHERE", "WITH"].contains key
  | .bigquery =>
    return ! ["WITH", "SELECT", "WHERE", "GROUP", "HAVING", "ORDER", "LATERAL", "LIMIT", "FETCH",
      "UNION", "EXCEPT", "INTERSECT", "FROM", "INTO", "END"].contains key
  | .mssql => return !(Dialect.reservedForColumns ++ ["IF", "ELSE"]).contains key
  | _ => return !Dialect.reservedForColumns.contains key

/-- Whether the word just read may name a relation. -/
def mayNameTable (key : String) : Parser Bool := do
  match ← dialect with
  | .snowflake =>
    if ["RETURNING", "PIVOT", "UNPIVOT", "EXCEPT", "MATCH_RECOGNIZE"].contains key then
      atSemicolonOrEnd
    else if key == "LIMIT" || key == "OFFSET" then return !(← limitFollows)
    else if key == "FETCH" then return !((← atOneOf ["FIRST", "NEXT"]) || (← limitFollows))
    else if key == "SEMI" || key == "ANTI" then return !(← atOneOf ["JOIN", "OUTER"])
    else if key == "GLOBAL" then return !(← atKeyword "FULL")
    else
      return ! ["WITH", "ORDER", "SELECT", "WHERE", "GROUP", "HAVING", "LATERAL", "UNION",
        "INTERSECT", "MINUS", "ON", "JOIN", "INNER", "CROSS", "FULL", "LEFT", "RIGHT", "NATURAL",
        "USING", "ASOF", "MATCH_CONDITION", "SET", "QUALIFY", "FOR", "START", "CONNECT", "SAMPLE",
        "TABLESAMPLE", "FROM"].contains key
  | .mysql =>
    return !(Dialect.reservedForTables ++ ["USE", "IGNORE", "FORCE", "STRAIGHT_JOIN"]).contains key
  | .mssql => return !(Dialect.reservedForTables ++ ["IF", "ELSE"]).contains key
  | _ => return !Dialect.reservedForTables.contains key

/-- An alias, with or without AS; `mayName` says which words can be one without. -/
def optionalAlias (mayName : String → Parser Bool) : Parser (Option Ident) := do
  let explicit ← keyword "AS"
  let found ← peek
  match found with
  | some ⟨.word value quote, _, key, _⟩ =>
    let start ← get
    drop 1
    if explicit || (← mayName key) then return some ⟨value, quote⟩
    else
      set start
      return none
  | some ⟨.text .single value, _, _, _⟩ =>
    drop 1
    return some ⟨value, some '\''⟩
  | some ⟨.text .double value, _, _, _⟩ =>
    drop 1
    return some ⟨value, some '"'⟩
  | _ =>
    if explicit then unexpected "an identifier after AS" found else return none

/-- An alias that is none of the reserved words. -/
def aliasExcept (reserved : List String) : Parser (Option Ident) :=
  optionalAlias (fun key => return !reserved.contains key)

end SqlLineage.Sql.Parse
