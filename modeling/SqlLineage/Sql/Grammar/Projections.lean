import SqlLineage.Sql.Grammar.Expressions

/-!
# Projections

The items between SELECT and FROM, and those behind RETURNING.
-/

namespace SqlLineage.Sql.Parse

/-- One name or several in parentheses, as text. -/
def namesText : Parser String := do
  if ← atSymbol "(" then return "(" ++ commaList ((← identList).map Ident.render) ++ ")"
  else return (← ident).render

/-- The columns that `*` leaves out after EXCLUDE. -/
def excludeOption : Parser String := do
  if ← keyword "EXCLUDE" then return " EXCLUDE " ++ (← namesText) else return ""

/-- The pattern that columns of `*` have to match. -/
def patternOption : Parser String := do
  if ← keyword "ILIKE" then
    let found ← next
    match found with
    | some ⟨.text .single text, _, _, _⟩ => return " ILIKE " ++ quoteText text
    | _ => unexpected "ilike pattern" found
  else return ""

/-- The columns that `*` leaves out after EXCEPT. -/
def exceptOption : Parser String := do
  if ← keyword "EXCEPT" then return " EXCEPT " ++ (← namesText) else return ""

/-- The columns of `*` that are replaced. -/
def replaceOption (below : Nested) : Parser String := do
  if ← keyword "REPLACE" then
    if ← symbol "(" then
      let items ← commaSeparated (do
        let text ← exprText below
        discard (keyword "AS")
        return text ++ " AS " ++ (← ident).render)
      expectSymbol ")"
      return " REPLACE (" ++ commaList items ++ ")"
    else expected "( after REPLACE but"
  else return ""

/-- A name with a new one. -/
def renamedIdent : Parser String := do
  let old ← ident
  expectKeyword "AS"
  return old.render ++ " AS " ++ (← ident).render

/-- The columns of `*` that get new names. -/
def renameOption : Parser String := do
  if ← keyword "RENAME" then
    if ← atSymbol "(" then
      return " RENAME (" ++ commaList (← parenthesized (commaSeparated renamedIdent)) ++ ")"
    else return " RENAME " ++ (← renamedIdent)
  else return ""

/-- What may stand behind `*`. -/
def wildcardOptions (below : Nested) : Parser String := do
  let dialect ← dialect
  let pattern ← if dialect.hasWildcardRename then patternOption else pure ""
  let exclude ←
    if pattern.isEmpty && dialect.hasWildcardExclude then excludeOption else pure ""
  let except ← if dialect.hasWildcardExcept then exceptOption else pure ""
  let replace ← if dialect.hasWildcardReplace then replaceOption below else pure ""
  let rename ← if dialect.hasWildcardRename then renameOption else pure ""
  return pattern ++ exclude ++ except ++ replace ++ rename

/-- An item of a projection. -/
def selectItem (below : Nested) : Parser SelectItem := do
  let dialect ← dialect
  if dialect == .snowflake then discard (keyword "CONNECT_BY_ROOT")
  let item ← wildcardExpr below
  match item with
  | .qualifiedWildcard name => return .qualifiedWildcard name (← wildcardOptions below)
  | .wildcard => return .wildcard (← wildcardOptions below)
  | _ =>
    match item with
    | .ident ⟨value, none⟩ =>
      if Text.upper value == "FROM" then
        refuseAt ("Expected an expression, found: " ++ value) (← peek)
    | _ => pure ()
    match dialect.hasEqualsAlias, item with
    | true, .binary .eq (.ident aliasName) right => return .expr right (some aliasName)
    | _, _ =>
      if ← pure dialect.hasExprWildcards <&&> symbols [".", "*"] then
        return .exprWildcard item (← wildcardOptions below)
      else return .expr item (← optionalAlias mayNameColumn)

/-- The items of a projection. -/
def projection (below : Nested) : Parser (List SelectItem) := do
  let trailing ← when Dialect.allowsTrailingProjectionComma
  separated (selectItem below) (commaGoesOn trailing Dialect.reservedForColumns.contains)

/-- What a change of rows answers. -/
def returning (below : Nested) : Parser String := do
  if ← keyword "RETURNING" then
    let items ← commaSeparated (selectItem below)
    return " RETURNING " ++ commaList (items.map SelectItem.render)
  else return ""

end SqlLineage.Sql.Parse
