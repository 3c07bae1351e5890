import SqlLineage.Sql.Grammar.Projections

/-!
# Patterns of rows

MATCH_RECOGNIZE finds rows that follow each other as a pattern says.  A pattern is read from the
outside in: alternatives, sequences, repetitions, and at the bottom a name of rows or a pattern in
parentheses.  A step of the recursion is one pair of parentheses.
-/

namespace SqlLineage.Sql.Parse

/-- A number of repetitions in braces, behind the opening one. -/
def repetitionRange : Parser String := do
  let first ← next
  let number (what : String) (found : Option Lexeme) : Parser String :=
    match found with
    | some ⟨.number digits _, _, _, _⟩ => return digits
    | _ => unexpected what found
  if isSymbol "," first then
    let most ← number "literal number" (← next)
    expectSymbol "\x7d"
    return "\x7b," ++ most ++ "\x7d"
  let least ← number "quantifier range" first
  if ← symbol "," then
    let found ← next
    if isSymbol "\x7d" found then return "\x7b" ++ least ++ ",\x7d"
    let most ← number "\x7d or upper bound" found
    expectSymbol "\x7d"
    return "\x7b" ++ least ++ "," ++ most ++ "\x7d"
  else
    expectSymbol "\x7d"
    return "\x7b" ++ least ++ "\x7d"

/-- How often rows repeat; `none` if that is not said. -/
def repetition : Parser (Option String) := do
  match ← peek with
  | some ⟨.symbol "*", _, _, _⟩ =>
    drop 1
    return some "*"
  | some ⟨.symbol "+", _, _, _⟩ =>
    drop 1
    return some "+"
  | some ⟨.placeholder "?", _, _, _⟩ =>
    drop 1
    return some "?"
  | some ⟨.symbol "\x7b", _, _, _⟩ =>
    drop 1
    return some (← repetitionRange)
  | _ => return none

/-- A pattern that is no repetition, sequence or choice; `inside` reads what stands in
parentheses. -/
def patternAtom (inside : Parser String) : Parser String := do
  match ← peek with
  | some ⟨.symbol "^", _, _, _⟩ =>
    drop 1
    return "^"
  | some ⟨.placeholder "$", _, _, _⟩ =>
    drop 1
    return "$"
  | some ⟨.symbol "\x7b", _, _, _⟩ =>
    drop 1
    expectSymbol "-"
    let name ← ident
    expectSymbol "-"
    expectSymbol "\x7d"
    return "\x7b- " ++ name.render ++ " -\x7d"
  | some ⟨.word "PERMUTE" none, _, _, _⟩ =>
    drop 1
    return "PERMUTE(" ++ commaList ((← identList).map Ident.render) ++ ")"
  | some ⟨.symbol "(", _, _, _⟩ =>
    drop 1
    let text ← inside
    expectSymbol ")"
    return "( " ++ text ++ " )"
  | _ => return (← ident).render

/-- Patterns that follow each other. -/
def patternSequence (inside : Parser String) : Parser String := do
  let repeated : Parser String := do
    let atom ← patternAtom inside
    return atom ++ "".intercalate (← repeatWhile repetition)
  let first ← repeated
  let more ← repeatWhile (do
    if (← atSymbol ")") || (← atSymbol "|") then return none else return some (← repeated))
  return " ".intercalate (first :: more)

/-- A pattern in which parentheses lie inside each other at most so many times. -/
def rowPatternWithin : Nat → Parser String
  | 0 => throw .tooDeep
  | steps + 1 => do
    let alternatives ← separated (patternSequence (rowPatternWithin steps)) (symbol "|")
    return " | ".intercalate alternatives

/-- A pattern of rows. -/
def rowPattern : Parser String := do
  rowPatternWithin (← budget)

/-- What is answered for a match. -/
def rowsPerMatch : Parser String := do
  if ← keywords ["ONE", "ROW", "PER", "MATCH"] then return "ONE ROW PER MATCH "
  else if ← keywords ["ALL", "ROWS", "PER", "MATCH"] then
    for words in [["SHOW", "EMPTY", "MATCHES"], ["OMIT", "EMPTY", "MATCHES"],
        ["WITH", "UNMATCHED", "ROWS"]] do
      if ← keywords words then return "ALL ROWS PER MATCH " ++ " ".intercalate words ++ " "
    return "ALL ROWS PER MATCH "
  else return ""

/-- Where the search goes on after a match. -/
def afterMatch : Parser String := do
  if ← keywords ["AFTER", "MATCH", "SKIP"] then
    if ← keywords ["PAST", "LAST", "ROW"] then return "AFTER MATCH SKIP PAST LAST ROW "
    else if ← keywords ["TO", "NEXT", "ROW"] then return "AFTER MATCH SKIP TO NEXT ROW "
    else if ← keywords ["TO", "FIRST"] then
      return "AFTER MATCH SKIP TO FIRST " ++ (← ident).render ++ " "
    else if ← keywords ["TO", "LAST"] then
      return "AFTER MATCH SKIP TO LAST " ++ (← ident).render ++ " "
    else expected "after match skip option"
  else return ""

/-- What stands in the parentheses of a MATCH_RECOGNIZE. -/
def rowMatch (below : Nested) : Parser String := do
  let partitions ←
    if ← keywords ["PARTITION", "BY"] then pure ("PARTITION BY " ++ (← exprTexts below) ++ " ")
    else pure ""
  let order ←
    if ← keywords ["ORDER", "BY"] then pure ("ORDER BY " ++ (← orderByExprs below) ++ " ")
    else pure ""
  let measures ←
    if ← keyword "MEASURES" then do
      let measures ← commaSeparated (do
        let text ← exprText below
        discard (keyword "AS")
        return text ++ " AS " ++ (← ident).render)
      pure ("MEASURES " ++ commaList measures ++ " ")
    else pure ""
  let rows ← rowsPerMatch
  let skip ← afterMatch
  expectKeyword "PATTERN"
  let pattern ← parenthesized rowPattern
  expectKeyword "DEFINE"
  let definitions ← commaSeparated (do
    let name ← ident
    expectKeyword "AS"
    return name.render ++ " AS " ++ (← exprText below))
  return partitions ++ order ++ measures ++ rows ++ skip ++ "PATTERN (" ++ pattern ++ ") DEFINE "
    ++ commaList definitions

end SqlLineage.Sql.Parse
