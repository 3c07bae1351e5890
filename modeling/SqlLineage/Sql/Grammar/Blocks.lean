import SqlLineage.Sql.Grammar.Tables

/-!
# Blocks of statements

Conditions, loops and blocks that hold statements of their own.  Of each the text is kept up to
its first statement at least.
-/

namespace SqlLineage.Sql.Parse

/-- Statements that each end in a semicolon, up to one of the key words. -/
def statementList (below : Nested) (ends : List String) : Parser (List String) :=
  repeatWhile (do
    if (← peek).isNone || (← atOneOf ends) then return none
    else
      let statement ← below.statement
      expectSymbol ";"
      return some statement.render)

/-- The text of statements that each end in a semicolon. -/
def listText (statements : List String) : String :=
  " ".intercalate (statements.map (· ++ ";"))

/-- Statements between BEGIN and END, or without them. -/
def statementBlock (below : Nested) (ends : List String) : Parser String := do
  if ← keyword "BEGIN" then
    let statements ← statementList below ends
    expectKeyword "END"
    return "BEGIN " ++ listText statements ++ " END"
  else return listText (← statementList below ends)

/-- The spelling of the next token, which has to be the key word. -/
def spelling (key : String) : Parser String := do
  let word := ((← peek).map (·.token.render)).getD ""
  expectKeyword key
  return word

/-- A condition with the statements it guards, behind the word `opening`. -/
def guardedBlock (below : Nested) (opening : String) (ends : List String) : Parser String := do
  let condition ← exprText below
  expectKeyword "THEN"
  return opening ++ " " ++ condition ++ " THEN " ++ (← statementBlock below ends)

/-- The statements for when no condition holds. -/
def elseBlock (below : Nested) : Parser Unit := do
  if ← keyword "ELSE" then discard (statementBlock below ["END"])

/-- Conditions that each stand behind the key word. -/
def guardedBlocks (below : Nested) (key : String) (ends : List String) : Parser (List String) :=
  repeatWhile (do
    if ← atKeyword key then
      let word ← spelling key
      return some (← guardedBlock below word ends)
    else return none)

/-- A CASE whose branches are statements. -/
def caseStatement (below : Nested) : Parser String := do
  expectKeyword "CASE"
  let operand ← if ← atKeyword "WHEN" then pure "" else pure (" " ++ (← exprText below))
  if !(← atKeyword "WHEN") then expected "WHEN"
  let branches ← guardedBlocks below "WHEN" ["WHEN", "ELSE", "END"]
  elseBlock below
  expectKeyword "END"
  discard (keyword "CASE")
  return "CASE" ++ operand ++ " " ++ " ".intercalate branches

/-- An IF that ends in END IF. -/
def ifStatement (below : Nested) : Parser String := do
  let word ← spelling "IF"
  let block ← guardedBlock below word ["ELSE", "ELSEIF", "END"]
  discard (guardedBlocks below "ELSEIF" ["ELSEIF", "ELSE", "END"])
  elseBlock below
  expectKeywords ["END", "IF"]
  return block

/-- Statements of a block in which semicolons may be left out. -/
def looseStatements (below : Nested) : Parser (List String) :=
  repeatWhile (do
    if (← peek).isNone || (← atKeyword "END") then return none
    else
      let statement ← below.statement
      discard (repeatWhile (do if ← symbol ";" then return some () else return none))
      return some statement.render)

/-- The statement or block that an IF without END IF guards. -/
def guardedStatement (below : Nested) : Parser String := do
  if ← keyword "BEGIN" then
    let statements ← looseStatements below
    expectKeyword "END"
    return "BEGIN " ++ listText statements ++ " END"
  else return (← below.statement).render

/-- An IF that guards one statement or block.  Semicolons before an ELSE are taken; where no ELSE
follows, the last of them still ends the statement. -/
def shortIfStatement (below : Nested) : Parser String := do
  let word ← spelling "IF"
  let condition ← exprText below
  let block ← guardedStatement below
  let semicolons := (← get).rest.takeWhile (fun lexeme => lexeme.token == .symbol ";")
  drop semicolons.length
  if ← keyword "ELSE" then discard (guardedStatement below)
  else if let some last := semicolons.getLast? then
    modify fun stream => { stream with rest := last :: stream.rest }
  return word ++ " " ++ condition ++ " " ++ block

/-- A loop. -/
def whileStatement (below : Nested) : Parser String := do
  let word ← spelling "WHILE"
  let condition ← exprText below
  return word ++ " " ++ condition ++ " " ++ (← statementBlock below ["END"])

/-- An error that is raised. -/
def raiseStatement (below : Nested) : Parser String := do
  if ← keywords ["USING", "MESSAGE"] then
    expectSymbol "="
    return "RAISE USING MESSAGE = " ++ (← exprText below)
  else
    return "RAISE" ++ ((← attempt (exprText below)).map (" " ++ ·)).getD ""

/-- The names of the errors that a handler is for, up to THEN. -/
def handledErrors : Parser (List Ident) :=
  repeatWhile (do
    if ← keyword "THEN" then return none
    else
      let name ← ident
      discard (keyword "OR")
      return some name)

/-- What a block does with errors. -/
def handlers (below : Nested) : Parser Unit := do
  if ← keyword "EXCEPTION" then
    discard (repeatWhile (do
      if ← atKeyword "END" then return none
      else
        expectKeyword "WHEN"
        discard handledErrors
        discard (statementList below ["WHEN", "END"])
        return some ()))

/-- A block behind BEGIN. -/
def beginBlock (below : Nested) : Parser String := do
  let statements ← statementList below ["EXCEPTION", "END"]
  handlers below
  expectKeyword "END"
  let inside := if statements.isEmpty then "" else listText statements ++ " "
  return "BEGIN " ++ inside ++ "END"

end SqlLineage.Sql.Parse
