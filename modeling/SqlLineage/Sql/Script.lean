import SqlLineage.Sql.Grammar.Statements

/-!
# Scripts

A script is a list of statements with semicolons between them.
-/

namespace SqlLineage.Sql

namespace Parse

/-- Parsers for what may nest `depth` levels down. -/
def nestedAt : Nat → Nested
  | 0 => ⟨fun _ => throw .tooDeep, throw .tooDeep, throw .tooDeep⟩
  | depth + 1 =>
    let below := nestedAt depth
    ⟨expressionAt below, queryAt below, statementAt below⟩

/-- The levels that a statement may nest. -/
def levels : Nat :=
  50

/-- Skips semicolons; whether there were any. -/
def semicolons : Parser Bool := do
  let skipped := (← get).rest.takeWhile (fun lexeme => lexeme.token == .symbol ";")
  drop skipped.length
  return !skipped.isEmpty

/-- The statements up to the end of a script; `complete` says whether the one before them has
ended.  An END behind a statement ends the script too. -/
def statementsWithin : Nat → Bool → Parser (List Statement)
  | 0, _ => return []
  | steps + 1, complete => do
    let separated ← semicolons
    let complete := complete || separated
    if (← peek).isNone then return []
    else if !complete then
      if ← atKeyword "END" then return [] else expected "end of statement"
    else
      let statement ← (nestedAt levels).statement
      return statement :: (← statementsWithin steps false)

end Parse

/-- Why a text is no script. -/
inductive SyntaxError where
  | lexical (error : LexError)
  | grammatical (fault : Fault)

/-- The message of a syntax error. -/
def SyntaxError.text : SyntaxError → String
  | .lexical error => error.text
  | .grammatical fault => fault.text

/-- The statements of a script. -/
def statements (dialect : Dialect) (text : String) : Except SyntaxError (List Statement) :=
  match lex dialect text with
  | .error error => .error (.lexical error)
  | .ok lexemes =>
    let steps := lexemes.length + 1
    match (Parse.statementsWithin steps true).run ⟨dialect, lexemes, steps, .plain⟩ with
    | .ok (statements, _) => .ok statements
    | .error fault => .error (.grammatical fault)

end SqlLineage.Sql
