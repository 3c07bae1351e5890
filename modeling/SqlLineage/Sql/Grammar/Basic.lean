import SqlLineage.Sql.Lexer
import SqlLineage.Sql.Syntax

/-!
# Parsers over tokens

A parser takes the tokens that are left and answers a value with the tokens after it, or a fault.
`attempt` goes back to where it started when its parser fails, except when the script nests too
deeply: that fault is final.
-/

namespace SqlLineage.Sql

/-- What an expression is part of, where that changes how it is read. -/
inductive Setting where
  | plain
  | columnDefinition
  | connectBy
  deriving DecidableEq, Repr

/-- The tokens that are left. -/
structure Stream where
  dialect : Dialect
  rest : List Lexeme
  /-- More steps than any loop over the tokens can take. -/
  budget : Nat
  setting : Setting := .plain

/-- Why a script is not accepted. -/
inductive Fault where
  /-- Something else was expected than the token found; none was found at the end. -/
  | expected (what : String) (found : Option Lexeme)
  | refused (message : String)
  | tooDeep
  deriving Repr

/-- The message of a fault. -/
def Fault.text : Fault → String
  | .expected what none => s!"Expected: {what}, found: EOF"
  | .expected what (some found) =>
    s!"Expected: {what}, found: {found.token.render}{found.position.suffix}"
  | .refused message => message
  | .tooDeep => "recursion limit exceeded"

/-- A parser. -/
abbrev Parser := StateT Stream (Except Fault)

/-- Parsers that stand one level further down than the one that uses them. -/
structure Nested where
  /-- An expression whose operators bind more tightly than the number says. -/
  expression : Nat → Parser Expr
  query : Parser Query
  statement : Parser Statement

namespace Parse

/-- The dialect of the script. -/
def dialect : Parser Dialect := do
  return (← get).dialect

/-- Whether the dialect has a property. -/
def when (property : Dialect → Bool) : Parser Bool := do
  return property (← get).dialect

/-- The next token. -/
def peek : Parser (Option Lexeme) := do
  return (← get).rest.head?

/-- The token after `skip` others. -/
def peekAt (skip : Nat) : Parser (Option Lexeme) := do
  return (← get).rest[skip]?

/-- The key of the next token; empty if it can be no key word. -/
def peekKey : Parser String := do
  return ((← peek).map (·.key)).getD ""

/-- The key of the token after `skip` others. -/
def peekKeyAt (skip : Nat) : Parser String := do
  return ((← peekAt skip).map (·.key)).getD ""

/-- Takes the next token. -/
def next : Parser (Option Lexeme) := do
  let stream ← get
  match stream.rest with
  | [] => return none
  | lexeme :: rest =>
    set { stream with rest := rest }
    return some lexeme

/-- Fails: something else was expected than the next token. -/
def expected {α : Type} (what : String) : Parser α := do
  throw (.expected what (← peek))

/-- Fails: something else was expected than that token. -/
def unexpected {α : Type} (what : String) (found : Option Lexeme) : Parser α :=
  throw (.expected what found)

/-- Fails with a message of its own. -/
def refuse {α : Type} (message : String) : Parser α :=
  throw (.refused message)

/-- Fails with a message that names the place of a token. -/
def refuseAt {α : Type} (message : String) (place : Option Lexeme) : Parser α :=
  throw (.refused (message ++ ((place.map (·.position.suffix)).getD "")))

/-- Whether a lexeme is the symbol. -/
def isSymbol (spelling : String) : Option Lexeme → Bool
  | some ⟨.symbol found, _, _, _⟩ => found == spelling
  | _ => false

/-- Whether the next token is the symbol. -/
def atSymbol (spelling : String) : Parser Bool := do
  return isSymbol spelling (← peek)

/-- Whether the token after `skip` others is the symbol. -/
def atSymbolAt (skip : Nat) (spelling : String) : Parser Bool := do
  return isSymbol spelling (← peekAt skip)

/-- Drops the next tokens. -/
def drop (count : Nat) : Parser Unit :=
  modify fun stream => { stream with rest := stream.rest.drop count }

/-- Takes the symbol if it stands next. -/
def symbol (spelling : String) : Parser Bool := do
  let found ← atSymbol spelling
  if found then drop 1
  return found

/-- Takes the symbols if they stand next, all of them or none. -/
def symbols (spellings : List String) : Parser Bool := do
  let rest := (← get).rest
  let found := spellings.length ≤ rest.length &&
    (spellings.zip rest).all (fun pair => isSymbol pair.1 (some pair.2))
  if found then drop spellings.length
  return found

/-- Takes the symbol, which has to stand next. -/
def expectSymbol (spelling : String) : Parser Unit := do
  if !(← symbol spelling) then expected spelling

/-- Whether the key word stands next. -/
def atKeyword (key : String) : Parser Bool := do
  return (← peekKey) == key

/-- Whether one of the key words stands next. -/
def atOneOf (keys : List String) : Parser Bool := do
  return keys.contains (← peekKey)

/-- Whether the key words stand next, one after the other. -/
def atKeywords (keys : List String) : Parser Bool := do
  return ((← get).rest.take keys.length).map (·.key) == keys

/-- Takes the key word if it stands next. -/
def keyword (key : String) : Parser Bool := do
  let found ← atKeyword key
  if found then drop 1
  return found

/-- Takes the key words if they stand next, all of them or none. -/
def keywords (keys : List String) : Parser Bool := do
  let found ← atKeywords keys
  if found then drop keys.length
  return found

/-- Takes the next token if it is one of the key words. -/
def oneOf (keys : List String) : Parser (Option String) := do
  let key ← peekKey
  if keys.contains key then
    drop 1
    return some key
  else return none

/-- Takes the next token if it is one of the key words; whether it was. -/
def anyKeyword (keys : List String) : Parser Bool := do
  return (← oneOf keys).isSome

/-- Takes the key word, which has to stand next. -/
def expectKeyword (key : String) : Parser Unit := do
  if !(← keyword key) then expected key

/-- Takes key words, which have to stand next. -/
def expectKeywords (keys : List String) : Parser Unit :=
  keys.forM expectKeyword

/-- Takes one of the key words, which has to stand next. -/
def expectOneOf (keys : List String) : Parser String := do
  match ← oneOf keys with
  | some key => return key
  | none => expected ("one of " ++ " or ".intercalate keys)

/-- Tries a parser; without success nothing is taken. -/
def attempt {α : Type} (parser : Parser α) : Parser (Option α) := do
  let start ← get
  match parser.run start with
  | .ok (value, after) =>
    set after
    return some value
  | .error .tooDeep => throw .tooDeep
  | .error _ => return none

/-- Runs a parser under a setting. -/
def within {α : Type} (setting : Setting) (parser : Parser α) : Parser α := do
  let before := (← get).setting
  modify fun stream => { stream with setting := setting }
  let value ← parser
  modify fun stream => { stream with setting := before }
  return value

/-- The steps a loop may take. -/
def budget : Parser Nat := do
  return (← get).budget

/-- Repeats a parser as long as it answers a value, at most so many times. -/
def repeatWithin {α : Type} (parser : Parser (Option α)) : Nat → Parser (List α)
  | 0 => return []
  | steps + 1 => do
    match ← parser with
    | none => return []
    | some value => return value :: (← repeatWithin parser steps)

/-- Repeats a parser as long as it answers a value. -/
def repeatWhile {α : Type} (parser : Parser (Option α)) : Parser (List α) := do
  repeatWithin parser (← budget)

/-- A parser's value with whatever follows it as long as `goesOn` says so. -/
def separated {α : Type} (item : Parser α) (goesOn : Parser Bool) : Parser (List α) := do
  let first ← item
  let more ← repeatWhile (do
    if ← goesOn then return some (← item) else return none)
  return first :: more

/-- Whether a comma stands next that another item follows.  Where a dialect allows a comma after
the last item, it is taken and nothing follows it. -/
def commaGoesOn (trailing : Bool) (ends : String → Bool) : Parser Bool := do
  if !(← symbol ",") then return false
  if !trailing then return true
  match ← peek with
  | none => return false
  | some lexeme =>
    match lexeme.token with
    | .word .. => return !(lexeme.key != "" && ends lexeme.key)
    | .symbol spelling => return ! [")", ";", "]", "\x7d"].contains spelling
    | _ => return true

/-- A value in parentheses. -/
def parenthesized {α : Type} (parser : Parser α) : Parser α := do
  expectSymbol "("
  let value ← parser
  expectSymbol ")"
  return value

/-- A value if a key word stands before it. -/
def after {α : Type} (key : String) (parser : Parser α) : Parser (Option α) := do
  if ← keyword key then return some (← parser) else return none

/-- A text if a condition holds, else the empty text. -/
def textIf (condition : Parser Bool) (text : String) : Parser String := do
  if ← condition then return text else return ""

end Parse

end SqlLineage.Sql
