import SqlLineage.Dialect
import SqlLineage.Sql.Token
import SqlLineage.Text.Blank
import SqlLineage.Text.Numeric

/-!
# Errors

What ends an analysis without a result: a text that is no script, or a statement that names no
table where one is needed.  The place of a parse error is read out of its message.
-/

namespace SqlLineage

/-- Why a text is no script. -/
structure ParseError where
  message : String
  position : Option Sql.Position := none
  dialect : Option Dialect := none
  deriving DecidableEq, Repr

/-- What ends an analysis. -/
inductive LineageError where
  /-- The inline text is no script. -/
  | parse (error : ParseError)
  /-- A named source is no script. -/
  | parseSource (name : String) (error : ParseError)
  /-- The statement at an index is malformed. -/
  | malformed (index : Nat) (message : String)
  deriving DecidableEq, Repr

namespace ParseError

/-- What is left of a text behind its beginning. -/
def afterText? : List Char → List Char → Option (List Char)
  | [], rest => some rest
  | c :: part, d :: rest => if c == d then afterText? part rest else none
  | _ :: _, [] => none

/-- The digits at the start of a text, of which there has to be one, and what follows them. -/
def digits? (text : List Char) : Option (List Char × List Char) :=
  let digits := text.takeWhile Text.isDecimal
  if digits.isEmpty then none else some (digits, text.dropWhile Text.isDecimal)

/-- The line and the column at the start of a text, in digits. -/
def placeAt? (text : List Char) : Option (List Char × List Char) := do
  let rest ← afterText? "Line:".toList text
  let (line, rest) ← digits? (rest.dropWhile Text.isBlank)
  let rest ← afterText? [','] (rest.dropWhile Text.isBlank)
  let rest ← afterText? "Column:".toList (rest.dropWhile Text.isBlank)
  let (column, _) ← digits? (rest.dropWhile Text.isBlank)
  return (line, column)

/-- The first line and column in a text, in digits. -/
def place? : List Char → Option (List Char × List Char)
  | [] => none
  | c :: rest =>
    match placeAt? (c :: rest) with
    | some place => some place
    | none => place? rest

/-- The number that ASCII digits write, if it fits in 64 bits. -/
def number? (digits : List Char) : Option Nat :=
  if digits.all Char.isDigit then
    let value := digits.foldl (fun value c => 10 * value + (c.toNat - '0'.toNat)) 0
    if value < UInt64.size then some value else none
  else none

/-- The place that a message gives.  Only the first place in it counts. -/
def positionIn (message : String) : Option Sql.Position := do
  let (line, column) ← place? message.toList
  return ⟨← number? line, ← number? column⟩

/-- The error of a parser with that message. -/
def ofParser (text : String) : ParseError :=
  let message := "sql parser error: " ++ text
  { message := message, position := positionIn message }

/-- The text of an error. -/
def render (error : ParseError) : String :=
  let dialect := (error.dialect.map (fun dialect => " (" ++ dialect.label ++ ")")).getD ""
  let place := (error.position.map
    (fun place => s!" at line {place.line}, column {place.column}")).getD ""
  "Parse error" ++ dialect ++ place ++ ": " ++ error.message

end ParseError

/-- The text of an error. -/
def LineageError.render : LineageError → String
  | .parse error => error.render
  | .parseSource name error => s!"failed to parse {name}: " ++ error.render
  | .malformed index message => s!"statement {index}: {message}"

end SqlLineage
