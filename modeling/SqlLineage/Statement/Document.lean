import SqlLineage.Decode.Text
import SqlLineage.Request.Basic
import SqlLineage.Statement.Codec
import SqlLineage.Text.Blank

/-!
# Statement documents

Statements can be given as they are instead of as SQL: a document is a JSON text of one statement or
of a list of statements.  Documents are read in order, blank ones are skipped, and the first one
that cannot be read ends the reading.
-/

namespace SqlLineage

/-- The statements of a document as a JSON value: those of a list, or one alone. -/
def Decode.statementDocument : Decoder (List Statement)
  | style, value =>
    match Decode.list Decode.statement style value with
    | .ok statements => .ok statements
    | .error _ =>
      match Decode.statement style value with
      | .ok statement => .ok [statement]
      | .error _ => .error (.here style (.noVariant "StatementDocument"))

/-- A document that cannot be read. -/
structure DocumentError where
  /-- The name of its source. -/
  source : String
  message : String
  deriving DecidableEq, Repr

/-- The text of an error. -/
def DocumentError.render (error : DocumentError) : String :=
  s!"Invalid statement JSON in {error.source}: {error.message}"

/-- The statements of one document. -/
def SourceFile.statements (file : SourceFile) : Except DocumentError (List Statement) :=
  if Text.isBlankText file.content then .ok []
  else (Decode.ofWholeText Decode.statementDocument file.content).mapError
    (fun message => ⟨file.name, message⟩)

/-- The statements of documents, in order. -/
def readStatements : List SourceFile → Except DocumentError (List Statement)
  | [] => .ok []
  | file :: rest => do
    let statements ← file.statements
    return statements ++ (← readStatements rest)

end SqlLineage
