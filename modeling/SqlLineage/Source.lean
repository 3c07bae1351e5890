import SqlLineage.Error
import SqlLineage.Graph.Build
import SqlLineage.Sql.Script
import SqlLineage.Statement.OfSyntax
import SqlLineage.Text.Search

/-!
# Sources of SQL text

The sources of a request are parsed and reduced in order, files first; the first one that fails
ends the analysis.  Everything here takes the parser as a function of dialect and text.
-/

namespace SqlLineage

/-- A parser of scripts. -/
abbrev ScriptParser := Dialect → String → Except ParseError (List Sql.Statement)

/-- The spellings that hint at a script for PostgreSQL. -/
def postgresHints : List String :=
  ["::", "->", "?|", "?&"]

/-- Whether a text holds a spelling that hints at PostgreSQL. -/
def hintsAtPostgres (text : String) : Bool :=
  postgresHints.any (fun hint => Text.occursIn hint.toList text.toList)

/-- The parser of scripts.  Text without a dialect that hints at PostgreSQL is tried as such when it
is no script by itself; the error that counts is that of the first attempt. -/
def parseScript : ScriptParser := fun dialect text =>
  match Sql.statements dialect text with
  | .ok statements => .ok statements
  | .error error =>
    let failure := { ParseError.ofParser error.text with dialect := some dialect }
    if dialect == .generic && hintsAtPostgres text then
      match Sql.statements .postgres text with
      | .ok statements => .ok statements
      | .error _ => .error failure
    else .error failure

/-- What is kept of the statement at an index. -/
def reduce (index : Nat) (statement : Sql.Statement) : Except LineageError Statement :=
  match Statement.ofSyntax statement with
  | .ok reduced => .ok reduced
  | .error malformation => .error (.malformed index malformation.message)

/-- What is kept of statements, the first of which has that index. -/
def reduceFrom : Nat → List Sql.Statement → Except LineageError (List Statement)
  | _, [] => .ok []
  | index, statement :: rest => do
    let reduced ← reduce index statement
    return reduced :: (← reduceFrom (index + 1) rest)

/-- What is kept of the statements of a script. -/
def reduceAll (statements : List Sql.Statement) : Except LineageError (List Statement) :=
  reduceFrom 0 statements

/-- A text to parse. -/
structure Source where
  text : String
  /-- The name that issues give. -/
  name : Option String := none
  /-- Whether the text stands in a file, whose name a parse error gives. -/
  file : Bool := false
  deriving DecidableEq, Repr

/-- The error that a source which is no script ends in. -/
def Source.error (source : Source) (error : ParseError) : LineageError :=
  if source.file then .parseSource (source.name.getD "") error else .parse error

/-- The statements of sources, in order, behind those collected before. -/
def collectFrom (parser : ScriptParser) (dialect : Dialect) :
    List SourcedStatement → List Source → Except LineageError (List SourcedStatement)
  | before, [] => .ok before
  | before, source :: rest =>
    match parser dialect source.text with
    | .error error => .error (source.error error)
    | .ok script => do
      let statements ← reduceFrom before.length script
      collectFrom parser dialect
        (before ++ statements.map (fun statement => ⟨statement, source.name⟩)) rest

/-- The files of a request. -/
def Request.fileList (request : Request) : List SourceFile :=
  request.files.getD []

/-- Whether a request holds no text. -/
def Request.isBlank (request : Request) : Bool :=
  Text.isBlankText request.sql
    && request.fileList.all (fun file => Text.isBlankText file.content)

/-- The sources of a request: its files, then its inline text unless that is blank. -/
def Request.sources (request : Request) : List Source :=
  request.fileList.map (fun file => ⟨file.content, some file.name, true⟩)
    ++ (if Text.isBlankText request.sql then [] else [⟨request.sql, request.sourceName, false⟩])

/-- The issue of a request without text. -/
def emptyInputIssue : Issue :=
  { severity := .info
    code := "EMPTY_INPUT"
    message := "No SQL statements to analyze" }

/-- Analyses a request with a parser of scripts. -/
def analyzeWith (parser : ScriptParser) (request : Request) : Except LineageError Result :=
  let options := request.options.getD {}
  if request.isBlank then .ok (analyzeSourced options [emptyInputIssue] [])
  else do
    let statements ← collectFrom parser request.dialect [] request.sources
    return analyzeSourced options [] statements

/-- Analyses a request. -/
def analyze (request : Request) : Except LineageError Result :=
  analyzeWith parseScript request

end SqlLineage
