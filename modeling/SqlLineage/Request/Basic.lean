import SqlLineage.Dialect
import SqlLineage.Graph.Basic

/-!
# Requests and results

A request names the sources to analyse and how; a result is a lineage graph with the issues met on
the way.
-/

namespace SqlLineage

/-- Which tables an INSERT or a view is linked to. -/
inductive SourceLinking where
  /-- Every table known as a source so far. -/
  | allKnownSources
  /-- The tables that the statement itself reads. -/
  | statementSources
  deriving DecidableEq, Repr, Inhabited

/-- How an analysis is done. -/
structure Options where
  sourceLinking : SourceLinking := .allKnownSources
  /-- Whether comparisons below AND and OR are read. -/
  recurseConditions : Bool := false
  deriving DecidableEq, Repr, Inhabited

/-- A named source text. -/
structure SourceFile where
  name : String
  content : String
  deriving DecidableEq, Repr

/-- A request to analyse SQL text: files in order, then the inline text. -/
structure Request where
  sql : String := ""
  files : Option (List SourceFile) := none
  dialect : Dialect := .generic
  sourceName : Option String := none
  options : Option Options := none
  deriving DecidableEq, Repr

/-- How serious an issue is. -/
inductive Severity where
  | warning
  | info
  deriving DecidableEq, Repr

/-- The word for a severity. -/
def Severity.name : Severity → String
  | .warning => "warning"
  | .info => "info"

/-- Something worth telling that does not prevent an answer. -/
structure Issue where
  severity : Severity
  code : String
  message : String
  statementIndex : Option Nat := none
  sourceName : Option String := none
  deriving DecidableEq, Repr

/-- The result of an analysis. -/
structure Result where
  graph : Graph
  issues : List Issue := []
  deriving DecidableEq, Repr

/-- Whether there are issues. -/
def Result.hasIssues (result : Result) : Bool :=
  !result.issues.isEmpty

end SqlLineage
