import SqlLineage.Graph.Codec
import SqlLineage.Request.Basic

/-!
# Requests and results as JSON

Every field of a request may be left out; a result needs its graph.
-/

namespace SqlLineage

/-- The word for a policy. -/
def SourceLinking.name : SourceLinking → String
  | .allKnownSources => "allKnownSources"
  | .statementSources => "statementSources"

/-- Options as JSON. -/
def Options.toJson (options : Options) : Json :=
  .obj [("sourceLinking", .str options.sourceLinking.name),
    ("recurseConditions", .bool options.recurseConditions)]

/-- A named source as JSON. -/
def SourceFile.toJson (file : SourceFile) : Json :=
  .obj [("name", .str file.name), ("content", .str file.content)]

/-- A request as JSON. -/
def Request.toJson (request : Request) : Json :=
  .obj (("sql", .str request.sql) ::
    (Json.optional "files" (request.files.map (fun files => .arr (files.map SourceFile.toJson))) ++
      [("dialect", .str request.dialect.name)] ++
      Json.optional "sourceName" (request.sourceName.map Json.str) ++
      Json.optional "options" (request.options.map Options.toJson)))

/-- An issue as JSON. -/
def Issue.toJson (issue : Issue) : Json :=
  .obj ([("severity", .str issue.severity.name), ("code", .str issue.code),
    ("message", .str issue.message)] ++
    Json.optional "statementIndex" (issue.statementIndex.map Json.nat) ++
    Json.optional "sourceName" (issue.sourceName.map Json.str))

/-- A result as JSON: the fields of its graph, then its issues if there are any. -/
def Result.toJson (result : Result) : Json :=
  .obj (result.graph.fields ++ Json.unlessEmpty "issues" (result.issues.map Issue.toJson))

namespace Decode

/-- A dialect. -/
def dialect : Decoder Dialect :=
  word Dialect.choices

/-- A policy. -/
def sourceLinking : Decoder SourceLinking :=
  word ([SourceLinking.allKnownSources, .statementSources].map
    (fun policy => (policy.name, policy)))

/-- Options. -/
def options : Decoder Options
  | style, value =>
    let shape : Shape := ⟨"struct AnalysisOptions", 2⟩
    shape.record style value (fun parts =>
      let linking := parts.slot style "sourceLinking" 0 sourceLinking
      let recurse := parts.slot style "recurseConditions" 1 bool
      ([linking.fault?, recurse.fault?],
        return ⟨linking.orElse .allKnownSources, recurse.orElse false⟩))

/-- A named source. -/
def sourceFile : Decoder SourceFile
  | style, value =>
    let shape : Shape := ⟨"struct FileSource", 2⟩
    shape.record style value (fun parts =>
      let name := parts.slot style "name" 0 string
      let content := parts.slot style "content" 1 string
      ([name.fault?, content.fault?], do
        let called ← name.require parts style shape "name" 0
        let text ← content.require parts style shape "content" 1
        return ⟨called, text⟩))

/-- A request. -/
def request : Decoder Request
  | style, value =>
    let shape : Shape := ⟨"struct AnalyzeRequest", 5⟩
    shape.record style value (fun parts =>
      let sql := parts.slot style "sql" 0 string
      let files := parts.slot style "files" 1 (nullable (list sourceFile))
      let language := parts.slot style "dialect" 2 dialect
      let name := parts.slot style "sourceName" 3 (nullable string)
      let chosen := parts.slot style "options" 4 (nullable options)
      ([sql.fault?, files.fault?, language.fault?, name.fault?, chosen.fault?],
        return ⟨sql.orElse "", files.orElse none, language.orElse .generic, name.orElse none,
          chosen.orElse none⟩))

/-- A severity. -/
def severity : Decoder Severity :=
  word ([Severity.warning, .info].map (fun level => (level.name, level)))

/-- An issue. -/
def issue : Decoder Issue
  | style, value =>
    let shape : Shape := ⟨"struct Issue", 5⟩
    shape.record style value (fun parts =>
      let level := parts.slot style "severity" 0 severity
      let code := parts.slot style "code" 1 string
      let message := parts.slot style "message" 2 string
      let index :=
        parts.slot style "statementIndex" 3 (nullable (unsigned "usize"))
      let name := parts.slot style "sourceName" 4 (nullable string)
      ([level.fault?, code.fault?, message.fault?, index.fault?, name.fault?], do
        let degree ← level.require parts style shape "severity" 0
        let sort ← code.require parts style shape "code" 1
        let text ← message.require parts style shape "message" 2
        return ⟨degree, sort, text, index.orElse none, name.orElse none⟩))

/-- A result.  The graph's fields are set aside until the object ends, where their faults are
reported. -/
def result : Decoder Result
  | style, .obj fields =>
    let parts := Parts.named fields
    let issues := parts.slot style "issues" 0 (list issue)
    match issues.fault? with
    | some (_, error) => .error error
    | none =>
      match graph .buffered (.obj fields) with
      | .error error => .error { error with path := [], place := .close }
      | .ok graph => .ok ⟨graph, issues.orElse []⟩
  | style, other => wrongType style other "struct AnalyzeResult"

end Decode

end SqlLineage
