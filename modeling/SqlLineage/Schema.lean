import SqlLineage.Schema.Request
import SqlLineage.Schema.Result
import SqlLineage.Schema.Statement

/-!
# The published schemas
-/

namespace SqlLineage

/-- The schemas of requests, results and statements. -/
def publishedSchemas : List SchemaDocument :=
  [Schema.requestDocument, Schema.resultDocument, Schema.statementDocument]

/-- The published schemas as one object, by their titles. -/
def publishedSchema : Json :=
  .obj (publishedSchemas.map (fun document => (document.title, document.toJson)))

end SqlLineage
