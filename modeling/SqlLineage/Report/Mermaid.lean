import SqlLineage.Graph.Basic
import SqlLineage.Text.Lines
import SqlLineage.Text.Numeric

/-!
# Mermaid flowcharts

The drawing of a graph has a line for each table and one for each edge.  Views have round corners,
and a join is dotted, as it carries no direction of data flow.
-/

namespace SqlLineage

namespace Mermaid

/-- An id as a flowchart can write it: what is neither a letter, a numeral nor an underscore
becomes an underscore. -/
def nodeId (id : String) : List Char :=
  id.toList.map (fun c => if Text.isAlphanumeric c || c == '_' then c else '_')

/-- A character inside a quoted label. -/
def labelChar (c : Char) : List Char :=
  if c = '"' then "#quot;".toList
  else if c = '\n' then [' ']
  else [c]

/-- A label as it stands between quotes. -/
def label (text : String) : List Char :=
  text.toList.flatMap labelChar

/-- What every line behind the first begins with. -/
def margin : List Char :=
  List.replicate 4 ' '

/-- The line of a table. -/
def tableLine (table : TableNode) : List Char :=
  let (opening, closing) :=
    match table.kind with
    | .view => ('(', ')')
    | _ => ('[', ']')
  margin ++ nodeId table.id ++ opening :: '"' :: label table.label ++ ['"', closing]

/-- The arrow of a relationship. -/
def arrow : RelationshipKind → List Char
  | .join => "-.->".toList
  | _ => "-->".toList

/-- The line of an edge. -/
def edgeLine (edge : Edge) : List Char :=
  margin ++ nodeId edge.source ++ ' ' :: arrow edge.kind
    ++ '|' :: edge.kind.name.toList ++ '|' :: ' ' :: nodeId edge.target

/-- The lines of a graph's drawing. -/
def lines (graph : Graph) : List (List Char) :=
  "flowchart LR".toList :: (graph.tables.map tableLine ++ graph.edges.map edgeLine)

end Mermaid

/-- The drawing of a graph. -/
def Graph.mermaid (graph : Graph) : String :=
  String.ofList (Text.joinLines (Mermaid.lines graph))

end SqlLineage
