import SqlLineage.Text.Cursor
import SqlLineage.Text.Lines
import SqlLineage.Toml.Value

/-!
# Showing faults

A fault is shown under the line it lies in, with marks below the part at fault.
-/

namespace SqlLineage.Toml

/-- The line that an offset lies in and how many of its characters come before it, both counted
from zero.  The end of the text belongs to its last line. -/
def lineAndColumn : Nat → Nat → List Char → Nat → Nat × Nat
  | line, column, [], _ => (line, column)
  | line, column, c :: rest, offset =>
    if offset < c.utf8Size then (line, column)
    else if c = '\n' ∧ rest ≠ [] then lineAndColumn (line + 1) 0 rest (offset - c.utf8Size)
    else lineAndColumn line (column + 1) rest (offset - c.utf8Size)

/-- A message on a part of a text, with the line it lies in.  There is one mark at least, and none
beyond the end of the line. -/
def excerpt (text : String) (span : Span) (message : String) : String :=
  let (line, column) := lineAndColumn 0 0 text.toList span.start
  let content := (Text.splitLines text.toList)[line]?.getD []
  let number := toString (line + 1)
  let gutter := String.ofList (List.replicate (number.length + 1) ' ') ++ "|"
  let marks := min (span.stop - span.start) (Text.Cursor.byteCount content - column)
  let indent := String.ofList (List.replicate (column + 1) ' ')
  s!"TOML parse error at line {number}, column {column + 1}\n" ++ gutter ++ "\n"
    ++ number ++ " | " ++ String.ofList content ++ "\n"
    ++ gutter ++ indent ++ String.ofList (List.replicate (max marks 1) '^') ++ "\n"
    ++ message ++ "\n"

end SqlLineage.Toml
