import SqlLineage.Decimal.Shortest
import SqlLineage.Json.Value

/-!
# Writing JSON

A compact text has no blanks at all; an indented one puts each item on its own line, two blanks
deeper than its container, and keeps empty containers on one line.  Text other than quotes,
backslashes and control characters is written as it is.  Each part is written in front of the text
that follows it, so that nothing is written twice.
-/

namespace SqlLineage.Json

/-- Lower-case hexadecimal digits, at least `width` of them. -/
def hexDigits (width n : Nat) : List Char :=
  let digits := Nat.toDigits 16 n
  List.replicate (width - digits.length) '0' ++ digits

/-- The characters that stand for `c` inside a quoted string. -/
def escapeChar (c : Char) : List Char :=
  if c = '"' then ['\\', '"']
  else if c = '\\' then ['\\', '\\']
  else if c = '\x08' then ['\\', 'b']
  else if c = '\x0c' then ['\\', 'f']
  else if c = '\n' then ['\\', 'n']
  else if c = '\r' then ['\\', 'r']
  else if c = '\t' then ['\\', 't']
  else if c.toNat < 0x20 then '\\' :: 'u' :: hexDigits 4 c.toNat
  else [c]

/-- Writes a string between quotes in front of a text. -/
def quoteBefore (rest : List Char) (text : String) : List Char :=
  '"' :: (text.toList.flatMap escapeChar ++ '"' :: rest)

/-- A number in decimal notation. -/
def numberText : JsonNumber → List Char
  | .int value => (toString value).toList
  | .real value => (Decimal.text value).toList

mutual

/-- Writes a value without any blanks in front of a text. -/
def compactBefore (rest : List Char) : Json → List Char
  | .null => "null".toList ++ rest
  | .bool true => "true".toList ++ rest
  | .bool false => "false".toList ++ rest
  | .num value => numberText value ++ rest
  | .str text => quoteBefore rest text
  | .arr items => '[' :: compactItems (']' :: rest) items
  | .obj fields => '{' :: compactFields ('}' :: rest) fields

/-- Writes items separated by commas in front of a text. -/
def compactItems (rest : List Char) : List Json → List Char
  | [] => rest
  | [item] => compactBefore rest item
  | item :: more => compactBefore (',' :: compactItems rest more) item

/-- Writes fields separated by commas in front of a text. -/
def compactFields (rest : List Char) : List (String × Json) → List Char
  | [] => rest
  | [(name, value)] => quoteBefore (':' :: compactBefore rest value) name
  | (name, value) :: more =>
    quoteBefore (':' :: compactBefore (',' :: compactFields rest more) value) name

end

/-- Writes a new line that starts `depth` levels in, in front of a text. -/
def newLineBefore (depth : Nat) (rest : List Char) : List Char :=
  '\n' :: (List.replicate (2 * depth) ' ' ++ rest)

mutual

/-- Writes a value whose container stands `depth` levels in, in front of a text. -/
def indentedBefore (depth : Nat) (rest : List Char) : Json → List Char
  | .arr [] => '[' :: ']' :: rest
  | .arr items => '[' :: indentedItems (depth + 1) (newLineBefore depth (']' :: rest)) items
  | .obj [] => '{' :: '}' :: rest
  | .obj fields => '{' :: indentedFields (depth + 1) (newLineBefore depth ('}' :: rest)) fields
  | .null => compactBefore rest .null
  | .bool value => compactBefore rest (.bool value)
  | .num value => compactBefore rest (.num value)
  | .str text => compactBefore rest (.str text)

/-- Writes items, each on a line of its own, in front of a text. -/
def indentedItems (depth : Nat) (rest : List Char) : List Json → List Char
  | [] => rest
  | [item] => newLineBefore depth (indentedBefore depth rest item)
  | item :: more =>
    newLineBefore depth (indentedBefore depth (',' :: indentedItems depth rest more) item)

/-- Writes fields, each on a line of its own, in front of a text. -/
def indentedFields (depth : Nat) (rest : List Char) : List (String × Json) → List Char
  | [] => rest
  | [(name, value)] =>
    newLineBefore depth (quoteBefore (':' :: ' ' :: indentedBefore depth rest value) name)
  | (name, value) :: more =>
    newLineBefore depth
      (quoteBefore
        (':' :: ' ' :: indentedBefore depth (',' :: indentedFields depth rest more) value) name)

end

/-- The text of a value, on one line. -/
def render (value : Json) : String :=
  String.ofList (compactBefore [] value)

/-- The text of a value, one item per line. -/
def renderIndented (value : Json) : String :=
  String.ofList (indentedBefore 0 [] value)

end SqlLineage.Json
