/-!
# Lines

A text is one line more than it has line feeds: `splitLines` takes it apart and `joinLines` puts it
together again.
-/

namespace SqlLineage.Text

/-- The lines of a text: the parts between its line feeds. -/
def splitLines : List Char → List (List Char)
  | [] => [[]]
  | c :: rest =>
    if c = '\n' then [] :: splitLines rest
    else
      match splitLines rest with
      | [] => [[c]]
      | line :: lines => (c :: line) :: lines

/-- The text of lines, with a line feed between each two. -/
def joinLines : List (List Char) → List Char
  | [] => []
  | [line] => line
  | line :: lines => line ++ '\n' :: joinLines lines

end SqlLineage.Text
