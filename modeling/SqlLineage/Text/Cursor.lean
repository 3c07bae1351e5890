/-!
# Reading a text from left to right
-/

namespace SqlLineage.Text

/-- What is left of a text, and how many bytes came before it. -/
structure Cursor where
  rest : List Char
  offset : Nat

namespace Cursor

/-- The start of a text. -/
def start (text : List Char) : Cursor :=
  ⟨text, 0⟩

/-- Goes past one character. -/
def next (cursor : Cursor) : Cursor :=
  match cursor.rest with
  | [] => cursor
  | c :: rest => ⟨rest, cursor.offset + c.utf8Size⟩

/-- The character that comes next. -/
def peek (cursor : Cursor) : Option Char :=
  cursor.rest.head?

/-- How many bytes characters take. -/
def byteCount (text : List Char) : Nat :=
  text.foldr (fun c count => c.utf8Size + count) 0

/-- The characters from here on that have a property, and the place behind them. -/
def takeWhile (test : Char → Bool) (cursor : Cursor) : List Char × Cursor :=
  let taken := cursor.rest.takeWhile test
  (taken, ⟨cursor.rest.dropWhile test, cursor.offset + byteCount taken⟩)

/-- Goes past characters that have a property. -/
def skipWhile (test : Char → Bool) (cursor : Cursor) : Cursor :=
  (cursor.takeWhile test).2

/-- Goes past a part of the text, if it comes next. -/
def skip? (part : List Char) (cursor : Cursor) : Option Cursor :=
  if part.isPrefixOf cursor.rest then
    some ⟨cursor.rest.drop part.length, cursor.offset + byteCount part⟩
  else none

end Cursor

end SqlLineage.Text
