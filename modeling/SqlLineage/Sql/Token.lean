import SqlLineage.Text.UpperCase

/-!
# Tokens

The words, numbers, quoted texts and symbols of a script, and how each is shown in a message.
-/

namespace SqlLineage.Sql

/-- The ways to write a text between quotes. -/
inductive TextStyle where
  | single
  | double
  | tripleSingle
  | tripleDouble
  | national
  | escaped
  | unicode
  | hex
  | byteSingle
  | byteDouble
  | byteTripleSingle
  | byteTripleDouble
  | rawSingle
  | rawDouble
  | rawTripleSingle
  | rawTripleDouble
  deriving DecidableEq, Repr

/-- What stands before the first quote, and the quotes. -/
def TextStyle.marks : TextStyle → String × String
  | .single => ("", "'")
  | .double => ("", "\"")
  | .tripleSingle => ("", "'''")
  | .tripleDouble => ("", "\"\"\"")
  | .national => ("N", "'")
  | .escaped => ("E", "'")
  | .unicode => ("U&", "'")
  | .hex => ("X", "'")
  | .byteSingle => ("B", "'")
  | .byteDouble => ("B", "\"")
  | .byteTripleSingle => ("B", "'''")
  | .byteTripleDouble => ("B", "\"\"\"")
  | .rawSingle => ("R", "'")
  | .rawDouble => ("R", "\"")
  | .rawTripleSingle => ("R", "'''")
  | .rawTripleDouble => ("R", "\"\"\"")

/-- A token. -/
inductive Token where
  /-- A name or a key word; a quoted one is never a key word. -/
  | word (value : String) (quote : Option Char)
  | number (digits : String) (long : Bool)
  | text (style : TextStyle) (value : String)
  /-- A text between two equal tags in dollar signs. -/
  | dollar (tag value : String)
  | placeholder (name : String)
  | symbol (spelling : String)
  /-- An operator that the language itself does not know. -/
  | customOperator (spelling : String)
  /-- A character that starts no token. -/
  | stray (c : Char)
  deriving DecidableEq, Repr

/-- The quote that closes what a quote opens. -/
def closingQuote (quote : Char) : Char :=
  if quote == '[' then ']' else quote

/-- A token as messages show it. -/
def Token.render : Token → String
  | .word value none => value
  | .word value (some quote) => quote.toString ++ value ++ (closingQuote quote).toString
  | .number digits long => if long then digits ++ "L" else digits
  | .text style value => style.marks.1 ++ style.marks.2 ++ value ++ style.marks.2
  | .dollar tag value => "$" ++ tag ++ "$" ++ value ++ "$" ++ tag ++ "$"
  | .placeholder name => name
  | .symbol spelling => spelling
  | .customOperator spelling => spelling
  | .stray c => c.toString

/-- A place in a script; lines and columns count from 1, columns in characters. -/
structure Position where
  line : Nat := 1
  column : Nat := 1
  deriving DecidableEq, Repr

/-- The place after a character. -/
def Position.after (position : Position) (c : Char) : Position :=
  if c == '\n' then ⟨position.line + 1, 1⟩ else ⟨position.line, position.column + 1⟩

/-- A token with the place where it starts. -/
structure Lexeme where
  token : Token
  position : Position
  /-- The upper-case form of an unquoted word; empty for every other token. -/
  key : String
  /-- Whether blanks or comments stand before the token. -/
  spaced : Bool
  deriving Repr

/-- The upper-case form by which a token is recognised as a key word. -/
def Token.key : Token → String
  | .word value none => Text.upper value
  | _ => ""

/-- The text in which a message gives a place. -/
def Position.suffix (position : Position) : String :=
  s!" at Line: {position.line}, Column: {position.column}"

end SqlLineage.Sql
