import SqlLineage.Text.Ranges

/-!
# Blank text

The characters with the Unicode property White_Space, and texts made only of them.
-/

namespace SqlLineage.Text

/-- The blank characters: tab to carriage return, space, and the spaces and separators beyond
ASCII. -/
def blankRanges : List (Nat × Nat) :=
  [(9, 13), (32, 32), (133, 133), (160, 160), (5760, 5760), (8192, 8202), (8232, 8233),
    (8239, 8239), (8287, 8287), (12288, 12288)]

/-- Whether a character is blank. -/
def isBlank (c : Char) : Bool :=
  inRanges blankRanges c

/-- Whether a text is empty or made of blank characters only. -/
def isBlankText (text : String) : Bool :=
  text.toList.all isBlank

/-- The words of a text: its longest parts without a blank character. -/
def words (chars : List Char) : List String :=
  let (done, last) := chars.foldr
    (fun c (done, current) =>
      if isBlank c then
        (if current.isEmpty then done else String.ofList current :: done, [])
      else (done, c :: current))
    ([], [])
  if last.isEmpty then done else String.ofList last :: done

end SqlLineage.Text
