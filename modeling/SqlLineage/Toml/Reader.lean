import SqlLineage.Toml.Scalar

/-!
# Reading TOML

A document is read line by line into one table: a header opens a table, and every other line that is
not blank adds an entry to the table opened last.
-/

namespace SqlLineage.Toml

open Text (Cursor)

/-- A fault that the characters up to another place show. -/
def faultTo (kind : FaultKind) (start stop : Cursor) : Fault :=
  ⟨kind, ⟨start.offset, stop.offset⟩⟩

/-- A fault that the next character shows. -/
def faultAt (kind : FaultKind) (cursor : Cursor) : Fault :=
  faultTo kind cursor cursor.next

/-- Goes past spaces and tabs. -/
def skipBlanks (cursor : Cursor) : Cursor :=
  cursor.skipWhile (fun c => c = ' ' || c = '\t')

/-- Goes past the end of a line. -/
def lineEnd? (cursor : Cursor) : Option Cursor :=
  (cursor.skip? ['\n']).or (cursor.skip? ['\r', '\n'])

/-- Whether a character may stand in a comment or between quotes as it is. -/
def isPrintable (c : Char) : Bool :=
  c = '\t' || (0x20 ≤ c.toNat && c.toNat ≠ 0x7f)

/-- Goes past a comment, if there is one, up to the end of its line. -/
def skipComment (cursor : Cursor) : Except Fault Cursor :=
  if cursor.peek = some '#' then
    let after := cursor.skipWhile isPrintable
    if after.rest.isEmpty || (lineEnd? after).isSome then .ok after
    else .error (faultAt .controlCharacter after)
  else .ok cursor

/-- Goes past what may follow an entry or a header on its line. -/
def finishLine (cursor : Cursor) : Except Fault Cursor := do
  let after ← skipComment (skipBlanks cursor)
  if after.rest.isEmpty then return after
  else
    match lineEnd? after with
    | some next => return next
    | none => throw (faultAt .trailingText after)

/-- Goes past blanks, line ends and comments, at most so many of them. -/
def skipGaps : Nat → Cursor → Except Fault Cursor
  | 0, cursor => .ok cursor
  | steps + 1, cursor => do
    let after ← skipComment (skipBlanks cursor)
    match lineEnd? after with
    | some next => skipGaps steps next
    | none => return after

/-- Goes past all the blanks, line ends and comments that come next. -/
def skipAllGaps (cursor : Cursor) : Except Fault Cursor :=
  skipGaps cursor.rest.length cursor

/-- The character that so many hexadecimal digits stand for. -/
def codePoint (count : Nat) (cursor : Cursor) : Except Fault (Char × Cursor) :=
  let digits := cursor.rest.take count
  let number := numberOf 16 digits
  if digits.length = count ∧ digits.all isHexDigit ∧ number.isValidChar then
    .ok (Char.ofNat number, ⟨cursor.rest.drop count, cursor.offset + count⟩)
  else .error (faultAt .invalidEscape cursor)

/-- The character behind a backslash. -/
def escape (cursor : Cursor) : Except Fault (Char × Cursor) :=
  match cursor.peek with
  | some 'b' => .ok ('\x08', cursor.next)
  | some 't' => .ok ('\t', cursor.next)
  | some 'n' => .ok ('\n', cursor.next)
  | some 'f' => .ok ('\x0c', cursor.next)
  | some 'r' => .ok ('\r', cursor.next)
  | some '"' => .ok ('"', cursor.next)
  | some '\\' => .ok ('\\', cursor.next)
  | some 'u' => codePoint 4 cursor.next
  | some 'U' => codePoint 8 cursor.next
  | _ => .error (faultAt .invalidEscape cursor)

/-- The rest of a text between double quotes; `done` is in reverse. -/
def readQuoted (done : List Char) : Nat → Cursor → Except Fault (String × Cursor)
  | 0, cursor => .error (faultAt .unclosedText cursor)
  | steps + 1, cursor =>
    match cursor.peek with
    | some '"' => .ok (String.ofList done.reverse, cursor.next)
    | some '\\' => do
      let (c, after) ← escape cursor.next
      readQuoted (c :: done) steps after
    | some c =>
      if isPrintable c then readQuoted (c :: done) steps cursor.next
      else .error (faultAt .unclosedText cursor)
    | none => .error (faultAt .unclosedText cursor)

/-- The rest of a text between single quotes. -/
def readLiteral (cursor : Cursor) : Except Fault (String × Cursor) :=
  let (body, after) := cursor.takeWhile (fun c => c ≠ '\'' && isPrintable c)
  if after.peek = some '\'' then .ok (String.ofList body, after.next)
  else .error (faultAt .unclosedText after)

/-- Goes past the line end that may follow three opening quotes. -/
def skipFirstLineEnd (cursor : Cursor) : Cursor :=
  (lineEnd? cursor).getD cursor

/-- Behind a backslash at the end of a line: the place of the next character that is not blank. -/
def joinedLine? (cursor : Cursor) : Option Cursor :=
  (lineEnd? (skipBlanks cursor)).map
    (fun after => after.skipWhile (fun c => c = ' ' || c = '\t' || c = '\n' || c = '\r'))

/-- The rest of a text between three quotes of a kind; `done` is in reverse.  Up to two quotes may
stand in front of the closing ones. -/
def readLong (quote : Char) (done : List Char) : Nat → Cursor → Except Fault (String × Cursor)
  | 0, cursor => .error (faultAt .unclosedText cursor)
  | steps + 1, cursor =>
    match cursor.peek with
    | none => .error (faultAt .unclosedText cursor)
    | some c =>
      if c = quote then
        let run := (cursor.rest.takeWhile (· = quote)).length
        if run < 3 then readLong quote (c :: done) steps cursor.next
        else
          let extra := min (run - 3) 2
          .ok (String.ofList (List.replicate extra quote ++ done).reverse,
            ⟨cursor.rest.drop (extra + 3), cursor.offset + extra + 3⟩)
      else if c = '\\' ∧ quote = '"' then
        match joinedLine? cursor.next with
        | some after => readLong quote done steps after
        | none => do
          let (c, after) ← escape cursor.next
          readLong quote (c :: done) steps after
      else
        match lineEnd? cursor with
        | some after => readLong quote ('\n' :: done) steps after
        | none =>
          if isPrintable c then readLong quote (c :: done) steps cursor.next
          else .error (faultAt .controlCharacter cursor)

/-- A text between quotes of any kind, from its opening quote on. -/
def readText (cursor : Cursor) : Except Fault (String × Cursor) :=
  match cursor.skip? "\"\"\"".toList, cursor.skip? "'''".toList with
  | some after, _ => readLong '"' [] after.rest.length (skipFirstLineEnd after)
  | none, some after => readLong '\'' [] after.rest.length (skipFirstLineEnd after)
  | none, none =>
    if cursor.peek = some '"' then readQuoted [] cursor.next.rest.length cursor.next
    else readLiteral cursor.next

/-- Whether a character may stand in a key without quotes. -/
def isKeyChar (c : Char) : Bool :=
  c.isAlphanum || c = '-' || c = '_'

/-- One name of a key. -/
def readName (cursor : Cursor) : Except Fault (Key × Cursor) :=
  let key (name : String) (after : Cursor) : Key × Cursor :=
    (⟨name, ⟨cursor.offset, after.offset⟩⟩, after)
  match cursor.peek with
  | some '"' => (readQuoted [] cursor.next.rest.length cursor.next).map
    (fun (name, after) => key name after)
  | some '\'' => (readLiteral cursor.next).map (fun (name, after) => key name after)
  | _ =>
    let (name, after) := cursor.takeWhile isKeyChar
    if name.isEmpty then .error (faultAt .emptyKey cursor)
    else .ok (key (String.ofList name) after)

/-- The names of a dotted key, the last one apart; at most so many of them. -/
def readNames : Nat → Cursor → Except Fault (List Key × Key × Cursor)
  | 0, cursor => .error (faultAt .emptyKey cursor)
  | steps + 1, cursor => do
    let (name, after) ← readName (skipBlanks cursor)
    let next := skipBlanks after
    if next.peek = some '.' then
      let (path, last, stop) ← readNames steps next.next
      return (name :: path, last, stop)
    else return ([], name, next)

/-- The names of a key. -/
def readKey (cursor : Cursor) : Except Fault (List Key × Key × Cursor) :=
  readNames (cursor.rest.length + 1) cursor

/-- Whether a character may stand in a value without quotes or brackets. -/
def isScalarChar (c : Char) : Bool :=
  c.isAlphanum || c = '+' || c = '-' || c = '_' || c = '.' || c = ':'

/-- A value without quotes or brackets.  One space may stand between a date and a time. -/
def readScalar (cursor : Cursor) : Except Fault (Value × Cursor) :=
  let (first, afterFirst) := cursor.takeWhile isScalarChar
  let (text, after) :=
    match afterDate? first, afterFirst.rest with
    | some [], ' ' :: c :: _ =>
      if c.isDigit then
        let (time, last) := afterFirst.next.takeWhile isScalarChar
        (first ++ ' ' :: time, last)
      else (first, afterFirst)
    | _, _ => (first, afterFirst)
  if text.isEmpty then .error (faultAt .missingValue cursor)
  else
    match scalar? text with
    | some value => .ok (value, after)
    | none => .error (faultTo .invalidValue cursor after)

/-- How deep lists and tables may nest. -/
def depthLimit : Nat := 80

mutual

/-- One value, with `steps` brackets, items and entries left to read at most. -/
def readValue : Nat → Nat → Cursor → Except Fault (Value × Cursor)
  | 0, _, cursor => .error (faultAt .tooDeep cursor)
  | steps + 1, depth, cursor =>
    match cursor.peek with
    | some '[' =>
      match depth with
      | 0 => .error (faultAt .tooDeep cursor)
      | depth + 1 => do
        let (items, after) ← readItems steps depth cursor.next
        return (.list items, after)
    | some '{' =>
      match depth with
      | 0 => .error (faultAt .tooDeep cursor)
      | depth + 1 => do
        let start := skipBlanks cursor.next
        if start.peek = some '}' then return (.table .braces [], start.next)
        else
          let (entries, after) ← readEntries steps depth [] start
          return (.table .braces entries, after)
    | some c =>
      if c = '"' ∨ c = '\'' then
        (readText cursor).map (fun (text, after) => (.text text, after))
      else readScalar cursor
    | none => .error (faultAt .missingValue cursor)

/-- The items of a list up to its bracket. -/
def readItems : Nat → Nat → Cursor → Except Fault (List Value × Cursor)
  | 0, _, cursor => .error (faultAt .tooDeep cursor)
  | steps + 1, depth, cursor => do
    let start ← skipAllGaps cursor
    if start.peek = some ']' then return ([], start.next)
    else
      let (item, afterItem) ← readValue steps depth start
      let after ← skipAllGaps afterItem
      if after.peek = some ',' then
        let (items, last) ← readItems steps depth after.next
        return (item :: items, last)
      else if after.peek = some ']' then return ([item], after.next)
      else throw (faultAt .unclosedList after)

/-- The entries of a table between braces, of which there is one at least; `done` have been read. -/
def readEntries : Nat → Nat → Entries → Cursor → Except Fault (Entries × Cursor)
  | 0, _, _, cursor => .error (faultAt .tooDeep cursor)
  | steps + 1, depth, done, cursor => do
    let (path, last, afterKey) ← readKey cursor
    if afterKey.peek ≠ some '=' then throw (faultAt .missingEquals afterKey)
    else
      let start := skipBlanks afterKey.next
      let (value, afterValue) ← readValue steps depth start
      let entries ← Entries.add last ⟨start.offset, afterValue.offset⟩ value path done
      let after := skipBlanks afterValue
      if after.peek = some ',' then readEntries steps depth entries after.next
      else if after.peek = some '}' then return (entries, after.next)
      else throw (faultAt .unclosedTable after)

end

/-- An entry of a document: the names of its key, and its value with its place. -/
def readEntry (cursor : Cursor) : Except Fault (List Key × Key × Span × Value × Cursor) := do
  let (path, last, afterKey) ← readKey cursor
  if afterKey.peek ≠ some '=' then throw (faultAt .missingEquals afterKey)
  else
    let start := skipBlanks afterKey.next
    let (value, after) ← readValue (2 * start.rest.length + 2) depthLimit start
    return (path, last, ⟨start.offset, after.offset⟩, value, after)

/-- A header: whether it stands in double brackets, and the names in it. -/
def readHeader (cursor : Cursor) : Except Fault (Bool × List Key × Key × Cursor) := do
  let several := cursor.next.peek = some '['
  let (path, last, after) ← readKey (if several then cursor.next.next else cursor.next)
  let closing := if several then [']', ']'] else [']']
  match after.skip? closing with
  | some next => return (several, path, last, next)
  | none => throw (faultAt .unclosedHeader after)

/-- Reads at most so many lines.  `root` holds what has been read, and `current` names the table
opened last. -/
def readLines : Nat → List Key → Entries → Cursor → Except Fault Entries
  | 0, _, root, _ => .ok root
  | steps + 1, current, root, cursor => do
    let start ← skipAllGaps cursor
    match start.peek with
    | none => return root
    | some '[' =>
      let (several, path, last, after) ← readHeader start
      let root ← Entries.openTable last ⟨start.offset, after.offset⟩ several path root
      readLines steps (path ++ [last]) root (← finishLine after)
    | some _ =>
      let (path, last, span, value, after) ← readEntry start
      let root ← Entries.change (Entries.add last span value path) current root
      readLines steps current root (← finishLine after)

/-- The table of a document.  A mark of byte order at its start is left out. -/
def read (text : String) : Except Fault Entries :=
  let start := Cursor.start text.toList
  let cursor := (start.skip? ['\ufeff']).getD start
  readLines (cursor.rest.length + 1) [] [] cursor

end SqlLineage.Toml
