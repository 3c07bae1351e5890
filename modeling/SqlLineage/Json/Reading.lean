import SqlLineage.Json.Value
import SqlLineage.Text.Cursor

/-!
# Reading JSON

A text is read into a tree that remembers where everything stood, and as far as it can be read: the
place where a text breaks is a leaf of the tree.  So a fault of content that stands before a fault
of form can be reported first.  Offsets count bytes, and a position is a line and the number of
bytes of that line up to the offset.
-/

namespace SqlLineage.Json

/-- What is wrong with the form of a text. -/
inductive FaultKind where
  | endInList
  | endInObject
  | endInString
  | endInValue
  | missingColon
  | listSeparator
  | objectSeparator
  | unknownWord
  | noValue
  | invalidEscape
  | invalidNumber
  | numberOutOfRange
  | controlCharacter
  | keyNotString
  | loneSurrogate
  | brokenSurrogatePair
  | trailingComma
  | trailingCharacters
  | tooDeep
  deriving DecidableEq

/-- The words for a fault. -/
def FaultKind.message : FaultKind → String
  | .endInList => "EOF while parsing a list"
  | .endInObject => "EOF while parsing an object"
  | .endInString => "EOF while parsing a string"
  | .endInValue => "EOF while parsing a value"
  | .missingColon => "expected `:`"
  | .listSeparator => "expected `,` or `]`"
  | .objectSeparator => "expected `,` or `\x7d`"
  | .unknownWord => "expected ident"
  | .noValue => "expected value"
  | .invalidEscape => "invalid escape"
  | .invalidNumber => "invalid number"
  | .numberOutOfRange => "number out of range"
  | .controlCharacter => "control character (\\u0000-\\u001F) found while parsing a string"
  | .keyNotString => "key must be a string"
  | .loneSurrogate => "lone leading surrogate in hex escape"
  | .brokenSurrogatePair => "unexpected end of hex escape"
  | .trailingComma => "trailing comma"
  | .trailingCharacters => "trailing characters"
  | .tooDeep => "recursion limit exceeded"

/-- A fault and the offset it is reported at. -/
structure Fault where
  kind : FaultKind
  offset : Nat

/-- A value with its place in the text. -/
inductive Reading where
  /-- A value other than a container, from `start` up to `stop`. -/
  | leaf (value : Json) (start stop : Nat)
  /-- No value can be read here. -/
  | broken (fault : Fault)
  /-- A list that opens at `start`, with the offset behind its bracket or what prevents it. -/
  | list (start : Nat) (items : List Reading) (close : Except Fault Nat)
  /-- An object that opens at `start`; each name comes with the offset behind it. -/
  | object (start : Nat) (fields : List (String × Nat × Reading)) (close : Except Fault Nat)

namespace Reading

/-- The fault that ends the reading, if there is one. -/
def fault? : Reading → Option Fault
  | .leaf .. => none
  | .broken fault => some fault
  | .list _ _ (.error fault) => some fault
  | .list _ _ (.ok _) => none
  | .object _ _ (.error fault) => some fault
  | .object _ _ (.ok _) => none

mutual

/-- The value as far as it could be read. -/
def value : Reading → Json
  | .leaf value _ _ => value
  | .broken _ => .null
  | .list _ items _ => .arr (values items)
  | .object _ fields _ => .obj (fieldValues fields)

/-- The values of several readings. -/
def values : List Reading → List Json
  | [] => []
  | item :: rest => item.value :: values rest

/-- The names and values of several fields. -/
def fieldValues : List (String × Nat × Reading) → List (String × Json)
  | [] => []
  | (name, _, item) :: rest => (name, item.value) :: fieldValues rest

end

end Reading

open Text (Cursor)

/-- Goes past blanks, tabs and line ends. -/
def skipBlanks (cursor : Cursor) : Cursor :=
  cursor.skipWhile (fun c => c = ' ' || c = '\n' || c = '\t' || c = '\r')

/-- A fault found on going past the characters before the cursor. -/
def faultAt (kind : FaultKind) (cursor : Cursor) : Fault :=
  ⟨kind, cursor.offset⟩

/-- A fault found on looking at the next character: it is reported one byte on, where there is
one. -/
def faultAhead (kind : FaultKind) (cursor : Cursor) : Fault :=
  match cursor.rest with
  | [] => ⟨kind, cursor.offset⟩
  | _ :: _ => ⟨kind, cursor.offset + 1⟩

/-- The value of a hexadecimal digit. -/
def hexValue? (c : Char) : Option Nat :=
  if '0' ≤ c ∧ c ≤ '9' then some (c.toNat - '0'.toNat)
  else if 'a' ≤ c ∧ c ≤ 'f' then some (c.toNat - 'a'.toNat + 10)
  else if 'A' ≤ c ∧ c ≤ 'F' then some (c.toNat - 'A'.toNat + 10)
  else none

/-- Four hexadecimal digits. -/
def fourHexDigits (cursor : Cursor) : Except Fault (Nat × Cursor) :=
  match cursor.rest with
  | a :: b :: c :: d :: rest =>
    let after : Cursor := ⟨rest, cursor.offset + 4⟩
    match hexValue? a, hexValue? b, hexValue? c, hexValue? d with
    | some a, some b, some c, some d => .ok (((a * 16 + b) * 16 + c) * 16 + d, after)
    | _, _, _, _ => .error (faultAt .invalidEscape after)
  | short =>
    .error ⟨.endInString, cursor.offset + Text.Cursor.byteCount short⟩

/-- The character that the digits behind `\u` stand for; one outside the basic plane takes two
escapes. -/
def unicodeEscape (cursor : Cursor) : Except Fault (Char × Cursor) :=
  match fourHexDigits cursor with
  | .error fault => .error fault
  | .ok (high, after) =>
    if 0xDC00 ≤ high ∧ high ≤ 0xDFFF then .error (faultAt .loneSurrogate after)
    else if high < 0xD800 ∨ 0xDBFF < high then .ok (Char.ofNat high, after)
    else
      match after.rest with
      | [] => .error (faultAt .endInString after)
      | '\\' :: [] => .error (faultAt .endInString after.next)
      | '\\' :: 'u' :: _ =>
        match fourHexDigits after.next.next with
        | .error fault => .error fault
        | .ok (low, last) =>
          if 0xDC00 ≤ low ∧ low ≤ 0xDFFF then
            .ok (Char.ofNat (0x10000 + (high - 0xD800) * 0x400 + (low - 0xDC00)), last)
          else .error (faultAt .loneSurrogate last)
      | '\\' :: _ :: _ => .error (faultAt .brokenSurrogatePair after.next.next)
      | _ :: _ => .error (faultAt .brokenSurrogatePair after.next)

/-- The character behind a backslash. -/
def escape (cursor : Cursor) : Except Fault (Char × Cursor) :=
  match cursor.rest with
  | [] => .error (faultAt .endInString cursor)
  | '"' :: _ => .ok ('"', cursor.next)
  | '\\' :: _ => .ok ('\\', cursor.next)
  | '/' :: _ => .ok ('/', cursor.next)
  | 'b' :: _ => .ok ('\x08', cursor.next)
  | 'f' :: _ => .ok ('\x0c', cursor.next)
  | 'n' :: _ => .ok ('\n', cursor.next)
  | 'r' :: _ => .ok ('\r', cursor.next)
  | 't' :: _ => .ok ('\t', cursor.next)
  | 'u' :: _ => unicodeEscape cursor.next
  | _ :: _ => .error (faultAt .invalidEscape cursor.next)

/-- The rest of a string whose opening quote has been read; `done` is in reverse. -/
def readString (done : List Char) : Nat → Cursor → Except Fault (String × Cursor)
  | 0, cursor => .error (faultAt .endInString cursor)
  | steps + 1, cursor =>
    match cursor.rest with
    | [] => .error (faultAt .endInString cursor)
    | '"' :: _ => .ok (String.ofList done.reverse, cursor.next)
    | '\\' :: _ =>
      match escape cursor.next with
      | .error fault => .error fault
      | .ok (c, after) => readString (c :: done) steps after
    | c :: _ =>
      if c.toNat < 0x20 then .error (faultAt .controlCharacter cursor.next)
      else readString (c :: done) steps cursor.next

/-- Goes past a word that has to be spelled in full. -/
def readWord : List Char → Cursor → Except Fault Cursor
  | [], cursor => .ok cursor
  | expected :: more, cursor =>
    match cursor.peek with
    | none => .error (faultAt .endInValue cursor)
    | some c =>
      if c = expected then readWord more cursor.next
      else .error (faultAt .unknownWord cursor.next)

/-- The decimal digits that come next. -/
def takeDigits (cursor : Cursor) : List Nat × Cursor :=
  let digits := cursor.rest.takeWhile Char.isDigit
  (digits.map (fun c => c.toNat - '0'.toNat),
    ⟨cursor.rest.drop digits.length, cursor.offset + digits.length⟩)

/-- Appends digits to a significand while it stays below `2 ^ 64`; gives the number of digits
appended and of those left out. -/
def appendDigits : Nat → List Nat → Nat → Nat × Nat × Nat
  | significand, [], used => (significand, used, 0)
  | significand, digit :: rest, used =>
    if significand * 10 + digit < UInt64.size then
      appendDigits (significand * 10 + digit) rest (used + 1)
    else (significand, used, rest.length + 1)

/-- The real `significand · 10 ^ exponent`; nothing if it exceeds every double. -/
def realOfParts (negative : Bool) (significand : Nat) (exponent : Int) : Option Float :=
  let whole := Float.ofNat significand
  let magnitude :=
    if significand = 0 then whole
    else if exponent > 308 then Float.ofNat 1 / Float.ofNat 0
    else if 0 ≤ exponent then whole * Float.ofScientific 1 false exponent.toNat
    else if exponent < -1000 then Float.ofNat 0
    else if exponent < -616 then
      whole / Float.ofScientific 1 false 308 / Float.ofScientific 1 false 308 /
        Float.ofScientific 1 false (-exponent - 616).toNat
    else if exponent < -308 then
      whole / Float.ofScientific 1 false 308 / Float.ofScientific 1 false (-exponent - 308).toNat
    else whole / Float.ofScientific 1 false (-exponent).toNat
  if magnitude.isInf then none else some (if negative then -magnitude else magnitude)

/-- The exponent of a number, when there is one. -/
def readExponent (cursor : Cursor) : Except Fault (Int × Cursor) :=
  match cursor.peek with
  | some 'e' | some 'E' =>
    let after := cursor.next
    let negative := after.peek = some '-'
    let digitsFrom := if negative || after.peek = some '+' then after.next else after
    match digitsFrom.peek with
    | none => .error (faultAt .endInValue digitsFrom)
    | some c =>
      if c.isDigit then
        let (digits, last) := takeDigits digitsFrom
        let size : Nat := digits.foldl (fun n digit => min (n * 10 + digit) 1000000) 0
        .ok (if negative then -(size : Int) else (size : Int), last)
      else .error (faultAt .invalidNumber digitsFrom.next)
  | _ => .ok (0, cursor)

/-- A number, from behind its sign. -/
def readNumber (negative : Bool) (cursor : Cursor) : Except Fault (Json × Cursor) :=
  match cursor.peek with
  | none => .error (faultAt .endInValue cursor)
  | some first =>
    if !first.isDigit then .error (faultAt .invalidNumber cursor.next)
    else
      let (digits, afterDigits) := takeDigits cursor
      if first = '0' ∧ 1 < digits.length then .error (faultAhead .invalidNumber cursor.next)
      else
        let (significand, _, dropped) := appendDigits 0 digits 0
        let plain := afterDigits.peek ≠ some '.' ∧ afterDigits.peek ≠ some 'e' ∧
          afterDigits.peek ≠ some 'E'
        let fraction : Except Fault (List Nat × Cursor) :=
          if afterDigits.peek = some '.' then
            match takeDigits afterDigits.next with
            | ([], after) =>
              if after.rest.isEmpty then .error (faultAhead .endInValue after)
              else .error (faultAhead .invalidNumber after)
            | found => .ok found
          else .ok ([], afterDigits)
        match fraction with
        | .error fault => .error fault
        | .ok (places, afterPlaces) =>
          match readExponent afterPlaces with
          | .error fault => .error fault
          | .ok (exponent, last) =>
            let word := plain && dropped == 0
            if word && !negative then .ok (.num (.int significand), last)
            else if word && 0 < significand && significand ≤ Nat.pow 2 63 then
              .ok (.num (.int (-(significand : Int))), last)
            else
              let (all, used, _) := appendDigits significand places 0
              match realOfParts negative all (exponent + (dropped : Int) - (used : Int)) with
              | none => .error (faultAt .numberOutOfRange last)
              | some value => .ok (.num (.real value), last)

/-- The text of a leaf, read by `reader` from `cursor`. -/
def leafOr (start : Nat) : Except Fault (Json × Cursor) → Reading × Option Cursor
  | .error fault => (.broken fault, none)
  | .ok (value, after) => (.leaf value start after.offset, some after)

mutual

/-- Reads a value; containers may nest `depth` deep. -/
def readValue : Nat → Nat → Cursor → Reading × Option Cursor
  | 0, _, cursor => (.broken (faultAt .tooDeep cursor), none)
  | steps + 1, depth, cursor =>
    let cursor := skipBlanks cursor
    match cursor.peek with
    | none => (.broken (faultAhead .endInValue cursor), none)
    | some 'n' =>
      leafOr cursor.offset ((readWord ['u', 'l', 'l'] cursor.next).map (Json.null, ·))
    | some 't' =>
      leafOr cursor.offset ((readWord ['r', 'u', 'e'] cursor.next).map (Json.bool true, ·))
    | some 'f' =>
      leafOr cursor.offset ((readWord ['a', 'l', 's', 'e'] cursor.next).map (Json.bool false, ·))
    | some '-' => leafOr cursor.offset (readNumber true cursor.next)
    | some '"' =>
      leafOr cursor.offset ((readString [] (cursor.rest.length) cursor.next).map
        (fun found => (Json.str found.1, found.2)))
    | some '[' =>
      match depth with
      | 0 => (.broken (faultAhead .tooDeep cursor), none)
      | depth + 1 =>
        let (items, close) := readItems steps depth true cursor.next
        (.list cursor.offset items (close.map Cursor.offset), close.toOption)
    | some '{' =>
      match depth with
      | 0 => (.broken (faultAhead .tooDeep cursor), none)
      | depth + 1 =>
        let (fields, close) := readFields steps depth true cursor.next
        (.object cursor.offset fields (close.map Cursor.offset), close.toOption)
    | some c =>
      if c.isDigit then leafOr cursor.offset (readNumber false cursor)
      else (.broken (faultAhead .noValue cursor), none)

/-- Reads the items of a list up to its bracket. -/
def readItems : Nat → Nat → Bool → Cursor → List Reading × Except Fault Cursor
  | 0, _, _, cursor => ([], .error (faultAt .tooDeep cursor))
  | steps + 1, depth, isFirst, cursor =>
    let cursor := skipBlanks cursor
    let item (start : Cursor) : List Reading × Except Fault Cursor :=
      match readValue steps depth start with
      | (found, some after) =>
        let (items, close) := readItems steps depth false after
        (found :: items, close)
      | (found, none) => ([found], .error (found.fault?.getD (faultAt .noValue start)))
    match cursor.peek with
    | none => ([], .error (faultAhead .endInList cursor))
    | some ']' => ([], .ok cursor.next)
    | some c =>
      if isFirst then item cursor
      else if c = ',' then
        let start := skipBlanks cursor.next
        match start.peek with
        | none => ([], .error (faultAhead .endInValue start))
        | some ']' => ([], .error (faultAhead .trailingComma start))
        | some _ => item start
      else ([], .error (faultAhead .listSeparator cursor))

/-- Reads the fields of an object up to its brace. -/
def readFields : Nat → Nat → Bool → Cursor →
    List (String × Nat × Reading) × Except Fault Cursor
  | 0, _, _, cursor => ([], .error (faultAt .tooDeep cursor))
  | steps + 1, depth, isFirst, cursor =>
    let cursor := skipBlanks cursor
    let field (start : Cursor) : List (String × Nat × Reading) × Except Fault Cursor :=
      match readString [] start.rest.length start.next with
      | .error fault => ([], .error fault)
      | .ok (name, afterName) =>
        let colon := skipBlanks afterName
        match colon.peek with
        | some ':' =>
          match readValue steps depth colon.next with
          | (found, some after) =>
            let (fields, close) := readFields steps depth false after
            ((name, afterName.offset, found) :: fields, close)
          | (found, none) =>
            ([(name, afterName.offset, found)],
              .error (found.fault?.getD (faultAt .noValue start)))
        | some _ =>
          let fault := faultAhead .missingColon colon
          ([(name, afterName.offset, .broken fault)], .error fault)
        | none =>
          let fault := faultAhead .endInObject colon
          ([(name, afterName.offset, .broken fault)], .error fault)
    match cursor.peek with
    | none => ([], .error (faultAhead .endInObject cursor))
    | some '}' => ([], .ok cursor.next)
    | some c =>
      if isFirst then
        if c = '"' then field cursor else ([], .error (faultAhead .keyNotString cursor))
      else if c = ',' then
        let start := skipBlanks cursor.next
        match start.peek with
        | none => ([], .error (faultAhead .endInValue start))
        | some '"' => field start
        | some '}' => ([], .error (faultAhead .trailingComma start))
        | some _ => ([], .error (faultAhead .keyNotString start))
      else ([], .error (faultAhead .objectSeparator cursor))

end

/-- How deep containers may nest. -/
def depthLimit : Nat := 127

/-- A whole text: one value, and what follows it if that is more than blanks. -/
structure Document where
  root : Reading
  excess : Option Fault

/-- Reads a text. -/
def readDocument (text : String) : Document :=
  let chars := text.toList
  match readValue (2 * chars.length + 2) depthLimit ⟨chars, 0⟩ with
  | (root, none) => ⟨root, none⟩
  | (root, some after) =>
    let last := skipBlanks after
    if last.rest.isEmpty then ⟨root, none⟩
    else ⟨root, some (faultAhead .trailingCharacters last)⟩

/-- The value of a text that is well formed, or its first fault. -/
def parse (text : String) : Except Fault Json :=
  let document := readDocument text
  match document.root.fault?, document.excess with
  | some fault, _ => .error fault
  | none, some fault => .error fault
  | none, none => .ok document.root.value

/-- Line and column of an offset, counted from the state `line`, `column`. -/
def positionFrom (line column : Nat) : List Char → Nat → Nat × Nat
  | [], _ => (line, column)
  | c :: rest, offset =>
    if offset = 0 then (line, column)
    else if c = '\n' then positionFrom (line + 1) 0 rest (offset - 1)
    else
      positionFrom line (column + min offset c.utf8Size) rest (offset - c.utf8Size)

/-- Where an offset of a text lies, in the words of an error. -/
def describeOffset (text : String) (offset : Nat) : String :=
  let (line, column) := positionFrom 1 0 text.toList offset
  s!" at line {line} column {column}"

/-- A fault in the words of an error. -/
def Fault.message (fault : Fault) (text : String) : String :=
  fault.kind.message ++ describeOffset text fault.offset

end SqlLineage.Json
