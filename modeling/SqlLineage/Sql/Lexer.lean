import SqlLineage.Sql.Spelling
import SqlLineage.Sql.Token
import SqlLineage.Text.Blank
import SqlLineage.Text.Numeric

/-!
# Splitting a script into tokens

`lex` reads a script from left to right.  Each scanner below takes the characters that are left and
answers a token with the characters after it; blanks and comments answer no token.
-/

namespace SqlLineage.Sql

/-- Why a script is no sequence of tokens, with the characters from the faulty place on. -/
structure ScanFault where
  message : String
  rest : List Char

/-- What a scanner answers. -/
abbrev Scanned := Except ScanFault (Option Token × List Char)

/-- The longest part from the start whose characters all satisfy a test, and what is left. -/
def splitWhile (test : Char → Bool) (chars : List Char) : String × List Char :=
  (String.ofList (chars.takeWhile test), chars.dropWhile test)

/-- Reads to the closing quote; a doubled quote stands for one.  The part read so far is kept in
reverse. -/
def closeName (quote : Char) : List Char → List Char → Option (String × List Char)
  | [], _ => none
  | [c], done => if c == quote then some (String.ofList done.reverse, []) else none
  | c :: d :: rest, done =>
    if c == quote then
      if d == quote then closeName quote rest (quote :: done)
      else some (String.ofList done.reverse, d :: rest)
    else closeName quote (d :: rest) (c :: done)

/-- The character that a backslash before this one stands for. -/
def escapedChar : Char → Char
  | '0' => '\x00'
  | 'a' => '\x07'
  | 'b' => '\x08'
  | 'f' => '\x0c'
  | 'n' => '\n'
  | 'r' => '\r'
  | 't' => '\t'
  | 'Z' => '\x1a'
  | c => c

/-- How a text between quotes is read. -/
structure Quoting where
  quote : Char
  backslash : Bool
  keepsWildcards : Bool

/-- Reads to the closing quote; a doubled quote stands for one, and a backslash may escape. -/
def closeText (quoting : Quoting) : List Char → List Char → Option (String × List Char)
  | [], _ => none
  | [c], done => if c == quoting.quote then some (String.ofList done.reverse, []) else none
  | c :: d :: rest, done =>
    if c == quoting.quote then
      if d == quoting.quote then closeText quoting rest (c :: done)
      else some (String.ofList done.reverse, d :: rest)
    else if c == '\\' && quoting.backslash then
      if quoting.keepsWildcards && (d == '%' || d == '_') then
        closeText quoting rest (d :: c :: done)
      else closeText quoting rest (escapedChar d :: done)
    else closeText quoting (d :: rest) (c :: done)

/-- Reads to three closing quotes. -/
def closeTriple (quoting : Quoting) : List Char → List Char → Option (String × List Char)
  | [], _ => none
  | c :: rest, done =>
    if c == quoting.quote && rest.take 2 == [c, c] then
      some (String.ofList done.reverse, rest.drop 2)
    else if c == '\\' && quoting.backslash then
      match rest with
      | [] => none
      | d :: rest =>
        if quoting.keepsWildcards && (d == '%' || d == '_') then
          closeTriple quoting rest (d :: c :: done)
        else closeTriple quoting rest (escapedChar d :: done)
    else closeTriple quoting rest (c :: done)

/-- The fault of a text that is not closed. -/
def unterminatedText (rest : List Char) : ScanFault :=
  ⟨"Unterminated string literal", rest⟩

/-- Scans a text from its opening quote on. -/
def scanText (dialect : Dialect) (style : TextStyle) (quote : Char) (backslash : Bool)
    (chars : List Char) : Scanned :=
  match closeText ⟨quote, backslash, dialect.keepsWildcardEscapes⟩ (chars.drop 1) [] with
  | some (value, rest) => .ok (some (.text style value), rest)
  | none => .error (unterminatedText chars)

/-- Scans a text that may stand between three quotes. -/
def scanTripleText (dialect : Dialect) (style triple : TextStyle) (quote : Char)
    (backslash : Bool) (chars : List Char) : Scanned :=
  let quoting : Quoting := ⟨quote, backslash, dialect.keepsWildcardEscapes⟩
  let opening := ((chars.take 3).takeWhile (· == quote)).length
  let inside := chars.drop opening
  if opening == 2 then .ok (some (.text style ""), inside)
  else
    let closed :=
      if opening == 3 then (closeTriple quoting inside []).map (fun found => (triple, found))
      else (closeText quoting inside []).map (fun found => (style, found))
    match closed with
    | some (style, value, rest) => .ok (some (.text style value), rest)
    | none => .error (unterminatedText inside)

/-- Scans a text in single or double quotes with the rules of the dialect. -/
def scanQuoted (dialect : Dialect) (style triple : TextStyle) (quote : Char) (backslash : Bool)
    (chars : List Char) : Scanned :=
  if dialect.hasTripleQuotes then scanTripleText dialect style triple quote backslash chars
  else scanText dialect style quote backslash chars

/-- Scans a name between quotes. -/
def scanQuotedName (quote : Char) (chars : List Char) : Scanned :=
  let closing := closingQuote quote
  match closeName closing (chars.drop 1) [] with
  | some (value, rest) => .ok (some (.word value (some quote)), rest)
  | none => .error ⟨s!"Expected close delimiter '{closing}' before EOF.", chars⟩

/-- Scans a name between brackets that may itself hold a quoted name; `none` if the bracket opens
no name. -/
def scanBracketedName (dialect : Dialect) (chars : List Char) : Option Scanned :=
  let inside := (chars.drop 1).dropWhile Text.isBlank
  match inside with
  | '"' :: nested =>
    some (match closeName '"' nested [] with
      | none => .error ⟨"Expected close delimiter '\"' before EOF.", inside⟩
      | some (value, rest) =>
        match rest.dropWhile Text.isBlank with
        | ']' :: rest => .ok (some (.word ("\"" ++ value ++ "\"") (some '[')), rest)
        | _ => .error ⟨"Expected close delimiter ']' before EOF.", chars⟩)
  | c :: _ => if dialect.startsName c then some (scanQuotedName '[' chars) else none
  | [] => none

/-- Scans a name or key word. -/
def scanWord (dialect : Dialect) (start : List Char) (chars : List Char) : Scanned :=
  let (rest, left) := splitWhile dialect.continuesName chars
  .ok (some (.word (String.ofList start ++ rest) none), left)

/-- The digits at the start; an underscore between two of them belongs to them where the dialect
says so. -/
def splitDigits (separates : Bool) (digit : Char → Bool) : List Char → List Char × List Char
  | [] => ([], [])
  | c :: rest =>
    let belongs := digit c ||
      separates && c == '_' && (rest.head?.map (fun d =>
        d.isDigit || ('a' ≤ d && d ≤ 'f') || ('A' ≤ d && d ≤ 'F'))).getD false
    if belongs then
      let (digits, left) := splitDigits separates digit rest
      (c :: digits, left)
    else ([], c :: rest)

/-- Whether a character is a hexadecimal digit. -/
def isHexDigit (c : Char) : Bool :=
  c.isDigit || ('a' ≤ c && c ≤ 'f') || ('A' ≤ c && c ≤ 'F')

/-- The exponent of a number, if one stands at the start. -/
def splitExponent (chars : List Char) : List Char × List Char :=
  match chars with
  | e :: rest =>
    if e == 'e' || e == 'E' then
      let (sign, rest) : List Char × List Char :=
        match rest with
        | c :: more => if c == '+' || c == '-' then ([c], more) else ([], rest)
        | [] => ([], [])
      let digits := rest.takeWhile Char.isDigit
      if digits.isEmpty then ([], chars) else (e :: sign ++ digits, rest.dropWhile Char.isDigit)
    else ([], chars)
  | [] => ([], [])

/-- Whether the token before is a word. -/
def isWord : Option Token → Bool
  | some (.word ..) => true
  | _ => false

/-- The end of a number: its exponent, and whether it is a name after all. -/
def scanNumberEnd (dialect : Dialect) (previous : Option Token) (mantissa : List Char)
    (chars : List Char) : Scanned :=
  let (exponent, rest) := splitExponent chars
  let digits := String.ofList (mantissa ++ exponent)
  let nameRest := rest.takeWhile dialect.continuesName
  if dialect.hasNumericNames && exponent.isEmpty && !nameRest.isEmpty then
    .ok (some (.word (digits ++ String.ofList nameRest) none), rest.dropWhile dialect.continuesName)
  else if dialect.hasNumericNames && !exponent.isEmpty && previous == some (.symbol ".") then
    .ok (some (.word digits none), rest)
  else
    match rest with
    | 'L' :: rest => .ok (some (.number digits true), rest)
    | _ => .ok (some (.number digits false), rest)

/-- Scans a number, or a full stop that starts none. -/
def scanNumber (dialect : Dialect) (previous : Option Token) (chars : List Char) : Scanned :=
  let (whole, rest) := splitDigits dialect.separatesDigits Char.isDigit chars
  match whole, rest with
  | [], '.' :: '_' :: _ =>
    if isWord previous then .ok (some (.symbol "."), rest.drop 1)
    else .error ⟨"Unexpected character '_'", chars⟩
  | ['0'], 'x' :: rest =>
    let (digits, rest) := splitDigits dialect.separatesDigits isHexDigit rest
    .ok (some (.text .hex (String.ofList digits)), rest)
  | _, _ =>
    let (whole, rest) : List Char × List Char :=
      match rest with
      | '.' :: rest => (whole ++ ['.'], rest)
      | _ => (whole, rest)
    if whole == ['.'] && dialect.hasNumericNames && isWord previous then
      .ok (some (.symbol "."), rest)
    else
      let (fraction, rest) := splitDigits dialect.separatesDigits Char.isDigit rest
      let mantissa := whole ++ fraction
      if mantissa == ['.'] then .ok (some (.symbol "."), rest)
      else scanNumberEnd dialect previous mantissa rest

/-- Reads a text with escapes to its closing quote; `none` if it is not closed or an escape stands
for no character. -/
def closeEscapedText : List Char → List Char → Option (String × List Char)
  | [], _ => none
  | '\'' :: rest, done =>
    match rest with
    | '\'' :: rest => closeEscapedText rest ('\'' :: done)
    | _ => some (String.ofList done.reverse, rest)
  | '\\' :: rest, done =>
    match rest with
    | [] => none
    | c :: rest => if c == '0' then none else closeEscapedText rest (escapedChar c :: done)
  | c :: rest, done => closeEscapedText rest (c :: done)

/-- Scans a word that may turn out to be the mark of a text in quotes. -/
def scanMarkedWord (dialect : Dialect) (mark : Char) (rest : List Char) : Scanned :=
  let word := scanWord dialect [mark] rest
  match rest with
  | '\'' :: inside =>
    match mark.toUpper with
    | 'B' =>
      if dialect.hasByteTexts then
        scanQuoted dialect .byteSingle .byteTripleSingle '\'' false rest
      else word
    | 'R' =>
      if dialect.hasRawTexts then
        scanQuoted dialect .rawSingle .rawTripleSingle '\'' false rest
      else word
    | 'N' => scanText dialect .national '\'' dialect.escapesWithBackslash rest
    | 'X' => scanText dialect .hex '\'' true rest
    | 'E' =>
      if dialect.hasEscapedTexts then
        match closeEscapedText inside [] with
        | some (value, rest) => .ok (some (.text .escaped value), rest)
        | none => .error ⟨"Unterminated encoded string literal", mark :: rest⟩
      else word
    | _ => word
  | '"' :: _ =>
    match mark.toUpper with
    | 'B' =>
      if dialect.hasByteTexts then
        scanQuoted dialect .byteDouble .byteTripleDouble '"' false rest
      else word
    | 'R' =>
      if dialect.hasRawTexts then
        scanQuoted dialect .rawDouble .rawTripleDouble '"' false rest
      else word
    | _ => word
  | '&' :: '\'' :: inside =>
    if mark.toUpper == 'U' && dialect.hasUnicodeTexts then
      match closeText ⟨'\'', false, false⟩ inside [] with
      | some (value, rest) => .ok (some (.text .unicode value), rest)
      | none => .error ⟨"Unterminated unicode encoded string literal", rest.drop 1⟩
    else word
  | _ => word

/-- The characters after a comment that goes to the end of the line. -/
def skipLine (dialect : Dialect) (chars : List Char) : List Char :=
  (chars.dropWhile (fun c => c != '\n' && !(dialect == .postgres && c == '\r'))).drop 1

/-- The characters after a comment between marks; `depth` further comments are open around it. -/
def skipComment (nests : Bool) : List Char → Nat → Option (List Char)
  | [], _ => none
  | [_], _ => none
  | c :: d :: rest, depth =>
    if c == '*' && d == '/' then
      match depth with
      | 0 => some rest
      | depth + 1 => skipComment nests rest depth
    else if nests && c == '/' && d == '*' then skipComment nests rest (depth + 1)
    else skipComment nests (d :: rest) depth

/-- Reads a text in doubled dollar signs to its end. -/
def closeDollars : List Char → List Char → Option (String × List Char)
  | '$' :: '$' :: rest, done => some (String.ofList done.reverse, rest)
  | c :: rest, done => closeDollars rest (c :: done)
  | [], _ => none

/-- Reads a text to the tag that closes it. -/
def closeTagged (tag : List Char) : List Char → List Char → Option (String × List Char)
  | [], _ => none
  | c :: rest, done =>
    if tag.isPrefixOf (c :: rest) then
      some (String.ofList done.reverse, (c :: rest).drop tag.length)
    else closeTagged tag rest (c :: done)

/-- Scans what starts with a dollar sign: a text between tags or a placeholder. -/
def scanDollar (dialect : Dialect) (chars : List Char) : Scanned :=
  match chars with
  | '$' :: rest =>
    if !dialect.hasDollarPlaceholders then
      match closeDollars rest [] with
      | some (value, rest) => .ok (some (.dollar "" value), rest)
      | none => .error ⟨"Unterminated dollar-quoted string", []⟩
    else placeholder chars
  | _ => placeholder chars
where
  /-- A placeholder, or the tag that opens a text. -/
  placeholder (chars : List Char) : Scanned :=
    let (name, rest) := splitWhile
      (fun c => Text.isAlphanumeric c || c == '_' || dialect.hasDollarPlaceholders && c == '$')
      chars
    match rest with
    | '$' :: rest =>
      if dialect.hasDollarPlaceholders then .ok (some (.placeholder ("$" ++ name)), '$' :: rest)
      else
        match closeTagged ("$" ++ name ++ "$").toList rest [] with
        | some (value, rest) => .ok (some (.dollar name value), rest)
        | none => .error ⟨"Unterminated dollar-quoted, expected $", []⟩
    | _ => .ok (some (.placeholder ("$" ++ name)), rest)

/-- The symbols of every dialect, a longer one before its own start. -/
def commonSymbols : List String :=
  ["->>", "||/", "<=>", "!~~*", "!~~", "!~*", "~~*", "#>>", "->", "|/", "||", "=>", "==", "!=",
    "!!", "!~", "<=", "<>", "<<", "<@", ">=", ">>", "::", ":=", "&&", "^@", "~*", "~~", "#-", "#>",
    "@>", "@?", "@@", "(", ")", ",", "-", "/", "+", "*", "%", "|", "=", "!", "<", ">", ":", ";",
    "\\", "[", "]", "&", "^", "\x7b", "\x7d", "~", "#", "@"]

/-- The symbols for geometric values, a longer one before its own start. -/
def geometricSymbols : List String :=
  ["?||", "?-|", "|>>", "<<|", "<->", "@-@", "&<|", "|&>", "?|", "?&", "?-", "?#", "?", "<^", ">^",
    "&>", "&<", "~=", "##"]

/-- The symbols of a dialect. -/
def symbols (dialect : Dialect) : List String :=
  (if dialect.hasGeometricOperators then geometricSymbols else [])
    ++ (if dialect.hasPipes then ["|>"] else [])
    ++ (if dialect matches .duckdb | .generic then ["//"] else [])
    ++ commonSymbols

/-- The symbols that no further operator character extends. -/
def closedSymbols : List String :=
  ["(", ")", ",", "/", "//", "+", "*", "=", "=>", "==", "!", "!=", "!!", "!~", "!~*", "!~~", "!~~*",
    ":", "::", ":=", ";", "\\", "[", "]", "^", "^@", "\x7b", "\x7d", "&>", "&<", "&<|", "@>", "@?",
    "@-@", "?", "?|", "?||", "?&", "?-", "?-|", "?#"]

/-- Whether a character may be part of an operator of the script's own. -/
def isOperatorChar (c : Char) : Bool :=
  "+-*/<>=~!@#%^&|`?".contains c

/-- The starts of geometric symbols that are no symbols themselves. -/
def unfinishedSymbols : List String :=
  ["<-", "@-", "|>"]

/-- Scans a symbol. -/
def scanSymbol (dialect : Dialect) (chars : List Char) : Scanned :=
  match (symbols dialect).find? (fun spelling => spelling.toList.isPrefixOf chars) with
  | none =>
    match chars with
    | c :: rest => .ok (some (.stray c), rest)
    | [] => .ok (none, [])
  | some spelling =>
    let rest := chars.drop spelling.length
    let start := (String.ofList (chars.take 2))
    if dialect.hasGeometricOperators && spelling.length == 1
        && unfinishedSymbols.contains start then
      .error ⟨s!"Expected a valid binary operator after '{start}'", chars.drop 2⟩
    else if dialect.hasCustomOperators && !closedSymbols.contains spelling then
      let (more, rest) := splitWhile isOperatorChar rest
      if more.isEmpty then .ok (some (.symbol spelling), rest)
      else .ok (some (.customOperator (spelling ++ more)), rest)
    else .ok (some (.symbol spelling), rest)

/-- Scans what starts with `#`. -/
def scanHash (dialect : Dialect) (chars : List Char) : Scanned :=
  match chars with
  | '#' :: c :: rest =>
    if dialect.startsName '#' && !(c == '-' || c == '>' || c == ' ')
        && !(dialect.hasGeometricOperators && c == '#') then
      scanWord dialect ['#', c] rest
    else scanSymbol dialect chars
  | _ => scanSymbol dialect chars

/-- Scans what starts with `@`. -/
def scanAt (dialect : Dialect) (chars : List Char) : Scanned :=
  match chars with
  | '@' :: '@' :: c :: rest =>
    if dialect.startsName '@' && c != ' ' then scanWord dialect ['@', '@', c] rest
    else scanSymbol dialect chars
  | '@' :: c :: rest =>
    if dialect.startsName '@' && !(" >?@'\"`".contains c) then scanWord dialect ['@', c] rest
    else scanSymbol dialect chars
  | _ => scanSymbol dialect chars

/-- Scans one token, blank or comment. -/
def scan (dialect : Dialect) (previous : Option Token) (chars : List Char) : Scanned :=
  match chars with
  | [] => .ok (none, [])
  | '\r' :: '\n' :: rest => .ok (none, rest)
  | '-' :: '-' :: rest =>
    if !dialect.commentNeedsBlank || rest.head? == some ' ' then
      .ok (none, skipLine dialect rest)
    else scanSymbol dialect chars
  | '/' :: '*' :: rest =>
    match skipComment dialect.nestsComments rest 0 with
    | some rest => .ok (none, rest)
    | none => .error ⟨"Unexpected EOF while in a multi-line comment", []⟩
  | '/' :: '/' :: rest =>
    if dialect == .snowflake then .ok (none, skipLine dialect rest)
    else scanSymbol dialect chars
  | c :: rest =>
    if c == ' ' || c == '\t' || c == '\n' || c == '\r' then .ok (none, rest)
    else if c.isAlpha then scanMarkedWord dialect c rest
    else if c == '\'' then
      scanQuoted dialect .single .tripleSingle '\'' dialect.escapesWithBackslash chars
    else if c == '"' && !dialect.delimitsName '"' then
      scanQuoted dialect .double .tripleDouble '"' dialect.escapesWithBackslash chars
    else if dialect.delimitsName c then scanQuotedName c chars
    else if c.isDigit || c == '.' then scanNumber dialect previous chars
    else if c == '#' then
      if dialect.commentsWithHash then .ok (none, skipLine dialect rest)
      else scanHash dialect chars
    else if c == '@' then scanAt dialect chars
    else if c == '?' && !dialect.hasGeometricOperators then
      let (digits, rest) := splitWhile Text.isNumeric rest
      .ok (some (.placeholder ("?" ++ digits)), rest)
    else if dialect.startsName c then scanWord dialect [c] rest
    else if c == '$' then scanDollar dialect rest
    else if Text.isBlank c then .ok (none, rest)
    else if c == '[' && dialect.nestsBrackets then
      (scanBracketedName dialect chars).getD (scanSymbol dialect chars)
    else scanSymbol dialect chars

/-- Why a script is no sequence of tokens. -/
structure LexError where
  message : String
  position : Position
  deriving DecidableEq, Repr

/-- The message of the error, with its place. -/
def LexError.text (error : LexError) : String :=
  error.message ++ error.position.suffix

/-- The place after the first `count` characters. -/
def advance : Nat → List Char → Position → Position
  | 0, _, position => position
  | _, [], position => position
  | count + 1, c :: rest, position => advance count rest (position.after c)

/-- The tokens of the characters that are left, of which there are `count`.  Every step takes at
least one character, so `steps` steps are enough for that many characters. -/
def lexFrom (dialect : Dialect) :
    (steps : Nat) → (chars : List Char) → (count : Nat) → Position → Option Token → Bool →
      Except LexError (List Lexeme)
  | 0, _, _, _, _, _ => .ok []
  | _, [], _, _, _, _ => .ok []
  | steps + 1, chars, count, position, previous, spaced =>
    match scan dialect previous chars with
    | .error fault =>
      .error ⟨fault.message, advance (count - fault.rest.length) chars position⟩
    | .ok (token, rest) =>
      let left := rest.length
      let after := advance (count - left) chars position
      match token with
      | none => lexFrom dialect steps rest left after none true
      | some token => do
        let more ← lexFrom dialect steps rest left after (some token) false
        return ⟨token, position, token.key, spaced⟩ :: more

/-- The tokens of a script. -/
def lex (dialect : Dialect) (script : String) : Except LexError (List Lexeme) :=
  let chars := script.toList
  lexFrom dialect chars.length chars chars.length {} none true

end SqlLineage.Sql
