import SqlLineage.Text.Cursor

/-!
# TOML values

The tables of a document are built up entry by entry.  A table remembers how it came to be, for that
decides whether anything may still be added to it: a table between braces is complete, one with a
header of its own is not opened twice, and one that exists only because a longer name runs through
it may still get its header.
-/

namespace SqlLineage.Toml

/-- A part of a text, in bytes. -/
structure Span where
  start : Nat
  stop : Nat
  deriving DecidableEq, Repr

/-- What is wrong with the form of a text. -/
inductive FaultKind where
  | emptyKey
  | invalidKey
  | missingEquals
  | missingValue
  | invalidValue
  | unclosedText
  | invalidEscape
  | controlCharacter
  | unclosedList
  | unclosedTable
  | unclosedHeader
  | tooDeep
  | trailingText
  | duplicateKey
  deriving DecidableEq, Repr

/-- The words for a fault. -/
def FaultKind.message : FaultKind → String
  | .emptyKey => "unquoted keys cannot be empty, expected letters, numbers, `-`, `_`"
  | .invalidKey => "invalid unquoted key, expected letters, numbers, `-`, `_`"
  | .missingEquals => "key with no value, expected `=`"
  | .missingValue => "string values must be quoted, expected literal string"
  | .invalidValue => "string values must be quoted, expected literal string"
  | .unclosedText => "invalid string, expected a closing quote"
  | .invalidEscape => "missing escaped value, expected `b`, `f`, `n`, `r`, `\\`, `\"`, `u`, `U`"
  | .controlCharacter => "invalid character, expected printable ASCII, space, tab, or non-ASCII"
  | .unclosedList => "unclosed array, expected `]`"
  | .unclosedTable => "unclosed inline table, expected `\x7d`"
  | .unclosedHeader => "unclosed table, expected `]`"
  | .tooDeep => "cannot recurse further; max recursion depth met"
  | .trailingText => "unexpected key or value, expected newline, `#`"
  | .duplicateKey => "duplicate key"

/-- A fault and the part of the text that shows it. -/
structure Fault where
  kind : FaultKind
  span : Span
  deriving DecidableEq, Repr

/-- How a table came to be. -/
inductive Origin where
  /-- It is written between braces. -/
  | braces
  /-- It has a header. -/
  | header
  /-- The header of a table inside it names it. -/
  | longerHeader
  /-- A dotted key runs through it. -/
  | dottedKey
  deriving DecidableEq, Repr

/-- A name and where it stands. -/
structure Key where
  name : String
  span : Span
  deriving DecidableEq, Repr

/-- A value. -/
inductive Value where
  | text (value : String)
  | integer (value : Int)
  | real (value : Float)
  /-- A number beyond every width. -/
  | tooLarge (noun : String)
  | truth (value : Bool)
  /-- A date, a time, or both. -/
  | moment
  | list (items : List Value)
  /-- The tables that share a header in double brackets. -/
  | tables (items : List (List (Key × Span × Value)))
  | table (origin : Origin) (entries : List (Key × Span × Value))

/-- The entries of a table, each with the place of its value. -/
abbrev Entries := List (Key × Span × Value)

namespace Entries

/-- The value of a name. -/
def find? (name : String) (entries : Entries) : Option Value :=
  (List.find? (fun entry => entry.1.name == name) entries).map (·.2.2)

/-- Gives a name that is there another value. -/
def replace (name : String) (value : Value) (entries : Entries) : Entries :=
  List.map (fun (key, span, old) => (key, span, if key.name == name then value else old)) entries

/-- Adds a value under a key, below the tables that the dotted part in front of the key names. -/
def add (last : Key) (span : Span) (value : Value) : List Key → Entries → Except Fault Entries
  | [], entries =>
    match entries.find? last.name with
    | none => .ok (entries ++ [(last, span, value)])
    | some _ => .error ⟨.duplicateKey, last.span⟩
  | key :: path, entries =>
    match entries.find? key.name with
    | none => do
      let inner ← add last span value path []
      return entries ++ [(key, key.span, .table .dottedKey inner)]
    | some (.table origin inner) =>
      if origin = .braces ∨ origin = .header then .error ⟨.duplicateKey, key.span⟩
      else do
        return entries.replace key.name (.table origin (← add last span value path inner))
    | some _ => .error ⟨.duplicateKey, key.span⟩

/-- Changes the table that a header has opened. -/
def change (edit : Entries → Except Fault Entries) : List Key → Entries → Except Fault Entries
  | [], entries => edit entries
  | key :: path, entries =>
    match entries.find? key.name with
    | some (.table origin inner) => do
      return entries.replace key.name (.table origin (← change edit path inner))
    | some (.tables items) => do
      let inner ← change edit path (items.getLast?.getD [])
      return entries.replace key.name (.tables (items.dropLast ++ [inner]))
    | _ => .ok entries

/-- Opens the table of a header; `several` says whether the header stands in double brackets. -/
def openTable (last : Key) (span : Span) (several : Bool) :
    List Key → Entries → Except Fault Entries
  | [], entries =>
    match entries.find? last.name with
    | none =>
      .ok (entries ++ [(last, span, if several then .tables [[]] else .table .header [])])
    | some (.table .longerHeader inner) =>
      if several then .error ⟨.duplicateKey, last.span⟩
      else .ok (entries.replace last.name (.table .header inner))
    | some (.tables items) =>
      if several then .ok (entries.replace last.name (.tables (items ++ [[]])))
      else .error ⟨.duplicateKey, last.span⟩
    | some _ => .error ⟨.duplicateKey, last.span⟩
  | key :: path, entries =>
    match entries.find? key.name with
    | none => do
      let inner ← openTable last span several path []
      return entries ++ [(key, span, .table .longerHeader inner)]
    | some (.table origin inner) =>
      if origin = .braces then .error ⟨.duplicateKey, key.span⟩
      else do
        return entries.replace key.name
          (.table origin (← openTable last span several path inner))
    | some (.tables items) => do
      let inner ← openTable last span several path (items.getLast?.getD [])
      return entries.replace key.name (.tables (items.dropLast ++ [inner]))
    | some _ => .error ⟨.duplicateKey, key.span⟩

end Entries

end SqlLineage.Toml
