import SqlLineage.Registry

/-!
# Scopes

The names that a column qualifier may refer to inside one query block, and the names of the common
tables in view.  A block starts from the scope of the block around it, so an inner query still sees
outer aliases; a later binding hides an earlier one.
-/

namespace SqlLineage

/-- What a qualifier stands for. -/
inductive Binding where
  /-- The table of that name. -/
  | table (name : String)
  /-- A derived table or a common table, whose columns no table owns. -/
  | derived
  deriving DecidableEq, Repr

/-- The names in view. -/
structure Scope where
  bindings : List (String × Binding) := []
  ctes : List String := []
  deriving DecidableEq, Repr

/-- The part of a dotted name behind its last dot. -/
def lastSegment? (name : String) : Option String :=
  let reversed := name.toList.reverse
  if reversed.contains '.' then
    some (String.ofList (reversed.takeWhile (· ≠ '.')).reverse)
  else none

namespace Scope

/-- Binds a qualifier. -/
def bind (scope : Scope) (qualifier : String) (binding : Binding) : Scope :=
  { scope with bindings := (qualifier, binding) :: scope.bindings }

/-- Binds a table under its alias.  A table without one binds the last segment of a dotted name;
its own name needs no binding, for an unbound qualifier is taken as a table's name. -/
def bindTable (scope : Scope) (name : String) : Option String → Scope
  | some aliasName => scope.bind aliasName (.table name)
  | none =>
    match lastSegment? name with
    | some segment => scope.bind segment (.table name)
    | none => scope

/-- Binds a relation that is no table. -/
def bindDerived (scope : Scope) (qualifier : String) : Scope :=
  scope.bind qualifier .derived

/-- Brings a common table into view. -/
def addCte (scope : Scope) (name : String) : Scope :=
  { scope with ctes := name :: scope.ctes }

/-- Whether a name is that of a common table in view. -/
def isCte (scope : Scope) (name : String) : Bool :=
  scope.ctes.contains name

/-- The table that owns a column with that qualifier. -/
def resolve (scope : Scope) : Option String → String
  | none => unknownTable
  | some qualifier =>
    match scope.bindings.lookup qualifier with
    | some (.table name) => name
    | some .derived => unknownTable
    | none => if scope.isCte qualifier then unknownTable else qualifier

end Scope

end SqlLineage
