import SqlLineage.Proofs.Analysis.Blocks

/-!
# The leaves of a predicate

Below its ANDs and ORs a predicate has leaves, from left to right.  Where ANDs and ORs are gone
through, reading a predicate is reading its leaves one after another, so neither the grouping nor
the choice between AND and OR matters.  A leaf is read as a whole: its operands are not gone into,
its columns are recorded in order, and then two columns of different tables join them.
-/

namespace SqlLineage

open Registry

/-! ## Leaves -/

/-- Whether an expression is an AND or an OR. -/
def Expression.isJunction : Expression → Bool
  | .binary operator _ _ => operator.isLogical
  | _ => false

/-- The parts of a predicate that are no AND or OR and have only such above them. -/
def Expression.leaves : Expression → List Expression
  | .binary operator left right =>
    if operator.isLogical then left.leaves ++ right.leaves else [.binary operator left right]
  | leaf => [leaf]

@[simp]
theorem Expression.isJunction_binary (operator : Operator) (left right : Expression) :
    (Expression.binary operator left right).isJunction = operator.isLogical := rfl

theorem Expression.leaves_of_isLogical {operator : Operator} (hlogical : operator.isLogical = true)
    (left right : Expression) :
    (Expression.binary operator left right).leaves = left.leaves ++ right.leaves := by
  rw [leaves, if_pos hlogical]

theorem Expression.leaves_eq_singleton {leaf : Expression} (hleaf : leaf.isJunction = false) :
    leaf.leaves = [leaf] := by
  cases leaf with
  | binary operator left right =>
    rw [isJunction_binary, Bool.eq_false_iff] at hleaf
    rw [leaves, if_neg hleaf]
  | column qualifier name => rfl
  | other => rfl

theorem Expression.isJunction_of_mem_leaves {condition leaf : Expression}
    (hleaf : leaf ∈ condition.leaves) : leaf.isJunction = false := by
  induction condition with
  | column qualifier name => rw [List.mem_singleton.mp hleaf]; rfl
  | other => rw [List.mem_singleton.mp hleaf]; rfl
  | binary operator left right ihleft ihright =>
    by_cases hlogical : operator.isLogical = true
    · rw [leaves_of_isLogical hlogical] at hleaf
      exact (List.mem_append.mp hleaf).elim ihleft ihright
    · have hself : (binary operator left right).isJunction = false := Bool.eq_false_iff.mpr hlogical
      rw [leaves_eq_singleton hself] at hleaf
      rw [List.mem_singleton.mp hleaf, hself]

/-! ## What a leaf does -/

/-- The columns that a leaf compares, if it is a comparison. -/
def Expression.compared : Expression → List (Option String × String)
  | .binary _ left right => left.operand ++ right.operand
  | _ => []

/-- Records columns of conditions in order. -/
def Registry.recordCompared (scope : Scope) (columns : List (Option String × String))
    (registry : Registry) : Registry :=
  columns.foldl
    (fun registry column => registry.ensureColumn (scope.resolve column.1) column.2 .condition)
    registry

/-- Whether an expression compares a column of the one table with a column of the other. -/
def Expression.Compares (scope : Scope) (source target : String) (leaf : Expression) : Prop :=
  ∃ operator left leftName right rightName,
    leaf = .binary operator (.column left leftName) (.column right rightName) ∧
      scope.resolve left = source ∧ scope.resolve right = target

section Leaf

variable (recurse : Bool) (scope : Scope) (registry : Registry)

/-- A leaf that compares two columns records them, and then a join of their tables. -/
theorem inferFromCondition_comparing {leaf : Expression} (hleaf : leaf.isJunction = false)
    {source target : String} (hcompares : leaf.Compares scope source target) :
    inferFromCondition recurse scope leaf registry =
      (registry.recordCompared scope leaf.compared).addRelationship source target .join := by
  obtain ⟨operator, left, leftName, right, rightName, rfl, rfl, rfl⟩ := hcompares
  rw [Expression.isJunction_binary, Bool.eq_false_iff] at hleaf
  rw [inferFromCondition, if_neg hleaf]
  rfl

/-- A leaf that does not compare columns of different tables records columns only. -/
theorem inferFromCondition_of_not_joining {leaf : Expression} (hleaf : leaf.isJunction = false)
    (hnone : ¬ ∃ source target, leaf.Compares scope source target ∧ source ≠ target) :
    inferFromCondition recurse scope leaf registry =
      registry.recordCompared scope leaf.compared := by
  by_cases hcompares : ∃ source target, leaf.Compares scope source target
  · obtain ⟨source, target, hboth⟩ := hcompares
    have hsame : source = target := by
      by_contra hne
      exact hnone ⟨source, target, hboth, hne⟩
    rw [inferFromCondition_comparing recurse scope registry hleaf hboth, addRelationship,
      if_pos (beq_iff_eq.mpr hsame)]
  · cases leaf with
    | column qualifier name => rfl
    | other => rfl
    | binary operator left right =>
      rw [Expression.isJunction_binary, Bool.eq_false_iff] at hleaf
      rw [inferFromCondition, if_neg hleaf]
      cases left with
      | column leftQualifier leftName =>
        cases right with
        | column rightQualifier rightName =>
          exact absurd ⟨_, _, operator, leftQualifier, leftName, rightQualifier, rightName,
            rfl, rfl, rfl⟩ hcompares
        | binary _ _ _ => rfl
        | other => rfl
      | binary _ _ _ => cases right <;> rfl
      | other => cases right <;> rfl

/-- Reading a predicate goes through its leaves. -/
theorem inferFromCondition_eq_foldl (condition : Expression) :
    inferFromCondition true scope condition registry =
      condition.leaves.foldl
        (fun registry leaf => inferFromCondition true scope leaf registry) registry := by
  induction condition generalizing registry with
  | column qualifier name => rfl
  | other => rfl
  | binary operator left right ihleft ihright =>
    by_cases hlogical : operator.isLogical = true
    · rw [inferFromCondition, if_pos hlogical, if_pos rfl,
        Expression.leaves_of_isLogical hlogical, List.foldl_append, ihleft, ihright]
    · have hself : (Expression.binary operator left right).isJunction = false :=
        Bool.eq_false_iff.mpr hlogical
      rw [Expression.leaves_eq_singleton hself]
      rfl

theorem inferFromCondition_junction {condition : Expression}
    (hjunction : condition.isJunction = true) :
    inferFromCondition false scope condition registry = registry := by
  cases condition with
  | binary operator left right =>
    rw [Expression.isJunction_binary] at hjunction
    rw [inferFromCondition, if_pos hjunction, if_neg Bool.false_ne_true]
  | column qualifier name => cases hjunction
  | other => cases hjunction

end Leaf

@[simp]
theorem relationships_ensureTable (registry : Registry) (name : String) (kind : TableKind) :
    (registry.ensureTable name kind).relationships = registry.relationships := by
  rw [ensureTable]
  split <;> rfl

@[simp]
theorem relationships_ensureColumn (registry : Registry) (table column : String)
    (role : ColumnRole) :
    (registry.ensureColumn table column role).relationships = registry.relationships := by
  by_cases hknown : table = unknownTable
  · rw [hknown, ensureColumn_unknown]
  · obtain ⟨owner, _, _, heq⟩ := ensureColumn_eq registry column role hknown
    rw [heq, ← relationships_ensureTable registry table .source]
    split <;> rfl

theorem relationships_recordCompared (scope : Scope) (columns : List (Option String × String))
    (registry : Registry) :
    (registry.recordCompared scope columns).relationships = registry.relationships := by
  rw [recordCompared]
  induction columns generalizing registry with
  | nil => rfl
  | cons column rest ih => rw [List.foldl_cons, ih, relationships_ensureColumn]

/-- A predicate is read leaf by leaf where AND and OR are gone through, so predicates with the same
leaves do the same.  A leaf records its columns in order, and then a join of the two tables exactly
if it compares columns of different tables.  Where AND and OR are not gone through, a predicate that
is one of them does nothing. -/
theorem inferFromCondition_leafwise (scope : Scope) (condition : Expression)
    (registry : Registry) :
    inferFromCondition true scope condition registry =
        condition.leaves.foldl
          (fun registry leaf => inferFromCondition true scope leaf registry) registry ∧
      (∀ regrouped : Expression, regrouped.leaves = condition.leaves →
        inferFromCondition true scope regrouped registry =
          inferFromCondition true scope condition registry) ∧
      (∀ leaf ∈ condition.leaves, ∀ before : Registry,
        let recorded := before.recordCompared scope leaf.compared
        (∀ source target, leaf.Compares scope source target → source ≠ target →
          inferFromCondition true scope leaf before =
            { recorded with
              relationships :=
                before.relationships ++ [⟨recorded.nextId, source, target, .join⟩]
              nextId := recorded.nextId + 1 }) ∧
        ((¬ ∃ source target, leaf.Compares scope source target ∧ source ≠ target) →
          inferFromCondition true scope leaf before = recorded ∧
            recorded.relationships = before.relationships)) ∧
      (condition.isJunction = true →
        inferFromCondition false scope condition registry = registry) := by
  refine ⟨inferFromCondition_eq_foldl scope registry condition, ?_, ?_,
    inferFromCondition_junction scope registry⟩
  · intro regrouped hsame
    rw [inferFromCondition_eq_foldl, inferFromCondition_eq_foldl, hsame]
  · intro leaf hleaf before recorded
    have hplain := Expression.isJunction_of_mem_leaves hleaf
    have hkept : recorded.relationships = before.relationships :=
      relationships_recordCompared scope leaf.compared before
    constructor
    · intro source target hcompares hne
      rw [inferFromCondition_comparing true scope before hplain hcompares, addRelationship,
        if_neg (mt beq_iff_eq.mp hne), ← hkept]
    · intro hnone
      exact ⟨inferFromCondition_of_not_joining true scope before hplain hnone, hkept⟩

/-- `left.id = right.id` -/
def Expression.equating (left right : String) : Expression :=
  .binary .eq (.column (some left) "id") (.column (some right) "id")

/-- `a.x = (b.x AND c.x)`, whose AND is an operand. -/
def Expression.holdingJunction : Expression :=
  .binary .eq (.column (some "a") "x")
    (.binary .and (.column (some "b") "x") (.column (some "c") "x"))

/-- `(a.id = b.id AND b.id = c.id) OR a.x = (b.x AND c.x)` -/
def Expression.groupedLeft : Expression :=
  .binary .or (.binary .and (.equating "a" "b") (.equating "b" "c")) .holdingJunction

/-- `a.id = b.id AND (b.id = c.id OR a.x = (b.x AND c.x))` -/
def Expression.groupedRight : Expression :=
  .binary .and (.equating "a" "b") (.binary .or (.equating "b" "c") .holdingJunction)

/-- Both groupings join `a` to `b` and `b` to `c`, with the same numbers; the last leaf records one
column. -/
theorem inferFromCondition_regrouped :
    Expression.groupedRight.leaves = Expression.groupedLeft.leaves ∧
      inferFromCondition true ⟨[], []⟩ .groupedRight {} =
        inferFromCondition true ⟨[], []⟩ .groupedLeft {} ∧
      (inferFromCondition true ⟨[], []⟩ .groupedLeft {}).relationships =
        [⟨5, "a", "b", .join⟩, ⟨8, "b", "c", .join⟩] ∧
      (inferFromCondition true ⟨[], []⟩ (.equating "a" "b") {}).relationships =
        [⟨5, "a", "b", .join⟩] ∧
      inferFromCondition true ⟨[], []⟩ .holdingJunction {} =
        Registry.recordCompared ⟨[], []⟩ [(some "a", "x")] {} ∧
      inferFromCondition false ⟨[], []⟩ .groupedLeft {} = {} := by
  have hleaves : Expression.groupedRight.leaves = Expression.groupedLeft.leaves := by decide
  obtain ⟨-, hregrouped, hleaf, hflat⟩ :=
    inferFromCondition_leafwise ⟨[], []⟩ .groupedLeft {}
  have hcompares : Expression.Compares ⟨[], []⟩ "a" "b" (.equating "a" "b") :=
    ⟨.eq, some "a", "id", some "b", "id", rfl, rfl, rfl⟩
  have hjoin := (hleaf (.equating "a" "b") (by decide) {}).1 "a" "b" hcompares (by decide)
  have hplain := (hleaf .holdingJunction (by decide) {}).2 (by
    rintro ⟨_, _, ⟨_, _, _, _, _, heq, -⟩, -⟩
    cases heq)
  refine ⟨hleaves, hregrouped .groupedRight hleaves, by decide, ?_, hplain.1, hflat rfl⟩
  rw [hjoin]
  decide

end SqlLineage
