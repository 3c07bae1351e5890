import SqlLineage.Proofs.Analysis.TableKinds
import SqlLineage.Proofs.Lowering.Sites

/-!
# Targets of a DELETE

A DELETE may name several targets before FROM.  Each one calls a relation of the statement by its
alias, or by its name if it has none, and is a table of its own otherwise.  The reduced statement
has room for one target.  It keeps the first, and takes for it the first named relation that has
either that name or that alias.  Reading the statement makes the table of this relation a target and
every other table a source.  So the targets are found exactly if that is the one table that they
stand for.
-/

namespace SqlLineage

open Sql Registry

/-! ## What targets stand for -/

/-- A DELETE, with the common tables in front of it. -/
inductive Sql.Statement.Deletes : Sql.Statement → List Cte → Sql.Delete → Prop where
  | plain (delete : Sql.Delete) : Deletes (.delete delete) [] delete
  | behind (recursive : Bool) (ctes : List Cte) (delete : Sql.Delete) (tail : String) :
      Deletes (.query ⟨recursive, ctes, .delete delete, tail⟩) ctes delete

/-- The relations of a DELETE. -/
def Sql.Delete.factors (delete : Sql.Delete) : List TableFactor :=
  (delete.sources ++ delete.using_).flatMap TableWithJoins.factors

def Sql.TableFactor.aliasName? : TableFactor → Option String
  | .table _ _ aliasName _ | .derived _ _ aliasName | .nested _ aliasName | .rows _ aliasName
  | .reshaped _ _ aliasName =>
    aliasName.map TableAlias.plain

/-- The relation that a target calls: one with that alias, or else a table of that name without an
alias. -/
def Sql.Delete.called? (delete : Sql.Delete) (target : String) : Option TableFactor :=
  (delete.factors.find? fun factor => factor.aliasName? == some target).or
    (delete.factors.find? fun factor =>
      factor.aliasName? == none && factor.tableName? == some target)

/-- The table that a target stands for.  One that calls no relation is the name of a table, and one
that calls a query stands for none. -/
def Sql.Delete.tableOf? (delete : Sql.Delete) (target : String) : Option String :=
  match delete.called? target with
  | some factor => factor.tableName?
  | none => some target

/-- The tables that the targets stand for. -/
def Sql.Delete.targetTables (delete : Sql.Delete) : List String :=
  delete.targets.filterMap fun target => delete.tableOf? target.plain

/-- The tables that targets stand for are registered as targets, and all others as sources, in
particular the tables that are only read. -/
structure Sql.Delete.SortsTables (delete : Sql.Delete) (ctes : List Cte) (registry : Registry) :
    Prop where
  target : ∀ table ∈ delete.targetTables, registry.kind? table = some .target
  read : ∀ factor ∈ delete.factors, ∀ table, factor.tableName? = some table →
    table ∉ Cte.names ctes → table ∉ delete.targetTables → registry.kind? table = some .source
  other : ∀ table kind, registry.kind? table = some kind → table ∉ delete.targetTables →
    kind = .source

/-- Reading the statement on an empty registry finds the tables of its targets. -/
def Sql.Statement.FindsTargets (options : Options) (statement : Sql.Statement) (ctes : List Cte)
    (delete : Sql.Delete) : Prop :=
  ∃ reduced, Statement.ofSyntax statement = .ok reduced ∧
    delete.SortsTables ctes (analyzeStatement options reduced {})

/-! ## What a DELETE is reduced to -/

/-- A named table has that name or that alias. -/
def TableRef.answersTo (target : String) (ref : TableRef) : Bool :=
  ref.name == target || ref.aliasName == some target

/-- The table that is taken for a target: the first relation with that name or alias, or else the
table of that name. -/
def Sql.Delete.takenTable (delete : Sql.Delete) (target : String) : String :=
  (((delete.factors.filterMap TableFactor.ref?).find? (TableRef.answersTo target)).map
    TableRef.name).getD target

/-- The lookup goes through the named relations only. -/
theorem FromItem.name_targetOf (target : String) (items : List FromItem) :
    (FromItem.targetOf target items).name =
      (((items.filterMap FromItem.ref?).find? (TableRef.answersTo target)).map
        TableRef.name).getD target := by
  induction items with
  | nil => rfl
  | cons item rest ih =>
    obtain ⟨source, aliasName, join, condition⟩ := item
    cases source with
    | table name =>
      have hrefs : (⟨.table name, aliasName, join, condition⟩ :: rest).filterMap FromItem.ref? =
          ⟨name, aliasName⟩ :: rest.filterMap FromItem.ref? := rfl
      rw [FromItem.targetOf, hrefs, List.find?_cons, TableRef.answersTo]
      cases name == target || aliasName == some target with
      | true => rfl
      | false => exact ih
    | subquery query => exact ih

theorem Sql.Delete.refs_eq (delete : Sql.Delete) :
    (FromItem.ofList delete.sources ++ FromItem.ofList delete.using_).filterMap FromItem.ref? =
      delete.factors.filterMap TableFactor.ref? := by
  rw [factors, List.filterMap_append, refs_ofList, refs_ofList, List.flatMap_append,
    List.filterMap_append]

section Reduced

variable {statement : Sql.Statement} {ctes : List Cte} {delete : Sql.Delete}
variable {target : ObjectName} {rest : List ObjectName}

/-- A DELETE with targets keeps all its relations, and takes a table for the first target. -/
theorem Delete.exists_ofSyntax (htargets : delete.targets = target :: rest) :
    ∃ change, Delete.ofSyntax delete = .ok change ∧
      change.table.name = delete.takenTable target.plain ∧
      change.sources.filterMap FromItem.ref? = delete.factors.filterMap TableFactor.ref? ∧
      change.ctes = [] := by
  rw [Delete.ofSyntax, htargets]
  refine ⟨_, rfl, ?_, delete.refs_eq, rfl⟩
  rw [FromItem.name_targetOf, delete.refs_eq, Sql.Delete.takenTable]

theorem Statement.exists_ofSyntax_of_deletes (hdeletes : statement.Deletes ctes delete)
    (htargets : delete.targets = target :: rest) :
    ∃ change, Statement.ofSyntax statement = .ok (.delete change) ∧
      change.table.name = delete.takenTable target.plain ∧
      change.sources.filterMap FromItem.ref? = delete.factors.filterMap TableFactor.ref? ∧
      change.ctes.map CommonTable.name = Cte.names ctes := by
  obtain ⟨change, hchange, htable, hsources, hctes⟩ := Delete.exists_ofSyntax htargets
  cases hdeletes with
  | plain =>
    refine ⟨change, ?_, htable, hsources, by rw [hctes]; rfl⟩
    rw [Statement.ofSyntax, hchange]
    rfl
  | behind recursive ctes delete tail =>
    refine ⟨{ change with ctes := CommonTable.ofList ctes }, ?_, htable, hsources,
      CommonTable.names_ofList ctes⟩
    rw [Statement.ofSyntax, hchange]
    rfl

end Reduced

/-! ## What a reduced DELETE registers -/

/-- After its target, a DELETE reads. -/
theorem Delete.exists_events (recurse : Bool) (change : Delete) :
    ∃ rest, Statement.events recurse (.delete change) = .table change.table.name .target :: rest ∧
      ∀ event ∈ rest, event.IsReading :=
  ⟨_, rfl, List.forall_mem_append.mpr
    ⟨CommonTable.isReading ⟨[], []⟩ change.ctes, FromItem.isReading_change _ _ change.selection⟩⟩

section Change

variable (options : Options) (change : Delete)

/-- The table that is changed is a target, and every other table that is registered is a source. -/
theorem kind?_analyzeDelete (name : String) :
    (analyzeStatement options (.delete change) {}).kind? name =
      if name = change.table.name then some .target
      else if name ∈ (analyzeStatement options (.delete change) {}).names then some .source
      else none := by
  obtain ⟨rest, hevents, hreading⟩ := change.exists_events options.recurseConditions
  rw [analyzeStatement_eq, hevents]
  by_cases htable : name = change.table.name
  · rw [if_pos htable, kind?_recordAll, kind?_empty, Option.none_or, List.flatMap_cons,
      Event.tables, List.singleton_append, htable, List.lookup_cons_self]
  · rw [if_neg htable]
    split
    · rename_i hname
      have hrest : name ∈ Event.names rest := by
        rw [mem_names_recordAll] at hname
        simpa [Event.names, Event.tables, htable, names] using hname
      rw [kind?_recordAll, kind?_empty, Option.none_or, List.flatMap_cons, Event.tables,
        List.singleton_append, List.lookup_cons, beq_eq_false_iff_ne.mpr htable]
      exact Event.lookup_tables_of_isReading hreading hrest
    · rename_i hname
      exact kind?_eq_none_iff.mpr hname

/-- A relation that is no common table is registered. -/
theorem mem_names_analyzeDelete {ref : TableRef}
    (href : ref ∈ change.sources.filterMap FromItem.ref?)
    (hplain : ref.name ∉ change.ctes.map CommonTable.name) :
    ref.name ∈ (analyzeStatement options (.delete change) {}).names := by
  let scope := (CommonTable.scope change.ctes).bindTable change.table.name change.table.aliasName
  have hscope : ¬ scope.isCte ref.name = true := by
    simpa [scope, Scope.isCte_iff, CommonTable.scope] using hplain
  have hread : ref.name ∈ (Block.of scope change.sources [] change.selection).reads := by
    obtain ⟨item, hitem, hitemRef⟩ := List.mem_filterMap.mp href
    rw [Block.reads_of]
    refine List.mem_filterMap.mpr ⟨item, hitem, ?_⟩
    match item, hitemRef with
    | ⟨.table name, _, _, _⟩, rfl => rw [FromItem.read?, if_neg hscope]
  refine (analyzeStatement_adds options (.delete change) {} ref.name).mpr (.inr (.inr ?_))
  exact ⟨_, List.mem_append_right _ (List.mem_append_right _ List.mem_cons_self), .inl hread⟩

end Change

/-! ## Targets that are found -/

/-- A DELETE sorts its tables exactly if its targets stand for the table that it changes, and for no
other. -/
theorem sortsTables_analyzeDelete_iff (options : Options) {change : Delete} {ctes : List Cte}
    {delete : Sql.Delete}
    (hsources : change.sources.filterMap FromItem.ref? =
      delete.factors.filterMap TableFactor.ref?)
    (hctes : change.ctes.map CommonTable.name = Cte.names ctes) :
    delete.SortsTables ctes (analyzeStatement options (.delete change) {}) ↔
      delete.targetTables ≠ [] ∧ ∀ table ∈ delete.targetTables, table = change.table.name := by
  have hkind := kind?_analyzeDelete options change
  constructor
  · intro hsorts
    have htaken : change.table.name ∈ delete.targetTables := by
      by_contra hmissed
      have hsource := hsorts.other change.table.name .target (by rw [hkind, if_pos rfl]) hmissed
      cases hsource
    refine ⟨List.ne_nil_of_mem htaken, fun table hmem => ?_⟩
    by_contra hother
    have htarget := hsorts.target table hmem
    rw [hkind, if_neg hother] at htarget
    split at htarget <;> cases htarget
  · rintro ⟨hsome, hone⟩
    obtain ⟨found, hfound⟩ := List.exists_mem_of_ne_nil _ hsome
    have htaken : change.table.name ∈ delete.targetTables := hone found hfound ▸ hfound
    have hne : ∀ table, table ∉ delete.targetTables → table ≠ change.table.name :=
      fun table hread heq => hread (heq ▸ htaken)
    constructor
    · intro table hmem
      rw [hkind, if_pos (hone table hmem)]
    · intro factor hfactor table hname hplain hread
      rw [TableFactor.tableName?_eq, Option.map_eq_some_iff] at hname
      obtain ⟨ref, href, rfl⟩ := hname
      have hmem : ref ∈ change.sources.filterMap FromItem.ref? :=
        hsources ▸ List.mem_filterMap.mpr ⟨factor, hfactor, href⟩
      rw [hkind, if_neg (hne _ hread),
        if_pos (mem_names_analyzeDelete options change hmem (hctes ▸ hplain))]
    · intro table kind hfoundKind hread
      rw [hkind, if_neg (hne table hread)] at hfoundKind
      split at hfoundKind
      · exact (Option.some.inj hfoundKind).symm
      · cases hfoundKind

/-- The targets of a DELETE are found exactly if they stand for a table, and each of them for the
one that is taken for the first. -/
theorem deleteTargets_found_iff (options : Options) {statement : Sql.Statement} {ctes : List Cte}
    {delete : Sql.Delete} {target : ObjectName} {rest : List ObjectName}
    (hdeletes : statement.Deletes ctes delete) (htargets : delete.targets = target :: rest) :
    statement.FindsTargets options ctes delete ↔
      delete.targetTables ≠ [] ∧
        ∀ table ∈ delete.targetTables, table = delete.takenTable target.plain := by
  obtain ⟨change, hlower, htable, hsources, hctes⟩ :=
    Statement.exists_ofSyntax_of_deletes hdeletes htargets
  rw [← htable, ← sortsTables_analyzeDelete_iff options hsources hctes]
  constructor
  · rintro ⟨reduced, hreduced, hsorts⟩
    obtain rfl : .delete change = reduced := Except.ok.inj (hlower.symm.trans hreduced)
    exact hsorts
  · exact fun hsorts => ⟨_, hlower, hsorts⟩

/-- `DELETE targets FROM first JOIN second USING(id)` -/
def Sql.Delete.joined (targets : List String) (first second : TableFactor) : Sql.Delete where
  targets := targets.map .word
  sources := [⟨first, [⟨false, .join, .using "(id)", second⟩]⟩]

/-- `DELETE x FROM t AS x JOIN u USING(id)` -/
theorem deleteTargets_found_alias :
    Sql.Statement.FindsTargets {} (.delete (.joined ["x"] (.called "t" "x") (.named "u"))) []
      (.joined ["x"] (.called "t" "x") (.named "u")) :=
  (deleteTargets_found_iff {} (.plain _) rfl).mpr (by decide)

/-- A target is missed if the table that it stands for becomes a source. -/
theorem Sql.Statement.not_findsTargets {options : Options} {statement : Sql.Statement}
    {ctes : List Cte} {delete : Sql.Delete} {table : String} {reduced : SqlLineage.Statement}
    (htarget : table ∈ delete.targetTables)
    (hlower : SqlLineage.Statement.ofSyntax statement = .ok reduced)
    (hsource : (analyzeStatement options reduced {}).kind? table = some .source) :
    ¬ statement.FindsTargets options ctes delete := by
  rintro ⟨other, hother, hsorts⟩
  obtain rfl : reduced = other := Except.ok.inj (hlower.symm.trans hother)
  have hkind := hsorts.target table htarget
  rw [hsource] at hkind
  cases hkind

/-- The second target of `DELETE t, u FROM t JOIN u USING(id)` becomes a source, and so does the
table `c` in `DELETE a FROM a AS b JOIN c AS a USING(id)`. -/
theorem exists_target_missed :
    ¬ Sql.Statement.FindsTargets {} (.delete (.joined ["t", "u"] (.named "t") (.named "u"))) []
        (.joined ["t", "u"] (.named "t") (.named "u")) ∧
      ¬ Sql.Statement.FindsTargets {}
        (.delete (.joined ["a"] (.called "a" "b") (.called "c" "a"))) []
        (.joined ["a"] (.called "a" "b") (.called "c" "a")) := by
  constructor
  · have htarget : "u" ∈ (Delete.joined ["t", "u"] (.named "t") (.named "u")).targetTables := by
      decide
    exact Sql.Statement.not_findsTargets htarget rfl (by decide)
  · have htarget :
        "c" ∈ (Delete.joined ["a"] (.called "a" "b") (.called "c" "a")).targetTables := by
      decide
    exact Sql.Statement.not_findsTargets htarget rfl (by decide)

end SqlLineage
