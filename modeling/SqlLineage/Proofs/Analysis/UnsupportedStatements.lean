import SqlLineage.Proofs.Decode.Records
import SqlLineage.Proofs.Graph.Extension
import SqlLineage.Statement.Document

/-!
# Statements without lineage

A statement without lineage leaves the registry as it is, its counter included, and is told of in
one warning.  It takes its place among the statements all the same: the warnings behind it count it.
A list of statements may therefore hold any object with an unknown type, which costs a warning and
nothing else.
-/

namespace SqlLineage

open Registry

/-- Whether a statement has no lineage. -/
def Statement.isUnsupported : Statement → Bool
  | .unsupported _ => true
  | _ => false

/-- The warning for a statement at a position, if it has no lineage. -/
def Statement.warning? : Statement × Nat → Option Issue
  | (.unsupported kind, position) => some (unsupportedIssue kind position none)
  | _ => none

/-! ## The graph -/

theorem analyzeStatement_of_isUnsupported {statement : Statement}
    (hunsupported : statement.isUnsupported) (options : Options) (registry : Registry) :
    analyzeStatement options statement registry = registry := by
  cases statement with
  | unsupported kind => rfl
  | _ => cases hunsupported

/-- A run goes through the statements with lineage only. -/
theorem registryOf_filter (options : Options) (statements : List Statement) :
    registryOf options (statements.filter (fun statement => !statement.isUnsupported)) =
      registryOf options statements := by
  rw [registryOf, registryOf, analyzeAll, analyzeAll, List.foldl_map, List.foldl_map,
    List.foldl_filter]
  congr 1
  funext registry statement
  by_cases hunsupported : statement.isUnsupported
  · simp [hunsupported, analyzeStatement_of_isUnsupported hunsupported]
  · simp [hunsupported]

theorem registryOf_insert (options : Options) (first last : List Statement) (kind : String) :
    registryOf options (first ++ .unsupported kind :: last) =
      registryOf options (first ++ last) := by
  rw [registryOf_append, registryOf_append]
  rfl

/-! ## The warnings -/

/-- An issue of the statement behind the one it is about. -/
def Issue.next (issue : Issue) : Issue :=
  { issue with statementIndex := issue.statementIndex.map (· + 1) }

theorem analyzeStatements_issues (options : Options) (statements : List Statement) :
    (analyzeStatements options statements).issues =
      issuesFrom 0 (statements.map (fun statement => ⟨statement, none⟩)) := rfl

theorem issuesFrom_eq_filterMap (index : Nat) (statements : List Statement) :
    issuesFrom index (statements.map (fun statement => ⟨statement, none⟩)) =
      (statements.zipIdx index).filterMap Statement.warning? := by
  induction statements generalizing index with
  | nil => rfl
  | cons statement rest ih =>
    rw [List.map_cons, List.zipIdx_cons]
    cases statement with
    | unsupported kind => rw [issuesFrom, ih, List.filterMap_cons]; rfl
    | _ => exact ih (index + 1)

theorem issuesFrom_succ (index : Nat) (statements : List SourcedStatement) :
    issuesFrom (index + 1) statements = (issuesFrom index statements).map Issue.next := by
  induction statements generalizing index with
  | nil => rfl
  | cons input rest ih =>
    obtain ⟨statement, sourceName⟩ := input
    cases statement with
    | unsupported kind => rw [issuesFrom, issuesFrom, ih, List.map_cons]; rfl
    | _ => exact ih (index + 1)

/-- A warning is about one of the statements. -/
theorem index_of_mem_issuesFrom {issue : Issue} {index : Nat} {statements : List SourcedStatement}
    (hissue : issue ∈ issuesFrom index statements) :
    ∃ position ∈ issue.statementIndex, index ≤ position ∧ position < index + statements.length := by
  induction statements generalizing index with
  | nil => cases hissue
  | cons input rest ih =>
    have hrest : issue ∈ issuesFrom (index + 1) rest → ∃ position ∈ issue.statementIndex,
        index ≤ position ∧ position < index + (rest.length + 1) := fun hmem => by
      obtain ⟨position, hposition, hle, hlt⟩ := ih hmem
      exact ⟨position, hposition, by omega, by omega⟩
    obtain ⟨statement, sourceName⟩ := input
    cases statement with
    | unsupported kind =>
      rcases List.mem_cons.mp hissue with rfl | hmem
      · exact ⟨index, rfl, Nat.le_refl index, by simp⟩
      · exact hrest hmem
    | _ => exact hrest hissue

/-- What a statement without lineage at a position does to a result: nothing to the graph, a warning
of its own, and a place in the count of the warnings behind it. -/
structure Result.GainsWarning (position : Nat) (kind : String) (before after : Result) : Prop where
  graph_eq : after.graph = before.graph
  issues_eq : ∃ earlier later, before.issues = earlier ++ later ∧
    (∀ issue ∈ earlier, ∃ index ∈ issue.statementIndex, index < position) ∧
    (∀ issue ∈ later, ∃ index ∈ issue.statementIndex, position ≤ index) ∧
    after.issues = earlier ++ unsupportedIssue kind position none :: later.map Issue.next

theorem analyzeStatements_gainsWarning (options : Options) (first last : List Statement)
    (kind : String) :
    (analyzeStatements options (first ++ last)).GainsWarning first.length kind
      (analyzeStatements options (first ++ .unsupported kind :: last)) := by
  constructor
  · rw [analyzeStatements_graph, analyzeStatements_graph, registryOf_insert]
  · refine ⟨issuesFrom 0 (first.map (fun statement => ⟨statement, none⟩)),
      issuesFrom first.length (last.map (fun statement => ⟨statement, none⟩)), ?_, ?_, ?_, ?_⟩
    · rw [analyzeStatements_issues, List.map_append, issuesFrom_append, List.length_map,
        Nat.zero_add]
    · intro issue hissue
      obtain ⟨index, hindex, -, hlt⟩ := index_of_mem_issuesFrom hissue
      exact ⟨index, hindex, by simpa using hlt⟩
    · intro issue hissue
      obtain ⟨index, hindex, hle, -⟩ := index_of_mem_issuesFrom hissue
      exact ⟨index, hindex, hle⟩
    · rw [analyzeStatements_issues, List.map_append, issuesFrom_append, List.length_map,
        Nat.zero_add, List.map_cons, issuesFrom, issuesFrom_succ]

/-! ## Lists of statements as JSON values -/

namespace Decode

variable {style : Style} {tag : String} {value : Json}

/-- Whatever else an object of an unknown type holds, it is read. -/
theorem statement_of_unknown (htag : value.field? "type" = some (.str tag))
    (hunknown : tag ∉ statementTags) : statement style value = .ok (.unsupported tag) := by
  rw [statement, htag]
  simp [hunknown]

theorem statementDocument_of_list {items : List Json} {statements : List Statement}
    (hlist : list statement style (.arr items) = .ok statements) :
    statementDocument style (.arr items) = .ok statements := by
  rw [statementDocument, hlist]

/-- An object of an unknown type may stand anywhere in a list of statements. -/
theorem list_insert_unknown {before after : List Json} {statements : List Statement}
    (hlist : list statement style (.arr (before ++ after)) = .ok statements)
    (htag : value.field? "type" = some (.str tag)) (hunknown : tag ∉ statementTags) :
    ∃ first last, statements = first ++ last ∧ first.length = before.length ∧
      list statement style (.arr (before ++ value :: after)) =
        .ok (first ++ .unsupported tag :: last) := by
  have hall := list_eq_ok_iff.mp hlist
  have hfirst := List.forall₂_take_append statements before after hall.flip
  have hlast := List.forall₂_drop_append statements before after hall.flip
  refine ⟨statements.take before.length, statements.drop before.length,
    (List.take_append_drop _ _).symm, hfirst.length_eq, list_eq_ok_iff.mpr ?_⟩
  exact List.rel_append hfirst.flip (.cons (statement_of_unknown htag hunknown) hlast.flip)

end Decode

/-- A run passes over the statements without lineage: the graph is that of the others, ids included,
and the issues are one warning for each of them, with its position among all statements.  So a list
of statements may be given an object of an unknown type at any place, which adds the warning that
names the type, and moves the later ones on. -/
theorem analyzeStatements_unsupported (options : Options) :
    (∀ statements : List Statement,
      (analyzeStatements options statements).graph =
          (analyzeStatements options
            (statements.filter (fun statement => !statement.isUnsupported))).graph ∧
        (analyzeStatements options statements).issues =
          statements.zipIdx.filterMap Statement.warning?) ∧
    ∀ (style : Decode.Style) (before after : List Json) (statements : List Statement)
      (fields : List (String × Json)) (tag : String),
      Decode.list Decode.statement style (.arr (before ++ after)) = .ok statements →
      (Json.obj fields).field? "type" = some (.str tag) → tag ∉ Decode.statementTags →
      ∃ extended,
        Decode.list Decode.statement style (.arr (before ++ .obj fields :: after)) =
            .ok extended ∧
          Decode.statementDocument style (.arr (before ++ .obj fields :: after)) = .ok extended ∧
          (analyzeStatements options statements).GainsWarning before.length tag
            (analyzeStatements options extended) := by
  refine ⟨fun statements => ⟨?_, ?_⟩, ?_⟩
  · rw [analyzeStatements_graph, analyzeStatements_graph, registryOf_filter]
  · rw [analyzeStatements_issues, issuesFrom_eq_filterMap]
  · intro style before after statements fields tag hlist htag hunknown
    obtain ⟨first, last, rfl, hlength, hextended⟩ :=
      Decode.list_insert_unknown hlist htag hunknown
    refine ⟨_, hextended, Decode.statementDocument_of_list hextended, ?_⟩
    rw [← hlength]
    exact analyzeStatements_gainsWarning options first last tag

/-- A query and a statement without lineage, as JSON values. -/
def selectThenDrop : List Json × List Json :=
  ([.obj [("type", .str "select"), ("from", .arr [])]],
    [.obj [("type", .str "unsupported"), ("kind", .str "DROP TABLE")]])

/-- The fields of a statement of a type that nobody knows. -/
def mergeFields : List (String × Json) :=
  [("into", .str "x"), ("type", .str "merge"), ("kind", .null)]

theorem analyzeStatements_merging :
    (Decode.list Decode.statement .direct (.arr (selectThenDrop.1 ++ selectThenDrop.2)) =
        .ok [.select {}, .unsupported "DROP TABLE"] ∧
      (Json.obj mergeFields).field? "type" = some (.str "merge") ∧
      "merge" ∉ Decode.statementTags) ∧
    ∃ extended,
      Decode.statementDocument .direct
          (.arr (selectThenDrop.1 ++ .obj mergeFields :: selectThenDrop.2)) = .ok extended ∧
        (analyzeStatements {} [.select {}, .unsupported "DROP TABLE"]).GainsWarning 1 "merge"
          (analyzeStatements {} extended) := by
  have hlist : Decode.list Decode.statement .direct
      (.arr (selectThenDrop.1 ++ selectThenDrop.2)) =
        .ok [.select {}, .unsupported "DROP TABLE"] := rfl
  have hunknown : "merge" ∉ Decode.statementTags := by decide
  obtain ⟨extended, -, hdocument, hgains⟩ := (analyzeStatements_unsupported {}).2 .direct
    selectThenDrop.1 selectThenDrop.2 _ mergeFields "merge" hlist rfl hunknown
  exact ⟨⟨hlist, rfl, hunknown⟩, extended, hdocument, hgains⟩

end SqlLineage
