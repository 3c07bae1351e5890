import SqlLineage.Proofs.Json.Regular
import SqlLineage.Statement.Codec

/-!
# Statements are written without loss

The value that stands for a statement holds no numbers, and no name twice in one object.
-/

namespace SqlLineage

open Json (Regular regular_record names_optional_sublist names_unlessEmpty_sublist
  names_flag_sublist)

theorem TableRef.regular_toJson (table : TableRef) : table.toJson.Regular := by
  apply regular_record ["name", "alias"] (by decide)
  · exact .cons_cons _ (names_optional_sublist _ _)
  · simp [TableRef.fields]

theorem ColumnDefinition.regular_toJson (column : ColumnDefinition) : column.toJson.Regular := by
  apply regular_record ["name", "references"] (by decide)
  · exact .cons_cons _ (names_optional_sublist _ _)
  · simp

theorem regular_stringsToJson (texts : List String) : (stringsToJson texts).Regular := by
  simp [stringsToJson]

theorem ForeignKey.regular_toJson (key : ForeignKey) : key.toJson.Regular := by
  apply regular_record ["columns", "references"] (by decide) (.refl _)
  simp [regular_stringsToJson]

theorem Expression.regular_toJson (expression : Expression) : expression.toJson.Regular := by
  induction expression with
  | column table name =>
    apply regular_record ["type", "table", "column"] (by decide)
    · rw [List.map_cons, List.map_append]
      exact .cons_cons _ ((names_optional_sublist _ _).append (.refl _))
    · simp
  | binary operator left right ihleft ihright =>
    apply regular_record ["type", "operator", "left", "right"] (by decide) (.refl _)
    simp [ihleft, ihright]
  | other =>
    apply regular_record ["type"] (by decide) (.refl _)
    simp

/-! ## Queries -/

theorem obj_body_select (query : Select) : .obj (Statement.select query).body = query.toJson := by
  cases query
  simp [Statement.body, Select.toJson]

theorem names_body_select_sublist (query : Select) :
    ((Statement.select query).body.map Prod.fst).Sublist
      ["with", "from", "columns", "selection", "union"] := by
  obtain ⟨ctes, sources, columns, selection, union⟩ := query
  simp only [Statement.body, Select.toJson, List.map_append]
  exact (((names_unlessEmpty_sublist _ _).append (.refl ["from", "columns"])).append
    (names_optional_sublist _ _)).append (names_unlessEmpty_sublist _ _)

mutual

theorem Select.regular_toJson : ∀ query : Select, query.toJson.Regular
  | ⟨ctes, sources, columns, selection, union⟩ => by
    refine regular_record ["with", "from", "columns", "selection", "union"] (by decide)
      (names_body_select_sublist ⟨ctes, sources, columns, selection, union⟩) ?_
    have hctes := regular_ctesToJson ctes
    have hsources := regular_sourcesToJson sources
    have hunion := regular_branchesToJson union
    simp_all [Expression.regular_toJson]

theorem CommonTable.regular_toJson : ∀ cte : CommonTable, cte.toJson.Regular
  | ⟨name, query⟩ => by
    have hquery := Select.regular_toJson query
    apply regular_record ["name", "query"] (by decide) (.refl _)
    simp [hquery]

theorem FromItem.regular_toJson : ∀ item : FromItem, item.toJson.Regular
  | ⟨source, aliasName, join, condition⟩ => by
    have hsource := TableSource.regular_toJson source
    apply regular_record ["source", "alias", "join", "on"] (by decide)
    · simp only [List.map_cons, List.map_append]
      exact .cons_cons _ (((names_optional_sublist _ _).append
        (names_flag_sublist "join" join)).append (names_optional_sublist _ _))
    · simp [hsource, Expression.regular_toJson]

theorem TableSource.regular_toJson : ∀ source : TableSource, source.toJson.Regular
  | .table name => by
    apply regular_record ["kind", "name"] (by decide) (.refl _)
    simp
  | .subquery query => by
    have hquery := Select.regular_toJson query
    apply regular_record ["kind", "query"] (by decide) (.refl _)
    simp [hquery]

theorem regular_ctesToJson : ∀ ctes : List CommonTable, ∀ item ∈ ctesToJson ctes, item.Regular
  | [] => by simp [ctesToJson]
  | cte :: rest => by
    rw [ctesToJson, List.forall_mem_cons]
    exact ⟨CommonTable.regular_toJson cte, regular_ctesToJson rest⟩

theorem regular_sourcesToJson : ∀ sources : List FromItem,
    ∀ item ∈ sourcesToJson sources, item.Regular
  | [] => by simp [sourcesToJson]
  | item :: rest => by
    rw [sourcesToJson, List.forall_mem_cons]
    exact ⟨FromItem.regular_toJson item, regular_sourcesToJson rest⟩

theorem regular_branchesToJson : ∀ branches : List Select,
    ∀ item ∈ branchesToJson branches, item.Regular
  | [] => by simp [branchesToJson]
  | branch :: rest => by
    rw [branchesToJson, List.forall_mem_cons]
    exact ⟨Select.regular_toJson branch, regular_branchesToJson rest⟩

end

/-! ## Statements -/

theorem InsertSource.regular_toJson (source : InsertSource) : source.toJson.Regular := by
  cases source with
  | values =>
    apply regular_record ["kind"] (by decide) (.refl _)
    simp
  | query query =>
    apply regular_record ["kind", "query"] (by decide) (.refl _)
    simp [query.regular_toJson]
  | defaultValues =>
    apply regular_record ["kind"] (by decide) (.refl _)
    simp

theorem Statement.regular_toJson (statement : Statement) : statement.toJson.Regular := by
  cases statement with
  | select query =>
    have hquery : Regular (.obj (Statement.select query).body) := by
      rw [obj_body_select]
      exact query.regular_toJson
    refine regular_record ["type", "with", "from", "columns", "selection", "union"] (by decide)
      (.cons_cons _ (names_body_select_sublist query)) ?_
    simp [(Json.regular_obj_iff.mp hquery).2]
  | insert parts =>
    apply regular_record ["type", "with", "table", "columns", "source"] (by decide)
    · simp only [Statement.body, List.map_cons, List.map_append]
      exact .cons_cons _ ((names_unlessEmpty_sublist _ _).append (.refl _))
    · have hctes := regular_ctesToJson parts.ctes
      simp_all [Statement.body, regular_stringsToJson, InsertSource.regular_toJson]
  | update parts =>
    refine regular_record ["type", "with", "table", "assignments", "from", "selection"]
      (by decide) ?_ ?_
    · simp only [Statement.body, List.map_cons, List.map_append]
      exact .cons_cons _ ((((names_unlessEmpty_sublist _ _).append
        (.refl ["table", "assignments"])).append (names_unlessEmpty_sublist _ _)).append
        (names_optional_sublist _ _))
    · have hctes := regular_ctesToJson parts.ctes
      have hsources := regular_sourcesToJson parts.sources
      simp_all [Statement.body, regular_stringsToJson, TableRef.regular_toJson,
        Expression.regular_toJson]
  | delete parts =>
    apply regular_record ["type", "with", "table", "using", "selection"] (by decide)
    · simp only [Statement.body, List.map_cons, List.map_append]
      exact .cons_cons _ ((((names_unlessEmpty_sublist _ _).append (.refl ["table"])).append
        (names_unlessEmpty_sublist _ _)).append (names_optional_sublist _ _))
    · have hctes := regular_ctesToJson parts.ctes
      have hsources := regular_sourcesToJson parts.sources
      simp_all [Statement.body, TableRef.regular_toJson, Expression.regular_toJson]
  | createTable parts =>
    apply regular_record ["type", "table", "columns", "foreign_keys", "query"] (by decide)
    · simp only [Statement.body, List.map_cons, List.map_append]
      exact .cons_cons _ (((List.Sublist.refl ["table", "columns"]).append
        (names_unlessEmpty_sublist _ _)).append (names_optional_sublist _ _))
    · simp [Statement.body, ColumnDefinition.regular_toJson, ForeignKey.regular_toJson,
        Select.regular_toJson]
  | createView parts =>
    apply regular_record ["type", "view", "query"] (by decide) (.refl _)
    simp [Statement.body, Select.regular_toJson]
  | alterTable table =>
    apply regular_record ["type", "name", "alias"] (by decide)
    · exact .cons_cons _ (.cons_cons _ (names_optional_sublist _ _))
    · simp [Statement.body, TableRef.fields]
  | unsupported kind =>
    apply regular_record ["type", "kind"] (by decide) (.refl _)
    simp [Statement.body]

end SqlLineage
