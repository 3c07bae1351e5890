import SqlLineage.Proofs.Schema.Shapes
import SqlLineage.Proofs.Statement.RoundTrip

/-!
# What is written validates

Every request, result and statement is written as a value that validates against the published
schema of its type.  The proofs follow the types, and each shape of a schema takes what is written
for it as soon as it takes the parts.
-/

namespace SqlLineage.Schema

open Filter (atTop)
open Json (valuesOf valuesOf_cons)

/-- A value validates against a schema of a document. -/
def Accepts (root : Json) (schema : Schema) (value : Json) : Prop :=
  Validates root (toJson schema) value

variable {root value : Json} {schema : Schema} {name : String}

/-- The first step is one that can be spared. -/
theorem accepts_iff_succ :
    Accepts root schema value ↔
      ∀ᶠ steps in atTop, conforms root (steps + 1) (toJson schema) value := by
  rw [Accepts, Validates]
  conv_lhs => rw [← Filter.map_add_atTop_eq_nat 1, Filter.eventually_map]

theorem eventually_forall_mem {α : Type} {items : List α} {holds : Nat → α → Prop} :
    (∀ᶠ steps in atTop, ∀ x ∈ items, holds steps x) ↔
      ∀ x ∈ items, ∀ᶠ steps in atTop, holds steps x :=
  Filter.eventually_all_finite items.finite_toSet

/-! ## Shapes -/

@[simp]
theorem accepts_describe (about : String) :
    Accepts root (describe about schema) value ↔ Accepts root schema value := by
  simp only [Accepts, Validates, conforms_describe]

@[simp]
theorem accepts_default (fallback : Json) :
    Accepts root (.default fallback :: schema) value ↔ Accepts root schema value := by
  simp only [Accepts, Validates, conforms_default]

@[simp]
theorem accepts_orDefault (fallback : Json) :
    Accepts root (orDefault fallback schema) value ↔ Accepts root schema value := by
  simp only [Accepts, Validates, conforms_orDefault]

@[simp]
theorem accepts_text (content : String) : Accepts root text (.str content) := by
  simp [accepts_iff_succ, conforms_text]

@[simp]
theorem accepts_optionalText (content : String) : Accepts root optionalText (.str content) := by
  simp [accepts_iff_succ, conforms_optionalText]

@[simp]
theorem accepts_truth (flag : Bool) : Accepts root truth (.bool flag) := by
  simp [accepts_iff_succ, conforms_truth]

@[simp]
theorem accepts_unsigned (width : String) (n : Nat) : Accepts root (unsigned width) (.nat n) := by
  simp [accepts_iff_succ, conforms_unsigned]

@[simp]
theorem accepts_word (word : String) : Accepts root (Schema.word word) (.str word) := by
  simp [accepts_iff_succ, conforms_word]

theorem accepts_words {names : List String} (hname : name ∈ names) :
    Accepts root (words names) (.str name) := by
  simp [accepts_iff_succ, conforms_words, hname]

theorem accepts_describedWords {choices : List (String × String)}
    (hwords : (choices.map Prod.fst).Nodup) (hname : name ∈ choices.map Prod.fst) :
    Accepts root (describedWords choices) (.str name) := by
  obtain ⟨choice, hchoice, rfl⟩ := List.mem_map.mp hname
  rw [accepts_iff_succ]
  filter_upwards [Filter.eventually_gt_atTop 0] with steps hsteps
  exact (conforms_describedWords hwords).mpr ⟨hsteps, choice, hchoice, rfl⟩

@[simp]
theorem accepts_alsoDefined :
    Accepts root (alsoDefined name) value ↔ Accepts root (defined name) value := by
  rw [accepts_iff_succ]
  simp only [conforms_alsoDefined]
  rfl

theorem accepts_optional (hdefined : Accepts root (defined name) value) :
    Accepts root (optional name) value := by
  rw [accepts_iff_succ]
  filter_upwards [hdefined] with steps hsteps
  exact conforms_optional.mpr (.inl hsteps)

@[simp]
theorem accepts_list {item : Schema} {items : List Json} :
    Accepts root (list item) (.arr items) ↔ ∀ x ∈ items, Accepts root item x := by
  rw [accepts_iff_succ]
  simp only [conforms_list, Json.arr.injEq, exists_eq_left']
  exact eventually_forall_mem

@[simp]
theorem accepts_optionalList {item : Schema} {items : List Json} :
    Accepts root [.type [.array, .null], .items item] (.arr items) ↔
      ∀ x ∈ items, Accepts root item x := by
  rw [accepts_iff_succ]
  simp only [conforms_optionalList, reduceCtorEq, false_or, Json.arr.injEq, exists_eq_left']
  exact eventually_forall_mem

@[simp]
theorem accepts_optionalUnsigned (width : String) (n : Nat) :
    Accepts root [.type [.integer, .null], .format width, .minimum 0] (.nat n) := by
  simp [accepts_iff_succ, conforms_optionalUnsigned]

@[simp]
theorem accepts_entries {item : Schema} {parts : List (String × Json)} :
    Accepts root [.type [.object], .additionalProperties item] (.obj parts) ↔
      ∀ part ∈ parts, Accepts root item part.2 := by
  rw [accepts_iff_succ]
  simp only [conforms_entries]
  exact eventually_forall_mem

/-- A record takes an object if its fields take the parts. -/
theorem accepts_record {fields : List Field} {parts : List (String × Json)} :
    Accepts root (record fields) (.obj parts) ↔ Fits (Accepts root) fields parts := by
  rw [accepts_iff_succ]
  simp only [conforms_record, Json.obj.injEq, exists_eq_left', Fits]
  rw [eventually_forall_mem]
  refine forall₂_congr fun field _ => ?_
  rw [Filter.eventually_and, eventually_forall_mem, Filter.eventually_const]
  rfl

/-- A schema takes what one of its alternatives takes. -/
theorem accepts_alternative {form : Schema}
    (hchoice : ∀ {steps}, conforms root (steps + 1) (toJson schema) value ↔
      ∃ form ∈ alternatives schema, conforms root steps (toJson form) value)
    (hmem : form ∈ alternatives schema) (haccepts : Accepts root form value) :
    Accepts root schema value := by
  rw [accepts_iff_succ]
  filter_upwards [haccepts] with steps hsteps
  exact hchoice.mpr ⟨form, hmem, hsteps⟩

theorem accepts_anyOf {schemas : List Schema} (hmem : schema ∈ schemas)
    (haccepts : Accepts root schema value) : Accepts root [.anyOf schemas] value := by
  rw [accepts_iff_succ]
  filter_upwards [haccepts] with steps hsteps
  rw [conforms_of_plain [.anyOf schemas] rfl]
  simp only [List.all_cons, holds_anyOf, List.all_nil, Bool.and_true, List.any_eq_true]
  exact ⟨schema, hmem, hsteps⟩

theorem accepts_statementOf {type : String} (htype : Accepts root (variant "type" type []) value)
    (hdefined : Accepts root (defined name) value) :
    Accepts root (statementOf type name) value := by
  rw [accepts_iff_succ] at htype ⊢
  filter_upwards [htype, hdefined] with steps hsteps hbody
  exact conforms_statementOf.mpr ⟨hsteps, hbody⟩

/-- A definition takes what the schema takes that it stands for. -/
theorem accepts_defined {document : SchemaDocument}
    (hlookup : document.definitions.lookup name = some schema) :
    Accepts document.toJson (defined name) value ↔ Accepts document.toJson schema value := by
  rw [accepts_iff_succ]
  simp only [conforms_defined, definition?_document, hlookup]
  rfl

/-! ## Requests -/

section Requests

theorem accepts_sourceLinking (linking : SourceLinking) :
    Accepts requestDocument.toJson (defined "SourceLinking") (.str linking.name) := by
  rw [accepts_defined rfl, sourceLinking, accepts_describe]
  cases linking <;> exact accepts_describedWords (by decide) (by decide)

theorem accepts_dialect (language : Dialect) :
    Accepts requestDocument.toJson (defined "Dialect") (.str language.name) := by
  rw [accepts_defined rfl, dialect, accepts_describe]
  cases language <;> exact accepts_words (by decide)

theorem accepts_options (chosen : Options) :
    Accepts requestDocument.toJson (defined "AnalysisOptions") chosen.toJson := by
  rw [accepts_defined rfl, options, Options.toJson, accepts_describe, accepts_record]
  simp [Fits, may, accepts_sourceLinking]

theorem accepts_sourceFile (file : SourceFile) :
    Accepts requestDocument.toJson (defined "FileSource") file.toJson := by
  rw [accepts_defined rfl, sourceFile, SourceFile.toJson, accepts_record]
  simp [Fits, need]

theorem accepts_request (request : Request) :
    Accepts requestDocument.toJson Schema.request request.toJson := by
  rw [Schema.request, Request.toJson, accepts_describe, accepts_record]
  simp [Fits, may, accepts_dialect, accepts_sourceFile, accepts_optional, accepts_options]

end Requests

/-! ## Results -/

section Results

theorem accepts_tableKind (kind : TableKind) :
    Accepts resultDocument.toJson (defined "TableKind") (.str kind.name) := by
  rw [accepts_defined rfl, tableKind, accepts_describe]
  cases kind <;> exact accepts_describedWords (by decide) (by decide)

theorem accepts_columnRole (role : ColumnRole) :
    Accepts resultDocument.toJson (defined "ColumnRole") (.str role.name) := by
  rw [accepts_defined rfl, columnRole, accepts_describe]
  cases role <;> exact accepts_describedWords (by decide) (by decide)

theorem accepts_relationshipKind (kind : RelationshipKind) :
    Accepts resultDocument.toJson (defined "RelationshipKind") (.str kind.name) := by
  rw [accepts_defined rfl, relationshipKind]
  cases kind <;> exact accepts_words (by decide)

theorem accepts_nodeType (type : NodeType) :
    Accepts resultDocument.toJson (defined "NodeType") (.str type.name) := by
  rw [accepts_defined rfl, nodeType]
  cases type <;> exact accepts_words (by decide)

theorem accepts_severity (severity : Severity) :
    Accepts resultDocument.toJson (defined "Severity") (.str severity.name) := by
  rw [accepts_defined rfl, Schema.severity]
  cases severity <;> exact accepts_words (by decide)

theorem accepts_columnEntry (column : ColumnEntry) :
    Accepts resultDocument.toJson (defined "ColumnEntry") column.toJson := by
  rw [accepts_defined rfl, columnEntry, ColumnEntry.toJson, accepts_describe, accepts_record]
  simp [Fits, need, accepts_columnRole]

theorem accepts_tableNode (table : TableNode) :
    Accepts resultDocument.toJson (defined "TableNodeData") table.toJson := by
  rw [accepts_defined rfl, tableNode, TableNode.toJson, accepts_record]
  simp [Fits, need, accepts_tableKind, accepts_columnEntry, accepts_nodeType]

theorem accepts_columnNode (column : ColumnNode) :
    Accepts resultDocument.toJson (defined "ColumnNodeData") column.toJson := by
  rw [accepts_defined rfl, columnNode, ColumnNode.toJson, accepts_record]
  simp [Fits, need, accepts_columnRole, accepts_nodeType]

theorem accepts_node (node : Node) :
    Accepts resultDocument.toJson (defined "GraphNode") node.toJson := by
  have hdata : Accepts resultDocument.toJson (defined "NodeData") node.dataJson := by
    rw [accepts_defined rfl, nodeData, accepts_describe]
    cases node with
    | table data => exact accepts_anyOf (by simp) (accepts_tableNode data)
    | column data => exact accepts_anyOf (by simp) (accepts_columnNode data)
  rw [accepts_defined rfl, graphNode, Node.toJson, accepts_record]
  simp [Fits, need, hdata]

theorem accepts_edge (edge : Edge) :
    Accepts resultDocument.toJson (defined "GraphEdge") edge.toJson := by
  have hdata : Accepts resultDocument.toJson (defined "EdgeData")
      (.obj [("id", .str edge.id), ("source", .str edge.source), ("target", .str edge.target),
        ("label", .str edge.label.name), ("type", .str edge.kind.name)]) := by
    rw [accepts_defined rfl, edgeData, accepts_record]
    simp [Fits, need, accepts_relationshipKind]
  rw [accepts_defined rfl, graphEdge, Edge.toJson, accepts_record]
  simp [Fits, need, hdata]

theorem accepts_summary (totals : Summary) :
    Accepts resultDocument.toJson (defined "GraphSummary") totals.toJson := by
  have htypes : Accepts resultDocument.toJson
      [.type [.object], .additionalProperties (unsigned "uint")] totals.tableTypes.toJson := by
    rw [KindCounts.toJson, accepts_entries, List.forall_mem_map]
    exact fun _ _ => accepts_unsigned _ _
  rw [accepts_defined rfl, summary, Summary.toJson, accepts_record]
  simp [Fits, need, htypes]

theorem accepts_issue (issue : Issue) :
    Accepts resultDocument.toJson (defined "Issue") issue.toJson := by
  rw [accepts_defined rfl, Schema.issue, Issue.toJson, accepts_describe, accepts_record]
  simp [Fits, need, may, accepts_severity]

theorem accepts_result (result : Result) :
    Accepts resultDocument.toJson Schema.result result.toJson := by
  rw [Schema.result, Result.toJson, accepts_describe, accepts_record]
  simp [Fits, need, may, Graph.fields, accepts_node, accepts_edge, accepts_summary, accepts_issue]

end Results

/-! ## Statements -/

section Statements

theorem accepts_tableRef (table : TableRef) :
    Accepts statementDocument.toJson (defined "TableRef") table.toJson := by
  rw [accepts_defined rfl, Schema.tableRef, TableRef.toJson, accepts_describe, accepts_record]
  simp [Fits, need, may, TableRef.fields]

theorem accepts_columnDefinition (column : ColumnDefinition) :
    Accepts statementDocument.toJson (defined "ColumnDefinition") column.toJson := by
  rw [accepts_defined rfl, columnDefinition, ColumnDefinition.toJson, accepts_record]
  simp [Fits, need, may]

theorem accepts_listOrEmpty {item : Schema} {items : List Json} :
    Accepts root (listOrEmpty item) (.arr items) ↔ ∀ x ∈ items, Accepts root item x := by
  rw [listOrEmpty, accepts_orDefault, accepts_list]

theorem accepts_foreignKey (key : ForeignKey) :
    Accepts statementDocument.toJson (defined "ForeignKey") key.toJson := by
  rw [accepts_defined rfl, foreignKey, ForeignKey.toJson, accepts_record]
  simp [Fits, need, may, stringsToJson, accepts_listOrEmpty]

theorem accepts_operator (operator : Operator) :
    Accepts statementDocument.toJson (defined "BinaryOperator") (.str operator.name) := by
  rw [accepts_defined rfl, Schema.operator]
  cases operator <;> exact accepts_words (by decide)

theorem accepts_expression_of {form : Schema} (hmem : form ∈ alternatives Schema.expression)
    (haccepts : Accepts statementDocument.toJson form value) :
    Accepts statementDocument.toJson (defined "Expression") value :=
  (accepts_defined rfl).mpr (accepts_alternative conforms_expression hmem haccepts)

theorem accepts_expression (expression : Expression) :
    Accepts statementDocument.toJson (defined "Expression") expression.toJson := by
  induction expression with
  | column table name =>
    refine accepts_expression_of List.mem_cons_self ?_
    rw [accepts_describe, variant, Expression.toJson, accepts_record]
    simp [Fits, need, may]
  | binary operator left right ihleft ihright =>
    refine accepts_expression_of (.tail _ (.head _)) ?_
    rw [variant, Expression.toJson, accepts_record]
    simp [Fits, need, accepts_operator, ihleft, ihright]
  | other =>
    refine accepts_expression_of (.tail _ (.tail _ (.head _))) ?_
    rw [variant, Expression.toJson, accepts_record]
    simp [Fits, need]

theorem accepts_optionalExpression (expression : Expression) :
    Accepts statementDocument.toJson (optional "Expression") expression.toJson :=
  accepts_optional (accepts_expression expression)

/-! ### Queries -/

mutual

theorem accepts_select : ∀ query : Select,
    Accepts statementDocument.toJson (defined "SelectStatement") query.toJson
  | ⟨ctes, sources, columns, selection, union⟩ => by
    have hctes := accepts_ctes ctes
    have hsources := accepts_sources sources
    have hunion := accepts_branches union
    rw [accepts_defined rfl, Schema.query, accepts_describe, Select.toJson, accepts_record]
    simp [Fits, may, commonTables, accepts_listOrEmpty, accepts_expression,
      accepts_optionalExpression]
    exact ⟨fun _ => hctes, hsources, fun _ => hunion⟩

theorem accepts_commonTable : ∀ cte : CommonTable,
    Accepts statementDocument.toJson (defined "CommonTableExpr") cte.toJson
  | ⟨name, query⟩ => by
    have hquery := accepts_select query
    rw [accepts_defined rfl, Schema.commonTable, CommonTable.toJson, accepts_record]
    simp [Fits, need, hquery]

theorem accepts_fromItem : ∀ item : FromItem,
    Accepts statementDocument.toJson (defined "FromItem") item.toJson
  | ⟨source, aliasName, join, condition⟩ => by
    have hsource := accepts_tableSource source
    rw [accepts_defined rfl, Schema.fromItem, accepts_describe, FromItem.toJson, accepts_record]
    simp [Fits, need, may, hsource, accepts_optionalExpression]

theorem accepts_tableSource : ∀ source : TableSource,
    Accepts statementDocument.toJson (defined "TableSource") source.toJson
  | .table name => by
    rw [accepts_defined rfl]
    refine accepts_alternative conforms_tableSource List.mem_cons_self ?_
    rw [variant, TableSource.toJson, accepts_record]
    simp [Fits, need]
  | .subquery query => by
    have hquery := accepts_select query
    rw [accepts_defined rfl]
    refine accepts_alternative conforms_tableSource (.tail _ (.head _)) ?_
    rw [variant, TableSource.toJson, accepts_record]
    simp [Fits, need, hquery]

theorem accepts_ctes : ∀ ctes : List CommonTable, ∀ item ∈ ctesToJson ctes,
    Accepts statementDocument.toJson (defined "CommonTableExpr") item
  | [] => by simp [ctesToJson]
  | cte :: rest => by
    rw [ctesToJson, List.forall_mem_cons]
    exact ⟨accepts_commonTable cte, accepts_ctes rest⟩

theorem accepts_sources : ∀ sources : List FromItem, ∀ item ∈ sourcesToJson sources,
    Accepts statementDocument.toJson (defined "FromItem") item
  | [] => by simp [sourcesToJson]
  | item :: rest => by
    rw [sourcesToJson, List.forall_mem_cons]
    exact ⟨accepts_fromItem item, accepts_sources rest⟩

theorem accepts_branches : ∀ branches : List Select, ∀ item ∈ branchesToJson branches,
    Accepts statementDocument.toJson (defined "SelectStatement") item
  | [] => by simp [branchesToJson]
  | branch :: rest => by
    rw [branchesToJson, List.forall_mem_cons]
    exact ⟨accepts_select branch, accepts_branches rest⟩

end

/-! ### Statements by their types -/

theorem accepts_insertSource (source : InsertSource) :
    Accepts statementDocument.toJson (defined "InsertSource") source.toJson := by
  rw [accepts_defined rfl]
  cases source with
  | values =>
    refine accepts_alternative conforms_insertSource List.mem_cons_self ?_
    rw [variant, InsertSource.toJson, accepts_record]
    simp [Fits, need]
  | query query =>
    refine accepts_alternative conforms_insertSource (.tail _ (.head _)) ?_
    rw [variant, InsertSource.toJson, accepts_record]
    simp [Fits, need, accepts_select]
  | defaultValues =>
    refine accepts_alternative conforms_insertSource (.tail _ (.tail _ (.head _))) ?_
    rw [variant, InsertSource.toJson, accepts_record]
    simp [Fits, need]

theorem accepts_optionalSelect (query : Select) :
    Accepts statementDocument.toJson (optional "SelectStatement") query.toJson :=
  accepts_optional (accepts_select query)

theorem accepts_selectStatement (query : Select) :
    Accepts statementDocument.toJson (defined "SelectStatement")
      (Statement.select query).toJson := by
  have hquery := accepts_select query
  rw [← obj_body_select] at hquery
  rw [Statement.toJson]
  rw [accepts_defined rfl, Schema.query, accepts_describe, accepts_record] at hquery ⊢
  intro field hfield
  have htype : ("type" == field.name) = false := by
    revert field
    simp [may]
  rw [valuesOf_cons, htype]
  exact hquery field hfield

theorem accepts_insert (parts : Insert) :
    Accepts statementDocument.toJson (defined "InsertStatement")
      (Statement.insert parts).toJson := by
  rw [accepts_defined rfl, Schema.insert, Statement.toJson, Statement.body, accepts_record]
  simp [Fits, need, may, commonTables, accepts_listOrEmpty, accepts_insertSource, stringsToJson]
  exact fun _ => accepts_ctes _

theorem accepts_update (parts : Update) :
    Accepts statementDocument.toJson (defined "UpdateStatement")
      (Statement.update parts).toJson := by
  rw [accepts_defined rfl, Schema.update, Statement.toJson, Statement.body, accepts_record]
  simp [Fits, need, may, commonTables, accepts_listOrEmpty, accepts_tableRef, stringsToJson,
    accepts_optionalExpression]
  exact ⟨fun _ => accepts_ctes _, fun _ => accepts_sources _⟩

theorem accepts_delete (parts : Delete) :
    Accepts statementDocument.toJson (defined "DeleteStatement")
      (Statement.delete parts).toJson := by
  rw [accepts_defined rfl, Schema.delete, Statement.toJson, Statement.body, accepts_record]
  simp [Fits, need, may, commonTables, accepts_tableRef, accepts_optionalExpression]
  exact ⟨fun _ => accepts_ctes _, fun _ => accepts_sources _⟩

theorem accepts_createTable (parts : CreateTable) :
    Accepts statementDocument.toJson (defined "CreateTableStatement")
      (Statement.createTable parts).toJson := by
  rw [accepts_defined rfl, Schema.createTable, Statement.toJson, Statement.body, accepts_record]
  simp [Fits, need, may, accepts_listOrEmpty, accepts_columnDefinition, accepts_foreignKey,
    accepts_optionalSelect]

theorem accepts_createView (parts : CreateView) :
    Accepts statementDocument.toJson (defined "CreateViewStatement")
      (Statement.createView parts).toJson := by
  rw [accepts_defined rfl, Schema.createView, Statement.toJson, Statement.body, accepts_record]
  simp [Fits, need, accepts_select]

theorem accepts_alterTable (table : TableRef) :
    Accepts statementDocument.toJson (defined "TableRef") (Statement.alterTable table).toJson := by
  rw [accepts_defined rfl, Schema.tableRef, Statement.toJson, Statement.body, accepts_describe,
    accepts_record]
  simp [Fits, need, may, TableRef.fields]

theorem valuesOf_type_body (statement : Statement) : valuesOf "type" statement.body = [] := by
  cases statement with
  | select query =>
    obtain ⟨ctes, sources, columns, selection, union⟩ := query
    simp [Statement.body, Select.toJson]
  | _ => simp [Statement.body, TableRef.fields]

/-- A statement is of its type. -/
theorem accepts_type (statement : Statement) :
    Accepts statementDocument.toJson (variant "type" statement.tag []) statement.toJson := by
  rw [variant, Statement.toJson, accepts_record]
  simp [Fits, need, valuesOf_type_body]

theorem accepts_statement (statement : Statement) :
    Accepts statementDocument.toJson Schema.statement statement.toJson := by
  have htype := accepts_type statement
  cases statement with
  | select query =>
    exact accepts_alternative conforms_statement (.head _)
      (accepts_statementOf htype (accepts_selectStatement query))
  | insert parts =>
    exact accepts_alternative conforms_statement (.tail _ (.head _))
      (accepts_statementOf htype (accepts_insert parts))
  | update parts =>
    exact accepts_alternative conforms_statement (.tail _ (.tail _ (.head _)))
      (accepts_statementOf htype (accepts_update parts))
  | delete parts =>
    exact accepts_alternative conforms_statement (.tail _ (.tail _ (.tail _ (.head _))))
      (accepts_statementOf htype (accepts_delete parts))
  | createTable parts =>
    exact accepts_alternative conforms_statement (.tail _ (.tail _ (.tail _ (.tail _ (.head _)))))
      (accepts_statementOf htype (accepts_createTable parts))
  | createView parts =>
    exact accepts_alternative conforms_statement
      (.tail _ (.tail _ (.tail _ (.tail _ (.tail _ (.head _))))))
      (accepts_statementOf htype (accepts_createView parts))
  | alterTable table =>
    exact accepts_alternative conforms_statement
      (.tail _ (.tail _ (.tail _ (.tail _ (.tail _ (.tail _ (.head _)))))))
      (accepts_statementOf htype (accepts_alterTable table))
  | unsupported kind =>
    refine accepts_alternative conforms_statement
      (.tail _ (.tail _ (.tail _ (.tail _ (.tail _ (.tail _ (.tail _ (.head _)))))))) ?_
    rw [accepts_describe, variant, Statement.toJson, Statement.tag, Statement.body, accepts_record]
    simp [Fits, need]

end Statements

end SqlLineage.Schema
