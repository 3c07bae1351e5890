import SqlLineage.Proofs.Decode.Records
import SqlLineage.Proofs.Statement.Regular

/-!
# Statements are read back

Every decoder of a part of a statement undoes the way the part is written.  The proofs follow the
types: a record is read back if its fields are, and a part that nests is read back given more steps
than it is deep.
-/

namespace SqlLineage

namespace Decode

variable (style : Style)

theorem tableRef_toJson (table : TableRef) : tableRef style table.toJson = .ok table := by
  rw [tableRef, TableRef.toJson, TableRef.fields]
  apply Shape.record_named 2
  dsimp only
  rw [slot_eq_found "name" (string_str table.name),
    slot_nullable "alias" (nullable_str table.aliasName)]
  · rw [Slot.fault?_ofOption, Slot.orElse_nullable]
    rfl
  · simp
  · simp

theorem columnDefinition_toJson (column : ColumnDefinition) :
    columnDefinition style column.toJson = .ok column := by
  rw [columnDefinition, ColumnDefinition.toJson]
  apply Shape.record_named 2
  dsimp only
  rw [slot_eq_found "name" (string_str column.name),
    slot_nullable "references" (nullable_str column.references)]
  · rw [Slot.fault?_ofOption, Slot.orElse_nullable]
    rfl
  · simp
  · simp

theorem foreignKey_toJson (key : ForeignKey) : foreignKey style key.toJson = .ok key := by
  rw [foreignKey, ForeignKey.toJson, stringsToJson]
  apply Shape.record_named 2
  dsimp only
  rw [slot_eq_found "columns" (list_strings key.columns),
    slot_eq_found "references" (string_str key.references)]
  · rfl
  · simp
  · simp

/-! ## Expressions -/

theorem Operator.lookup_name (operator : Operator) :
    Operator.choices.lookup operator.name = some operator := by
  cases operator <;> rfl

theorem columnOfParts_fields (table : Option String) (column : String) :
    columnOfParts style
      (.obj (Json.optional "table" (table.map Json.str) ++ [("column", .str column)])) =
      .ok (.column table column) := by
  rw [columnOfParts]
  apply Shape.record_named 2
  dsimp only
  rw [slot_nullable "table" (nullable_str table), slot_eq_found "column" (string_str column)]
  · rw [Slot.fault?_ofOption, Slot.orElse_nullable]
    rfl
  · simp
  · simp

theorem decodeExpression_toJson : ∀ (fuel : Nat) (expression : Expression),
    expression.toJson.depth < fuel →
      decodeExpression fuel style expression.toJson = .ok expression
  | 0, _, hdepth => absurd hdepth (Nat.not_lt_zero _)
  | fuel + 1, .column table column, _ => by
    rw [decodeExpression, Expression.toJson, splitTag_variant rfl]
    exact columnOfParts_fields style table column
  | fuel + 1, .binary operator left right, hdepth => by
    have hleft : left.toJson.depth < fuel := Json.depth_lt_of_field "left" hdepth (by simp)
    have hright : right.toJson.depth < fuel := Json.depth_lt_of_field "right" hdepth (by simp)
    rw [decodeExpression, Expression.toJson, splitTag_variant rfl]
    apply Shape.record_named 3
    dsimp only
    rw [slot_eq_found "operator" (word_str (Operator.lookup_name operator)),
      slot_eq_found "left" (decodeExpression_toJson fuel left hleft),
      slot_eq_found "right" (decodeExpression_toJson fuel right hright)]
    · rfl
    · simp
    · simp
    · simp
  | fuel + 1, .other, _ => by
    rw [decodeExpression, Expression.toJson, splitTag_variant rfl]
    rfl

theorem expression_toJson (value : Expression) : expression style value.toJson = .ok value :=
  decodeExpression_toJson style _ value (Nat.lt_succ_self _)

theorem nullable_expression (value : Option Expression) :
    ∀ x ∈ value, x.toJson ≠ .null ∧ expression style x.toJson = .ok x := by
  intro x _
  refine ⟨?_, expression_toJson style x⟩
  cases x <;> simp [Expression.toJson]

/-! ## Queries -/

theorem ctesToJson_eq_map (ctes : List CommonTable) :
    ctesToJson ctes = ctes.map CommonTable.toJson := by
  induction ctes with
  | nil => rfl
  | cons cte rest ih => rw [ctesToJson, ih, List.map_cons]

theorem sourcesToJson_eq_map (sources : List FromItem) :
    sourcesToJson sources = sources.map FromItem.toJson := by
  induction sources with
  | nil => rfl
  | cons item rest ih => rw [sourcesToJson, ih, List.map_cons]

theorem branchesToJson_eq_map (branches : List Select) :
    branchesToJson branches = branches.map Select.toJson := by
  induction branches with
  | nil => rfl
  | cons branch rest ih => rw [branchesToJson, ih, List.map_cons]

mutual

theorem decodeSelect_toJson : ∀ (fuel : Nat) (query : Select), query.toJson.depth < fuel →
    decodeSelect fuel style query.toJson = .ok query
  | 0, _, hdepth => absurd hdepth (Nat.not_lt_zero _)
  | fuel + 1, ⟨ctes, sources, columns, selection, union⟩, hdepth => by
    rw [Select.toJson, ctesToJson_eq_map, sourcesToJson_eq_map, branchesToJson_eq_map] at hdepth ⊢
    have hctes : ∀ cte ∈ ctes, decodeCommonTable fuel style cte.toJson = .ok cte := by
      intro cte hcte
      have hlist : (Json.arr (ctes.map CommonTable.toJson)).depth < fuel :=
        Json.depth_lt_of_field "with" hdepth (by simp [List.ne_nil_of_mem hcte])
      exact decodeCommonTable_toJson fuel cte
        (Json.depth_lt_of_item hlist (List.mem_map_of_mem hcte))
    have hsources : ∀ item ∈ sources, decodeFromItem fuel style item.toJson = .ok item := by
      intro item hitem
      have hlist : (Json.arr (sources.map FromItem.toJson)).depth < fuel :=
        Json.depth_lt_of_field "from" hdepth (by simp)
      exact decodeFromItem_toJson fuel item
        (Json.depth_lt_of_item hlist (List.mem_map_of_mem hitem))
    have hunion : ∀ branch ∈ union, decodeSelect fuel style branch.toJson = .ok branch := by
      intro branch hbranch
      have hlist : (Json.arr (union.map Select.toJson)).depth < fuel :=
        Json.depth_lt_of_field "union" hdepth (by simp [List.ne_nil_of_mem hbranch])
      exact decodeSelect_toJson fuel branch
        (Json.depth_lt_of_item hlist (List.mem_map_of_mem hbranch))
    rw [decodeSelect]
    apply Shape.record_named 5
    dsimp only
    rw [slot_unlessEmpty "with" hctes, slot_eq_found "from" (list_map hsources),
      slot_eq_found "columns" (list_map fun column _ => expression_toJson style column),
      slot_nullable "selection" (nullable_expression style selection),
      slot_unlessEmpty "union" hunion]
    · simp only [Slot.fault?_ofOption, Slot.orElse_nullable, Slot.orElse_unlessEmpty]
      rfl
    · simp
    · simp
    · simp
    · simp
    · simp

theorem decodeCommonTable_toJson : ∀ (fuel : Nat) (cte : CommonTable), cte.toJson.depth < fuel →
    decodeCommonTable fuel style cte.toJson = .ok cte
  | 0, _, hdepth => absurd hdepth (Nat.not_lt_zero _)
  | fuel + 1, ⟨name, query⟩, hdepth => by
    rw [CommonTable.toJson] at hdepth ⊢
    have hquery : query.toJson.depth < fuel := Json.depth_lt_of_field "query" hdepth (by simp)
    rw [decodeCommonTable]
    apply Shape.record_named 2
    dsimp only
    rw [slot_eq_found "name" (string_str name),
      slot_eq_found "query" (decodeSelect_toJson fuel query hquery)]
    · rfl
    · simp
    · simp

theorem decodeFromItem_toJson : ∀ (fuel : Nat) (item : FromItem), item.toJson.depth < fuel →
    decodeFromItem fuel style item.toJson = .ok item
  | 0, _, hdepth => absurd hdepth (Nat.not_lt_zero _)
  | fuel + 1, ⟨source, aliasName, join, condition⟩, hdepth => by
    rw [FromItem.toJson] at hdepth ⊢
    have hsource : source.toJson.depth < fuel := Json.depth_lt_of_field "source" hdepth (by simp)
    rw [decodeFromItem]
    apply Shape.record_named 4
    dsimp only
    rw [slot_eq_found "source" (decodeTableSource_toJson fuel source hsource),
      slot_nullable "alias" (nullable_str aliasName), slot_flag "join" join,
      slot_nullable "on" (nullable_expression style condition)]
    · simp only [Slot.fault?_ofOption, Slot.orElse_nullable, Slot.orElse_flag]
      rfl
    · simp
    · simp
    · simp
    · simp

theorem decodeTableSource_toJson : ∀ (fuel : Nat) (source : TableSource),
    source.toJson.depth < fuel → decodeTableSource fuel style source.toJson = .ok source
  | 0, _, hdepth => absurd hdepth (Nat.not_lt_zero _)
  | fuel + 1, .table name, _ => by
    rw [decodeTableSource, TableSource.toJson, splitTag_variant rfl, if_pos rfl]
    apply Shape.record_named 1
    dsimp only
    rw [slot_eq_found "name" (string_str name)]
    · rfl
    · simp
  | fuel + 1, .subquery query, hdepth => by
    rw [TableSource.toJson] at hdepth ⊢
    have hquery : query.toJson.depth < fuel := Json.depth_lt_of_field "query" hdepth (by simp)
    rw [decodeTableSource, splitTag_variant rfl, if_neg Bool.false_ne_true]
    apply Shape.record_named 1
    dsimp only
    rw [slot_eq_found "query" (decodeSelect_toJson fuel query hquery)]
    · rfl
    · simp

end

theorem select_toJson (query : Select) : select style query.toJson = .ok query :=
  decodeSelect_toJson style _ query (Nat.lt_succ_self _)

theorem commonTable_toJson (cte : CommonTable) : commonTable style cte.toJson = .ok cte :=
  decodeCommonTable_toJson style _ cte (Nat.lt_succ_self _)

theorem fromItem_toJson (item : FromItem) : fromItem style item.toJson = .ok item :=
  decodeFromItem_toJson style _ item (Nat.lt_succ_self _)

theorem nullable_select (query : Option Select) :
    ∀ x ∈ query, x.toJson ≠ .null ∧ select style x.toJson = .ok x := by
  intro x _
  refine ⟨?_, select_toJson style x⟩
  cases x
  simp [Select.toJson]

/-! ## Statements -/

theorem insertSource_toJson (source : InsertSource) :
    insertSource style source.toJson = .ok source := by
  cases source with
  | values =>
    rw [insertSource, InsertSource.toJson, splitTag_variant rfl]
    rfl
  | defaultValues =>
    rw [insertSource, InsertSource.toJson, splitTag_variant rfl]
    rfl
  | query query =>
    rw [insertSource, InsertSource.toJson, splitTag_variant rfl]
    apply Shape.record_named 1
    dsimp only
    rw [slot_eq_found "query" (select_toJson style query)]
    · rfl
    · simp

theorem insert_body (parts : Insert) :
    insert style (.obj (Statement.insert parts).body) = .ok parts := by
  rw [insert, Statement.body, ctesToJson_eq_map, stringsToJson]
  apply Shape.record_named 4
  dsimp only
  rw [slot_unlessEmpty "with" (fun cte _ => commonTable_toJson style cte),
    slot_eq_found "table" (string_str parts.table),
    slot_eq_found "columns" (list_strings parts.columns),
    slot_eq_found "source" (insertSource_toJson style parts.source)]
  · simp only [Slot.fault?_ofOption, Slot.orElse_unlessEmpty]
    rfl
  · simp
  · simp
  · simp
  · simp

theorem update_body (parts : Update) :
    update style (.obj (Statement.update parts).body) = .ok parts := by
  rw [update, Statement.body, ctesToJson_eq_map, sourcesToJson_eq_map, stringsToJson]
  apply Shape.record_named 5
  dsimp only
  rw [slot_unlessEmpty "with" (fun cte _ => commonTable_toJson style cte),
    slot_eq_found "table" (tableRef_toJson style parts.table),
    slot_eq_found "assignments" (list_strings parts.assignments),
    slot_unlessEmpty "from" (fun item _ => fromItem_toJson style item),
    slot_nullable "selection" (nullable_expression style parts.selection)]
  · simp only [Slot.fault?_ofOption, Slot.orElse_nullable, Slot.orElse_unlessEmpty]
    rfl
  · simp
  · simp
  · simp
  · simp
  · simp

theorem delete_body (parts : Delete) :
    delete style (.obj (Statement.delete parts).body) = .ok parts := by
  rw [delete, Statement.body, ctesToJson_eq_map, sourcesToJson_eq_map]
  apply Shape.record_named 4
  dsimp only
  rw [slot_unlessEmpty "with" (fun cte _ => commonTable_toJson style cte),
    slot_eq_found "table" (tableRef_toJson style parts.table),
    slot_unlessEmpty "using" (fun item _ => fromItem_toJson style item),
    slot_nullable "selection" (nullable_expression style parts.selection)]
  · simp only [Slot.fault?_ofOption, Slot.orElse_nullable, Slot.orElse_unlessEmpty]
    rfl
  · simp
  · simp
  · simp
  · simp

theorem createTable_body (parts : CreateTable) :
    createTable style (.obj (Statement.createTable parts).body) = .ok parts := by
  rw [createTable, Statement.body]
  apply Shape.record_named 4
  dsimp only
  rw [slot_eq_found "table" (string_str parts.table),
    slot_eq_found "columns" (list_map fun column _ => columnDefinition_toJson style column),
    slot_unlessEmpty "foreign_keys" (fun key _ => foreignKey_toJson style key),
    slot_nullable "query" (nullable_select style parts.query)]
  · simp only [Slot.fault?_ofOption, Slot.orElse_nullable, Slot.orElse_unlessEmpty]
    rfl
  · simp
  · simp
  · simp
  · simp

theorem createView_body (parts : CreateView) :
    createView style (.obj (Statement.createView parts).body) = .ok parts := by
  rw [createView, Statement.body]
  apply Shape.record_named 2
  dsimp only
  rw [slot_eq_found "view" (string_str parts.view),
    slot_eq_found "query" (select_toJson style parts.query)]
  · rfl
  · simp
  · simp

theorem unsupportedKind_body (kind : String) :
    unsupportedKind style (.obj (Statement.unsupported kind).body) = .ok kind := by
  rw [unsupportedKind, Statement.body]
  apply Shape.record_named 1
  dsimp only
  rw [slot_eq_found "kind" (string_str kind)]
  · rfl
  · simp

theorem knownStatement_body (value : Statement) :
    knownStatement value.tag style (.obj value.body) = .ok value := by
  cases value with
  | select query => rw [knownStatement, obj_body_select, select_toJson]; rfl
  | insert parts => rw [knownStatement, insert_body]; rfl
  | update parts => rw [knownStatement, update_body]; rfl
  | delete parts => rw [knownStatement, delete_body]; rfl
  | createTable parts => rw [knownStatement, createTable_body]; rfl
  | createView parts => rw [knownStatement, createView_body]; rfl
  | alterTable table =>
    have htable : tableRef style (.obj (Statement.alterTable table).body) = .ok table :=
      tableRef_toJson style table
    rw [knownStatement, htable]
    rfl
  | unsupported kind => rw [knownStatement, unsupportedKind_body]; rfl

theorem statement_toJson (value : Statement) : statement style value.toJson = .ok value := by
  have htag : statementTags.contains value.tag := by cases value <;> rfl
  have hfield : value.toJson.field? "type" = some (.str value.tag) := by
    simp [Statement.toJson, Json.field?]
  rw [statement, hfield]
  simp only [htag, if_true, Statement.toJson, withoutField, beq_self_eq_true]
  exact knownStatement_body .buffered value

/-- A statement is written as a value that keeps all its fields, under a type that is read for its
parts, and is read back from it as it was. -/
theorem statement_readBack (style : Style) (value : Statement) :
    value.toJson.withoutRepeats = value.toJson ∧ value.tag ∈ statementTags ∧
      statement style value.toJson = .ok value := by
  refine ⟨value.regular_toJson.withoutRepeats_eq, ?_, statement_toJson style value⟩
  cases value <;> simp [Statement.tag, statementTags]

end Decode

end SqlLineage
