import SqlLineage.Proofs.Decode.Texts
import SqlLineage.Proofs.Graph.RoundTrip
import SqlLineage.Proofs.Graph.Shallow
import SqlLineage.Report
import SqlLineage.Request.Codec

/-!
# Requests and results are read back

What is written as a text, on one line or with a line for each item, is read back as it was.  The
graph of a result stands among the other fields of the result, and is found there again.
-/

namespace SqlLineage

open Json (Shallow shallow_nat shallow_record names_optional_sublist names_unlessEmpty_sublist)

namespace Decode

variable (style : Style)

/-! ## Requests -/

theorem dialect_name (value : Dialect) : dialect style (.str value.name) = .ok value :=
  word_str (by cases value <;> rfl)

theorem sourceLinking_name (policy : SourceLinking) :
    sourceLinking style (.str policy.name) = .ok policy :=
  word_str (by cases policy <;> rfl)

theorem options_toJson (value : Options) : options style value.toJson = .ok value := by
  rw [options, Options.toJson]
  apply Shape.record_named 2
  dsimp only
  rw [slot_eq_found "sourceLinking" (sourceLinking_name style value.sourceLinking),
    slot_eq_found "recurseConditions" (bool_bool value.recurseConditions)]
  · rfl
  · simp
  · simp

theorem nullable_options (value : Option Options) :
    ∀ x ∈ value, x.toJson ≠ .null ∧ options style x.toJson = .ok x :=
  fun x _ => ⟨by simp [Options.toJson], options_toJson style x⟩

theorem sourceFile_toJson (file : SourceFile) : sourceFile style file.toJson = .ok file := by
  rw [sourceFile, SourceFile.toJson]
  apply Shape.record_named 2
  dsimp only
  rw [slot_eq_found "name" (string_str file.name),
    slot_eq_found "content" (string_str file.content)]
  · rfl
  · simp
  · simp

theorem nullable_files (files : Option (List SourceFile)) :
    ∀ x ∈ files, Json.arr (x.map SourceFile.toJson) ≠ .null ∧
      list sourceFile style (.arr (x.map SourceFile.toJson)) = .ok x :=
  fun x _ => ⟨by simp, list_map fun file _ => sourceFile_toJson style file⟩

theorem request_toJson (value : Request) : request style value.toJson = .ok value := by
  rw [request, Request.toJson]
  apply Shape.record_named 5
  dsimp only
  rw [slot_eq_found "sql" (string_str value.sql),
    slot_nullable "files" (nullable_files style value.files),
    slot_eq_found "dialect" (dialect_name style value.dialect),
    slot_nullable "sourceName" (nullable_str value.sourceName),
    slot_nullable "options" (nullable_options style value.options)]
  · simp only [Slot.fault?_ofOption, Slot.orElse_nullable]
    rfl
  · simp
  · simp
  · simp
  · simp
  · simp

/-! ## Issues -/

theorem severity_name (level : Severity) : severity style (.str level.name) = .ok level :=
  word_str (by cases level <;> rfl)

theorem nullable_index (index : Option Nat) :
    ∀ x ∈ index, Json.nat x ≠ .null ∧ unsigned "usize" style (.nat x) = .ok x :=
  fun x _ => ⟨by simp [Json.nat], unsigned_nat "usize" x⟩

theorem issue_toJson (value : Issue) : issue style value.toJson = .ok value := by
  rw [issue, Issue.toJson]
  apply Shape.record_named 5
  dsimp only
  rw [slot_eq_found "severity" (severity_name style value.severity),
    slot_eq_found "code" (string_str value.code),
    slot_eq_found "message" (string_str value.message),
    slot_nullable "statementIndex" (nullable_index style value.statementIndex),
    slot_nullable "sourceName" (nullable_str value.sourceName)]
  · simp only [Slot.fault?_ofOption, Slot.orElse_nullable]
    rfl
  · simp
  · simp
  · simp
  · simp
  · simp

/-! ## Results -/

theorem result_toJson (value : Result) : result style value.toJson = .ok value := by
  have hgraph : graph .buffered (.obj (value.graph.fields ++
      Json.unlessEmpty "issues" (value.issues.map Issue.toJson))) = .ok value.graph := by
    apply graph_fields_append .buffered value.graph
    simp
  have hissues : (Parts.named (value.graph.fields ++
      Json.unlessEmpty "issues" (value.issues.map Issue.toJson))).slot style "issues" 0
        (list issue) = .ofOption (if value.issues = [] then none else some value.issues) :=
    slot_unlessEmpty "issues" (fun x _ => issue_toJson style x) (by simp [Graph.fields])
  rw [Result.toJson, result]
  simp only [hissues, Slot.fault?_ofOption, hgraph, Slot.orElse_unlessEmpty]

end Decode

/-! ## Written without loss -/

theorem Request.shallow_toJson (request : Request) : Shallow 3 request.toJson := by
  have hfile (file : SourceFile) : Shallow 1 file.toJson := by
    apply shallow_record ["name", "content"] (by decide) (.refl _)
    simp
  have hoptions (options : Options) : Shallow 2 options.toJson := by
    apply shallow_record ["sourceLinking", "recurseConditions"] (by decide) (.refl _)
    simp
  apply shallow_record ["sql", "files", "dialect", "sourceName", "options"] (by decide)
  · simp only [List.map_cons, List.map_append]
    exact .cons_cons _ ((((names_optional_sublist _ _).append (.refl ["dialect"])).append
      (names_optional_sublist _ _)).append (names_optional_sublist _ _))
  · simp [hfile, hoptions]

theorem Issue.shallow_toJson {issue : Issue}
    (hindex : ∀ index ∈ issue.statementIndex, index < UInt64.size) : Shallow 4 issue.toJson := by
  have hnat : ∀ index ∈ issue.statementIndex, Shallow 3 (.nat index) :=
    fun index hmem => shallow_nat (hindex index hmem)
  refine shallow_record ["severity", "code", "message", "statementIndex", "sourceName"]
    (by decide) ?_ ?_
  · simp only [List.map_append]
    exact ((List.Sublist.refl ["severity", "code", "message"]).append
      (names_optional_sublist _ _)).append (names_optional_sublist _ _)
  · simpa using hnat

/-- The ids, the totals and the indices of a result fit in 64 bits. -/
structure Result.InRange (result : Result) : Prop where
  graph : result.graph.InRange
  issues : ∀ issue ∈ result.issues, ∀ index ∈ issue.statementIndex, index < UInt64.size

theorem Result.shallow_toJson {result : Result} (hresult : result.InRange) :
    Shallow 6 result.toJson := by
  have hissues : ∀ issue ∈ result.issues, Shallow 4 issue.toJson :=
    fun issue hissue => Issue.shallow_toJson (hresult.issues issue hissue)
  apply shallow_record ["nodes", "edges", "summary", "issues"] (by decide)
  · rw [List.map_append]
    exact (List.Sublist.refl ["nodes", "edges", "summary"]).append (names_unlessEmpty_sublist _ _)
  · rw [Json.allValues_append]
    refine ⟨Graph.shallow_fields hresult.graph, ?_⟩
    simpa using fun _ => hissues

theorem spells_jsonText {result : Result} (hresult : result.InRange) (compact : Bool) :
    Json.Spells (result.jsonText compact).toList (.value result.toJson) [] := by
  have hregular := (Result.shallow_toJson hresult).1
  cases compact with
  | false => exact Json.spells_renderIndented hregular
  | true => exact Json.spells_render hregular

/-- A result whose numbers are in range is read back from either of its texts, and so is every
request. -/
theorem result_request_readBack :
    (∀ result : Result, result.InRange → ∀ compact,
      Decode.ofText Decode.result (result.jsonText compact) = .ok result) ∧
    ∀ request : Request, Decode.ofText Decode.request request.toJson.render = .ok request ∧
      Decode.ofText Decode.request request.toJson.renderIndented = .ok request := by
  refine ⟨fun result hresult compact => ?_, fun request => ?_⟩
  · have hdepth := (Result.shallow_toJson hresult).2
    exact Decode.ofText_eq_ok (spells_jsonText hresult compact) (Nat.le_trans hdepth (by decide))
      (Decode.result_toJson .streamed result)
  · obtain ⟨hregular, hdepth⟩ := request.shallow_toJson
    have hlimit := Nat.le_trans hdepth (show 3 ≤ Json.depthLimit by decide)
    have hdecode := Decode.request_toJson .streamed request
    exact ⟨Decode.ofText_eq_ok (Json.spells_render hregular) hlimit hdecode,
      Decode.ofText_eq_ok (Json.spells_renderIndented hregular) hlimit hdecode⟩

/-- A result with the greatest id, a node type that is not that of the node, a column node whose
role is also a kind of table, and text that has to be escaped. -/
def crooked : Result :=
  { graph :=
      { nodes :=
          [.table ⟨"\"", "a\\b\n", .target, [⟨18446744073709551615, "\x01", .target⟩], .column⟩,
            .column ⟨"table_1", "", .target, "", .table⟩]
        edges := [⟨"edge_1", "a", "b", .join, .viewDependency⟩]
        summary := ⟨0, 18446744073709551615, { view := some 3 }⟩ }
    issues := [{ severity := .info, code := "", message := "\t", statementIndex := some 7 }] }

theorem crooked_readBack :
    crooked.InRange ∧
      Decode.ofText Decode.result (crooked.jsonText true) = .ok crooked ∧
      Decode.ofText Decode.result (crooked.jsonText false) = .ok crooked := by
  have hgraph : crooked.graph.InRange := by
    refine ⟨?_, by decide, by decide, ?_⟩
    · simp [crooked, Node.InRange]
    · intro entry hentry
      have hview : entry = (TableKind.view, 3) := by
        simpa [crooked, KindCounts.toList, TableKind.all, KindCounts.get] using hentry
      rw [hview]
      decide
  have hrange : crooked.InRange := by
    refine ⟨hgraph, ?_⟩
    simp [crooked, UInt64.size]
  exact ⟨hrange, result_request_readBack.1 crooked hrange true,
    result_request_readBack.1 crooked hrange false⟩

end SqlLineage
