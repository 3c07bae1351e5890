import SqlLineage.Proofs.Statement.RoundTrip
import SqlLineage.Proofs.Statement.Sources
import SqlLineage.Source

/-!
# Documents of statements

A script can be analysed as it is, or its statements can be written as a document that is read and
analysed later.  Both ways lead to the same graph and the same issues as long as the document does
not nest deeper than a text may.  The nesting of a document is that of its statements, and a chain
of comparisons takes a level for each of them.
-/

namespace SqlLineage

open Json (depthLimit)

variable {statements : List Statement}

/-! ## Documents -/

/-- A list of statements as a JSON value. -/
def statementsJson (statements : List Statement) : Json :=
  .arr (statements.map Statement.toJson)

/-- The document of a list of statements, on one line or with a line for each item. -/
def statementsText (compact : Bool) (statements : List Statement) : String :=
  if compact then (statementsJson statements).render else (statementsJson statements).renderIndented

theorem regular_statementsJson (statements : List Statement) :
    (statementsJson statements).Regular := by
  simp [statementsJson, Statement.regular_toJson]

theorem spells_statementsText (compact : Bool) (statements : List Statement) :
    Json.Spells (statementsText compact statements).toList
      (.value (statementsJson statements)) [] := by
  cases compact with
  | false => exact Json.spells_renderIndented (regular_statementsJson statements)
  | true => exact Json.spells_render (regular_statementsJson statements)

theorem isBlankText_statementsText (compact : Bool) (statements : List Statement) :
    Text.isBlankText (statementsText compact statements) = false := by
  have hopen : '[' ∈ (statementsText compact statements).toList :=
    (spells_statementsText compact statements).bracket_mem
  rw [Text.isBlankText, List.all_eq_false]
  exact ⟨'[', hopen, by decide⟩

theorem statementDocument_statementsJson (style : Decode.Style) (statements : List Statement) :
    Decode.statementDocument style (statementsJson statements) = .ok statements := by
  have hlist : Decode.list Decode.statement style (statementsJson statements) = .ok statements :=
    Decode.list_map fun statement _ => Decode.statement_toJson style statement
  rw [Decode.statementDocument, hlist]

/-- The document of a list of statements is read back if it does not nest too deep. -/
theorem readStatements_statementsText (name : String) (compact : Bool)
    (hdepth : (statementsJson statements).depth ≤ depthLimit) :
    readStatements [⟨name, statementsText compact statements⟩] = .ok statements := by
  have hread : Decode.ofWholeText Decode.statementDocument (statementsText compact statements) =
      .ok statements :=
    Decode.ofWholeText_eq_ok (spells_statementsText compact statements)
      (regular_statementsJson statements) hdepth (statementDocument_statementsJson _ statements)
  have hfile : (⟨name, statementsText compact statements⟩ : SourceFile).statements =
      .ok statements := by
    rw [SourceFile.statements, isBlankText_statementsText, hread]
    rfl
  rw [readStatements_singleton, hfile]

theorem readStatements_tooDeep (name : String) (compact : Bool)
    (hdeep : depthLimit < (statementsJson statements).depth) :
    ∃ offset, readStatements [⟨name, statementsText compact statements⟩] =
      .error ⟨name, "recursion limit exceeded" ++
        Json.describeOffset (statementsText compact statements) offset⟩ := by
  obtain ⟨offset, hread⟩ := Decode.ofWholeText_eq_error Decode.statementDocument
    (spells_statementsText compact statements) hdeep
  refine ⟨offset, ?_⟩
  have hfile : (⟨name, statementsText compact statements⟩ : SourceFile).statements =
      .error ⟨name, "recursion limit exceeded" ++
        Json.describeOffset (statementsText compact statements) offset⟩ := by
    rw [SourceFile.statements, isBlankText_statementsText, hread]
    rfl
  rw [readStatements_singleton, hfile]

/-! ## Issues without sources -/

/-- An issue without the name of its source. -/
def Issue.unsourced (issue : Issue) : Issue :=
  { issue with sourceName := none }

theorem issuesFrom_unsourced (sourceName : Option String) (statements : List Statement)
    (index : Nat) :
    issuesFrom index (statements.map (fun statement => ⟨statement, none⟩)) =
      (issuesFrom index (statements.map (fun statement => ⟨statement, sourceName⟩))).map
        Issue.unsourced := by
  induction statements generalizing index with
  | nil => rfl
  | cons statement rest ih =>
    cases statement with
    | unsupported kind =>
      simp only [List.map_cons, issuesFrom, ih (index + 1)]
      rfl
    | _ => exact ih (index + 1)

/-! ## Chains of comparisons -/

/-- `a AND a AND …`, with that many conjunctions. -/
def conjoined : Nat → Sql.Expr
  | 0 => .ident ⟨"a", none⟩
  | count + 1 => .binary .and (conjoined count) (.ident ⟨"a", none⟩)

def conjoinedText (count : Nat) : String :=
  "SELECT a FROM t WHERE a" ++ String.join (List.replicate count " AND a")

def conjoinedQuery (count : Nat) : Sql.Statement :=
  .query
    { body := .select
        { projection := [.expr (.ident ⟨"a", none⟩) none]
          sources := [⟨.table ⟨[.ident ⟨"t", none⟩]⟩ none none "", []⟩]
          selection := some (conjoined count) } }

/-- A parser that knows one chain. -/
def conjoinedParser (count : Nat) : ScriptParser := fun _ text =>
  if text = conjoinedText count then .ok [conjoinedQuery count]
  else .error { message := "unknown script" }

/-- What is kept of a chain. -/
def conjoinedStatement (count : Nat) : Statement :=
  .select
    { sources := [⟨.table "t", none, false, none⟩]
      columns := [.column none "a"]
      selection := some (.ofSyntax (conjoined count)) }

theorem isBlankText_conjoinedText (count : Nat) :
    Text.isBlankText (conjoinedText count) = false := by
  have hfirst : 'S' ∈ (conjoinedText count).toList := by
    unfold conjoinedText
    rw [String.toList_append]
    exact List.mem_append_left _ (by simp)
  rw [Text.isBlankText, List.all_eq_false]
  exact ⟨'S', hfirst, by decide⟩

theorem conjoinedParser_conjoinedText (count : Nat) (dialect : Dialect) :
    conjoinedParser count dialect (conjoinedText count) = .ok [conjoinedQuery count] :=
  if_pos rfl

theorem reduceAll_conjoinedQuery (count : Nat) :
    reduceAll [conjoinedQuery count] = .ok [conjoinedStatement count] := rfl

/-- A chain takes a level for each comparison. -/
theorem depth_conjoined (count : Nat) :
    (Expression.ofSyntax (conjoined count)).toJson.depth = count + 1 := by
  induction count with
  | zero => rfl
  | succ count ih =>
    have hright : (Expression.ofSyntax (.ident ⟨"a", none⟩)).toJson.depth = 1 := rfl
    have hvalue : Expression.ofSyntax (conjoined (count + 1)) =
        .binary .and (.ofSyntax (conjoined count)) (.ofSyntax (.ident ⟨"a", none⟩)) := rfl
    rw [hvalue, Expression.toJson]
    simp [Json.depth, Json.depthOfFields, ih, hright]

theorem depth_conjoinedStatement (count : Nat) :
    (statementsJson [conjoinedStatement count]).depth = max 3 (count + 1) + 2 := by
  have hselection := depth_conjoined count
  simp [statementsJson, conjoinedStatement, Statement.toJson, Statement.tag, Statement.body,
    Select.toJson, ctesToJson, sourcesToJson, branchesToJson, FromItem.toJson, TableSource.toJson,
    Expression.toJson, Json.unlessEmpty, Json.optional, Json.depth, Json.depthOfList,
    Json.depthOfFields, hselection]
  omega

/-! ## The two ways in -/

section TwoWays

variable {parser : ScriptParser} {sql : String} {dialect : Dialect} {script : List Sql.Statement}

theorem analyzeWith_inline (hsql : Text.isBlankText sql = false)
    (hparse : parser dialect sql = .ok script) (hreduce : reduceAll script = .ok statements)
    (sourceName : Option String) (options : Options) :
    analyzeWith parser { sql, dialect, sourceName, options := some options } =
      .ok (analyzeSourced options []
        (statements.map (fun statement => ⟨statement, sourceName⟩))) := by
  rw [reduceAll] at hreduce
  simp [analyzeWith, Request.isBlank, Request.sources, Request.fileList, hsql, collectFrom, hparse,
    hreduce, bind, Except.bind, pure, Except.pure]

/-- A script that can be parsed and reduced is analysed, and its document is read, with the same
graph and the same issues, exactly when it does not nest too deep. -/
theorem analyzeStatements_document (parser : ScriptParser) {sql : String} {dialect : Dialect}
    {script : List Sql.Statement} {statements : List Statement}
    (hsql : Text.isBlankText sql = false) (hparse : parser dialect sql = .ok script)
    (hreduce : reduceAll script = .ok statements) (sourceName : Option String) (options : Options)
    (name : String) (compact : Bool) :
    ∃ result,
      analyzeWith parser { sql, dialect, sourceName, options := some options } = .ok result ∧
      ((∃ read, readStatements [⟨name, statementsText compact statements⟩] = .ok read ∧
          (analyzeStatements options read).graph = result.graph ∧
          (analyzeStatements options read).issues = result.issues.map Issue.unsourced) ↔
        (statementsJson statements).depth ≤ depthLimit) ∧
      (depthLimit < (statementsJson statements).depth →
        ∃ offset, readStatements [⟨name, statementsText compact statements⟩] =
          .error ⟨name, "recursion limit exceeded" ++
            Json.describeOffset (statementsText compact statements) offset⟩) := by
  refine ⟨_, analyzeWith_inline hsql hparse hreduce sourceName options, ⟨?_, fun hdepth => ?_⟩,
    readStatements_tooDeep name compact⟩
  · rintro ⟨read, hread, -⟩
    by_contra hdeep
    obtain ⟨offset, herror⟩ :=
      readStatements_tooDeep name compact (Nat.lt_of_not_le hdeep)
    rw [herror] at hread
    cases hread
  · refine ⟨statements, readStatements_statementsText name compact hdepth, ?_, ?_⟩
    · simp [analyzeStatements, analyzeSourced, analyzeAll, List.foldl_map]
    · simp [analyzeStatements, analyzeSourced, issuesFrom_unsourced sourceName statements 0]

end TwoWays

theorem analyzeStatements_conjoined :
    Text.isBlankText (conjoinedText 124) = false ∧
    conjoinedParser 124 .generic (conjoinedText 124) = .ok [conjoinedQuery 124] ∧
    reduceAll [conjoinedQuery 124] = .ok [conjoinedStatement 124] ∧
    ∃ result read,
      analyzeWith (conjoinedParser 124) { sql := conjoinedText 124, options := some {} } =
        .ok result ∧
      readStatements [⟨"chain.json", statementsText true [conjoinedStatement 124]⟩] = .ok read ∧
      (analyzeStatements {} read).graph = result.graph ∧
      (analyzeStatements {} read).issues = result.issues.map Issue.unsourced := by
  have hsql := isBlankText_conjoinedText 124
  have hparse := conjoinedParser_conjoinedText 124 .generic
  have hreduce := reduceAll_conjoinedQuery 124
  have hdepth : (statementsJson [conjoinedStatement 124]).depth ≤ depthLimit := by
    rw [depth_conjoinedStatement]
    decide
  obtain ⟨result, hresult, hagree, -⟩ :=
    analyzeStatements_document (conjoinedParser 124) hsql hparse hreduce none {} "chain.json" true
  obtain ⟨read, hread, hgraph, hissues⟩ := hagree.mpr hdepth
  exact ⟨hsql, hparse, hreduce, result, read, hresult, hread, hgraph, hissues⟩

/-- With one comparison more the script is still analysed, and its document is refused. -/
theorem not_readStatements_conjoined :
    Text.isBlankText (conjoinedText 125) = false ∧
    conjoinedParser 125 .generic (conjoinedText 125) = .ok [conjoinedQuery 125] ∧
    reduceAll [conjoinedQuery 125] = .ok [conjoinedStatement 125] ∧
    (∃ result, analyzeWith (conjoinedParser 125) { sql := conjoinedText 125, options := some {} } =
      .ok result) ∧
    ¬∃ read, readStatements [⟨"chain.json", statementsText true [conjoinedStatement 125]⟩] =
      .ok read := by
  have hsql := isBlankText_conjoinedText 125
  have hparse := conjoinedParser_conjoinedText 125 .generic
  have hreduce := reduceAll_conjoinedQuery 125
  have hdeep : depthLimit < (statementsJson [conjoinedStatement 125]).depth := by
    rw [depth_conjoinedStatement]
    decide
  refine ⟨hsql, hparse, hreduce, ⟨_, analyzeWith_inline hsql hparse hreduce none {}⟩, ?_⟩
  rintro ⟨read, hread⟩
  obtain ⟨offset, herror⟩ := readStatements_tooDeep "chain.json" true hdeep
  rw [herror] at hread
  cases hread

end SqlLineage
