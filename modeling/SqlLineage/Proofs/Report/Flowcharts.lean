import Mathlib.Data.Sum.Basic
import SqlLineage.Proofs.Graph.WellFormed
import SqlLineage.Proofs.Text.Spans
import SqlLineage.Report.Mermaid
import SqlLineage.Source

/-!
# What a flowchart shows

The drawing of a graph has a line for each table and one for each edge, whatever the labels are made
of: an id ends at the first character that no id has, and a label stands between the quotes that
follow and the end of its line.  So a drawing tells which tables and edges it shows.  The ids of a
run need no change to be drawn, and both ends of an edge are ids of tables that are drawn, each on
one line.
-/

namespace SqlLineage

namespace Mermaid

open Text (append_cons_eq_iff)

/-! ## What is drawn -/

/-- The characters that an id is drawn with. -/
def isIdChar (c : Char) : Bool :=
  Text.isAlphanumeric c || c == '_'

/-- An id as it is drawn. -/
abbrev DrawnId := {id : List Char // ∀ c ∈ id, isIdChar c}

theorem isIdChar_of_mem_nodeId {id : String} {c : Char} (hc : c ∈ nodeId id) : isIdChar c := by
  obtain ⟨original, -, rfl⟩ := List.mem_map.mp hc
  split
  · assumption
  · decide

def drawnId (id : String) : DrawnId :=
  ⟨nodeId id, fun _ => isIdChar_of_mem_nodeId⟩

/-- What the line of a table shows. -/
structure DrawnTable where
  id : DrawnId
  isView : Bool
  label : List Char

/-- What the line of an edge shows. -/
structure DrawnEdge where
  source : DrawnId
  kind : RelationshipKind
  target : DrawnId

def drawnTable (table : TableNode) : DrawnTable :=
  ⟨drawnId table.id, table.kind == .view, label table.label⟩

def drawnEdge (edge : Edge) : DrawnEdge :=
  ⟨drawnId edge.source, edge.kind, drawnId edge.target⟩

/-! ## Lines -/

/-- The bracket that opens the shape of a table or a view. -/
def opening (isView : Bool) : Char :=
  if isView then '(' else '['

def closing (isView : Bool) : Char :=
  if isView then ')' else ']'

def DrawnTable.line (drawn : DrawnTable) : List Char :=
  margin ++ (drawn.id.val ++ opening drawn.isView ::
    ('"' :: (drawn.label ++ ['"', closing drawn.isView])))

def DrawnEdge.line (drawn : DrawnEdge) : List Char :=
  margin ++ (drawn.source.val ++ ' ' ::
    (arrow drawn.kind ++ '|' :: (drawn.kind.name.toList ++ '|' :: (' ' :: drawn.target.val))))

theorem line_drawnTable (table : TableNode) : (drawnTable table).line = tableLine table := by
  cases hkind : table.kind <;>
    simp [DrawnTable.line, drawnTable, drawnId, tableLine, opening, closing, hkind]

theorem line_drawnEdge (edge : Edge) : (drawnEdge edge).line = edgeLine edge := by
  simp [DrawnEdge.line, drawnEdge, drawnId, edgeLine]

theorem isIdChar_opening (isView : Bool) : isIdChar (opening isView) = false := by
  cases isView <;> decide

theorem opening_injective : Function.Injective opening := by
  intro first second
  cases first <;> cases second <;> decide

theorem DrawnTable.line_injective : Function.Injective DrawnTable.line := by
  rintro ⟨⟨id, hid⟩, isView, label⟩ ⟨⟨id', hid'⟩, isView', label'⟩ heq
  obtain ⟨rfl, hopening, hrest⟩ := (append_cons_eq_iff hid hid' (isIdChar_opening isView)
    (isIdChar_opening isView')).mp (List.append_cancel_left heq)
  obtain rfl := opening_injective hopening
  obtain rfl := List.append_cancel_right (List.cons.inj hrest).2
  rfl

theorem ne_bar_of_mem_arrow (kind : RelationshipKind) : ∀ c ∈ arrow kind, (c != '|') = true := by
  rw [← List.all_eq_true]
  cases kind <;> decide

theorem ne_bar_of_mem_name (kind : RelationshipKind) :
    ∀ c ∈ kind.name.toList, (c != '|') = true := by
  rw [← List.all_eq_true]
  cases kind <;> decide

theorem name_injective : Function.Injective RelationshipKind.name := by
  intro first second
  cases first <;> cases second <;> decide

theorem DrawnEdge.line_injective : Function.Injective DrawnEdge.line := by
  rintro ⟨⟨source, hsource⟩, kind, target⟩ ⟨⟨source', hsource'⟩, kind', target'⟩ heq
  have hblank : isIdChar ' ' = false := by decide
  have hbar : ('|' != '|') = false := by decide
  obtain ⟨rfl, -, harrow⟩ := (append_cons_eq_iff hsource hsource' hblank hblank).mp
    (List.append_cancel_left heq)
  obtain ⟨-, -, hname⟩ :=
    (append_cons_eq_iff (ne_bar_of_mem_arrow kind) (ne_bar_of_mem_arrow kind') hbar hbar).mp harrow
  obtain ⟨hkind, -, htarget⟩ :=
    (append_cons_eq_iff (ne_bar_of_mem_name kind) (ne_bar_of_mem_name kind') hbar hbar).mp hname
  obtain rfl := name_injective (String.toList_inj.mp hkind)
  obtain rfl := Subtype.ext (List.cons.inj htarget).2
  rfl

/-- No line of a table is one of an edge. -/
theorem DrawnTable.line_ne (table : DrawnTable) (edge : DrawnEdge) : table.line ≠ edge.line := by
  intro heq
  obtain ⟨-, hopening, -⟩ := (append_cons_eq_iff table.id.2 edge.source.2
    (isIdChar_opening table.isView) (by decide)).mp (List.append_cancel_left heq)
  cases hview : table.isView <;> rw [hview] at hopening <;> exact absurd hopening (by decide)

/-- The line of a table or an edge. -/
def rowLine : DrawnTable ⊕ DrawnEdge → List Char :=
  Sum.elim DrawnTable.line DrawnEdge.line

theorem rowLine_injective : Function.Injective rowLine :=
  .sumElim DrawnTable.line_injective DrawnEdge.line_injective DrawnTable.line_ne

theorem not_mem_drawnId (id : DrawnId) : '\n' ∉ id.val :=
  fun hmem => absurd (id.2 _ hmem) (by decide)

theorem not_mem_label (text : String) : '\n' ∉ label text := by
  intro hmem
  obtain ⟨c, -, hc⟩ := List.mem_flatMap.mp hmem
  rw [labelChar] at hc
  split_ifs at hc with hquote hfeed
  · exact absurd hc (by decide)
  · exact absurd hc (by decide)
  · exact hfeed (List.mem_singleton.mp hc).symm

theorem not_mem_line_drawnTable (table : TableNode) : '\n' ∉ (drawnTable table).line := by
  have hopening : ∀ isView, '\n' ≠ opening isView ∧ '\n' ≠ closing isView := by decide
  simp only [DrawnTable.line, List.mem_append, List.mem_cons, not_or]
  exact ⟨by decide, not_mem_drawnId _, (hopening _).1, by decide, not_mem_label table.label,
    by decide, (hopening _).2, List.not_mem_nil⟩

theorem not_mem_line_drawnEdge (edge : Edge) : '\n' ∉ (drawnEdge edge).line := by
  have harrow : ∀ kind, '\n' ∉ arrow kind ∧ '\n' ∉ kind.name.toList := by
    intro kind
    cases kind <;> decide
  simp only [DrawnEdge.line, List.mem_append, List.mem_cons, not_or]
  exact ⟨by decide, not_mem_drawnId _, by decide, (harrow _).1, by decide, (harrow _).2, by decide,
    by decide, not_mem_drawnId _⟩

end Mermaid

namespace Text

theorem joinLines_eq_intercalate (lines : List (List Char)) :
    joinLines lines = ['\n'].intercalate lines := by
  match lines with
  | [] => rfl
  | [line] => simp [joinLines]
  | line :: next :: more =>
    rw [joinLines, joinLines_eq_intercalate (next :: more), List.intercalate_cons_cons]
    · simp
    · exact List.cons_ne_nil _ _

end Text

open Mermaid

/-! ## Drawings -/

/-- The tables that the drawing of a graph shows, in order. -/
def Graph.drawnTables (graph : Graph) : List DrawnTable :=
  graph.tables.map drawnTable

/-- The edges that the drawing of a graph shows, in order. -/
def Graph.drawnEdges (graph : Graph) : List DrawnEdge :=
  graph.edges.map drawnEdge

/-- What a drawing shows, line by line. -/
def Graph.drawnRows (graph : Graph) : List (DrawnTable ⊕ DrawnEdge) :=
  graph.drawnTables.map .inl ++ graph.drawnEdges.map .inr

theorem Graph.drawnRows_eq_iff {first second : Graph} :
    first.drawnRows = second.drawnRows ↔
      first.drawnTables = second.drawnTables ∧ first.drawnEdges = second.drawnEdges := by
  have htables : ∀ graph : Graph, graph.drawnRows.filterMap Sum.getLeft? = graph.drawnTables := by
    intro graph
    have hleft : Sum.getLeft? ∘ (Sum.inl : DrawnTable → DrawnTable ⊕ DrawnEdge) = some := rfl
    have hright : Sum.getLeft? ∘ (Sum.inr : DrawnEdge → DrawnTable ⊕ DrawnEdge) =
      fun _ => none := rfl
    simp [drawnRows, hleft, hright]
  have hedges : ∀ graph : Graph, graph.drawnRows.filterMap Sum.getRight? = graph.drawnEdges := by
    intro graph
    have hleft : Sum.getRight? ∘ (Sum.inl : DrawnTable → DrawnTable ⊕ DrawnEdge) =
      fun _ => none := rfl
    have hright : Sum.getRight? ∘ (Sum.inr : DrawnEdge → DrawnTable ⊕ DrawnEdge) = some := rfl
    simp [drawnRows, hleft, hright]
  constructor
  · intro heq
    rw [← htables, ← htables, ← hedges, ← hedges, heq]
    exact ⟨rfl, rfl⟩
  · rintro ⟨hsame, hsameEdges⟩
    rw [drawnRows, hsame, hsameEdges, drawnRows]

theorem Mermaid.lines_eq (graph : Graph) :
    Mermaid.lines graph = "flowchart LR".toList :: graph.drawnRows.map rowLine := by
  simp [Mermaid.lines, Graph.drawnRows, Graph.drawnTables, Graph.drawnEdges, rowLine,
    Function.comp_def, line_drawnTable, line_drawnEdge]

/-- The lines of a drawing are those that it was put together from. -/
theorem Graph.splitOn_mermaid (graph : Graph) :
    graph.mermaid.toList.splitOn '\n' = Mermaid.lines graph := by
  rw [mermaid, String.toList_ofList, Text.joinLines_eq_intercalate]
  apply List.splitOn_intercalate
  · rw [Mermaid.lines_eq, List.forall_mem_cons]
    refine ⟨by decide, List.forall_mem_map.mpr ?_⟩
    simp only [drawnRows, drawnTables, drawnEdges, List.forall_mem_append, List.forall_mem_map]
    exact ⟨fun table _ => not_mem_line_drawnTable table, fun edge _ => not_mem_line_drawnEdge edge⟩
  · rw [Mermaid.lines]
    exact List.cons_ne_nil _ _

/-- A drawing determines what its lines show, and nothing else. -/
theorem Graph.mermaid_eq_iff {first second : Graph} :
    first.mermaid = second.mermaid ↔
      first.drawnTables = second.drawnTables ∧ first.drawnEdges = second.drawnEdges := by
  rw [← drawnRows_eq_iff]
  constructor
  · intro heq
    have hlines : Mermaid.lines first = Mermaid.lines second := by
      rw [← splitOn_mermaid, ← splitOn_mermaid, heq]
    rw [Mermaid.lines_eq, Mermaid.lines_eq, List.cons_inj_right] at hlines
    exact List.map_injective_iff.mpr rowLine_injective hlines
  · intro heq
    rw [mermaid, mermaid, Mermaid.lines_eq, Mermaid.lines_eq, heq]

/-! ## Drawings of runs -/

/-- The ids of a graph are drawn as they are, and both ends of an edge are ids of tables that are
drawn, each on one line. -/
structure Graph.PlainlyDrawn (graph : Graph) : Prop where
  table_id : ∀ table ∈ graph.tables, nodeId table.id = table.id.toList
  edge_id : ∀ edge ∈ graph.edges, nodeId edge.id = edge.id.toList
  edge_ends : ∀ edge ∈ graph.edges,
    nodeId edge.source = edge.source.toList ∧ nodeId edge.target = edge.target.toList
  declared_once : ∀ edge ∈ graph.drawnEdges,
    (graph.drawnTables.map DrawnTable.id).count edge.source = 1 ∧
      (graph.drawnTables.map DrawnTable.id).count edge.target = 1

namespace Mermaid

theorem isIdChar_of_isDigit {c : Char} (hdigit : c.isDigit) : isIdChar c := by
  have hascii := (Char.isDigit_iff_toNat.mp hdigit).2
  rw [isIdChar, Text.isAlphanumeric, Text.isNumeric,
    if_pos (Nat.lt_of_le_of_lt hascii (by decide)), hdigit, Bool.or_true, Bool.true_or]

/-- A word of such characters with a number behind it is drawn as it is. -/
theorem nodeId_numbered (word : String) (hword : ∀ c ∈ word.toList, isIdChar c) (number : Nat) :
    nodeId (word ++ toString number) = (word ++ toString number).toList := by
  rw [nodeId]
  refine (List.map_congr_left fun c hc => ?_).trans (List.map_id _)
  have hplain : isIdChar c := by
    rw [String.toList_append, List.mem_append] at hc
    obtain hc | hc := hc
    · exact hword c hc
    · have hdigits : (toString number).toList = Nat.toDigits 10 number := by simp
      rw [hdigits] at hc
      exact isIdChar_of_isDigit (Nat.isDigit_of_mem_toDigits (by decide) (by decide) hc)
  exact if_pos hplain

theorem eq_of_drawnId_eq {first second : String} (hfirst : nodeId first = first.toList)
    (hsecond : nodeId second = second.toList) (heq : drawnId first = drawnId second) :
    first = second := by
  have hids : nodeId first = nodeId second := congrArg Subtype.val heq
  rw [hfirst, hsecond] at hids
  exact String.toList_inj.mp hids

end Mermaid

namespace Graph

variable {graph : Graph}

theorem Numbered.table_id_plain {tables edges : List Nat}
    (hnumbered : graph.Numbered tables edges) :
    ∀ id ∈ graph.tables.map TableNode.id, nodeId id = id.toList := by
  rw [hnumbered.table_ids, List.forall_mem_map]
  exact fun number _ => nodeId_numbered "table_" (List.all_eq_true.mp (by decide)) number

theorem Numbered.edge_id_plain {tables edges : List Nat} (hnumbered : graph.Numbered tables edges) :
    ∀ id ∈ graph.edges.map Edge.id, nodeId id = id.toList := by
  rw [hnumbered.edge_ids, List.forall_mem_map]
  exact fun number _ => nodeId_numbered "edge_" (List.all_eq_true.mp (by decide)) number

theorem Numbered.count_drawnId {tables edges : List Nat} (hnumbered : graph.Numbered tables edges)
    {id : String} (hid : id ∈ graph.tables.map TableNode.id) :
    (graph.drawnTables.map DrawnTable.id).count (drawnId id) = 1 := by
  have hids : graph.drawnTables.map DrawnTable.id =
      (graph.tables.map TableNode.id).map drawnId := by
    rw [drawnTables, List.map_map, List.map_map]
    rfl
  rw [hids]
  apply List.count_eq_one_of_mem _ (List.mem_map_of_mem hid)
  refine List.Nodup.map_on (fun first hfirst second hsecond heq => ?_) hnumbered.table_ids_nodup
  exact eq_of_drawnId_eq (hnumbered.table_id_plain first hfirst)
    (hnumbered.table_id_plain second hsecond) heq

/-- A well-formed graph is drawn plainly. -/
theorem WellFormed.plainlyDrawn (hformed : graph.WellFormed) : graph.PlainlyDrawn := by
  obtain ⟨tables, edges, hnumbered⟩ := hformed.numbered
  have hplain := hnumbered.table_id_plain
  have hends := hformed.edge_endpoints
  exact {
    table_id := fun table htable => hplain _ (List.mem_map_of_mem htable)
    edge_id := fun edge hedge => hnumbered.edge_id_plain _ (List.mem_map_of_mem hedge)
    edge_ends := fun edge hedge => ⟨hplain _ (hends edge hedge).1, hplain _ (hends edge hedge).2⟩
    declared_once := by
      rw [drawnEdges, List.forall_mem_map]
      intro edge hedge
      exact ⟨hnumbered.count_drawnId (hends edge hedge).1,
        hnumbered.count_drawnId (hends edge hedge).2⟩ }

end Graph

/-- A result of an analysis, of statements or of a request. -/
def Result.IsAnalysis (result : Result) : Prop :=
  (∃ options statements, result = analyzeStatements options statements) ∨
    ∃ parser request, analyzeWith parser request = .ok result

/-- Whatever a request holds, its result is that of some statements. -/
theorem exists_analyzeSourced {parser : ScriptParser} {request : Request} {result : Result}
    (hresult : analyzeWith parser request = .ok result) :
    ∃ options issues statements, result = analyzeSourced options issues statements := by
  rw [analyzeWith] at hresult
  split at hresult
  · exact ⟨_, _, _, (Except.ok.inj hresult).symm⟩
  · cases hcollect : collectFrom parser request.dialect [] request.sources with
    | error error =>
      rw [hcollect] at hresult
      cases hresult
    | ok statements =>
      rw [hcollect] at hresult
      exact ⟨_, _, statements, (Except.ok.inj hresult).symm⟩

theorem Result.IsAnalysis.wellFormed {result : Result} (hanalysis : result.IsAnalysis) :
    result.graph.WellFormed := by
  have hsourced : ∀ options issues statements,
      (analyzeSourced options issues statements).graph.WellFormed := by
    intro options issues statements
    have hgrows := analyzeAll_grows options statements {}
    exact Registry.graph_wellFormed (Registry.wellFormed_empty.grows hgrows)
  obtain ⟨options, statements, rfl⟩ | ⟨parser, request, hresult⟩ := hanalysis
  · exact hsourced _ _ _
  · obtain ⟨options, issues, statements, rfl⟩ := exists_analyzeSourced hresult
    exact hsourced _ _ _

/-- A drawing has one line more than there are tables and edges, and determines what each line
shows: the id, the shape and the label of every table, and the ends and the kind of every edge.
The ids of an analysis are drawn as they are, and each end of an edge is the id of the table on
exactly one line. -/
theorem mermaid_faithful (result : Result) :
    (result.graph.mermaid.toList.splitOn '\n').length =
        1 + result.graph.tables.length + result.graph.edges.length ∧
      (∀ other : Result, other.graph.mermaid = result.graph.mermaid ↔
        other.graph.drawnTables = result.graph.drawnTables ∧
          other.graph.drawnEdges = result.graph.drawnEdges) ∧
      (result.IsAnalysis → result.graph.PlainlyDrawn) := by
  refine ⟨?_, fun other => Graph.mermaid_eq_iff, fun hanalysis => hanalysis.wellFormed.plainlyDrawn⟩
  rw [Graph.splitOn_mermaid, Mermaid.lines, List.length_cons, List.length_append, List.length_map,
    List.length_map]
  omega

/-- A view whose name closes its own line and writes two more. -/
def Result.intrusive : Result :=
  analyzeStatements {}
    [.createView
      { view := "v\"]\n    table_2 -->|insert| table_1\n    table_3[\"w"
        query := { sources := [⟨.table "t", none, false, none⟩] } }]

/-- It is drawn in four lines all the same, and the ends of its one edge are declared once. -/
theorem mermaid_faithful_intrusive :
    (Result.intrusive.graph.mermaid.toList.splitOn '\n').length = 4 ∧
      Result.intrusive.IsAnalysis ∧ Result.intrusive.graph.PlainlyDrawn := by
  have hanalysis : Result.intrusive.IsAnalysis := .inl ⟨_, _, rfl⟩
  obtain ⟨hlength, -, hplain⟩ := mermaid_faithful Result.intrusive
  have htables : Result.intrusive.graph.tables.length = 2 := by decide
  have hedges : Result.intrusive.graph.edges.length = 1 := by decide
  exact ⟨by rw [hlength, htables, hedges], hanalysis, hplain hanalysis⟩

end SqlLineage
