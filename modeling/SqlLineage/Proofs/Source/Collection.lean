import Mathlib.Data.List.Forall2
import SqlLineage.Source

/-!
# Collecting the statements of sources

A request is answered from the statements of all its sources, files first.  Either every source
yields its statements, or the first one that does not decides the error.  The parser may be any
function that finds no statements in those sources that are blank.
-/

namespace SqlLineage

/-! ## Reducing scripts -/

/-- A script of which every statement can be reduced, and what is kept of them. -/
def Reduces (script : List Sql.Statement) (reduced : List Statement) : Prop :=
  List.Forall₂ (fun statement kept => Statement.ofSyntax statement = .ok kept) script reduced

/-- The first statement of a script that cannot be reduced stands behind `count` that can. -/
def FirstMalformed (script : List Sql.Statement) (count : Nat) (malformation : Malformation) :
    Prop :=
  ∃ done statement after reduced, script = done ++ statement :: after ∧ done.length = count ∧
    Reduces done reduced ∧ Statement.ofSyntax statement = .error malformation

variable {script : List Sql.Statement} {reduced : List Statement} {index : Nat}

theorem reduceFrom_of_reduces (h : Reduces script reduced) (index : Nat) :
    reduceFrom index script = .ok reduced := by
  induction h generalizing index with
  | nil => rfl
  | cons hstatement _ ih => simp [reduceFrom, reduce, hstatement, ih, bind, Except.bind, pure,
      Except.pure]

theorem reduceFrom_of_firstMalformed {count : Nat} {malformation : Malformation}
    (h : FirstMalformed script count malformation) (index : Nat) :
    reduceFrom index script = .error (.malformed (index + count) malformation.message) := by
  obtain ⟨done, statement, after, reduced, rfl, rfl, hdone, hstatement⟩ := h
  induction hdone generalizing index with
  | nil => simp [reduceFrom, reduce, hstatement, bind, Except.bind]
  | @cons _ _ done _ hfirst _ ih =>
    have hcount : index + 1 + done.length = index + (done.length + 1) := by omega
    simp [reduceFrom, reduce, hfirst, ih, bind, Except.bind, hcount]

/-- Every script either can be reduced or has a first statement that cannot. -/
theorem reduces_or_firstMalformed (script : List Sql.Statement) :
    (∃ reduced, Reduces script reduced) ∨
      ∃ count malformation, FirstMalformed script count malformation := by
  induction script with
  | nil => exact .inl ⟨[], .nil⟩
  | cons statement rest ih =>
    cases hstatement : Statement.ofSyntax statement with
    | error malformation =>
      exact .inr ⟨0, malformation, [], statement, rest, [], rfl, rfl, .nil, hstatement⟩
    | ok kept =>
      rcases ih with ⟨reduced, hrest⟩ | ⟨count, malformation, hrest⟩
      · exact .inl ⟨kept :: reduced, .cons hstatement hrest⟩
      · obtain ⟨done, bad, after, reduced, rfl, rfl, hdone, hbad⟩ := hrest
        exact .inr ⟨done.length + 1, malformation, statement :: done, bad, after, kept :: reduced,
          rfl, rfl, .cons hstatement hdone, hbad⟩

/-! ## Sources -/

section Sources

variable {parser : ScriptParser} {dialect : Dialect} {source : Source} {before : Nat}

/-- What a source yields: its statements, each with the name of the source. -/
def Source.Yields (parser : ScriptParser) (dialect : Dialect) (source : Source)
    (statements : List SourcedStatement) : Prop :=
  ∃ script reduced, parser dialect source.text = .ok script ∧ Reduces script reduced ∧
    statements = reduced.map (fun statement => ⟨statement, source.name⟩)

/-- How a source fails that has `before` statements in front of it. -/
inductive Source.Fails (parser : ScriptParser) (dialect : Dialect) (source : Source)
    (before : Nat) : LineageError → Prop where
  /-- A file that is no script, by its name. -/
  | file {name : String} {error : ParseError} (hfile : source.file = true)
      (hname : source.name = some name) (hparse : parser dialect source.text = .error error) :
      Fails parser dialect source before (.parseSource name error)
  /-- An inline text that is no script. -/
  | inline {error : ParseError} (hfile : source.file = false)
      (hparse : parser dialect source.text = .error error) :
      Fails parser dialect source before (.parse error)
  /-- A statement that cannot be reduced, by its place among all statements. -/
  | malformed {script : List Sql.Statement} {count : Nat} {malformation : Malformation}
      (hparse : parser dialect source.text = .ok script)
      (hfirst : FirstMalformed script count malformation) :
      Fails parser dialect source before (.malformed (before + count) malformation.message)

/-- A source whose file has a name. -/
def Source.Named (source : Source) : Prop :=
  source.file = true → source.name.isSome

theorem Source.yields_or_fails (hnamed : source.Named) (parser : ScriptParser) (dialect : Dialect)
    (before : Nat) :
    (∃ statements, source.Yields parser dialect statements) ∨
      ∃ error, source.Fails parser dialect before error := by
  cases hparse : parser dialect source.text with
  | error error =>
    cases hfile : source.file with
    | false => exact .inr ⟨_, .inline hfile hparse⟩
    | true =>
      obtain ⟨name, hname⟩ := Option.isSome_iff_exists.mp (hnamed hfile)
      exact .inr ⟨_, .file hfile hname hparse⟩
  | ok script =>
    rcases reduces_or_firstMalformed script with ⟨reduced, hreduced⟩ | ⟨count, malformation, hfirst⟩
    · exact .inl ⟨_, script, reduced, hparse, hreduced, rfl⟩
    · exact .inr ⟨_, .malformed hparse hfirst⟩

/-- Every source yields its statements, in order. -/
def AllYield (parser : ScriptParser) (dialect : Dialect) (sources : List Source)
    (statements : List SourcedStatement) : Prop :=
  ∃ parts, List.Forall₂ (Source.Yields parser dialect) sources parts ∧ statements = parts.flatten

/-- The sources in front of one yield their statements, and that one fails with the error; `before`
statements stand in front of all of them. -/
def FirstFails (parser : ScriptParser) (dialect : Dialect) (before : Nat) (sources : List Source)
    (error : LineageError) : Prop :=
  ∃ done source after statements, sources = done ++ source :: after ∧
    AllYield parser dialect done statements ∧
    source.Fails parser dialect (before + statements.length) error

variable {sources : List Source} {statements : List SourcedStatement}

theorem allYield_nil : AllYield parser dialect [] [] := ⟨[], .nil, rfl⟩

theorem AllYield.cons {first : List SourcedStatement}
    (hfirst : source.Yields parser dialect first)
    (hrest : AllYield parser dialect sources statements) :
    AllYield parser dialect (source :: sources) (first ++ statements) := by
  obtain ⟨parts, hparts, rfl⟩ := hrest
  exact ⟨first :: parts, .cons hfirst hparts, rfl⟩

theorem FirstFails.cons {first : List SourcedStatement} {error : LineageError}
    (hfirst : source.Yields parser dialect first)
    (hrest : FirstFails parser dialect (before + first.length) sources error) :
    FirstFails parser dialect before (source :: sources) error := by
  obtain ⟨done, bad, after, statements, rfl, hdone, hfails⟩ := hrest
  refine ⟨source :: done, bad, after, first ++ statements, rfl, hdone.cons hfirst, ?_⟩
  simpa [Nat.add_assoc] using hfails

theorem allYield_or_firstFails (hnamed : ∀ source ∈ sources, source.Named) (parser : ScriptParser)
    (dialect : Dialect) (before : Nat) :
    (∃ statements, AllYield parser dialect sources statements) ∨
      ∃ error, FirstFails parser dialect before sources error := by
  induction sources generalizing before with
  | nil => exact .inl ⟨[], allYield_nil⟩
  | cons source rest ih =>
    rw [List.forall_mem_cons] at hnamed
    rcases source.yields_or_fails hnamed.1 parser dialect before with
      ⟨first, hfirst⟩ | ⟨error, hfails⟩
    · rcases ih hnamed.2 (before + first.length) with ⟨statements, hrest⟩ | ⟨error, hrest⟩
      · exact .inl ⟨first ++ statements, hrest.cons hfirst⟩
      · exact .inr ⟨error, hrest.cons hfirst⟩
    · exact .inr ⟨error, [], source, rest, [], rfl, allYield_nil, hfails⟩

theorem collectFrom_cons_of_yields {first : List SourcedStatement}
    (hfirst : source.Yields parser dialect first) (before : List SourcedStatement) :
    collectFrom parser dialect before (source :: sources) =
      collectFrom parser dialect (before ++ first) sources := by
  obtain ⟨script, reduced, hparse, hreduced, rfl⟩ := hfirst
  rw [collectFrom, hparse]
  simp [reduceFrom_of_reduces hreduced, bind, Except.bind]

theorem collectFrom_cons_of_fails {error : LineageError} {before : List SourcedStatement}
    (hfails : source.Fails parser dialect before.length error) :
    collectFrom parser dialect before (source :: sources) = .error error := by
  rw [collectFrom]
  cases hfails with
  | file hfile hname hparse => simp [hparse, Source.error, hfile, hname]
  | inline hfile hparse => simp [hparse, Source.error, hfile]
  | malformed hparse hfirst =>
    simp [hparse, reduceFrom_of_firstMalformed hfirst, bind, Except.bind]

theorem collectFrom_of_allYield (h : AllYield parser dialect sources statements)
    (before : List SourcedStatement) :
    collectFrom parser dialect before sources = .ok (before ++ statements) := by
  obtain ⟨parts, hparts, rfl⟩ := h
  induction hparts generalizing before with
  | nil => simp [collectFrom]
  | cons hfirst _ ih => rw [collectFrom_cons_of_yields hfirst, ih]; simp

theorem collectFrom_of_firstFails {error : LineageError} {before : List SourcedStatement}
    (h : FirstFails parser dialect before.length sources error) :
    collectFrom parser dialect before sources = .error error := by
  obtain ⟨done, source, after, statements, rfl, ⟨parts, hparts, rfl⟩, hfails⟩ := h
  induction hparts generalizing before with
  | nil => exact collectFrom_cons_of_fails hfails
  | @cons first _ statements parts hfirst _ ih =>
    rw [List.cons_append, collectFrom_cons_of_yields hfirst]
    apply ih
    simpa [Nat.add_assoc] using hfails

theorem collectFrom_eq_ok_iff (hnamed : ∀ source ∈ sources, source.Named) :
    collectFrom parser dialect [] sources = .ok statements ↔
      AllYield parser dialect sources statements := by
  refine ⟨fun hcollect => ?_, fun h => collectFrom_of_allYield h []⟩
  rcases allYield_or_firstFails hnamed parser dialect 0 with ⟨yielded, hall⟩ | ⟨error, hfails⟩
  · rw [collectFrom_of_allYield hall []] at hcollect
    cases hcollect
    exact hall
  · rw [collectFrom_of_firstFails hfails] at hcollect
    cases hcollect

theorem collectFrom_eq_error_iff {error : LineageError}
    (hnamed : ∀ source ∈ sources, source.Named) :
    collectFrom parser dialect [] sources = .error error ↔
      FirstFails parser dialect 0 sources error := by
  refine ⟨fun hcollect => ?_, fun h => collectFrom_of_firstFails h⟩
  rcases allYield_or_firstFails hnamed parser dialect 0 with ⟨yielded, hall⟩ | ⟨failure, hfails⟩
  · rw [collectFrom_of_allYield hall []] at hcollect
    cases hcollect
  · rw [collectFrom_of_firstFails hfails] at hcollect
    cases hcollect
    exact hfails

theorem collectFrom_of_silent (hsilent : ∀ source ∈ sources, parser dialect source.text = .ok [])
    (before : List SourcedStatement) : collectFrom parser dialect before sources = .ok before := by
  induction sources with
  | nil => rfl
  | cons first rest ih =>
    rw [List.forall_mem_cons] at hsilent
    simp [collectFrom, hsilent.1, reduceFrom, bind, Except.bind, ih hsilent.2]

/-- A source without statements may be left out at the end. -/
theorem collectFrom_append_silent (hparse : parser dialect source.text = .ok [])
    (sources : List Source) (before : List SourcedStatement) :
    collectFrom parser dialect before (sources ++ [source]) =
      collectFrom parser dialect before sources := by
  induction sources generalizing before with
  | nil => simp [collectFrom, hparse, reduceFrom, bind, Except.bind]
  | cons first rest ih =>
    rw [List.cons_append, collectFrom, collectFrom]
    cases parser dialect first.text with
    | error error => rfl
    | ok script =>
      dsimp only
      congr 1
      funext reduced
      exact ih _

end Sources

/-! ## Issues -/

theorem code_of_mem_issuesFrom {issue : Issue} {index : Nat} {statements : List SourcedStatement}
    (hissue : issue ∈ issuesFrom index statements) : issue.code = "UNSUPPORTED_STATEMENT" := by
  induction statements generalizing index with
  | nil => simp [issuesFrom] at hissue
  | cons first rest ih =>
    obtain ⟨statement, sourceName⟩ := first
    cases statement with
    | unsupported kind =>
      rw [issuesFrom, List.mem_cons] at hissue
      rcases hissue with rfl | hrest
      · rfl
      · exact ih hrest
    | _ => exact ih hissue

theorem graph_analyzeSourced (options : Options) (issues : List Issue)
    (statements : List SourcedStatement) :
    (analyzeSourced options issues statements).graph =
      (analyzeStatements options (statements.map SourcedStatement.statement)).graph := by
  simp [analyzeStatements, analyzeSourced, analyzeAll, List.foldl_map]

/-! ## Requests -/

section Requests

/-- Every source of a request in order, its inline text included also when that is blank. -/
def Request.allSources (request : Request) : List Source :=
  request.fileList.map (fun file => ⟨file.content, some file.name, true⟩) ++
    [⟨request.sql, request.sourceName, false⟩]

/-- The issues that a request gives rise to before its statements are read. -/
def Request.firstIssues (request : Request) : List Issue :=
  if request.isBlank then [emptyInputIssue] else []

variable {request : Request} {parser : ScriptParser}

theorem Request.allSources_named : ∀ source ∈ request.allSources, source.Named := by
  intro source hsource
  rcases List.mem_append.mp hsource with hfile | hinline
  · obtain ⟨file, -, rfl⟩ := List.mem_map.mp hfile
    exact fun _ => rfl
  · rw [List.mem_singleton.mp hinline]
    exact fun hfile => absurd hfile Bool.false_ne_true

theorem Request.isBlank_iff :
    request.isBlank ↔ Text.isBlankText request.sql ∧
      ∀ file ∈ request.fileList, Text.isBlankText file.content := by
  simp [Request.isBlank]

variable (hblank : ∀ source ∈ request.allSources, Text.isBlankText source.text →
  parser request.dialect source.text = .ok [])

include hblank

theorem collectFrom_sources :
    collectFrom parser request.dialect [] request.sources =
      collectFrom parser request.dialect [] request.allSources := by
  have hinline : ⟨request.sql, request.sourceName, false⟩ ∈ request.allSources := by
    simp [Request.allSources]
  rw [Request.sources, Request.allSources]
  by_cases hsql : Text.isBlankText request.sql
  · rw [if_pos hsql, List.append_nil, collectFrom_append_silent (hblank _ hinline hsql)]
  · rw [if_neg hsql]

theorem collectFrom_of_isBlank (hrequest : request.isBlank) :
    collectFrom parser request.dialect [] request.allSources = .ok [] := by
  obtain ⟨hsql, hfiles⟩ := Request.isBlank_iff.mp hrequest
  have hall : ∀ source ∈ request.allSources, Text.isBlankText source.text := by
    rw [Request.allSources, List.forall_mem_append, List.forall_mem_map, List.forall_mem_singleton]
    exact ⟨hfiles, hsql⟩
  exact collectFrom_of_silent (fun source hsource => hblank source hsource (hall source hsource)) []

/-- Analysing a request comes to analysing what its sources yield. -/
theorem analyzeWith_eq_map :
    analyzeWith parser request =
      (collectFrom parser request.dialect [] request.allSources).map
        (analyzeSourced (request.options.getD {}) request.firstIssues) := by
  by_cases hrequest : request.isBlank
  · rw [analyzeWith, collectFrom_of_isBlank hblank hrequest]
    simp [hrequest, Request.firstIssues, Except.map]
  · rw [analyzeWith, collectFrom_sources hblank]
    simp only [hrequest, Request.firstIssues]
    cases collectFrom parser request.dialect [] request.allSources <;> rfl

theorem analyzeWith_eq_ok_iff {result : Result} :
    analyzeWith parser request = .ok result ↔
      ∃ statements, AllYield parser request.dialect request.allSources statements ∧
        analyzeSourced (request.options.getD {}) request.firstIssues statements = result := by
  rw [analyzeWith_eq_map hblank]
  constructor
  · intro hresult
    cases hcollect : collectFrom parser request.dialect [] request.allSources with
    | error error =>
      rw [hcollect] at hresult
      cases hresult
    | ok statements =>
      rw [hcollect] at hresult
      exact ⟨statements, (collectFrom_eq_ok_iff request.allSources_named).mp hcollect,
        Except.ok.inj hresult⟩
  · rintro ⟨statements, hall, rfl⟩
    rw [(collectFrom_eq_ok_iff request.allSources_named).mpr hall]
    rfl

theorem analyzeWith_eq_error_iff {error : LineageError} :
    analyzeWith parser request = .error error ↔
      FirstFails parser request.dialect 0 request.allSources error := by
  rw [analyzeWith_eq_map hblank, ← collectFrom_eq_error_iff request.allSources_named]
  cases collectFrom parser request.dialect [] request.allSources with
  | error failure => simp [Except.map]
  | ok statements => simp [Except.map]

/-- An empty input is told of exactly for a request without text. -/
theorem exists_emptyInput_iff :
    (∃ result, analyzeWith parser request = .ok result ∧
      ∃ issue ∈ result.issues, issue.code = "EMPTY_INPUT") ↔ request.isBlank := by
  constructor
  · rintro ⟨result, hresult, issue, hissue, hcode⟩
    obtain ⟨statements, -, rfl⟩ := (analyzeWith_eq_ok_iff hblank).mp hresult
    rcases List.mem_append.mp hissue with hfirst | hstatement
    · by_contra hrequest
      simp [Request.firstIssues, hrequest] at hfirst
    · rw [code_of_mem_issuesFrom hstatement] at hcode
      exact absurd hcode (by decide)
  · intro hrequest
    refine ⟨_, by rw [analyzeWith_eq_map hblank, collectFrom_of_isBlank hblank hrequest]; rfl, ?_⟩
    refine ⟨emptyInputIssue, ?_, rfl⟩
    simp [analyzeSourced, Request.firstIssues, hrequest]

end Requests

theorem analyzeSourced_eq_iff {options : Options} {issues : List Issue}
    {statements : List SourcedStatement} {result : Result} :
    analyzeSourced options issues statements = result ↔
      result.graph =
          (analyzeStatements options (statements.map SourcedStatement.statement)).graph ∧
        result.issues = issues ++ issuesFrom 0 statements := by
  obtain ⟨graph, found⟩ := result
  rw [← graph_analyzeSourced options issues statements, analyzeSourced, Result.mk.injEq]
  exact and_congr eq_comm eq_comm

/-! ## Blank sources -/

theorem scan_gap (dialect : Dialect) (previous : Option Sql.Token) {c : Char}
    (hc : c ∈ [' ', '\t', '\n', '\r']) (rest : List Char) :
    ∃ skipped, Sql.scan dialect previous (c :: rest) = .ok (none, rest.drop skipped) := by
  simp only [List.mem_cons, List.not_mem_nil, or_false] at hc
  rcases hc with rfl | rfl | rfl | rfl
  · exact ⟨0, rfl⟩
  · exact ⟨0, rfl⟩
  · exact ⟨0, rfl⟩
  · -- a line feed behind a carriage return goes with it
    cases rest with
    | nil => exact ⟨0, rfl⟩
    | cons next rest =>
      by_cases hnext : next = '\n'
      · exact ⟨1, by rw [hnext]; rfl⟩
      · exact ⟨0, by simp [Sql.scan, hnext]⟩

theorem lexFrom_gaps {dialect : Dialect} (steps : Nat) {chars : List Char}
    (hchars : ∀ c ∈ chars, c ∈ [' ', '\t', '\n', '\r']) (count : Nat) (position : Sql.Position)
    (previous : Option Sql.Token) (spaced : Bool) :
    Sql.lexFrom dialect steps chars count position previous spaced = .ok [] := by
  induction steps generalizing chars count position previous spaced with
  | zero => rw [Sql.lexFrom]
  | succ steps ih =>
    cases chars with
    | nil => rw [Sql.lexFrom]; simp
    | cons c rest =>
      rw [List.forall_mem_cons] at hchars
      obtain ⟨skipped, hscan⟩ := scan_gap dialect previous hchars.1 rest
      rw [Sql.lexFrom, hscan]
      · exact ih (fun d hd => hchars.2 d (List.mem_of_mem_drop hd)) _ _ _ _
      · simp

/-- The parser of scripts finds no statements in blanks, tabs and line ends, whatever the
dialect. -/
theorem parseScript_gaps {text : String} (dialect : Dialect)
    (htext : ∀ c ∈ text.toList, c ∈ [' ', '\t', '\n', '\r']) :
    parseScript dialect text = .ok [] := by
  have hlex : Sql.lex dialect text = .ok [] := lexFrom_gaps _ htext _ _ _ _
  have hstatements : Sql.statements dialect text = .ok [] := by
    rw [Sql.statements, hlex]
    rfl
  rw [parseScript, hstatements]

/-! ## Answers -/

/-- A request is answered from the statements of its sources in order, each with the name of its
source, and the first source that fails decides the error. -/
theorem analyzeWith_request (parser : ScriptParser) (request : Request)
    (hblank : ∀ source ∈ request.allSources, Text.isBlankText source.text →
      parser request.dialect source.text = .ok []) :
    (∀ result, analyzeWith parser request = .ok result ↔
      ∃ statements, AllYield parser request.dialect request.allSources statements ∧
        result.graph = (analyzeStatements (request.options.getD {})
          (statements.map SourcedStatement.statement)).graph ∧
        result.issues = request.firstIssues ++ issuesFrom 0 statements) ∧
    (∀ error, analyzeWith parser request = .error error ↔
      FirstFails parser request.dialect 0 request.allSources error) ∧
    ((∃ result, analyzeWith parser request = .ok result ∧
        ∃ issue ∈ result.issues, issue.code = "EMPTY_INPUT") ↔
      Text.isBlankText request.sql ∧ ∀ file ∈ request.fileList, Text.isBlankText file.content) := by
  refine ⟨fun result => ?_, fun error => analyzeWith_eq_error_iff hblank, ?_⟩
  · simp only [analyzeWith_eq_ok_iff hblank, analyzeSourced_eq_iff]
  · rw [exists_emptyInput_iff hblank, Request.isBlank_iff]

/-- A parser that knows two scripts. -/
def knownScripts : ScriptParser := fun _ text =>
  if Text.isBlankText text then .ok []
  else if text = "DROP TABLE t" then .ok [.other "DROP TABLE"]
  else if text = "INSERT INTO FUNCTION f() VALUES (1)" then
    .ok [.insert { target := .function "f()", source := some { body := .values "VALUES (1)" } }]
  else .error { message := "unknown script" }

/-- A request with a blank file, a file of one statement and an inline text that is malformed. -/
def loading : Request :=
  { sql := "INSERT INTO FUNCTION f() VALUES (1)"
    files := some [⟨"blank.sql", "\n"⟩, ⟨"drop.sql", "DROP TABLE t"⟩]
    dialect := .clickhouse }

/-- A request without any text, besides blanks and a line end. -/
def spacing : Request :=
  { sql := "  ", files := some [⟨"blank.sql", "\n"⟩] }

theorem analyzeWith_loading :
    ((∀ source ∈ loading.allSources, Text.isBlankText source.text →
        knownScripts loading.dialect source.text = .ok []) ∧
      analyzeWith knownScripts loading =
        .error (.malformed 1 "INSERT target `f()` is a table function")) ∧
    (∀ source ∈ spacing.allSources, Text.isBlankText source.text →
        parseScript spacing.dialect source.text = .ok []) ∧
      ∃ result, analyzeWith parseScript spacing = .ok result ∧
        ∃ issue ∈ result.issues, issue.code = "EMPTY_INPUT" := by
  have hloading : ∀ source ∈ loading.allSources, Text.isBlankText source.text →
      knownScripts loading.dialect source.text = .ok [] :=
    fun source _ hsource => by rw [knownScripts, if_pos hsource]
  have hdrop : Source.Yields knownScripts .clickhouse ⟨"DROP TABLE t", some "drop.sql", true⟩
      [⟨.unsupported "DROP TABLE", some "drop.sql"⟩] :=
    ⟨_, _, rfl, .cons rfl .nil, rfl⟩
  have hempty : Source.Yields knownScripts .clickhouse ⟨"\n", some "blank.sql", true⟩ [] :=
    ⟨[], [], rfl, .nil, rfl⟩
  have hinsert : Source.Fails knownScripts .clickhouse
      ⟨"INSERT INTO FUNCTION f() VALUES (1)", none, false⟩ 1
      (.malformed 1 (Malformation.insertIntoFunction "f()").message) :=
    .malformed rfl ⟨[], _, [], [], rfl, rfl, .nil, rfl⟩
  have hfirst : FirstFails knownScripts .clickhouse 0 loading.allSources
      (.malformed 1 (Malformation.insertIntoFunction "f()").message) :=
    ⟨_, _, [], _, rfl, (AllYield.cons hdrop allYield_nil).cons hempty, hinsert⟩
  have hspacing : ∀ source ∈ spacing.allSources, Text.isBlankText source.text →
      parseScript spacing.dialect source.text = .ok [] := by
    intro source hsource _
    apply parseScript_gaps _
    rcases List.mem_cons.mp hsource with rfl | hinline
    · simp
    · rw [List.mem_singleton.mp hinline]
      simp [spacing]
  refine ⟨⟨hloading, ?_⟩, hspacing, ?_⟩
  · exact ((analyzeWith_request knownScripts loading hloading).2.1 _).mpr hfirst
  · exact (analyzeWith_request parseScript spacing hspacing).2.2.mpr (by decide)

end SqlLineage
