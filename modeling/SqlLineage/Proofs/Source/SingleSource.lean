import SqlLineage.CommandLine.Run
import SqlLineage.Proofs.Source.Collection

/-!
# A single source

A run analyses a single source as inline text and several ones as files.  For one source both ways
lead to the same graph, the same issues and the same error of a malformed statement.  They part
where the source is no script: a file is named by its error, and an inline text is not, though the
request has its name.
-/

namespace SqlLineage

open CommandLine (requestFor)

/-- An error, told of a file. -/
def LineageError.inFile (name : String) : LineageError → LineageError
  | .parse error => .parseSource name error
  | other => other

/-- The request that analyses sources as files, however many there are. -/
def listing (settings : Settings) (sources : List SourceFile) : Request :=
  { files := some sources
    dialect := settings.dialect
    options := some settings.options }

/-- The inline text that a single source becomes. -/
def SourceFile.inline (file : SourceFile) : Source :=
  { text := file.content, name := some file.name }

variable (parser : ScriptParser) (settings : Settings) (source : SourceFile)

/-! ## Requests for one source -/

section Requests

variable {settings source}

theorem isBlank_requestFor :
    (requestFor settings [source]).isBlank = Text.isBlankText source.content := by
  simp [Request.isBlank, requestFor, Request.fileList]

theorem isBlank_listing :
    (listing settings [source]).isBlank = Text.isBlankText source.content := by
  have hempty : Text.isBlankText "" = true := by decide
  simp [Request.isBlank, listing, Request.fileList, hempty]

theorem sources_requestFor (hblank : ¬Text.isBlankText source.content) :
    (requestFor settings [source]).sources = [source.inline] := by
  simp [Request.sources, requestFor, Request.fileList, hblank, SourceFile.inline]

theorem sources_listing :
    (listing settings [source]).sources = [{ source.inline with file := true }] := by
  have hempty : Text.isBlankText "" = true := by decide
  simp [Request.sources, listing, Request.fileList, hempty, SourceFile.inline]

end Requests

/-! ## Analysing a request by its sources -/

section Analysis

variable {parser} {request : Request}

theorem analyzeWith_of_isBlank (hblank : request.isBlank) :
    analyzeWith parser request =
      .ok (analyzeSourced (request.options.getD {}) [emptyInputIssue] []) := by
  rw [analyzeWith, if_pos hblank]

theorem analyzeWith_of_script {name : Option String} {text : String} {file : Bool}
    {script : List Sql.Statement} (hblank : ¬request.isBlank)
    (hsources : request.sources = [⟨text, name, file⟩])
    (hparse : parser request.dialect text = .ok script) :
    analyzeWith parser request =
      (reduceAll script).map (fun reduced => analyzeSourced (request.options.getD {}) []
        (reduced.map (fun statement => ⟨statement, name⟩))) := by
  rw [analyzeWith, if_neg hblank, hsources, collectFrom, hparse]
  simp only [reduceAll, List.length_nil]
  cases reduceFrom 0 script <;> rfl

theorem analyzeWith_of_noScript {source : Source} {error : ParseError} (hblank : ¬request.isBlank)
    (hsources : request.sources = [source])
    (hparse : parser request.dialect source.text = .error error) :
    analyzeWith parser request = .error (source.error error) := by
  rw [analyzeWith, if_neg hblank, hsources, collectFrom, hparse]
  rfl

end Analysis

/-- Reducing a script never ends in an error of the parser. -/
theorem mapError_inFile_reduceAll (name : String) (script : List Sql.Statement) :
    (reduceAll script).mapError (LineageError.inFile name) = reduceAll script := by
  rw [reduceAll]
  rcases reduces_or_firstMalformed script with ⟨reduced, hreduced⟩ | ⟨count, malformation, hfirst⟩
  · rw [reduceFrom_of_reduces hreduced]
    rfl
  · rw [reduceFrom_of_firstMalformed hfirst]
    rfl

/-! ## Both ways of analysing a source -/

theorem single_of_blank {source : SourceFile} (hblank : Text.isBlankText source.content) :
    ∃ result, analyzeWith parser (requestFor settings [source]) = .ok result ∧
      analyzeWith parser (listing settings [source]) = .ok result :=
  ⟨_, analyzeWith_of_isBlank (isBlank_requestFor.trans hblank),
    analyzeWith_of_isBlank (isBlank_listing.trans hblank)⟩

section Nonblank

variable {parser settings source}

theorem single_of_noScript (hblank : ¬Text.isBlankText source.content) {error : ParseError}
    (hparse : parser settings.dialect source.content = .error error) :
    analyzeWith parser (requestFor settings [source]) = .error (.parse error) ∧
      analyzeWith parser (listing settings [source]) = .error (.parseSource source.name error) :=
  ⟨analyzeWith_of_noScript (isBlank_requestFor ▸ hblank) (sources_requestFor hblank) hparse,
    analyzeWith_of_noScript (isBlank_listing ▸ hblank) sources_listing hparse⟩

/-- What a script leads to does not depend on where it stands. -/
theorem single_of_script (hblank : ¬Text.isBlankText source.content) {script : List Sql.Statement}
    (hparse : parser settings.dialect source.content = .ok script) :
    ∃ answer : List Statement → Result,
      analyzeWith parser (requestFor settings [source]) = (reduceAll script).map answer ∧
        analyzeWith parser (listing settings [source]) = (reduceAll script).map answer :=
  ⟨_, analyzeWith_of_script (isBlank_requestFor ▸ hblank) (sources_requestFor hblank) hparse,
    analyzeWith_of_script (isBlank_listing ▸ hblank) sources_listing hparse⟩

end Nonblank

theorem mapError_map {α β ε δ : Type} (first : Except ε α) (answer : α → β) (tell : ε → δ) :
    (first.map answer).mapError tell = (first.mapError tell).map answer := by
  cases first <;> rfl

/-- Analysing a source as a file gives what analysing it as the single source of a run gives, except
that an error of the parser is told of the file.  So both agree exactly on the sources that are
blank or scripts, and on the others a run with a single source does not say which one it was. -/
theorem analyzeWith_single (parser : ScriptParser) (settings : Settings) (source : SourceFile) :
    let single := analyzeWith parser (requestFor settings [source])
    let listed := analyzeWith parser (listing settings [source])
    listed = single.mapError (LineageError.inFile source.name) ∧
      (single = listed ↔ Text.isBlankText source.content ∨
        ∃ script, parser settings.dialect source.content = .ok script) ∧
      ∀ error, single = .error (.parse error) ↔
        ¬Text.isBlankText source.content ∧
          parser settings.dialect source.content = .error error := by
  intro single listed
  by_cases hblank : Text.isBlankText source.content
  · obtain ⟨result, hsingle, hlisted⟩ := single_of_blank parser settings hblank
    simp [single, listed, hsingle, hlisted, hblank, Except.mapError]
  · cases hparse : parser settings.dialect source.content with
    | error error =>
      obtain ⟨hsingle, hlisted⟩ := single_of_noScript hblank hparse
      simp [single, listed, hsingle, hlisted, hblank, Except.mapError, LineageError.inFile]
    | ok script =>
      obtain ⟨answer, hsingle, hlisted⟩ := single_of_script hblank hparse
      have hagree : listed = single.mapError (LineageError.inFile source.name) := by
        rw [show single = _ from hsingle, mapError_map, mapError_inFile_reduceAll]
        exact hlisted
      refine ⟨hagree, iff_of_true (hsingle.trans hlisted.symm) (.inr ⟨script, rfl⟩), ?_⟩
      -- an error of the parser would be told of the file in one of two equal answers
      intro error
      refine iff_of_false (fun hfails => ?_) (by simp)
      have hplain : listed = .error (.parse error) := (hlisted.trans hsingle.symm).trans hfails
      rw [hfails, hplain] at hagree
      cases hagree

/-- A file with a text in it that does not end. -/
def brokenSource : SourceFile := ⟨"broken.sql", "SELECT 'a"⟩

/-- What is wrong with the file. -/
def unterminated : ParseError :=
  { message := "sql parser error: Unterminated string literal at Line: 1, Column: 8"
    position := some ⟨1, 8⟩
    dialect := some .generic }

theorem parseScript_brokenSource :
    parseScript .generic brokenSource.content = .error unterminated := by
  rfl

/-- Alone and as one of the files of a request, the file ends an analysis in different errors. -/
theorem analyze_brokenSource_ne :
    let settings : Settings := ⟨.generic, .table, {}⟩
    analyze (requestFor settings [brokenSource]) = .error (.parse unterminated) ∧
      analyze (listing settings [brokenSource]) =
        .error (.parseSource "broken.sql" unterminated) ∧
      analyze (requestFor settings [brokenSource]) ≠ analyze (listing settings [brokenSource]) := by
  intro settings
  have hblank : ¬Text.isBlankText brokenSource.content := by decide
  obtain ⟨hsingle, hlisted⟩ :
      analyze (requestFor settings [brokenSource]) = .error (.parse unterminated) ∧
        analyze (listing settings [brokenSource]) =
          .error (.parseSource "broken.sql" unterminated) :=
    single_of_noScript hblank parseScript_brokenSource
  refine ⟨hsingle, hlisted, ?_⟩
  rw [hsingle, hlisted]
  simp

end SqlLineage
