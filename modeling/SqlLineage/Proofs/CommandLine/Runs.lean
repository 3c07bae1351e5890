import SqlLineage.Proofs.CommandLine.Stages
import SqlLineage.Proofs.Source.SingleSource

/-!
# Runs

A run does all that it is asked for or nothing.  Its stages look at what there is, then one delivers
the report, and what comes last does not fail: so a run that fails shows nothing and leaves every
file as it was, and a run that succeeds delivers one report, to one place.
-/

namespace SqlLineage.CommandLine

/-- A run that analyses something, rather than listing what there is. -/
def Arguments.Analyses (arguments : Arguments) : Prop :=
  arguments.listDialects = false ∧ arguments.schema = false

/-- What a report that is delivered leaves behind, by the path that it goes to.  A file is the one
that the path leads to, whatever other paths lead there. -/
def Delivers (before : Directory) (text : String) (outcome : Outcome) : Option String → Prop
  | some path => outcome.output = "" ∧ ∃ place, before.locate path = .ok place ∧
      outcome.directory.locate path = .ok place ∧ before.Receives place text outcome.directory
  | none =>
    outcome.directory = before ∧ (EndsLine text → outcome.output = text) ∧
      (¬EndsLine text → outcome.output = text ++ "\n")

section Stages

variable (arguments : Arguments) (start : World)

/-- The settings and the sources that a run has when it starts to analyse. -/
structure Prepares (settings : Settings) (sources : List SourceFile) : Prop where
  settings : ∃ config, (loadConfig arguments.config).run start = .ok config start ∧
    settings = Settings.resolve arguments.choices config
  sources : (readSources arguments.files).run start = .ok sources start

/-- A run renders a report of what it finds. -/
def Renders (text : String) : Prop :=
  ∃ settings sources result, Prepares arguments start settings sources ∧
    analyzeSources settings arguments.statements sources = .ok result ∧
    text = result.report settings.format arguments.compact arguments.quiet

/-- How a run fails, stage by stage. -/
inductive Fails : Failure → Prop where
  | config {failure : Failure}
      (hconfig : (loadConfig arguments.config).run start = .error (.failure failure) start) :
      Fails failure
  | sources {config : Config} {failure : Failure}
      (hconfig : (loadConfig arguments.config).run start = .ok config start)
      (hsources : (readSources arguments.files).run start = .error (.failure failure) start) :
      Fails failure
  | documents {settings : Settings} {sources : List SourceFile} {error : DocumentError}
      (hprepares : Prepares arguments start settings sources)
      (hdocuments : arguments.statements = true)
      (hread : readStatements sources = .error error) :
      Fails (.document error)
  | analysis {settings : Settings} {sources : List SourceFile} {error : LineageError}
      (hprepares : Prepares arguments start settings sources)
      (htexts : arguments.statements = false)
      (hanalysis : analyze (requestFor settings sources) = .error error) :
      Fails (.analysis error)
  | file {path text : String} {fault : FileFault}
      (hrenders : Renders arguments start text)
      (houtput : arguments.output = some path)
      (hwrite : start.directory.write path text = .error fault) :
      Fails (.unwritable path fault)
  | standardOutput {text : String} {fault : FileFault} {output : Output}
      (hrenders : Renders arguments start text)
      (houtput : arguments.output = none)
      (hprint : Printing.print text start.output = .error fault output) :
      Fails (.unprintable fault)

/-- The end of a run is accounted for by the stage that fails, by standard output that takes a
report but not a line feed, or by the text that is rendered and delivered. -/
def Accounts : EStateM.Result Stop World Unit → Prop
  | .error (.failure failure) _ => Fails arguments start failure
  | .error (.panic _) _ => start.output.sink ≠ .unbounded
  | .ok _ after => ∃ text, Renders arguments start text ∧
      Delivers start.directory text (after.outcome 0) arguments.output

/-- What a run does once its settings and sources are there. -/
def conclude (settings : Settings) (sources : List SourceFile) : Stage Unit := do
  let result ← Stage.ofExcept (analyzeSources settings arguments.statements sources)
  writeReport arguments.output (result.report settings.format arguments.compact arguments.quiet)
  Stage.printError (issueText settings.format arguments.quiet result.issues)

end Stages

/-! ## The order of the stages -/

section Order

variable (arguments : Arguments)

theorem leavesNothing_report : Stage.LeavesNothing (report arguments) := by
  refine (looks_loadConfig arguments.config).bind_leavesNothing (fun config => ?_)
  refine (looks_readSources arguments.files).bind_leavesNothing (fun sources => ?_)
  refine (Stage.looks_ofExcept (fun _ _ => trivial)).bind_leavesNothing (fun result => ?_)
  exact (leavesNothing_writeReport _ _).bind_goes (fun _ => Stage.goes_printError _)

/-- Whatever stops a run, it has shown nothing and changed no file. -/
theorem leavesNothing_execute : Stage.LeavesNothing (execute arguments) := by
  unfold execute
  split
  · exact Stage.leavesNothing_printing (fun before => Printing.prints_printLines before _)
  · exact leavesNothing_report arguments

end Order

/-! ## Reports -/

section Reports

variable {arguments : Arguments} {start : World} {settings : Settings} {sources : List SourceFile}

/-- A failure of a run is that of an analysis exactly when the analysis of its texts fails. -/
theorem fails_analysis_iff {error : LineageError} :
    Fails arguments start (.analysis error) ↔
      arguments.statements = false ∧ ∃ settings sources,
        Prepares arguments start settings sources ∧
          analyze (requestFor settings sources) = .error error := by
  constructor
  · intro hfails
    cases hfails with
    | config hconfig =>
      exact absurd rfl ((looks_loadConfig arguments.config).allows hconfig error)
    | sources _ hsources =>
      exact absurd rfl ((looks_readSources arguments.files).allows hsources error)
    | analysis hprepares htexts hanalysis => exact ⟨htexts, _, _, hprepares, hanalysis⟩
  · rintro ⟨htexts, settings, sources, hprepares, hanalysis⟩
    exact .analysis hprepares htexts hanalysis

/-- Once its settings and sources are there, a run analyses and delivers. -/
theorem run_report_of_prepares (hprepares : Prepares arguments start settings sources) :
    (report arguments).run start = (conclude arguments settings sources).run start := by
  obtain ⟨⟨config, hconfig, rfl⟩, hsources⟩ := hprepares
  rw [report, EStateM.run_bind, hconfig]
  dsimp only
  rw [EStateM.run_bind, hsources]
  rfl

/-- Once the analysis is done, a run delivers. -/
theorem run_conclude_of_ok {result : Result}
    (hresult : analyzeSources settings arguments.statements sources = .ok result) :
    (conclude arguments settings sources).run start =
      (do
        writeReport arguments.output
          (result.report settings.format arguments.compact arguments.quiet)
        Stage.printError (issueText settings.format arguments.quiet result.issues) :
          Stage Unit).run start := by
  rw [conclude, hresult]
  rfl

theorem run_conclude_of_error {failure : Failure}
    (hresult : analyzeSources settings arguments.statements sources = .error failure) :
    (conclude arguments settings sources).run start = .error (.failure failure) start := by
  rw [conclude, hresult]
  rfl

theorem run_report_of_fails {failure : Failure} (hfails : Fails arguments start failure) :
    ∃ after, (report arguments).run start = .error (.failure failure) after := by
  cases hfails with
  | config hconfig =>
    rw [report, EStateM.run_bind, hconfig]
    exact ⟨start, rfl⟩
  | sources hconfig hsources =>
    rw [report, EStateM.run_bind, hconfig]
    dsimp only
    rw [EStateM.run_bind, hsources]
    exact ⟨start, rfl⟩
  | documents hprepares hdocuments hread =>
    rw [run_report_of_prepares hprepares, run_conclude_of_error]
    · exact ⟨start, rfl⟩
    · rw [analyzeSources, if_pos hdocuments, hread]
      rfl
  | analysis hprepares htexts hanalysis =>
    rw [run_report_of_prepares hprepares, run_conclude_of_error]
    · exact ⟨start, rfl⟩
    · rw [analyzeSources, htexts, hanalysis]
      rfl
  | file hrenders houtput hwrite =>
    obtain ⟨settings, sources, result, hprepares, hresult, rfl⟩ := hrenders
    rw [run_report_of_prepares hprepares, run_conclude_of_ok hresult, EStateM.run_bind, houtput,
      writeReport, Stage.run_writeFile, hwrite]
    exact ⟨start, rfl⟩
  | standardOutput hrenders houtput hprint =>
    obtain ⟨settings, sources, result, hprepares, hresult, rfl⟩ := hrenders
    rw [run_report_of_prepares hprepares, run_conclude_of_ok hresult, EStateM.run_bind, houtput,
      writeReport, EStateM.run_bind, Stage.run_printing, hprint]
    exact ⟨_, rfl⟩

theorem fails_of_analyzeSources {failure : Failure}
    (hprepares : Prepares arguments start settings sources)
    (hresult : analyzeSources settings arguments.statements sources = .error failure) :
    Fails arguments start failure := by
  cases hdocuments : arguments.statements with
  | true =>
    rw [analyzeSources, if_pos hdocuments] at hresult
    cases hread : readStatements sources with
    | error error =>
      rw [hread] at hresult
      cases hresult
      exact .documents hprepares hdocuments hread
    | ok statements =>
      rw [hread] at hresult
      cases hresult
  | false =>
    rw [analyzeSources, hdocuments, if_neg Bool.false_ne_true] at hresult
    cases hanalysis : analyze (requestFor settings sources) with
    | error error =>
      rw [hanalysis] at hresult
      cases hresult
      exact .analysis hprepares hdocuments hanalysis
    | ok result =>
      rw [hanalysis] at hresult
      cases hresult

theorem accounts_deliver {text : String} {issues : String}
    (hrenders : Renders arguments start text) (hwhole : start.output.whole = "") :
    Accounts arguments start
      ((do writeReport arguments.output text; Stage.printError issues : Stage Unit).run start) := by
  obtain ⟨hshown, hheld⟩ : start.output.shown = "" ∧ start.output.held = "" := by
    simpa [Output.whole] using hwhole
  rw [EStateM.run_bind]
  cases houtput : arguments.output with
  | none =>
    have hprinted := printed_writeReport start text
    generalize (writeReport none text).run start = ended at hprinted
    cases hprinted with
    | refused hprint => exact .standardOutput hrenders houtput hprint
    | lineRefused hprints => exact hprints.2
    | @all output hend hall =>
      have hshows : output.shown = withLineEnd text := by
        simpa [Output.whole, hend, hshown, hheld] using hall
      refine ⟨text, hrenders, ?_⟩
      rw [houtput]
      refine ⟨rfl, fun hline => ?_, fun hline => ?_⟩
      · change output.close.shown = text
        rw [Output.close_of_held hend, hshows, withLineEnd_of_endsLine hline]
      · change output.close.shown = text ++ "\n"
        rw [Output.close_of_held hend, hshows, withLineEnd_of_not_endsLine hline]
  | some path =>
    rw [writeReport, Stage.run_writeFile]
    cases hwrite : start.directory.write path text with
    | error fault => exact .file hrenders houtput hwrite
    | ok changed =>
      obtain ⟨place, hlocate, hreceives⟩ := Directory.receives_of_write hwrite
      refine ⟨text, hrenders, ?_⟩
      rw [houtput]
      refine ⟨?_, place, hlocate, (hreceives.locate_eq_ok_iff path place).mpr hlocate, hreceives⟩
      change start.output.close.shown = ""
      rw [Output.close_of_held hheld, hshown]

/-- A run fails at one of its stages, or delivers the report that it renders. -/
theorem accounts_report (arguments : Arguments) {start : World} (hwhole : start.output.whole = "") :
    Accounts arguments start ((report arguments).run start) := by
  have hfailing : ∀ {failure}, Fails arguments start failure →
      Accounts arguments start ((report arguments).run start) := by
    intro failure hfails
    obtain ⟨after, hrun⟩ := run_report_of_fails hfails
    rw [hrun]
    exact hfails
  -- the stages in their order, each looked at once those before it have succeeded
  rcases looks_loadConfig arguments.config start with ⟨config, hconfig⟩ | ⟨failure, -, hconfig⟩
  · rcases looks_readSources arguments.files start with
      ⟨sources, hsources⟩ | ⟨failure, -, hsources⟩
    · have hprepares : Prepares arguments start (Settings.resolve arguments.choices config)
          sources := ⟨⟨config, hconfig, rfl⟩, hsources⟩
      cases hresult : analyzeSources (Settings.resolve arguments.choices config)
          arguments.statements sources with
      | error failure => exact hfailing (fails_of_analyzeSources hprepares hresult)
      | ok result =>
        rw [run_report_of_prepares hprepares, run_conclude_of_ok hresult]
        exact accounts_deliver ⟨_, sources, result, hprepares, hresult, rfl⟩ hwhole
    · exact hfailing (.sources hconfig hsources)
  · exact hfailing (.config hconfig)

end Reports

/-! ## Outcomes -/

section Outcomes

variable {arguments : Arguments} {surroundings : Surroundings} {sink : Sink}

theorem Failure.code_eq_one_iff {failure : Failure} :
    failure.code = 1 ↔ ∃ error, failure = .analysis error := by
  cases failure <;> simp [Failure.code]

theorem Failure.code_eq_other_iff {failure : Failure} : failure.code = 66 ↔ failure.Other := by
  cases failure <;> simp [Failure.code, Failure.Other]

theorem Failure.code_eq_or (failure : Failure) : failure.code = 1 ∨ failure.code = 66 := by
  cases failure <;> simp [Failure.code]

/-- A run that only lists what there is ends well, or panics at standard output. -/
theorem execute_of_not_analyses (hlists : ¬arguments.Analyses) (start : World) :
    (∃ after, (execute arguments).run start = .ok () after) ∨
      ∃ fault after, (execute arguments).run start = .error (.panic fault) after ∧
        start.output.sink ≠ .unbounded := by
  obtain ⟨lines, hlines⟩ : ∃ lines, listing arguments = some lines := by
    unfold listing
    split_ifs with hdialects hschema
    · exact ⟨_, rfl⟩
    · exact ⟨_, rfl⟩
    · exact absurd ⟨by simpa using hdialects, by simpa using hschema⟩ hlists
  have hprints := Printing.prints_printLines start.output lines
  rw [execute, hlines]
  dsimp only
  rw [Stage.run_printing]
  cases haction : printLines lines start.output with
  | ok _ output => exact .inl ⟨_, rfl⟩
  | error fault output =>
    rw [haction] at hprints
    exact .inr ⟨fault, _, rfl, hprints.2⟩

/-- A run that analyses something ends as its report does. -/
theorem execute_of_analyses (hanalyses : arguments.Analyses) :
    execute arguments = report arguments := by
  simp only [execute, listing, hanalyses.1, hanalyses.2]
  rfl

/-- A run ends well, fails at one of its stages, or panics at standard output. -/
theorem execute_cases (arguments : Arguments) {start : World} (hwhole : start.output.whole = "") :
    (∃ after, (execute arguments).run start = .ok () after ∧
        (arguments.Analyses → ∃ text, Renders arguments start text ∧
          Delivers start.directory text (after.outcome 0) arguments.output)) ∨
      (∃ failure after, (execute arguments).run start = .error (.failure failure) after ∧
        arguments.Analyses ∧ Fails arguments start failure) ∨
      ∃ fault after, (execute arguments).run start = .error (.panic fault) after ∧
        start.output.sink ≠ .unbounded := by
  by_cases hanalyses : arguments.Analyses
  · have haccounts := accounts_report arguments hwhole
    rw [execute_of_analyses hanalyses]
    cases hend : (report arguments).run start with
    | ok _ after =>
      rw [hend] at haccounts
      exact .inl ⟨after, rfl, fun _ => haccounts⟩
    | error stop after =>
      rw [hend] at haccounts
      cases stop with
      | failure failure => exact .inr (.inl ⟨failure, after, rfl, hanalyses, haccounts⟩)
      | panic fault => exact .inr (.inr ⟨fault, after, rfl, haccounts⟩)
  · rcases execute_of_not_analyses hanalyses start with ⟨after, hend⟩ | hpanics
    · exact .inl ⟨after, hend, fun h => absurd h hanalyses⟩
    · exact .inr (.inr hpanics)

/-- A run ends in the code of a failure exactly when it fails with that code. -/
theorem code_execute_eq_iff {start : World} (hwhole : start.output.whole = "") {code : Nat}
    (hcode : code ≠ 0) (hpanic : code ≠ panicCode) :
    (outcomeOf ((execute arguments).run start)).code = code ↔
      arguments.Analyses ∧ ∃ failure, Fails arguments start failure ∧ failure.code = code := by
  constructor
  · intro hends
    rcases execute_cases arguments hwhole with
      ⟨after, hend, -⟩ | ⟨failure, after, hend, hanalyses, hfails⟩ | ⟨fault, after, hend, -⟩
    · rw [hend] at hends
      exact absurd hends.symm hcode
    · rw [hend] at hends
      exact ⟨hanalyses, failure, hfails, hends⟩
    · rw [hend] at hends
      exact absurd hends.symm hpanic
  · rintro ⟨hanalyses, failure, hfails, rfl⟩
    obtain ⟨after, hend⟩ := run_report_of_fails hfails
    rw [execute_of_analyses hanalyses, hend]
    rfl

/-- A run that stops shows nothing and changes no file. -/
theorem untouched_of_code_ne_zero {start : World}
    (hcode : (outcomeOf ((execute arguments).run start)).code ≠ 0) :
    (start.output.sink.AllOrNothing →
      (outcomeOf ((execute arguments).run start)).output = start.output.close.shown) ∧
      (outcomeOf ((execute arguments).run start)).directory = start.directory := by
  cases hend : (execute arguments).run start with
  | ok _ after =>
    rw [hend] at hcode
    exact absurd rfl hcode
  | error stop after =>
    obtain ⟨hdirectory, houtput⟩ := leavesNothing_execute arguments _ _ _ hend
    exact ⟨houtput, hdirectory⟩

/-- A run does all or nothing, whatever it starts from and however long standard output takes what
it prints.  It ends in 1 exactly when the analysis of its texts fails, in 66 exactly when anything
else fails, and in 0 otherwise, unless standard output does not take a line feed.  If it does not
end in 0, every file is what it was, and nothing is shown if standard output takes all or nothing.
A run that succeeds in analysing shows the text that it renders, or writes that text to the one file
that it changes. -/
theorem run_all_or_nothing {texts : List String} (hread : Arguments.read texts = .ok arguments)
    (surroundings : Surroundings) (sink : Sink) :
    let start := surroundings.world sink
    let outcome := run texts surroundings sink
    (outcome.code ≠ 0 →
      (sink.AllOrNothing → outcome.output = "") ∧ outcome.directory = surroundings.directory) ∧
      (outcome.code = 1 ↔ arguments.Analyses ∧ arguments.statements = false ∧
        ∃ settings sources error, Prepares arguments start settings sources ∧
          analyze (requestFor settings sources) = .error error) ∧
      (outcome.code = 66 ↔ arguments.Analyses ∧
        ∃ failure, Fails arguments start failure ∧ ∀ error, failure ≠ .analysis error) ∧
      (outcome.code = 0 ∨ outcome.code = 1 ∨ outcome.code = 66 ∨
        outcome.code = panicCode ∧ sink ≠ .unbounded) ∧
      (arguments.Analyses → outcome.code = 0 → ∃ text, Renders arguments start text ∧
        Delivers surroundings.directory text outcome arguments.output) := by
  intro start outcome
  have hwhole : start.output.whole = "" := rfl
  have hrun : outcome = outcomeOf ((execute arguments).run start) := by
    simp only [outcome, start, run, hread]
  rw [hrun]
  refine ⟨untouched_of_code_ne_zero, ?_, ?_, ?_, fun hanalyses hcode => ?_⟩
  · rw [code_execute_eq_iff hwhole (by decide) (by decide)]
    refine and_congr_right (fun _ => ?_)
    constructor
    · rintro ⟨failure, hfails, hcode⟩
      obtain ⟨error, rfl⟩ := Failure.code_eq_one_iff.mp hcode
      obtain ⟨htexts, settings, sources, hprepares, hanalysis⟩ := fails_analysis_iff.mp hfails
      exact ⟨htexts, settings, sources, error, hprepares, hanalysis⟩
    · rintro ⟨htexts, settings, sources, error, hprepares, hanalysis⟩
      exact ⟨_, .analysis hprepares htexts hanalysis, rfl⟩
  · rw [code_execute_eq_iff hwhole (by decide) (by decide)]
    simp only [Failure.code_eq_other_iff]
    rfl
  · rcases execute_cases arguments hwhole with
      ⟨after, hend, -⟩ | ⟨failure, after, hend, -, -⟩ | ⟨fault, after, hend, hsink⟩
    · rw [hend]
      exact .inl rfl
    · rw [hend]
      exact .inr (failure.code_eq_or.imp_right .inl)
    · rw [hend]
      exact .inr (.inr (.inr ⟨rfl, hsink⟩))
  · rcases execute_cases arguments hwhole with
      ⟨after, hend, hdelivers⟩ | ⟨failure, after, hend, -, -⟩ | ⟨fault, after, hend, -⟩
    · rw [hend]
      exact hdelivers hanalyses
    · rw [hend] at hcode
      have hfailure : failure.code = 0 := hcode
      have := failure.code_eq_or
      omega
    · rw [hend] at hcode
      cases hcode

/-- A directory with two files, of which one does not parse and the other is no text, and an empty
input. -/
def workplace : Surroundings where
  directory :=
    { files := [("broken.sql", .text brokenSource.content), ("/work/other.sql", .bytes)]
      folders := ["sub"]
      home := "/work" }

theorem loadConfig_workplace (sink : Sink) :
    (loadConfig none).run (workplace.world sink) = .ok {} (workplace.world sink) := by
  have hnone : workplace.directory.has defaultConfigPath = false := by decide +kernel
  rw [loadConfig, EStateM.run_bind, Stage.run_has]
  change (if workplace.directory.has defaultConfigPath then readConfig defaultConfigPath
    else pure {} : Stage Config).run (workplace.world sink) = _
  rw [hnone]
  rfl

theorem readSources_workplace (sink : Sink) :
    (readSources ["sub/../broken.sql"]).run (workplace.world sink) =
      .ok [⟨"sub/../broken.sql", brokenSource.content⟩] (workplace.world sink) := by
  have hfile : (workplace.world sink).directory.read "sub/../broken.sql" =
      .ok brokenSource.content := by
    change workplace.directory.read "sub/../broken.sql" = _
    rw [Directory.read_of_locate (by decide +kernel :
      workplace.directory.locate "sub/../broken.sql" = .ok ["work", "broken.sql"])]
    rfl
  simp only [readSources, readFiles, EStateM.run_bind, Stage.run_readFile, hfile]
  rfl

/-- Asked for a report of a file, in place of that file, the run fails and leaves it alone.  Asked
for one of its input, it writes it there and touches nothing else, by whatever paths the file is
named.  Where standard output takes nothing, the run stops at a line feed and shows nothing. -/
theorem run_workplace :
    let failing := run ["-o", "/work/broken.sql", "sub/../broken.sql"] workplace .unbounded
    let writing := run ["-o", "sub/../broken.sql", "-f", "mermaid"] workplace .unbounded
    let refused := run ["-f", "mermaid"] workplace (.bounded 0 .denied)
    (failing.code = 1 ∧ failing.output = "" ∧ failing.directory = workplace.directory) ∧
      (writing.code = 0 ∧ writing.output = "" ∧
        (∃ text, writing.directory.read "/work/broken.sql" = .ok text) ∧
        writing.directory.read "./other.sql" = workplace.directory.read "./other.sql") ∧
      refused.code = panicCode ∧ refused.output = "" := by
  have hfailing := run_all_or_nothing
    (by rfl : Arguments.read ["-o", "/work/broken.sql", "sub/../broken.sql"] =
      .ok { files := ["sub/../broken.sql"], output := some "/work/broken.sql" })
    workplace .unbounded
  have hwriting := run_all_or_nothing
    (by rfl : Arguments.read ["-o", "sub/../broken.sql", "-f", "mermaid"] =
      .ok { choices := { format := some .mermaid }, output := some "sub/../broken.sql" })
    workplace .unbounded
  have hrefused := run_all_or_nothing
    (by rfl : Arguments.read ["-f", "mermaid"] = .ok { choices := { format := some .mermaid } })
    workplace (.bounded 0 .denied)
  obtain ⟨hnothing, hone, -⟩ := hfailing
  obtain ⟨-, -, -, -, hall⟩ := hwriting
  have hanalysis : analyze (requestFor (Settings.resolve {} {})
      [⟨"sub/../broken.sql", brokenSource.content⟩]) = .error (.parse unterminated) :=
    (single_of_noScript (by decide) parseScript_brokenSource).1
  have hcode := hone.mpr ⟨⟨rfl, rfl⟩, rfl, _, _, _,
    ⟨⟨{}, loadConfig_workplace _, rfl⟩, readSources_workplace _⟩, hanalysis⟩
  have hwritten :
      (run ["-o", "sub/../broken.sql", "-f", "mermaid"] workplace .unbounded).code = 0 := by
    decide +kernel
  have hrefusal :
      (run ["-f", "mermaid"] workplace (.bounded 0 .denied)).code = panicCode := by
    decide +kernel
  obtain ⟨text, -, hempty, place, hplace, -, hreceives⟩ := hall ⟨rfl, rfl⟩ hwritten
  obtain rfl : ["work", "broken.sql"] = place := by
    rw [show workplace.directory.locate "sub/../broken.sql" = .ok ["work", "broken.sql"] by
      decide +kernel] at hplace
    exact Except.ok.inj hplace
  have hfailed := hnothing (by rw [hcode]; decide)
  refine ⟨⟨hcode, hfailed.1 trivial, hfailed.2⟩, ⟨hwritten, hempty, ⟨text, ?_⟩, ?_⟩, hrefusal,
    (hrefused.1 (by rw [hrefusal]; decide)).1 rfl⟩
  · exact hreceives.read (by decide +kernel) (by decide +kernel)
  · exact hreceives.read_of_ne (by decide +kernel :
      workplace.directory.locate "./other.sql" = .ok ["work", "other.sql"]) (by decide)

end Outcomes

end SqlLineage.CommandLine
