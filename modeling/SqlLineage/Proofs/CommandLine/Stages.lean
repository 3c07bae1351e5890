import SqlLineage.Proofs.CommandLine.Directories
import SqlLineage.Proofs.CommandLine.Outputs

/-!
# Stages

What each stage of a run does to what it finds.  The stages that read only look, so a failure of
theirs leaves everything as it was; a stage that leaves nothing behind when it fails still does so
with stages in front of it that look, and with stages behind it that never fail.
-/

namespace SqlLineage.CommandLine

/-- What has been printed has not come out of standard output, as far as that takes all or nothing,
and every file is what it was. -/
structure World.Untouched (before after : World) : Prop where
  directory : after.directory = before.directory
  output : before.output.sink.AllOrNothing →
    after.output.close.shown = before.output.close.shown

theorem World.Untouched.refl (world : World) : world.Untouched world :=
  ⟨rfl, fun _ => rfl⟩

namespace Stage

section Laws

variable {α β : Type} {stage : Stage α} {next : α → Stage β} {allowed : Failure → Prop}

/-- A stage only looks: it gives a result or fails, in one of some ways, and changes nothing. -/
def Looks (allowed : Failure → Prop) (stage : Stage α) : Prop :=
  ∀ world, (∃ result, stage.run world = .ok result world) ∨
    ∃ failure, allowed failure ∧ stage.run world = .error (.failure failure) world

/-- A stage leaves nothing behind when it stops. -/
def LeavesNothing (stage : Stage α) : Prop :=
  ∀ before stop after, stage.run before = .error stop after → before.Untouched after

/-- A stage never stops. -/
def Goes (stage : Stage α) : Prop :=
  ∀ world, ∃ result after, stage.run world = .ok result after

theorem looks_pure (result : α) : Looks allowed (pure result : Stage α) :=
  fun _ => .inl ⟨result, rfl⟩

theorem looks_fail {failure : Failure} (hallowed : allowed failure) :
    Looks allowed (fail failure : Stage α) :=
  fun _ => .inr ⟨failure, hallowed, rfl⟩

theorem looks_ofExcept {result : Except Failure α}
    (hallowed : ∀ failure, result = .error failure → allowed failure) :
    Looks allowed (ofExcept result) := by
  cases result with
  | ok result => exact looks_pure result
  | error failure => exact looks_fail (hallowed failure rfl)

theorem looks_get : Looks allowed (get : Stage World) :=
  fun world => .inl ⟨world, rfl⟩

theorem Looks.bind (hstage : Looks allowed stage) (hnext : ∀ result, Looks allowed (next result)) :
    Looks allowed (stage >>= next) := by
  intro world
  rw [EStateM.run_bind]
  rcases hstage world with ⟨result, hresult⟩ | ⟨failure, hallowed, hfails⟩
  · rw [hresult]
    exact hnext result world
  · rw [hfails]
    exact .inr ⟨failure, hallowed, rfl⟩

theorem Looks.allows (hstage : Looks allowed stage) {failure : Failure} {before after : World}
    (hfails : stage.run before = .error (.failure failure) after) : allowed failure := by
  rcases hstage before with ⟨result, hresult⟩ | ⟨failure', hallowed, hfails'⟩
  · rw [hresult] at hfails
    cases hfails
  · rw [hfails'] at hfails
    cases hfails
    exact hallowed

/-- What looks leaves nothing behind, and so does a stage behind it that does so itself. -/
theorem Looks.bind_leavesNothing (hstage : Looks allowed stage)
    (hnext : ∀ result, LeavesNothing (next result)) : LeavesNothing (stage >>= next) := by
  intro before stop after hstops
  rw [EStateM.run_bind] at hstops
  rcases hstage before with ⟨result, hresult⟩ | ⟨failure, -, hfails⟩
  · rw [hresult] at hstops
    exact hnext result before stop after hstops
  · rw [hfails] at hstops
    cases hstops
    exact .refl before

/-- Behind a stage that leaves nothing behind there may be what never stops. -/
theorem LeavesNothing.bind_goes (hstage : LeavesNothing stage)
    (hnext : ∀ result, Goes (next result)) : LeavesNothing (stage >>= next) := by
  intro before stop after hstops
  rw [EStateM.run_bind] at hstops
  cases hend : stage.run before with
  | error stop' middle =>
    rw [hend] at hstops
    cases hstops
    exact hstage before stop after hend
  | ok result middle =>
    obtain ⟨_, _, hgoes⟩ := hnext result middle
    rw [hend] at hstops
    dsimp only at hstops
    rw [hgoes] at hstops
    cases hstops

end Laws

/-! ## The stages -/

section Files

variable (path text : String) (world : World)

theorem run_has : (has path).run world = .ok (world.directory.has path) world :=
  rfl

theorem run_readFile (failure : FileFault → Failure) :
    (readFile path failure).run world =
      match world.directory.read path with
      | .ok text => .ok text world
      | .error fault => .error (.failure (failure fault)) world := by
  change (ofExcept _).run world = _
  cases world.directory.read path <;> rfl

theorem run_writeFile :
    (writeFile path text).run world =
      match world.directory.write path text with
      | .ok directory => .ok () { world with directory }
      | .error fault => .error (.failure (.unwritable path fault)) world := by
  change (ofExcept _ >>= _).run world = _
  cases world.directory.write path text <;> rfl

theorem looks_readFile {allowed : Failure → Prop} {failure : FileFault → Failure}
    (hallowed : ∀ fault, allowed (failure fault)) : Looks allowed (readFile path failure) := by
  intro world
  rw [run_readFile]
  cases world.directory.read path with
  | ok text => exact .inl ⟨text, rfl⟩
  | error fault => exact .inr ⟨_, hallowed fault, rfl⟩

theorem looks_has {allowed : Failure → Prop} : Looks allowed (has path) :=
  fun world => .inl ⟨_, run_has path world⟩

theorem leavesNothing_writeFile : LeavesNothing (writeFile path text) := by
  intro before stop after hstops
  rw [run_writeFile] at hstops
  split at hstops
  · cases hstops
  · cases hstops
    exact .refl before

theorem goes_printError : Goes (printError text) :=
  fun _ => ⟨_, _, rfl⟩

end Files

section Printing

variable {action : CommandLine.Printing Unit} {text : String} {stop : FileFault → Stop}

/-- Printing that fails lets nothing out. -/
theorem untouched_of_prints {before : World} {fault : FileFault} {output : Output}
    (hprints : Prints before.output text (.error fault output)) :
    before.Untouched { before with output } :=
  ⟨rfl, hprints.silent⟩

theorem run_printing (before : World) :
    (printing stop action).run before =
      match action before.output with
      | .ok _ output => .ok () { before with output }
      | .error fault output => .error (stop fault) { before with output } :=
  rfl

theorem leavesNothing_printing (hprints : ∀ before, Prints before text (action before)) :
    LeavesNothing (printing stop action) := by
  intro before reason after hstops
  rw [run_printing] at hstops
  have haction := hprints before.output
  split at hstops
  · cases hstops
  · next hfails =>
    cases hstops
    rw [hfails] at haction
    exact untouched_of_prints haction

end Printing

end Stage

/-! ## Reading -/

section Reading

/-- A failure that is not that of an analysis. -/
def Failure.Other (failure : Failure) : Prop :=
  ∀ error, failure ≠ .analysis error

open Stage

theorem looks_readConfig (path : String) : Looks Failure.Other (readConfig path) := by
  refine (looks_readFile path (fun _ => nofun)).bind (fun text => looks_ofExcept ?_)
  cases Config.ofText text with
  | ok config => exact nofun
  | error error =>
    rintro failure ⟨⟩
    exact nofun

theorem looks_loadConfig (path : Option String) : Looks Failure.Other (loadConfig path) := by
  cases path with
  | some path =>
    refine (looks_has path).bind (fun found => ?_)
    cases found with
    | true => exact looks_readConfig path
    | false => exact looks_fail nofun
  | none =>
    refine (looks_has defaultConfigPath).bind (fun found => ?_)
    cases found with
    | true => exact looks_readConfig defaultConfigPath
    | false => exact looks_pure _

theorem looks_readFiles (paths : List String) : Looks Failure.Other (readFiles paths) := by
  induction paths with
  | nil => exact looks_pure []
  | cons path rest ih =>
    exact (looks_readFile path (fun _ => nofun)).bind (fun _ => ih.bind (fun _ => looks_pure _))

theorem looks_readInput : Looks Failure.Other readInput := by
  refine looks_get.bind (fun world => ?_)
  cases world.input with
  | text text => exact looks_pure text
  | bytes => exact looks_fail nofun
  | fault fault => exact looks_fail nofun

theorem looks_readSources (paths : List String) : Looks Failure.Other (readSources paths) := by
  cases paths with
  | nil => exact looks_readInput.bind (fun _ => looks_pure _)
  | cons path rest => exact looks_readFiles (path :: rest)

end Reading

/-! ## Delivering -/

section Delivering

variable {text : String}

/-- A text, with a line feed behind it if it lacks one. -/
def withLineEnd (text : String) : String :=
  if text.endsWith "\n" then text else text ++ "\n"

theorem withLineEnd_of_endsLine (hline : EndsLine text) : withLineEnd text = text := by
  rw [withLineEnd, if_pos ((endsWith_lineFeed_iff text).mpr hline)]

theorem withLineEnd_of_not_endsLine (hline : ¬EndsLine text) :
    withLineEnd text = text ++ "\n" := by
  rw [withLineEnd, if_neg (mt (endsWith_lineFeed_iff text).mp hline)]

/-- How the printing of a report ends. -/
inductive Printed (before : World) (text : String) : EStateM.Result Stop World Unit → Prop where
  | all {output : Output} (hheld : output.held = "")
      (hwhole : output.whole = before.output.whole ++ withLineEnd text) :
      Printed before text (.ok () { before with output })
  | refused {fault : FileFault} {output : Output}
      (hprint : Printing.print text before.output = .error fault output) :
      Printed before text (.error (.failure (.unprintable fault)) { before with output })
  /-- The text is taken, but not the line feed that it lacks. -/
  | lineRefused {fault : FileFault} {output : Output}
      (hprints : Prints before.output (text ++ "\n") (.error fault output)) :
      Printed before text (.error (.panic fault) { before with output })

theorem printed_writeReport (before : World) (text : String) :
    Printed before text ((writeReport none text).run before) := by
  have hprint := Printing.prints_print before.output text
  simp only [writeReport, EStateM.run_bind, Stage.run_printing]
  cases haction : Printing.print text before.output with
  | error fault output => exact .refused haction
  | ok _ middle =>
    rw [haction] at hprint
    dsimp only
    by_cases hline : EndsLine text
    · rw [(endsWith_lineFeed_iff text).mpr hline]
      refine .all (Printing.held_of_print hline haction) ?_
      rw [withLineEnd_of_endsLine hline]
      exact hprint.2
    · rw [if_pos (by simpa using mt (endsWith_lineFeed_iff text).mp hline), Stage.run_printing]
      have hfeed := Printing.prints_printLine middle ""
      cases hend : Printing.printLine "" middle with
      | ok _ output =>
        rw [hend] at hfeed
        refine .all (Printing.held_of_printLine hend) ?_
        rw [withLineEnd_of_not_endsLine hline, hfeed.2, hprint.2, String.append_assoc]
        rfl
      | error fault output =>
        rw [hend] at hfeed
        exact .lineRefused ⟨hprint.1.trans hfeed.1, mt hprint.1.takes hfeed.2⟩

theorem leavesNothing_writeReport (output : Option String) (text : String) :
    Stage.LeavesNothing (writeReport output text) := by
  cases output with
  | some path => exact Stage.leavesNothing_writeFile path text
  | none =>
    intro before stop after hstops
    have hprinted := printed_writeReport before text
    rw [hstops] at hprinted
    cases hprinted with
    | refused hprint =>
      have hprints := Printing.prints_print before.output text
      rw [hprint] at hprints
      exact Stage.untouched_of_prints hprints
    | lineRefused hprints => exact Stage.untouched_of_prints hprints

end Delivering

end SqlLineage.CommandLine
