import Mathlib.Data.List.Forall2
import SqlLineage.Proofs.Decode.Records
import SqlLineage.Proofs.Decode.Texts
import SqlLineage.Statement.Document

/-!
# Documents from several sources

Statements are read from all sources or from none.  What the text of one source holds is said of its
value alone, as one statement or a list of statements, and no value is both.  A list of sources is
then read as the statements of those that are not blank, one after the other, so that it does not
matter how they are divided among the sources; and the first source that holds no statements is the
one that the error names.
-/

namespace SqlLineage

/-! ## What a text holds -/

/-- A value stands for a statement; among fields of one name the last one counts. -/
def Json.Denotes (value : Json) (statement : Statement) : Prop :=
  Decode.statement .direct value.withoutRepeats = .ok statement

/-- A text is one statement or a list of statements. -/
inductive HoldsStatements (text : String) : List Statement → Prop where
  | one {value : Json} {statement : Statement} (htext : Json.parse text = .ok value)
      (hvalue : value.Denotes statement) : HoldsStatements text [statement]
  | list {items : List Json} {statements : List Statement}
      (htext : Json.parse text = .ok (.arr items))
      (hitems : List.Forall₂ Json.Denotes items statements) : HoldsStatements text statements

variable {text : String} {value : Json} {items : List Json} {statement : Statement}
variable {statements : List Statement}

/-- A statement needs a field for its kind, which a list does not have. -/
theorem Json.not_denotes_arr : ¬(Json.arr items).Denotes statement := by
  intro h
  rw [Json.Denotes, Json.withoutRepeats, Decode.statement] at h
  cases h

theorem list_eq_ok_iff_denotes :
    Decode.list Decode.statement .direct value.withoutRepeats = .ok statements ↔
      ∃ items, value = .arr items ∧ List.Forall₂ Json.Denotes items statements := by
  cases value with
  | arr items =>
    rw [Json.withoutRepeats, Json.withoutRepeatsList_eq_map, Decode.list_eq_ok_iff,
      List.forall₂_map_left_iff]
    refine ⟨fun h => ⟨items, rfl, h⟩, ?_⟩
    rintro ⟨_, hitems, h⟩
    cases hitems
    exact h
  | _ => simp [Json.withoutRepeats, Decode.list, Decode.wrongType]

/-- The two forms of a document exclude each other: a list that is refused as a list is refused
altogether. -/
theorem statementDocument_eq_ok_iff :
    Decode.statementDocument .direct value.withoutRepeats = .ok statements ↔
      (∃ statement, value.Denotes statement ∧ statements = [statement]) ∨
        ∃ items, value = .arr items ∧ List.Forall₂ Json.Denotes items statements := by
  rw [← list_eq_ok_iff_denotes, Decode.statementDocument]
  cases hlist : Decode.list Decode.statement .direct value.withoutRepeats with
  | ok found =>
    obtain ⟨items, rfl, -⟩ := list_eq_ok_iff_denotes.mp hlist
    simp [Json.not_denotes_arr]
  | error refusal =>
    simp only [Json.Denotes]
    cases Decode.statement .direct value.withoutRepeats <;> simp [eq_comm]

theorem ofWholeText_eq_ok_iff_holds :
    Decode.ofWholeText Decode.statementDocument text = .ok statements ↔
      HoldsStatements text statements := by
  rw [Decode.ofWholeText_eq_ok_iff]
  constructor
  · rintro ⟨value, htext, hdocument⟩
    rcases statementDocument_eq_ok_iff.mp hdocument with
      ⟨statement, hvalue, rfl⟩ | ⟨items, rfl, hitems⟩
    · exact .one htext hvalue
    · exact .list htext hitems
  · intro h
    cases h with
    | one htext hvalue =>
      exact ⟨_, htext, statementDocument_eq_ok_iff.mpr (.inl ⟨_, hvalue, rfl⟩)⟩
    | list htext hitems =>
      exact ⟨_, htext, statementDocument_eq_ok_iff.mpr (.inr ⟨_, rfl, hitems⟩)⟩

/-- A text of a list holds the statements that its items stand for. -/
theorem holdsStatements_arr_iff (htext : Json.parse text = .ok (.arr items)) :
    HoldsStatements text statements ↔ List.Forall₂ Json.Denotes items statements := by
  refine ⟨fun h => ?_, .list htext⟩
  cases h with
  | one hother hvalue =>
    cases htext.symm.trans hother
    exact absurd hvalue Json.not_denotes_arr
  | list hother hitems =>
    cases htext.symm.trans hother
    exact hitems

/-! ## One source -/

variable {file : SourceFile}

theorem isBlankText_of_parse (htext : Json.parse text = .ok value) :
    Text.isBlankText text = false := by
  rw [← Bool.not_eq_true]
  intro hblank
  obtain ⟨fault, hfault⟩ := Json.parse_blank hblank
  cases htext.symm.trans hfault

theorem SourceFile.statements_blank (hblank : Text.isBlankText file.content) :
    file.statements = .ok [] := by
  rw [SourceFile.statements, if_pos hblank]

theorem SourceFile.statements_eq_ok_iff (hblank : Text.isBlankText file.content = false) :
    file.statements = .ok statements ↔ HoldsStatements file.content statements := by
  rw [← ofWholeText_eq_ok_iff_holds, SourceFile.statements, hblank]
  cases Decode.ofWholeText Decode.statementDocument file.content <;> simp [Except.mapError]

theorem SourceFile.exists_statements_iff :
    (∃ part, file.statements = .ok part) ↔
      Text.isBlankText file.content ∨ ∃ part, HoldsStatements file.content part := by
  cases hblank : Text.isBlankText file.content with
  | true => simp [SourceFile.statements_blank hblank]
  | false => simp [SourceFile.statements_eq_ok_iff hblank]

/-- A source fails exactly if it is not blank and holds no statements; it does so under its own
name. -/
theorem SourceFile.statements_eq_error_iff {error : DocumentError} :
    file.statements = .error error ↔
      Text.isBlankText file.content = false ∧ (∀ part, ¬HoldsStatements file.content part) ∧
        file.statements = .error error ∧ error.source = file.name := by
  refine ⟨fun h => ?_, fun h => h.2.2.1⟩
  have hblank : Text.isBlankText file.content = false := by
    rw [← Bool.not_eq_true]
    intro hblank
    rw [file.statements_blank hblank] at h
    cases h
  refine ⟨hblank, fun part hpart => ?_, h, ?_⟩
  · rw [← SourceFile.statements_eq_ok_iff hblank, h] at hpart
    cases hpart
  · rw [SourceFile.statements, hblank] at h
    cases hdecode : Decode.ofWholeText Decode.statementDocument file.content with
    | ok found => simp [hdecode, Except.mapError] at h
    | error message =>
      simp only [hdecode] at h
      cases h
      rfl

/-! ## Several sources -/

variable {sources others rest : List SourceFile} {error : DocumentError}

theorem readStatements_cons_eq_ok_iff :
    readStatements (file :: rest) = .ok statements ↔
      ∃ first more, file.statements = .ok first ∧ readStatements rest = .ok more ∧
        statements = first ++ more := by
  rw [readStatements]
  cases file.statements <;> cases readStatements rest <;>
    simp [bind, Except.bind, pure, Except.pure, eq_comm]

theorem readStatements_cons_eq_error_iff :
    readStatements (file :: rest) = .error error ↔
      file.statements = .error error ∨
        (∃ first, file.statements = .ok first) ∧ readStatements rest = .error error := by
  rw [readStatements]
  cases file.statements <;> cases readStatements rest <;>
    simp [bind, Except.bind, pure, Except.pure]

theorem readStatements_singleton (file : SourceFile) :
    readStatements [file] = file.statements := by
  rw [readStatements, readStatements]
  cases file.statements <;> simp [bind, Except.bind, pure, Except.pure]

/-- Reading goes from left to right, so that a list of sources can be cut anywhere. -/
theorem readStatements_append_eq_ok_iff :
    readStatements (sources ++ others) = .ok statements ↔
      ∃ first more, readStatements sources = .ok first ∧ readStatements others = .ok more ∧
        statements = first ++ more := by
  induction sources generalizing statements with
  | nil => simp [readStatements]
  | cons file rest ih =>
    simp only [List.cons_append, readStatements_cons_eq_ok_iff, ih]
    constructor
    · rintro ⟨first, -, hfirst, ⟨middle, last, hmiddle, hlast, rfl⟩, rfl⟩
      exact ⟨_, last, ⟨first, middle, hfirst, hmiddle, rfl⟩, hlast, (List.append_assoc ..).symm⟩
    · rintro ⟨-, last, ⟨first, middle, hfirst, hmiddle, rfl⟩, hlast, rfl⟩
      exact ⟨first, _, hfirst, ⟨middle, last, hmiddle, hlast, rfl⟩, List.append_assoc ..⟩

theorem exists_readStatements_iff :
    (∃ statements, readStatements sources = .ok statements) ↔
      ∀ file ∈ sources,
        Text.isBlankText file.content ∨ ∃ part, HoldsStatements file.content part := by
  induction sources with
  | nil => simp [readStatements]
  | cons file rest ih =>
    rw [List.forall_mem_cons, ← ih, ← SourceFile.exists_statements_iff]
    simp only [readStatements_cons_eq_ok_iff]
    constructor
    · rintro ⟨_, first, more, hfirst, hmore, -⟩
      exact ⟨⟨first, hfirst⟩, more, hmore⟩
    · rintro ⟨⟨first, hfirst⟩, more, hmore⟩
      exact ⟨_, first, more, hfirst, hmore, rfl⟩

/-- What a list of sources gives is what each source that is not blank gives by itself. -/
theorem readStatements_eq_ok_iff :
    readStatements sources = .ok statements ↔
      ∃ parts, List.Forall₂
          (fun file part => HoldsStatements file.content part ∧ readStatements [file] = .ok part)
          (sources.filter fun file => !Text.isBlankText file.content) parts ∧
        statements = parts.flatten := by
  induction sources generalizing statements with
  | nil => simp [readStatements, eq_comm]
  | cons file rest ih =>
    rw [readStatements_cons_eq_ok_iff]
    cases hblank : Text.isBlankText file.content with
    | true =>
      rw [List.filter_cons_of_neg (by simp [hblank])]
      simp [SourceFile.statements_blank hblank, ← ih]
    | false =>
      rw [List.filter_cons_of_pos (by simp [hblank])]
      simp only [List.forall₂_cons_left_iff, ← SourceFile.statements_eq_ok_iff hblank,
        readStatements_singleton, and_self, ih]
      constructor
      · rintro ⟨first, -, hfirst, ⟨parts, hparts, rfl⟩, rfl⟩
        exact ⟨_, ⟨first, parts, hfirst, hparts, rfl⟩, rfl⟩
      · rintro ⟨-, ⟨first, parts, hfirst, hparts, rfl⟩, rfl⟩
        exact ⟨first, _, hfirst, ⟨parts, hparts, rfl⟩, rfl⟩

/-- Reading stops at the first source that fails, with the error of that source. -/
theorem readStatements_eq_error_iff :
    readStatements sources = .error error ↔
      ∃ before file after, sources = before ++ file :: after ∧
        (∃ statements, readStatements before = .ok statements) ∧
        file.statements = .error error := by
  induction sources with
  | nil => simp [readStatements]
  | cons head rest ih =>
    rw [readStatements_cons_eq_error_iff, ih]
    constructor
    · rintro (hhead | ⟨⟨first, hfirst⟩, before, file, after, rfl, ⟨more, hmore⟩, hfile⟩)
      · exact ⟨[], head, rest, rfl, ⟨[], rfl⟩, hhead⟩
      · exact ⟨head :: before, file, after, rfl,
          ⟨_, readStatements_cons_eq_ok_iff.mpr ⟨first, more, hfirst, hmore, rfl⟩⟩, hfile⟩
    · rintro ⟨before, file, after, hsources, ⟨statements, hbefore⟩, hfile⟩
      cases before with
      | nil =>
        obtain ⟨rfl, rfl⟩ := List.cons.inj hsources
        exact .inl hfile
      | cons first before =>
        obtain ⟨rfl, rfl⟩ := List.cons.inj hsources
        obtain ⟨part, more, hpart, hmore, -⟩ := readStatements_cons_eq_ok_iff.mp hbefore
        exact .inr ⟨⟨part, hpart⟩, before, file, after, rfl, ⟨more, hmore⟩, hfile⟩

/-! ## Regrouping -/

/-- Ways to divide the same statements among other sources. -/
inductive Regroups : List SourceFile → List SourceFile → Prop where
  | refl (sources : List SourceFile) : Regroups sources sources
  | trans {first second third : List SourceFile} (hfirst : Regroups first second)
      (hsecond : Regroups second third) : Regroups first third
  /-- Sources may stand around those that are regrouped. -/
  | within (before after : List SourceFile) {sources others : List SourceFile}
      (h : Regroups sources others) :
      Regroups (before ++ sources ++ after) (before ++ others ++ after)
  /-- A list is cut into shorter ones, each in a source of its own. -/
  | cut {file : SourceFile} {files : List SourceFile} {parts : List (List Json)}
      (hwhole : Json.parse file.content = .ok (.arr parts.flatten))
      (hparts : List.Forall₂ (fun file part => Json.parse file.content = .ok (.arr part))
        files parts) :
      Regroups [file] files
  /-- A blank source is put in. -/
  | blank {file : SourceFile} (hblank : Text.isBlankText file.content) : Regroups [] [file]
  /-- The only item of a list stands for the list. -/
  | unwrap {file other : SourceFile} {item : Json}
      (hlist : Json.parse file.content = .ok (.arr [item]))
      (hitem : Json.parse other.content = .ok item) : Regroups [file] [other]

theorem readStatements_of_parse (htext : Json.parse file.content = .ok value) :
    readStatements [file] = .ok statements ↔ HoldsStatements file.content statements := by
  rw [readStatements_singleton, SourceFile.statements_eq_ok_iff (isBlankText_of_parse htext)]

theorem readStatements_arr (htext : Json.parse file.content = .ok (.arr items)) :
    readStatements [file] = .ok statements ↔ List.Forall₂ Json.Denotes items statements := by
  rw [readStatements_of_parse htext, holdsStatements_arr_iff htext]

theorem readStatements_cut {files : List SourceFile} {parts : List (List Json)}
    (hparts : List.Forall₂ (fun file part => Json.parse file.content = .ok (.arr part)) files parts)
    (hitems : List.Forall₂ Json.Denotes parts.flatten statements) :
    readStatements files = .ok statements := by
  induction hparts generalizing statements with
  | nil =>
    cases hitems
    rfl
  | @cons file part files parts hpart _ ih =>
    rw [List.flatten_cons] at hitems
    have hfirst := (List.forall₂_take_append _ _ _ hitems.flip).flip
    have hrest := (List.forall₂_drop_append _ _ _ hitems.flip).flip
    rw [readStatements_cons_eq_ok_iff]
    refine ⟨_, _, ?_, ih hrest, (List.take_append_drop part.length statements).symm⟩
    rwa [← readStatements_singleton, readStatements_arr hpart]

/-- Sources that can be read are read to the same statements however these are regrouped. -/
theorem Regroups.readStatements_eq (h : Regroups sources others)
    (hsources : readStatements sources = .ok statements) :
    readStatements others = .ok statements := by
  induction h generalizing statements with
  | refl => exact hsources
  | trans _ _ ihfirst ihsecond => exact ihsecond (ihfirst hsources)
  | within before after _ ih =>
    simp only [readStatements_append_eq_ok_iff] at hsources ⊢
    obtain ⟨_, last, ⟨first, middle, hfirst, hmiddle, rfl⟩, hlast, rfl⟩ := hsources
    exact ⟨_, last, ⟨first, middle, hfirst, ih hmiddle, rfl⟩, hlast, rfl⟩
  | cut hwhole hparts => exact readStatements_cut hparts ((readStatements_arr hwhole).mp hsources)
  | blank hblank =>
    cases hsources
    rw [readStatements_singleton, SourceFile.statements_blank hblank]
  | unwrap hlist hitem =>
    rw [readStatements_arr hlist] at hsources
    rw [readStatements_of_parse hitem]
    cases hsources with
    | cons hstatement hnone =>
      cases hnone
      exact .one hitem hstatement

/-- Sources are read in order and all or nothing: exactly if each that is not blank is a text of one
statement or of a list of statements, they give what these sources give by themselves, one after the
other and however it is divided among them; otherwise the error is that of the first source that is
neither, and names it. -/
theorem readStatements_sources (sources : List SourceFile) :
    ((∃ statements, readStatements sources = .ok statements) ↔
      ∀ file ∈ sources,
        Text.isBlankText file.content ∨ ∃ part, HoldsStatements file.content part) ∧
    (∀ statements, readStatements sources = .ok statements ↔
      ∃ parts, List.Forall₂
          (fun file part => HoldsStatements file.content part ∧ readStatements [file] = .ok part)
          (sources.filter fun file => !Text.isBlankText file.content) parts ∧
        statements = parts.flatten) ∧
    (∀ error, readStatements sources = .error error ↔
      ∃ before file after, sources = before ++ file :: after ∧
        (∀ earlier ∈ before,
          Text.isBlankText earlier.content ∨ ∃ part, HoldsStatements earlier.content part) ∧
        Text.isBlankText file.content = false ∧ (∀ part, ¬HoldsStatements file.content part) ∧
        readStatements [file] = .error error ∧ error.source = file.name) ∧
    ∀ others, Regroups sources others → ∀ statements,
      readStatements sources = .ok statements → readStatements others = .ok statements := by
  refine ⟨exists_readStatements_iff, fun _ => readStatements_eq_ok_iff, fun error => ?_,
    fun _ h _ => h.readStatements_eq⟩
  rw [readStatements_eq_error_iff]
  simp only [exists_readStatements_iff, readStatements_singleton,
    ← SourceFile.statements_eq_error_iff]

-- An empty list holds no statements, but it is not a statement itself.
example : readStatements [⟨"first.json", "[]"⟩, ⟨"second.json", "[[]]"⟩] =
    .error ⟨"second.json", "data did not match any variant of untagged enum StatementDocument"⟩ :=
  rfl

end SqlLineage
