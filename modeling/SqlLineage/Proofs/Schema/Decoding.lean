import SqlLineage.Proofs.Schema.Encoding

/-!
# What validates is read

A value that validates against the published schema of requests or of statements is accepted by the
decoder of the type.  The proofs follow the decoders: a record is read if each part that its schema
allows is, and a decoder that counts containers reads values that nest less deep than its count.
-/

namespace SqlLineage.Schema

open Json (valuesOf)
open Decode (Decoder Slot Parts Shape withoutField splitTag)

/-- A value conforms to a schema of a document in some number of steps. -/
def Allows (root : Json) (schema : Schema) (value : Json) : Prop :=
  ∃ steps, conforms root steps (toJson schema) value

/-- A decoder reads what a schema allows, of values with distinct names that nest less deep than a
bound. -/
def Reads {α : Type} (root : Json) (bound : Nat) (decoder : Decoder α) (schema : Schema) : Prop :=
  ∀ style value, value.Distinct → value.depth < bound → Allows root schema value →
    ∃ result, decoder style value = .ok result

variable {α : Type} {root value : Json} {bound : Nat} {schema : Schema} {name : String}
variable {decoder : Decoder α}

theorem allows_succ (hallows : Allows root schema value) :
    ∃ steps, conforms root (steps + 1) (toJson schema) value := by
  obtain ⟨steps, hsteps⟩ := hallows
  cases steps with
  | zero => cases hsteps
  | succ steps => exact ⟨steps, hsteps⟩

theorem allows_describe {about : String} :
    Allows root (describe about schema) value ↔ Allows root schema value := by
  simp only [Allows, conforms_describe]

theorem allows_default {fallback : Json} :
    Allows root (.default fallback :: schema) value ↔ Allows root schema value := by
  simp only [Allows, conforms_default]

theorem allows_orDefault {fallback : Json} :
    Allows root (orDefault fallback schema) value ↔ Allows root schema value := by
  simp only [Allows, conforms_orDefault]

theorem allows_alsoDefined (hallows : Allows root (alsoDefined name) value) :
    Allows root (defined name) value := by
  obtain ⟨steps, hsteps⟩ := allows_succ hallows
  rw [conforms_alsoDefined] at hsteps
  exact ⟨steps, hsteps⟩

/-- A definition allows what the schema allows that it stands for. -/
theorem allows_defined {document : SchemaDocument}
    (hlookup : document.definitions.lookup name = some schema) :
    Allows document.toJson (defined name) value ↔ Allows document.toJson schema value := by
  constructor
  · intro hallows
    obtain ⟨steps, hsteps⟩ := allows_succ hallows
    rw [conforms_defined, definition?_document, hlookup] at hsteps
    exact ⟨steps, hsteps⟩
  · rintro ⟨steps, hsteps⟩
    refine ⟨steps + 1, ?_⟩
    rw [conforms_defined, definition?_document, hlookup]
    exact hsteps

/-! ## Shapes -/

/-- What reads all that a schema allows reads what allows less. -/
theorem Reads.of_allows {other : Schema} (hreads : Reads root bound decoder schema)
    (hallows : ∀ {value}, Allows root other value → Allows root schema value) :
    Reads root bound decoder other :=
  fun style value hdistinct hdepth hother =>
    hreads style value hdistinct hdepth (hallows hother)

theorem reads_describe {about : String} (hreads : Reads root bound decoder schema) :
    Reads root bound decoder (describe about schema) :=
  hreads.of_allows allows_describe.mp

theorem reads_default {fallback : Json} (hreads : Reads root bound decoder schema) :
    Reads root bound decoder (.default fallback :: schema) :=
  hreads.of_allows allows_default.mp

theorem reads_orDefault {fallback : Json} (hreads : Reads root bound decoder schema) :
    Reads root bound decoder (orDefault fallback schema) :=
  hreads.of_allows allows_orDefault.mp

theorem reads_alsoDefined (hreads : Reads root bound decoder (defined name)) :
    Reads root bound decoder (alsoDefined name) :=
  hreads.of_allows allows_alsoDefined

theorem reads_defined {document : SchemaDocument}
    (hlookup : document.definitions.lookup name = some schema)
    (hreads : Reads document.toJson bound decoder schema) :
    Reads document.toJson bound decoder (defined name) :=
  hreads.of_allows (allows_defined hlookup).mp

theorem reads_text : Reads root bound Decode.string text := by
  intro style value _ _ hallows
  obtain ⟨steps, hsteps⟩ := allows_succ hallows
  obtain ⟨content, rfl⟩ := conforms_text.mp hsteps
  exact ⟨content, rfl⟩

theorem reads_optionalText : Reads root bound (Decode.nullable Decode.string) optionalText := by
  intro style value _ _ hallows
  obtain ⟨steps, hsteps⟩ := allows_succ hallows
  rcases conforms_optionalText.mp hsteps with rfl | ⟨content, rfl⟩
  · exact ⟨none, rfl⟩
  · exact ⟨some content, rfl⟩

theorem reads_truth : Reads root bound Decode.bool truth := by
  intro style value _ _ hallows
  obtain ⟨steps, hsteps⟩ := allows_succ hallows
  obtain ⟨flag, rfl⟩ := conforms_truth.mp hsteps
  exact ⟨flag, rfl⟩

theorem exists_word {choices : List (String × α)} {word : String}
    (hword : (choices.lookup word).isSome) (style : Decode.Style) :
    ∃ meaning, Decode.word choices style (.str word) = .ok meaning := by
  obtain ⟨meaning, hmeaning⟩ := Option.isSome_iff_exists.mp hword
  exact ⟨meaning, Decode.word_str hmeaning⟩

theorem reads_words {choices : List (String × α)} {names : List String}
    (hnames : ∀ name ∈ names, (choices.lookup name).isSome) :
    Reads root bound (Decode.word choices) (words names) := by
  intro style value _ _ hallows
  obtain ⟨steps, hsteps⟩ := allows_succ hallows
  obtain ⟨word, hword, rfl⟩ := conforms_words.mp hsteps
  exact exists_word (hnames word hword) style

theorem reads_describedWords {choices : List (String × α)} {meanings : List (String × String)}
    (hwords : (meanings.map Prod.fst).Nodup)
    (hnames : ∀ meaning ∈ meanings, (choices.lookup meaning.1).isSome) :
    Reads root bound (Decode.word choices) (describedWords meanings) := by
  intro style value _ _ hallows
  obtain ⟨steps, hsteps⟩ := allows_succ hallows
  obtain ⟨_, meaning, hmeaning, rfl⟩ := (conforms_describedWords hwords).mp hsteps
  exact exists_word (hnames meaning hmeaning) style

theorem exists_nullable {style : Decode.Style}
    (hread : ∃ result, decoder style value = .ok result) :
    ∃ result, Decode.nullable decoder style value = .ok result := by
  obtain ⟨result, hresult⟩ := hread
  rcases eq_or_ne value .null with rfl | hnull
  · exact ⟨none, rfl⟩
  · refine ⟨some result, ?_⟩
    rw [Decode.nullable, hresult]
    · rfl
    · exact hnull

theorem reads_optional (hreads : Reads root bound decoder (defined name)) :
    Reads root bound (Decode.nullable decoder) (optional name) := by
  intro style value hdistinct hdepth hallows
  obtain ⟨steps, hsteps⟩ := allows_succ hallows
  rcases conforms_optional.mp hsteps with hdefined | ⟨_, rfl⟩
  · exact exists_nullable (hreads style value hdistinct hdepth ⟨steps, hdefined⟩)
  · exact ⟨none, rfl⟩

/-- A list is read if its items are. -/
theorem exists_list {style : Decode.Style} {items : List Json}
    (hitems : ∀ item ∈ items, ∃ result, decoder style item = .ok result) :
    ∃ results, Decode.list decoder style (.arr items) = .ok results := by
  have hforall : ∃ results,
      List.Forall₂ (fun item result => decoder style item = .ok result) items results := by
    induction items with
    | nil => exact ⟨[], .nil⟩
    | cons item rest ih =>
      rw [List.forall_mem_cons] at hitems
      obtain ⟨result, hresult⟩ := hitems.1
      obtain ⟨results, hresults⟩ := ih hitems.2
      exact ⟨result :: results, .cons hresult hresults⟩
  obtain ⟨results, hresults⟩ := hforall
  exact ⟨results, Decode.list_eq_ok_iff.mpr hresults⟩

theorem exists_items {style : Decode.Style} {items : List Json} {steps : Nat}
    (hreads : Reads root bound decoder schema) (hdistinct : (Json.arr items).Distinct)
    (hdepth : (Json.arr items).depth < bound)
    (hitems : ∀ item ∈ items, conforms root steps (toJson schema) item) :
    ∃ results, Decode.list decoder style (.arr items) = .ok results :=
  exists_list fun item hitem => hreads style item (Json.distinct_arr_iff.mp hdistinct item hitem)
    (Json.depth_lt_of_item hdepth hitem) ⟨steps, hitems item hitem⟩

theorem reads_list (hreads : Reads root bound decoder schema) :
    Reads root bound (Decode.list decoder) (list schema) := by
  intro style value hdistinct hdepth hallows
  obtain ⟨steps, hsteps⟩ := allows_succ hallows
  obtain ⟨items, rfl, hitems⟩ := conforms_list.mp hsteps
  exact exists_items hreads hdistinct hdepth hitems

theorem reads_optionalList (hreads : Reads root bound decoder schema) :
    Reads root bound (Decode.nullable (Decode.list decoder))
      [.type [.array, .null], .items schema] := by
  intro style value hdistinct hdepth hallows
  obtain ⟨steps, hsteps⟩ := allows_succ hallows
  rcases conforms_optionalList.mp hsteps with rfl | ⟨items, rfl, hitems⟩
  · exact ⟨none, rfl⟩
  · exact exists_nullable (exists_items hreads hdistinct hdepth hitems)

/-! ## Records -/

/-- The parts of an object as a record allows them, with distinct names and less deep than a
bound. -/
structure Parted (root : Json) (bound : Nat) (fields : List Field) (parts : List (String × Json)) :
    Prop where
  names : (parts.map Prod.fst).Nodup
  values : ∀ part ∈ parts, part.2.Distinct ∧ part.2.depth < bound
  fits : Fits (Allows root) fields parts

variable {fields : List Field} {parts : List (String × Json)} {tag word : String}

theorem parted_of_allows (hdistinct : (Json.obj parts).Distinct)
    (hdepth : (Json.obj parts).depth < bound + 1)
    (hallows : Allows root (record fields) (.obj parts)) : Parted root bound fields parts := by
  obtain ⟨hnames, hvalues⟩ := Json.distinct_obj_iff.mp hdistinct
  obtain ⟨steps, hsteps⟩ := allows_succ hallows
  obtain ⟨_, hparts, hfits⟩ := conforms_record.mp hsteps
  cases hparts
  refine ⟨hnames, fun part hpart => ⟨hvalues part hpart, ?_⟩, fun field hfield => ?_⟩
  · exact Nat.lt_of_lt_of_le (Json.depth_lt_of_mem_fields hpart) (Nat.lt_succ_iff.mp hdepth)
  · obtain ⟨hvalid, hneeded⟩ := hfits field hfield
    exact ⟨fun x hx => ⟨steps, hvalid x hx⟩, hneeded⟩

/-- A record is read if every object is whose parts are as it allows. -/
theorem reads_record
    (hread : ∀ style parts, Parted root bound fields parts →
      ∃ result, decoder style (.obj parts) = .ok result) :
    Reads root (bound + 1) decoder (record fields) := by
  intro style value hdistinct hdepth hallows
  obtain ⟨steps, hsteps⟩ := allows_succ hallows
  obtain ⟨parts, rfl, -⟩ := conforms_record.mp hsteps
  exact hread style parts (parted_of_allows hdistinct hdepth hallows)

namespace Parted

/-- A part that is allowed is read, if it is there. -/
theorem exists_ofOption (hparted : Parted root bound fields parts) {field : Field}
    (hfield : field ∈ fields) (hreads : Reads root bound decoder field.schema)
    (style : Decode.Style) :
    ∃ found : Option α, (field.needed → found ≠ none) ∧ ∀ position,
      (Parts.named parts).slot style field.name position decoder = .ofOption found := by
  obtain ⟨hvalid, hneeded⟩ := hparted.fits field hfield
  rcases Json.valuesOf_eq_nil_or_singleton field.name hparted.names with hnone | ⟨x, hx⟩
  · exact ⟨none, fun h => absurd hnone (hneeded h), fun _ => Decode.slot_eq_absent _ hnone⟩
  · have hmem : x ∈ valuesOf field.name parts := by
      rw [hx]
      exact List.mem_cons_self
    obtain ⟨hdistinct, hdepth⟩ := hparted.values _ (Json.mem_of_mem_valuesOf hmem)
    obtain ⟨result, hresult⟩ := hreads style x hdistinct hdepth (hvalid x hmem)
    exact ⟨some result, nofun, fun _ => Decode.slot_eq_found _ hresult hx⟩

theorem slot (hparted : Parted root bound fields parts) (style : Decode.Style)
    (hfield : may name schema ∈ fields) (hreads : Reads root bound decoder schema) :
    ∃ found : Option α, ∀ position,
      (Parts.named parts).slot style name position decoder = .ofOption found := by
  obtain ⟨found, -, hfound⟩ := hparted.exists_ofOption hfield hreads style
  exact ⟨found, hfound⟩

theorem found (hparted : Parted root bound fields parts) (style : Decode.Style)
    (hfield : need name schema ∈ fields) (hreads : Reads root bound decoder schema) :
    ∃ result, ∀ position,
      (Parts.named parts).slot style name position decoder = .found result := by
  obtain ⟨found, hneeded, hfound⟩ := hparted.exists_ofOption hfield hreads style
  cases found with
  | none => exact absurd rfl (hneeded rfl)
  | some result => exact ⟨result, hfound⟩

end Parted

/-- A record is read if no part is at fault and the parts make up any value. -/
theorem exists_record {shape : Shape} {style : Decode.Style}
    {read : Parts → List (Option (Nat × Decode.Error)) × Except Decode.Error α} (count : Nat)
    (hread : ∃ result, read (.named parts) = (List.replicate count none, .ok result)) :
    ∃ result, shape.record style (.obj parts) read = .ok result := by
  obtain ⟨result, hresult⟩ := hread
  exact ⟨result, Shape.record_named count hresult⟩

/-! ## Requests -/

section Requests

theorem reads_sourceLinking :
    Reads requestDocument.toJson bound Decode.sourceLinking (defined "SourceLinking") :=
  reads_defined rfl (reads_describe (reads_describedWords (by decide) (by decide)))

theorem reads_dialect : Reads requestDocument.toJson bound Decode.dialect (defined "Dialect") :=
  reads_defined rfl (reads_describe (reads_words (by decide)))

theorem reads_options :
    Reads requestDocument.toJson (bound + 1) Decode.options (defined "AnalysisOptions") := by
  refine reads_defined rfl (reads_describe (reads_record fun style parts hparts => ?_))
  obtain ⟨linking, hlinking⟩ := hparts.slot style (.head _)
    (reads_describe (reads_default (reads_alsoDefined reads_sourceLinking)))
  obtain ⟨recurse, hrecurse⟩ := hparts.slot style (.tail _ (.head _))
    (reads_describe (reads_orDefault reads_truth))
  rw [Decode.options]
  apply exists_record 2
  dsimp only
  rw [hlinking, hrecurse, Slot.fault?_ofOption, Slot.fault?_ofOption]
  exact ⟨_, rfl⟩

theorem reads_sourceFile :
    Reads requestDocument.toJson (bound + 1) Decode.sourceFile (defined "FileSource") := by
  refine reads_defined rfl (reads_record fun style parts hparts => ?_)
  obtain ⟨called, hname⟩ := hparts.found style (.head _) reads_text
  obtain ⟨content, hcontent⟩ := hparts.found style (.tail _ (.head _)) reads_text
  rw [Decode.sourceFile]
  apply exists_record 2
  dsimp only
  rw [hname, hcontent]
  exact ⟨_, rfl⟩

theorem reads_request :
    Reads requestDocument.toJson (bound + 2) Decode.request Schema.request := by
  refine reads_describe (reads_record fun style parts hparts => ?_)
  obtain ⟨sql, hsql⟩ := hparts.slot style (.head _) (reads_describe (reads_orDefault reads_text))
  obtain ⟨files, hfiles⟩ := hparts.slot style (.tail _ (.head _))
    (reads_describe (reads_optionalList reads_sourceFile))
  obtain ⟨language, hlanguage⟩ := hparts.slot style (.tail _ (.tail _ (.head _)))
    (reads_describe (reads_default (reads_alsoDefined reads_dialect)))
  obtain ⟨called, hname⟩ := hparts.slot style (.tail _ (.tail _ (.tail _ (.head _))))
    (reads_describe reads_optionalText)
  obtain ⟨chosen, hchosen⟩ := hparts.slot style (.tail _ (.tail _ (.tail _ (.tail _ (.head _)))))
    (reads_describe (reads_optional reads_options))
  rw [Decode.request]
  apply exists_record 5
  dsimp only
  rw [hsql, hfiles, hlanguage, hname, hchosen]
  simp only [Slot.fault?_ofOption]
  exact ⟨_, rfl⟩

end Requests

/-! ## Tags -/

section Tags

/-- Taking a field away takes no other one with it. -/
theorem valuesOf_withoutField (hname : name ≠ tag) :
    valuesOf name (withoutField tag parts) = valuesOf name parts := by
  induction parts with
  | nil => rfl
  | cons part rest ih =>
    obtain ⟨key, x⟩ := part
    by_cases hkey : key == tag
    · have hother : (key == name) = false := by
        rw [eq_of_beq hkey]
        simpa using hname.symm
      rw [withoutField, if_pos hkey, Json.valuesOf_cons, hother]
      rfl
    · rw [withoutField, if_neg hkey, Json.valuesOf_cons, Json.valuesOf_cons, ih]

theorem withoutField_sublist (tag : String) (parts : List (String × Json)) :
    (withoutField tag parts).Sublist parts := by
  induction parts with
  | nil => exact .refl _
  | cons part rest ih =>
    rw [withoutField]
    split
    · exact List.sublist_cons_self part rest
    · exact ih.cons_cons part

theorem Parted.withoutField (hparted : Parted root bound fields parts)
    (hnames : ∀ field ∈ fields, field.name ≠ tag) :
    Parted root bound fields (withoutField tag parts) where
  names := hparted.names.sublist ((withoutField_sublist tag parts).map _)
  values part hpart := hparted.values part ((withoutField_sublist tag parts).subset hpart)
  fits field hfield := by
    rw [valuesOf_withoutField (hnames field hfield)]
    exact hparted.fits field hfield

/-- An object that a variant allows has the tag of the variant once, and beside it the parts that
the variant allows. -/
theorem parted_of_variant (hdistinct : value.Distinct) (hdepth : value.depth < bound + 1)
    (hallows : Allows root (variant tag word fields) value)
    (hnames : ∀ field ∈ fields, field.name ≠ tag) :
    ∃ parts, value = .obj parts ∧ valuesOf tag parts = [.str word] ∧
      Parted root bound fields (withoutField tag parts) := by
  obtain ⟨steps, hsteps⟩ := allows_succ hallows
  obtain ⟨parts, rfl, -⟩ := conforms_record.mp hsteps
  have hparted := parted_of_allows hdistinct hdepth hallows
  obtain ⟨hvalid, hneeded⟩ := hparted.fits (need tag (Schema.word word)) List.mem_cons_self
  obtain ⟨x, hx⟩ := (Json.valuesOf_eq_nil_or_singleton tag hparted.names).resolve_left (hneeded rfl)
  have hword : x = .str word := by
    have hmem : x ∈ valuesOf tag parts := by
      rw [hx]
      exact List.mem_cons_self
    obtain ⟨more, hmore⟩ := allows_succ (hvalid x hmem)
    exact conforms_word.mp hmore
  have hrest : Parted root bound fields parts :=
    ⟨hparted.names, hparted.values, fun field hfield => hparted.fits field (.tail _ hfield)⟩
  exact ⟨parts, rfl, hword ▸ hx, hrest.withoutField hnames⟩

/-- A tag that stands once, wherever, chooses the variant that its word names. -/
theorem exists_variant {β : Type} {choice : String} {style : Decode.Style}
    {variants : List (String × α)} {meaning : α} {otherwise : Option α}
    {decode : Decode.Tagged → α → Except Decode.Error β}
    (htag : valuesOf tag parts = [.str word])
    (hlookup : variants.lookup word = some meaning)
    (hread : ∀ index, ∃ result,
      decode ⟨.str word, index, .obj (withoutField tag parts)⟩ meaning = .ok result) :
    ∃ result, (do
      let tagged ← splitTag tag choice style (.obj parts)
      let variant ← tagged.variant style variants otherwise
      decode tagged variant) = .ok result := by
  obtain ⟨skipped, hfound, -⟩ := Decode.exists_findNamed htag 0
  rw [Nat.zero_add] at hfound
  have hsplit : splitTag tag choice style (.obj parts) =
      .ok ⟨.str word, skipped, .obj (withoutField tag parts)⟩ := by
    rw [splitTag, hfound]
  have hvariant : (⟨.str word, skipped, .obj (withoutField tag parts)⟩ :
      Decode.Tagged).variant style variants otherwise = .ok meaning := by
    simp [Decode.Tagged.variant, hlookup]
  simp only [hsplit, bind, Except.bind, hvariant]
  exact hread skipped

/-- A schema that allows an object without a field if it allows it with it. -/
def Ignores (root : Json) (tag : String) (schema : Schema) : Prop :=
  ∀ parts, Allows root schema (.obj parts) → Allows root schema (.obj (withoutField tag parts))

theorem ignores_record (hnames : ∀ field ∈ fields, field.name ≠ tag) :
    Ignores root tag (record fields) := by
  intro parts hallows
  obtain ⟨steps, hsteps⟩ := allows_succ hallows
  obtain ⟨_, hparts, hfits⟩ := conforms_record.mp hsteps
  cases hparts
  refine ⟨steps + 1, conforms_record.mpr ⟨_, rfl, fun field hfield => ?_⟩⟩
  rw [valuesOf_withoutField (hnames field hfield)]
  exact hfits field hfield

theorem ignores_describe {about : String} (hignores : Ignores root tag schema) :
    Ignores root tag (describe about schema) :=
  fun parts hallows => allows_describe.mpr (hignores parts (allows_describe.mp hallows))

theorem ignores_defined {document : SchemaDocument}
    (hlookup : document.definitions.lookup name = some schema)
    (hignores : Ignores document.toJson tag schema) :
    Ignores document.toJson tag (defined name) :=
  fun parts hallows =>
    (allows_defined hlookup).mpr (hignores parts ((allows_defined hlookup).mp hallows))

end Tags

/-! ## Statements -/

section Statements

theorem reads_tableRef :
    Reads statementDocument.toJson (bound + 1) Decode.tableRef (defined "TableRef") := by
  refine reads_defined rfl (reads_describe (reads_record fun style parts hparts => ?_))
  obtain ⟨called, hname⟩ := hparts.found style (.head _) reads_text
  obtain ⟨aliasName, halias⟩ := hparts.slot style (.tail _ (.head _)) reads_optionalText
  rw [Decode.tableRef]
  apply exists_record 2
  dsimp only
  rw [hname, halias, Slot.fault?_ofOption]
  exact ⟨_, rfl⟩

theorem reads_columnDefinition :
    Reads statementDocument.toJson (bound + 1) Decode.columnDefinition
      (defined "ColumnDefinition") := by
  refine reads_defined rfl (reads_record fun style parts hparts => ?_)
  obtain ⟨called, hname⟩ := hparts.found style (.head _) reads_text
  obtain ⟨table, htable⟩ := hparts.slot style (.tail _ (.head _))
    (reads_describe reads_optionalText)
  rw [Decode.columnDefinition]
  apply exists_record 2
  dsimp only
  rw [hname, htable, Slot.fault?_ofOption]
  exact ⟨_, rfl⟩

theorem reads_foreignKey :
    Reads statementDocument.toJson (bound + 1) Decode.foreignKey (defined "ForeignKey") := by
  refine reads_defined rfl (reads_record fun style parts hparts => ?_)
  obtain ⟨columns, hcolumns⟩ := hparts.slot style (.head _)
    (reads_orDefault (reads_list reads_text))
  obtain ⟨table, htable⟩ := hparts.found style (.tail _ (.head _)) reads_text
  rw [Decode.foreignKey]
  apply exists_record 2
  dsimp only
  rw [hcolumns, htable, Slot.fault?_ofOption]
  exact ⟨_, rfl⟩

theorem reads_operator :
    Reads statementDocument.toJson bound (Decode.word Operator.choices)
      (defined "BinaryOperator") :=
  reads_defined rfl (reads_words (by decide))

/-! ### Expressions -/

theorem exists_columnOfParts (style : Decode.Style)
    (hparts : Parted root bound [may "table" optionalText, need "column" text] parts) :
    ∃ result, Decode.columnOfParts style (.obj parts) = .ok result := by
  obtain ⟨table, htable⟩ := hparts.slot style (.head _) reads_optionalText
  obtain ⟨called, hname⟩ := hparts.found style (.tail _ (.head _)) reads_text
  rw [Decode.columnOfParts]
  apply exists_record 2
  dsimp only
  rw [htable, hname, Slot.fault?_ofOption]
  exact ⟨_, rfl⟩

theorem reads_zero : Reads root 0 decoder schema :=
  fun _ _ _ hdepth => absurd hdepth (Nat.not_lt_zero _)

theorem reads_decodeExpression : ∀ fuel,
    Reads statementDocument.toJson fuel (Decode.decodeExpression fuel) (defined "Expression")
  | 0 => reads_zero
  | fuel + 1 => by
    refine reads_defined rfl fun style value hdistinct hdepth hallows => ?_
    obtain ⟨steps, hsteps⟩ := allows_succ hallows
    obtain ⟨form, hform, hvalue⟩ := conforms_expression.mp hsteps
    rcases hform with _ | ⟨_, _ | ⟨_, _ | ⟨_, ⟨⟩⟩⟩⟩
    · rw [conforms_describe] at hvalue
      obtain ⟨parts, rfl, htag, hparts⟩ :=
        parted_of_variant hdistinct hdepth ⟨steps, hvalue⟩ (by simp [may, need])
      rw [Decode.decodeExpression]
      exact exists_variant htag rfl fun _ => exists_columnOfParts style hparts
    · obtain ⟨parts, rfl, htag, hparts⟩ :=
        parted_of_variant hdistinct hdepth ⟨steps, hvalue⟩ (by simp [need])
      have hoperand := reads_decodeExpression fuel
      obtain ⟨operator, hoperator⟩ := hparts.found style (.head _) reads_operator
      obtain ⟨left, hleft⟩ := hparts.found style (.tail _ (.head _)) hoperand
      obtain ⟨right, hright⟩ := hparts.found style (.tail _ (.tail _ (.head _))) hoperand
      rw [Decode.decodeExpression]
      refine exists_variant htag rfl fun _ => exists_record 3 ?_
      dsimp only
      rw [hoperator, hleft, hright]
      exact ⟨_, rfl⟩
    · obtain ⟨parts, rfl, htag, -⟩ :=
        parted_of_variant hdistinct hdepth ⟨steps, hvalue⟩ (by simp)
      rw [Decode.decodeExpression]
      exact exists_variant htag rfl fun _ => ⟨_, rfl⟩

theorem reads_expression :
    Reads statementDocument.toJson bound Decode.expression (defined "Expression") :=
  fun style value hdistinct _ => reads_decodeExpression _ style value hdistinct (Nat.lt_succ_self _)

/-! ### Queries -/

mutual

theorem reads_decodeSelect : ∀ fuel,
    Reads statementDocument.toJson fuel (Decode.decodeSelect fuel) (defined "SelectStatement")
  | 0 => reads_zero
  | fuel + 1 => by
    refine reads_defined rfl (reads_describe (reads_record fun style parts hparts => ?_))
    obtain ⟨ctes, hctes⟩ := hparts.slot style (.head _)
      (reads_list (reads_decodeCommonTable fuel))
    obtain ⟨sources, hsources⟩ := hparts.slot style (.tail _ (.head _))
      (reads_orDefault (reads_list (reads_decodeFromItem fuel)))
    obtain ⟨columns, hcolumns⟩ := hparts.slot style (.tail _ (.tail _ (.head _)))
      (reads_orDefault (reads_list reads_expression))
    obtain ⟨selection, hselection⟩ := hparts.slot style (.tail _ (.tail _ (.tail _ (.head _))))
      (reads_optional reads_expression)
    obtain ⟨union, hunion⟩ := hparts.slot style (.tail _ (.tail _ (.tail _ (.tail _ (.head _)))))
      (reads_list (reads_decodeSelect fuel))
    rw [Decode.decodeSelect]
    apply exists_record 5
    dsimp only
    rw [hctes, hsources, hcolumns, hselection, hunion]
    simp only [Slot.fault?_ofOption]
    exact ⟨_, rfl⟩

theorem reads_decodeCommonTable : ∀ fuel,
    Reads statementDocument.toJson fuel (Decode.decodeCommonTable fuel) (defined "CommonTableExpr")
  | 0 => reads_zero
  | fuel + 1 => by
    refine reads_defined rfl (reads_record fun style parts hparts => ?_)
    obtain ⟨called, hname⟩ := hparts.found style (.head _) reads_text
    obtain ⟨query, hquery⟩ := hparts.found style (.tail _ (.head _)) (reads_decodeSelect fuel)
    rw [Decode.decodeCommonTable]
    apply exists_record 2
    dsimp only
    rw [hname, hquery]
    exact ⟨_, rfl⟩

theorem reads_decodeFromItem : ∀ fuel,
    Reads statementDocument.toJson fuel (Decode.decodeFromItem fuel) (defined "FromItem")
  | 0 => reads_zero
  | fuel + 1 => by
    refine reads_defined rfl (reads_describe (reads_record fun style parts hparts => ?_))
    obtain ⟨source, hsource⟩ := hparts.found style (.head _) (reads_decodeTableSource fuel)
    obtain ⟨aliasName, halias⟩ := hparts.slot style (.tail _ (.head _)) reads_optionalText
    obtain ⟨join, hjoin⟩ := hparts.slot style (.tail _ (.tail _ (.head _)))
      (reads_describe reads_truth)
    obtain ⟨condition, hcondition⟩ := hparts.slot style (.tail _ (.tail _ (.tail _ (.head _))))
      (reads_optional reads_expression)
    rw [Decode.decodeFromItem]
    apply exists_record 4
    dsimp only
    rw [hsource, halias, hjoin, hcondition]
    simp only [Slot.fault?_ofOption]
    exact ⟨_, rfl⟩

theorem reads_decodeTableSource : ∀ fuel,
    Reads statementDocument.toJson fuel (Decode.decodeTableSource fuel) (defined "TableSource")
  | 0 => reads_zero
  | fuel + 1 => by
    refine reads_defined rfl fun style value hdistinct hdepth hallows => ?_
    obtain ⟨steps, hsteps⟩ := allows_succ hallows
    obtain ⟨form, hform, hvalue⟩ := conforms_tableSource.mp hsteps
    rw [Decode.decodeTableSource]
    rcases hform with _ | ⟨_, _ | ⟨_, ⟨⟩⟩⟩
    · obtain ⟨parts, rfl, htag, hparts⟩ :=
        parted_of_variant hdistinct hdepth ⟨steps, hvalue⟩ (by simp [need])
      obtain ⟨called, hname⟩ := hparts.found style (.head _) reads_text
      refine exists_variant htag rfl fun _ => ?_
      rw [if_pos rfl]
      apply exists_record 1
      dsimp only
      rw [hname]
      exact ⟨_, rfl⟩
    · obtain ⟨parts, rfl, htag, hparts⟩ :=
        parted_of_variant hdistinct hdepth ⟨steps, hvalue⟩ (by simp [need])
      obtain ⟨query, hquery⟩ := hparts.found style (.head _) (reads_decodeSelect fuel)
      refine exists_variant htag rfl fun _ => ?_
      rw [if_neg Bool.false_ne_true]
      apply exists_record 1
      dsimp only
      rw [hquery]
      exact ⟨_, rfl⟩

end

theorem reads_select :
    Reads statementDocument.toJson bound Decode.select (defined "SelectStatement") :=
  fun style value hdistinct _ => reads_decodeSelect _ style value hdistinct (Nat.lt_succ_self _)

theorem reads_commonTables :
    Reads statementDocument.toJson bound (Decode.list Decode.commonTable) commonTables :=
  reads_list fun style value hdistinct _ =>
    reads_decodeCommonTable _ style value hdistinct (Nat.lt_succ_self _)

theorem reads_fromItem :
    Reads statementDocument.toJson bound Decode.fromItem (defined "FromItem") :=
  fun style value hdistinct _ => reads_decodeFromItem _ style value hdistinct (Nat.lt_succ_self _)

/-! ### Statements by their types -/

theorem reads_insertSource :
    Reads statementDocument.toJson (bound + 1) Decode.insertSource (defined "InsertSource") := by
  refine reads_defined rfl fun style value hdistinct hdepth hallows => ?_
  obtain ⟨steps, hsteps⟩ := allows_succ hallows
  obtain ⟨form, hform, hvalue⟩ := conforms_insertSource.mp hsteps
  rw [Decode.insertSource]
  rcases hform with _ | ⟨_, _ | ⟨_, _ | ⟨_, ⟨⟩⟩⟩⟩
  · obtain ⟨parts, rfl, htag, -⟩ := parted_of_variant hdistinct hdepth ⟨steps, hvalue⟩ (by simp)
    exact exists_variant htag rfl fun _ => ⟨_, rfl⟩
  · obtain ⟨parts, rfl, htag, hparts⟩ :=
      parted_of_variant hdistinct hdepth ⟨steps, hvalue⟩ (by simp [need])
    obtain ⟨query, hquery⟩ := hparts.found style (.head _) reads_select
    refine exists_variant htag rfl fun _ => exists_record 1 ?_
    dsimp only
    rw [hquery]
    exact ⟨_, rfl⟩
  · obtain ⟨parts, rfl, htag, -⟩ := parted_of_variant hdistinct hdepth ⟨steps, hvalue⟩ (by simp)
    exact exists_variant htag rfl fun _ => ⟨_, rfl⟩

theorem reads_insert :
    Reads statementDocument.toJson (bound + 2) Decode.insert (defined "InsertStatement") := by
  refine reads_defined rfl (reads_record fun style parts hparts => ?_)
  obtain ⟨ctes, hctes⟩ := hparts.slot style (.head _) (reads_describe reads_commonTables)
  obtain ⟨table, htable⟩ := hparts.found style (.tail _ (.head _)) reads_text
  obtain ⟨columns, hcolumns⟩ := hparts.slot style (.tail _ (.tail _ (.head _)))
    (reads_orDefault (reads_list reads_text))
  obtain ⟨source, hsource⟩ := hparts.found style (.tail _ (.tail _ (.tail _ (.head _))))
    reads_insertSource
  rw [Decode.insert]
  apply exists_record 4
  dsimp only
  rw [hctes, htable, hcolumns, hsource]
  simp only [Slot.fault?_ofOption]
  exact ⟨_, rfl⟩

theorem reads_update :
    Reads statementDocument.toJson (bound + 2) Decode.update (defined "UpdateStatement") := by
  refine reads_defined rfl (reads_record fun style parts hparts => ?_)
  obtain ⟨ctes, hctes⟩ := hparts.slot style (.head _) reads_commonTables
  obtain ⟨table, htable⟩ := hparts.found style (.tail _ (.head _)) reads_tableRef
  obtain ⟨columns, hcolumns⟩ := hparts.slot style (.tail _ (.tail _ (.head _)))
    (reads_describe (reads_orDefault (reads_list reads_text)))
  obtain ⟨sources, hsources⟩ := hparts.slot style (.tail _ (.tail _ (.tail _ (.head _))))
    (reads_describe (reads_list reads_fromItem))
  obtain ⟨selection, hselection⟩ := hparts.slot style
    (.tail _ (.tail _ (.tail _ (.tail _ (.head _))))) (reads_optional reads_expression)
  rw [Decode.update]
  apply exists_record 5
  dsimp only
  rw [hctes, htable, hcolumns, hsources, hselection]
  simp only [Slot.fault?_ofOption]
  exact ⟨_, rfl⟩

theorem reads_delete :
    Reads statementDocument.toJson (bound + 2) Decode.delete (defined "DeleteStatement") := by
  refine reads_defined rfl (reads_record fun style parts hparts => ?_)
  obtain ⟨ctes, hctes⟩ := hparts.slot style (.head _) reads_commonTables
  obtain ⟨table, htable⟩ := hparts.found style (.tail _ (.head _)) reads_tableRef
  obtain ⟨sources, hsources⟩ := hparts.slot style (.tail _ (.tail _ (.head _)))
    (reads_describe (reads_list reads_fromItem))
  obtain ⟨selection, hselection⟩ := hparts.slot style (.tail _ (.tail _ (.tail _ (.head _))))
    (reads_optional reads_expression)
  rw [Decode.delete]
  apply exists_record 4
  dsimp only
  rw [hctes, htable, hsources, hselection]
  simp only [Slot.fault?_ofOption]
  exact ⟨_, rfl⟩

theorem reads_createTable :
    Reads statementDocument.toJson (bound + 2) Decode.createTable
      (defined "CreateTableStatement") := by
  refine reads_defined rfl (reads_record fun style parts hparts => ?_)
  obtain ⟨table, htable⟩ := hparts.found style (.head _) reads_text
  obtain ⟨columns, hcolumns⟩ := hparts.slot style (.tail _ (.head _))
    (reads_orDefault (reads_list reads_columnDefinition))
  obtain ⟨keys, hkeys⟩ := hparts.slot style (.tail _ (.tail _ (.head _)))
    (reads_describe (reads_list reads_foreignKey))
  obtain ⟨query, hquery⟩ := hparts.slot style (.tail _ (.tail _ (.tail _ (.head _))))
    (reads_describe (reads_optional reads_select))
  rw [Decode.createTable]
  apply exists_record 4
  dsimp only
  rw [htable, hcolumns, hkeys, hquery]
  simp only [Slot.fault?_ofOption]
  exact ⟨_, rfl⟩

theorem reads_createView :
    Reads statementDocument.toJson (bound + 1) Decode.createView
      (defined "CreateViewStatement") := by
  refine reads_defined rfl (reads_record fun style parts hparts => ?_)
  obtain ⟨view, hview⟩ := hparts.found style (.head _) reads_text
  obtain ⟨query, hquery⟩ := hparts.found style (.tail _ (.head _)) reads_select
  rw [Decode.createView]
  apply exists_record 2
  dsimp only
  rw [hview, hquery]
  exact ⟨_, rfl⟩

theorem exists_unsupportedKind (style : Decode.Style)
    (hparts : Parted root bound [need "kind" text] parts) :
    ∃ result, Decode.unsupportedKind style (.obj parts) = .ok result := by
  obtain ⟨kind, hkind⟩ := hparts.found style (.head _) reads_text
  rw [Decode.unsupportedKind]
  apply exists_record 1
  dsimp only
  rw [hkind]
  exact ⟨_, rfl⟩

/-- A statement is read if its parts are, without the type that chooses how. -/
theorem exists_statement {type : String} {wrap : α → Statement} (style : Decode.Style)
    (htype : Decode.statementTags.contains type) (htag : valuesOf "type" parts = [.str type])
    (hread : ∃ result, decoder .buffered (.obj (withoutField "type" parts)) = .ok result)
    (hknown : ∀ body, Decode.knownStatement type .buffered body =
      (decoder .buffered body).map wrap) :
    ∃ result, Decode.statement style (.obj parts) = .ok result := by
  have hfield : (Json.obj parts).field? "type" = some (.str type) := by
    rw [Json.field?_obj, htag]
    rfl
  obtain ⟨result, hresult⟩ := hread
  refine ⟨wrap result, ?_⟩
  rw [Decode.statement, hfield]
  simp only [htype, if_true, hknown, hresult]
  rfl

/-- A statement whose parts stand in a definition is read if the definition is and does not mind the
type beside its fields. -/
theorem exists_statementOf {type : String} {wrap : α → Statement} {style : Decode.Style}
    (hdistinct : value.Distinct)
    (hallows : Allows statementDocument.toJson (statementOf type name) value)
    (htype : Decode.statementTags.contains type)
    (hreads : Reads statementDocument.toJson (value.depth + 2) decoder (defined name))
    (hignores : Ignores statementDocument.toJson "type" (defined name))
    (hknown : ∀ body, Decode.knownStatement type .buffered body =
      (decoder .buffered body).map wrap) :
    ∃ result, Decode.statement style value = .ok result := by
  obtain ⟨steps, hsteps⟩ := allows_succ hallows
  obtain ⟨hvariant, hdefined⟩ := conforms_statementOf.mp hsteps
  obtain ⟨parts, rfl, htag, hparts⟩ := parted_of_variant hdistinct
    (Nat.lt_succ_self _) ⟨steps + 1, hvariant⟩ (by simp)
  refine exists_statement style htype htag ?_ hknown
  have hdepth : (Json.obj (withoutField "type" parts)).depth <
      (Json.obj parts).depth + 2 :=
    Nat.lt_succ_of_le (Json.depth_obj_le.mpr fun part hpart => (hparts.values part hpart).2.le)
  exact hreads .buffered _ (.obj hparts.names fun part hpart => (hparts.values part hpart).1)
    hdepth (hignores parts ⟨steps, hdefined⟩)

theorem reads_statement :
    Reads statementDocument.toJson bound Decode.statement Schema.statement := by
  intro style value hdistinct _ hallows
  obtain ⟨steps, hsteps⟩ := allows_succ hallows
  obtain ⟨form, hform, hvalue⟩ := conforms_statement.mp hsteps
  have hallows : Allows statementDocument.toJson form value := ⟨steps, hvalue⟩
  rcases hform with _ | ⟨_, _ | ⟨_, _ | ⟨_, _ | ⟨_, _ | ⟨_, _ | ⟨_, _ | ⟨_, _ | ⟨_, ⟨⟩⟩⟩⟩⟩⟩⟩⟩⟩
  · exact exists_statementOf hdistinct hallows (by decide) reads_select
      (ignores_defined rfl (ignores_describe (ignores_record (by simp [may])))) fun _ => rfl
  · exact exists_statementOf hdistinct hallows (by decide) reads_insert
      (ignores_defined rfl (ignores_record (by simp [may, need]))) fun _ => rfl
  · exact exists_statementOf hdistinct hallows (by decide) reads_update
      (ignores_defined rfl (ignores_record (by simp [may, need]))) fun _ => rfl
  · exact exists_statementOf hdistinct hallows (by decide) reads_delete
      (ignores_defined rfl (ignores_record (by simp [may, need]))) fun _ => rfl
  · exact exists_statementOf hdistinct hallows (by decide) reads_createTable
      (ignores_defined rfl (ignores_record (by simp [may, need]))) fun _ => rfl
  · exact exists_statementOf hdistinct hallows (by decide) reads_createView
      (ignores_defined rfl (ignores_record (by simp [need]))) fun _ => rfl
  · exact exists_statementOf hdistinct hallows (by decide) reads_tableRef
      (ignores_defined rfl (ignores_describe (ignores_record (by simp [may, need])))) fun _ => rfl
  · rw [conforms_describe] at hvalue
    obtain ⟨parts, rfl, htag, hparts⟩ := parted_of_variant hdistinct
      (Nat.lt_succ_self _) ⟨steps, hvalue⟩ (by simp [need])
    exact exists_statement style (by decide) htag (exists_unsupportedKind .buffered hparts)
      fun _ => rfl

end Statements

/-! ## The published schemas -/

/-- A value validates against the published schema of that title. -/
def ValidatesAs (title : String) (value : Json) : Prop :=
  ∃ schema, publishedSchema.field? title = some schema ∧ Validates schema schema value

/-- A value validates against a document exactly when its body takes it. -/
theorem validates_document (document : SchemaDocument) :
    Validates document.toJson document.toJson value ↔
      Accepts document.toJson document.body value := by
  simp only [Validates, Accepts, conforms_document]

theorem allows_of_accepts (haccepts : Accepts root schema value) : Allows root schema value :=
  Filter.Eventually.exists haccepts

theorem validatesAs_iff {document : SchemaDocument} {title : String}
    (htitle : publishedSchema.field? title = some document.toJson) :
    ValidatesAs title value ↔ Accepts document.toJson document.body value := by
  simp only [ValidatesAs, htitle, Option.some.injEq, exists_eq_left', validates_document]

/-- The published schemas agree with the codecs.  Whatever is written for a request, a result or a
statement validates against the schema of its type, and every value without repeated names that
validates as a request or as a statement is read as one, in whatever way it comes in. -/
theorem publishedSchema_agrees :
    (∀ request : Request, ValidatesAs "AnalyzeRequest" request.toJson) ∧
      (∀ result : Result, ValidatesAs "AnalyzeResult" result.toJson) ∧
      (∀ statement : Statement, ValidatesAs "LineageStatement" statement.toJson) ∧
      (∀ value : Json, value.Distinct → ValidatesAs "AnalyzeRequest" value →
        ∀ style, ∃ request, Decode.request style value = .ok request) ∧
      ∀ value : Json, value.Distinct → ValidatesAs "LineageStatement" value →
        ∀ style, ∃ statement, Decode.statement style value = .ok statement := by
  have hrequest : publishedSchema.field? "AnalyzeRequest" = some requestDocument.toJson := rfl
  have hresult : publishedSchema.field? "AnalyzeResult" = some resultDocument.toJson := rfl
  have hstatement : publishedSchema.field? "LineageStatement" = some statementDocument.toJson := rfl
  refine ⟨fun request => (validatesAs_iff hrequest).mpr (accepts_request request),
    fun result => (validatesAs_iff hresult).mpr (accepts_result result),
    fun statement => (validatesAs_iff hstatement).mpr (accepts_statement statement),
    fun value hdistinct hvalid style => ?_, fun value hdistinct hvalid style => ?_⟩
  · exact reads_request style value hdistinct (Nat.lt_add_of_pos_right (by decide : 0 < 2))
      (allows_of_accepts ((validatesAs_iff hrequest).mp hvalid))
  · exact reads_statement style value hdistinct (Nat.lt_succ_self _)
      (allows_of_accepts ((validatesAs_iff hstatement).mp hvalid))

/-- A request and a statement that nothing here would write: both have fields that no schema names,
and the statement does not begin with its type. -/
theorem publishedSchema_agrees_unwritten :
    let request : Json := .obj [("files", .arr [.obj [("size", .nat 8), ("name", .str "a.sql"),
      ("content", .str "SELECT 1")]]), ("note", .null)]
    let statement : Json := .obj [("kind", .str "DROP"), ("type", .str "unsupported"),
      ("cascade", .bool true)]
    (request.Distinct ∧ ValidatesAs "AnalyzeRequest" request ∧
        ∃ read, Decode.request .direct request = .ok read) ∧
      statement.Distinct ∧ ValidatesAs "LineageStatement" statement ∧
        ∃ read, Decode.statement .direct statement = .ok read := by
  intro request statement
  obtain ⟨-, -, -, hrequests, hstatements⟩ := publishedSchema_agrees
  have hrequest : request.Distinct := by
    simp [request, Json.distinct_obj_iff, Json.distinct_arr_iff, Json.nat]
  have hstatement : statement.Distinct := by
    simp [statement, Json.distinct_obj_iff]
  have hrequestValid : ValidatesAs "AnalyzeRequest" request := by
    refine ⟨_, rfl, Filter.eventually_atTop.mpr ⟨10, fun steps hsteps => ?_⟩⟩
    obtain ⟨more, rfl⟩ := Nat.exists_eq_add_of_le' hsteps
    rfl
  have hstatementValid : ValidatesAs "LineageStatement" statement := by
    refine ⟨_, rfl, Filter.eventually_atTop.mpr ⟨10, fun steps hsteps => ?_⟩⟩
    obtain ⟨more, rfl⟩ := Nat.exists_eq_add_of_le' hsteps
    rfl
  exact ⟨⟨hrequest, hrequestValid, hrequests request hrequest hrequestValid .direct⟩,
    hstatement, hstatementValid, hstatements statement hstatement hstatementValid .direct⟩

end SqlLineage.Schema
