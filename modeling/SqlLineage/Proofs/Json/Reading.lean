import Mathlib.Tactic.IntervalCases
import SqlLineage.Decode.Text
import SqlLineage.Proofs.Json.Scanning
import SqlLineage.Text.Blank

/-!
# Reading spelled values

A text that spells a value is read as that value if its containers do not nest too deep, and
otherwise ends at the place where they do.
-/

namespace SqlLineage.Json

open Text (Cursor)

variable {text rest : List Char} {depth offset : Nat}

/-- What reading a spelled value comes to. -/
inductive ValueRead (depth : Nat) (value : Json) (rest : List Char) :
    Reading × Option Cursor → Prop where
  | found {reading : Reading} {stop : Nat} (hdepth : value.depth ≤ depth)
      (hfault : reading.fault? = none) (hvalue : reading.value = value) :
      ValueRead depth value rest (reading, some ⟨rest, stop⟩)
  | tooDeep {reading : Reading} {offset : Nat} (hdepth : depth < value.depth)
      (hfault : reading.fault? = some ⟨.tooDeep, offset⟩) :
      ValueRead depth value rest (reading, none)

/-- What reading the rest of a list comes to. -/
inductive ItemsRead (depth : Nat) (items : List Json) (rest : List Char) :
    List Reading × Except Fault Cursor → Prop where
  | found {readings : List Reading} {stop : Nat} (hdepth : depthOfList items ≤ depth)
      (hvalues : Reading.values readings = items) :
      ItemsRead depth items rest (readings, .ok ⟨rest, stop⟩)
  | tooDeep {readings : List Reading} {offset : Nat} (hdepth : depth < depthOfList items) :
      ItemsRead depth items rest (readings, .error ⟨.tooDeep, offset⟩)

/-- What reading the rest of an object comes to. -/
inductive FieldsRead (depth : Nat) (fields : List (String × Json)) (rest : List Char) :
    List (String × Nat × Reading) × Except Fault Cursor → Prop where
  | found {readings : List (String × Nat × Reading)} {stop : Nat}
      (hdepth : depthOfFields fields ≤ depth) (hvalues : Reading.fieldValues readings = fields) :
      FieldsRead depth fields rest (readings, .ok ⟨rest, stop⟩)
  | tooDeep {readings : List (String × Nat × Reading)} {offset : Nat}
      (hdepth : depth < depthOfFields fields) :
      FieldsRead depth fields rest (readings, .error ⟨.tooDeep, offset⟩)

/-- What reading a part from a place on comes to. -/
def Part.ReadFrom (steps depth : Nat) (cursor : Cursor) (rest : List Char) : Part → Prop
  | .value json => ValueRead depth json rest (readValue steps depth cursor)
  | .items atStart list => ItemsRead depth list rest (readItems steps depth atStart cursor)
  | .fields atStart list => FieldsRead depth list rest (readFields steps depth atStart cursor)

/-- A bound on the steps that reading a part takes after the first one. -/
def Part.steps (text : List Char) : Part → Nat
  | .value _ => 2 * text.length
  | .items .. => 2 * text.length + 1
  | .fields .. => 2 * text.length + 1

/-! ## Where parts start -/

theorem Spells.length_lt {part : Part} (h : Spells text part rest) : rest.length < text.length := by
  induction h with
  | gap hgap hpart ih => rw [List.length_cons]; omega
  | null rest => simp; omega
  | trueWord rest => simp; omega
  | falseWord rest => simp; omega
  | @nat n rest hn hrest =>
    have hdigits : (Nat.toDigits 10 n).length ≠ 0 := by simp [Nat.toDigits_ne_nil]
    rw [List.length_append]
    omega
  | str text rest => simp [quoteBefore]; omega
  | arr hitems ih => rw [List.length_cons]; omega
  | obj hfields ih => rw [List.length_cons]; omega
  | closeList atStart rest => simp
  | item hitem hitems ihitem ihitems => omega
  | nextItem hitems ih => rw [List.length_cons]; omega
  | closeObject atStart rest => simp
  | field hvalue hfields ihvalue ihfields => simp [quoteBefore]; omega
  | nextField hfields ih => rw [List.length_cons]; omega

/-- Whether a part can start with a character. -/
def Part.OpensWith (c : Char) : Part → Prop
  | .value _ => c ≠ ']'
  | .items true (_ :: _) => c ≠ ']'
  | .fields true (_ :: _) => c = '"'
  | _ => True

theorem Spells.opensWith {part : Part} (h : Spells text part rest) (offset : Nat) :
    ∃ c, (skipBlanks ⟨text, offset⟩).peek = some c ∧ part.OpensWith c := by
  induction h generalizing offset with
  | gap hgap hpart ih =>
    rw [skipBlanks_cons_gap hgap]
    exact ih _
  | null rest => exact ⟨'n', rfl, by simp [Part.OpensWith]⟩
  | trueWord rest => exact ⟨'t', rfl, by simp [Part.OpensWith]⟩
  | falseWord rest => exact ⟨'f', rfl, by simp [Part.OpensWith]⟩
  | nat hn hrest =>
    obtain ⟨digit, more, hdigits, hdigit⟩ := toDigits_eq_cons _
    rw [hdigits, List.cons_append, skipBlanks_cons (isGap_eq_false hdigit)]
    refine ⟨digit, rfl, ?_⟩
    rintro rfl
    exact absurd hdigit (by decide)
  | str text rest => exact ⟨'"', rfl, by simp [Part.OpensWith]⟩
  | arr hitems ih => exact ⟨'[', rfl, by simp [Part.OpensWith]⟩
  | obj hfields ih => exact ⟨'{', rfl, by simp [Part.OpensWith]⟩
  | closeList atStart rest => exact ⟨']', rfl, by simp [Part.OpensWith]⟩
  | item hitem hitems ihitem ihitems => exact ihitem offset
  | nextItem hitems ih => exact ⟨',', rfl, by simp [Part.OpensWith]⟩
  | closeObject atStart rest => exact ⟨'}', rfl, by simp [Part.OpensWith]⟩
  | field hvalue hfields ihvalue ihfields => exact ⟨'"', rfl, by simp [Part.OpensWith]⟩
  | nextField hfields ih => exact ⟨',', rfl, by simp [Part.OpensWith]⟩

/-! ## Steps -/

variable {steps : Nat}

theorem readValue_congr {start other : Cursor} (h : skipBlanks start = skipBlanks other) :
    readValue (steps + 1) depth start = readValue (steps + 1) depth other := by
  unfold readValue
  rw [h]

theorem readItems_congr {atStart : Bool} {start other : Cursor}
    (h : skipBlanks start = skipBlanks other) :
    readItems (steps + 1) depth atStart start = readItems (steps + 1) depth atStart other := by
  unfold readItems
  rw [h]

theorem readFields_congr {atStart : Bool} {start other : Cursor}
    (h : skipBlanks start = skipBlanks other) :
    readFields (steps + 1) depth atStart start = readFields (steps + 1) depth atStart other := by
  unfold readFields
  rw [h]

theorem Part.readFrom_gap {part : Part} {c : Char} (hgap : isGap c)
    (h : part.ReadFrom (steps + 1) depth ⟨text, offset + c.utf8Size⟩ rest) :
    part.ReadFrom (steps + 1) depth ⟨c :: text, offset⟩ rest := by
  have hskip : skipBlanks ⟨c :: text, offset⟩ = skipBlanks ⟨text, offset + c.utf8Size⟩ :=
    skipBlanks_cons_gap hgap
  cases part with
  | value json => rwa [ReadFrom, readValue_congr hskip]
  | items atStart list => rwa [ReadFrom, readItems_congr hskip]
  | fields atStart list => rwa [ReadFrom, readFields_congr hskip]

theorem valueRead_leaf {value : Json} {start stop : Nat} (hdepth : value.depth = 0) :
    ValueRead depth value rest (.leaf value start stop, some ⟨rest, stop⟩) :=
  .found (by omega) rfl rfl

theorem readValue_digit {c : Char} (hdigit : c.isDigit) :
    readValue (steps + 1) depth ⟨c :: text, offset⟩ =
      leafOr offset (readNumber false ⟨c :: text, offset⟩) := by
  obtain ⟨n, hn, rfl⟩ := eq_digitChar hdigit
  interval_cases n <;> rfl

theorem valueRead_nat {n : Nat} (hn : n < UInt64.size) (hrest : EndsNumber rest) :
    ValueRead depth (.nat n) rest
      (readValue (steps + 1) depth ⟨Nat.toDigits 10 n ++ rest, offset⟩) := by
  obtain ⟨digit, more, hcons, hdigit⟩ := toDigits_eq_cons n
  obtain ⟨stop, hread⟩ := readNumber_toDigits hn hrest offset
  rw [hcons, List.cons_append] at hread ⊢
  rw [readValue_digit hdigit, hread]
  exact valueRead_leaf rfl

theorem valueRead_str (string : String) :
    ValueRead depth (.str string) rest
      (readValue (steps + 1) depth ⟨quoteBefore rest string, offset⟩) := by
  obtain ⟨stop, hread⟩ := readString_quoteBefore string rest (Nat.le_refl _) (offset + 1)
  have hvalue : readValue (steps + 1) depth ⟨quoteBefore rest string, offset⟩ =
      leafOr offset
        ((readString [] (quoteBefore rest string).length
          ⟨(quoteBefore rest string).tail, offset + 1⟩).map
          (fun found => (Json.str found.1, found.2))) := rfl
  rw [hvalue, hread]
  exact valueRead_leaf rfl

theorem valueRead_arr {items : List Json}
    (hitems : ∀ depth, ItemsRead depth items rest (readItems steps depth true ⟨text, offset + 1⟩)) :
    ValueRead depth (.arr items) rest (readValue (steps + 1) depth ⟨'[' :: text, offset⟩) := by
  cases depth with
  | zero =>
    have hvalue : readValue (steps + 1) 0 ⟨'[' :: text, offset⟩ =
      (.broken (faultAhead .tooDeep ⟨'[' :: text, offset⟩), none) := rfl
    rw [hvalue]
    exact .tooDeep (by simp [Json.depth]) rfl
  | succ depth =>
    have hvalue : readValue (steps + 1) (depth + 1) ⟨'[' :: text, offset⟩ =
      (.list offset (readItems steps depth true ⟨text, offset + 1⟩).1
        ((readItems steps depth true ⟨text, offset + 1⟩).2.map Cursor.offset),
        (readItems steps depth true ⟨text, offset + 1⟩).2.toOption) := rfl
    specialize hitems depth
    rw [hvalue]
    generalize readItems steps depth true ⟨text, offset + 1⟩ = outcome at hitems
    cases hitems with
    | found hdepth hvalues =>
      exact .found (Nat.succ_le_succ hdepth) rfl (congrArg Json.arr hvalues)
    | tooDeep hdepth => exact .tooDeep (Nat.succ_lt_succ hdepth) rfl

theorem valueRead_obj {fields : List (String × Json)}
    (hfields : ∀ depth,
      FieldsRead depth fields rest (readFields steps depth true ⟨text, offset + 1⟩)) :
    ValueRead depth (.obj fields) rest (readValue (steps + 1) depth ⟨'{' :: text, offset⟩) := by
  cases depth with
  | zero =>
    have hvalue : readValue (steps + 1) 0 ⟨'{' :: text, offset⟩ =
      (.broken (faultAhead .tooDeep ⟨'{' :: text, offset⟩), none) := rfl
    rw [hvalue]
    exact .tooDeep (by simp [Json.depth]) rfl
  | succ depth =>
    have hvalue : readValue (steps + 1) (depth + 1) ⟨'{' :: text, offset⟩ =
      (.object offset (readFields steps depth true ⟨text, offset + 1⟩).1
        ((readFields steps depth true ⟨text, offset + 1⟩).2.map Cursor.offset),
        (readFields steps depth true ⟨text, offset + 1⟩).2.toOption) := rfl
    specialize hfields depth
    rw [hvalue]
    generalize readFields steps depth true ⟨text, offset + 1⟩ = outcome at hfields
    cases hfields with
    | found hdepth hvalues =>
      exact .found (Nat.succ_le_succ hdepth) rfl (congrArg Json.obj hvalues)
    | tooDeep hdepth => exact .tooDeep (Nat.succ_lt_succ hdepth) rfl

/-! ## Lists -/

/-- The first item from a place on and the items behind it. -/
def readItemAt (steps depth : Nat) (start : Cursor) : List Reading × Except Fault Cursor :=
  match readValue steps depth start with
  | (found, some after) =>
    let (items, close) := readItems steps depth false after
    (found :: items, close)
  | (found, none) => ([found], .error (found.fault?.getD (faultAt .noValue start)))

theorem readItems_atStart {cursor : Cursor} {c : Char}
    (hpeek : (skipBlanks cursor).peek = some c) (hc : c ≠ ']') :
    readItems (steps + 1) depth true cursor = readItemAt steps depth (skipBlanks cursor) := by
  unfold readItems
  simp only [hpeek, if_true]
  rfl

theorem readItems_comma {c : Char} (hpeek : (skipBlanks ⟨text, offset + 1⟩).peek = some c)
    (hc : c ≠ ']') :
    readItems (steps + 1) depth false ⟨',' :: text, offset⟩ =
      readItemAt steps depth (skipBlanks ⟨text, offset + 1⟩) := by
  have hcomma : skipBlanks ⟨',' :: text, offset⟩ = ⟨',' :: text, offset⟩ := skipBlanks_cons rfl
  have hnext : (Cursor.mk (',' :: text) offset).next = ⟨text, offset + 1⟩ := rfl
  unfold readItems
  simp only [hcomma, hnext, hpeek]
  rfl

theorem itemsRead_cons {item : Json} {items : List Json} {more : List Char} {start : Cursor}
    (hitem : ValueRead depth item more (readValue steps depth start))
    (hitems : ∀ stop, ItemsRead depth items rest (readItems steps depth false ⟨more, stop⟩)) :
    ItemsRead depth (item :: items) rest (readItemAt steps depth start) := by
  rw [readItemAt]
  generalize readValue steps depth start = outcome at hitem
  cases hitem with
  | @found reading stop hdepth hfault hvalue =>
    specialize hitems stop
    dsimp only
    generalize readItems steps depth false ⟨more, stop⟩ = others at hitems
    cases hitems with
    | found hothers hvalues =>
      apply ItemsRead.found
      · exact Nat.max_le.mpr ⟨hdepth, hothers⟩
      · rw [Reading.values, hvalue, hvalues]
    | tooDeep hothers =>
      apply ItemsRead.tooDeep
      exact Nat.lt_of_lt_of_le hothers (Nat.le_max_right item.depth _)
  | @tooDeep reading offset hdepth hfault =>
    simp only [hfault, Option.getD_some]
    apply ItemsRead.tooDeep
    exact Nat.lt_of_lt_of_le hdepth (Nat.le_max_left item.depth _)

/-! ## Objects -/

/-- The first field from a place on and the fields behind it. -/
def readFieldAt (steps depth : Nat) (start : Cursor) :
    List (String × Nat × Reading) × Except Fault Cursor :=
  match readString [] start.rest.length start.next with
  | .error fault => ([], .error fault)
  | .ok (name, afterName) =>
    let colon := skipBlanks afterName
    match colon.peek with
    | some ':' =>
      match readValue steps depth colon.next with
      | (found, some after) =>
        let (fields, close) := readFields steps depth false after
        ((name, afterName.offset, found) :: fields, close)
      | (found, none) =>
        ([(name, afterName.offset, found)], .error (found.fault?.getD (faultAt .noValue start)))
    | some _ =>
      let fault := faultAhead .missingColon colon
      ([(name, afterName.offset, .broken fault)], .error fault)
    | none =>
      let fault := faultAhead .endInObject colon
      ([(name, afterName.offset, .broken fault)], .error fault)

theorem readFields_atStart {cursor : Cursor} (hpeek : (skipBlanks cursor).peek = some '"') :
    readFields (steps + 1) depth true cursor = readFieldAt steps depth (skipBlanks cursor) := by
  unfold readFields
  simp only [hpeek, if_true]
  rfl

theorem readFields_comma (hpeek : (skipBlanks ⟨text, offset + 1⟩).peek = some '"') :
    readFields (steps + 1) depth false ⟨',' :: text, offset⟩ =
      readFieldAt steps depth (skipBlanks ⟨text, offset + 1⟩) := by
  have hcomma : skipBlanks ⟨',' :: text, offset⟩ = ⟨',' :: text, offset⟩ := skipBlanks_cons rfl
  have hnext : (Cursor.mk (',' :: text) offset).next = ⟨text, offset + 1⟩ := rfl
  unfold readFields
  simp only [hcomma, hnext, hpeek]
  rfl

theorem fieldsRead_cons {name : String} {value : Json} {fields : List (String × Json)}
    {more : List Char}
    (hvalue : ∀ start, ValueRead depth value more (readValue steps depth ⟨text, start⟩))
    (hfields : ∀ stop, FieldsRead depth fields rest (readFields steps depth false ⟨more, stop⟩)) :
    FieldsRead depth ((name, value) :: fields) rest
      (readFieldAt steps depth ⟨quoteBefore (':' :: text) name, offset⟩) := by
  obtain ⟨stop, hname⟩ :=
    readString_quoteBefore name (':' :: text) (Nat.le_refl _) (offset + 1)
  have hnext : (Cursor.mk (quoteBefore (':' :: text) name) offset).next =
      ⟨(quoteBefore (':' :: text) name).tail, offset + 1⟩ := rfl
  have hcolon : skipBlanks ⟨':' :: text, stop⟩ = ⟨':' :: text, stop⟩ := skipBlanks_cons rfl
  have hpeek : (Cursor.mk (':' :: text) stop).peek = some ':' := rfl
  have hafter : (Cursor.mk (':' :: text) stop).next = ⟨text, stop + 1⟩ := rfl
  specialize hvalue (stop + 1)
  rw [readFieldAt, hnext, hname]
  simp only [hcolon, hpeek, hafter]
  generalize readValue steps depth ⟨text, stop + 1⟩ = outcome at hvalue
  cases hvalue with
  | @found reading stop hdepth hfault hvalue =>
    specialize hfields stop
    dsimp only
    generalize readFields steps depth false ⟨more, stop⟩ = others at hfields
    cases hfields with
    | found hothers hvalues =>
      apply FieldsRead.found
      · exact Nat.max_le.mpr ⟨hdepth, hothers⟩
      · rw [Reading.fieldValues, hvalue, hvalues]
    | tooDeep hothers =>
      apply FieldsRead.tooDeep
      exact Nat.lt_of_lt_of_le hothers (Nat.le_max_right value.depth _)
  | @tooDeep reading offset hdepth hfault =>
    simp only [hfault, Option.getD_some]
    apply FieldsRead.tooDeep
    exact Nat.lt_of_lt_of_le hdepth (Nat.le_max_left value.depth _)

/-! ## Parts -/

/-- A part that is spelled at the start of a text is read, given steps for each character. -/
theorem Spells.readFrom {part : Part} (h : Spells text part rest) :
    ∀ steps, part.steps text ≤ steps → ∀ depth offset,
      part.ReadFrom (steps + 1) depth ⟨text, offset⟩ rest := by
  induction h with
  | @gap c text rest part hgap hpart ih =>
    intro steps hsteps depth offset
    have hpart : part.steps text ≤ steps := by
      cases part <;> simp only [Part.steps, List.length_cons] at hsteps ⊢ <;> omega
    exact Part.readFrom_gap hgap (ih steps hpart depth _)
  | null rest => exact fun _ _ _ _ => valueRead_leaf rfl
  | trueWord rest => exact fun _ _ _ _ => valueRead_leaf rfl
  | falseWord rest => exact fun _ _ _ _ => valueRead_leaf rfl
  | nat hn hrest => exact fun _ _ _ _ => valueRead_nat hn hrest
  | str text rest => exact fun _ _ _ _ => valueRead_str text
  | arr hitems ih =>
    intro steps hsteps depth offset
    rw [Part.steps, List.length_cons] at hsteps
    obtain ⟨steps, rfl⟩ := Nat.exists_eq_add_one_of_ne_zero (n := steps) (by omega)
    have hbelow := ih steps (Nat.le_of_succ_le_succ hsteps)
    exact valueRead_arr fun depth => hbelow depth _
  | obj hfields ih =>
    intro steps hsteps depth offset
    rw [Part.steps, List.length_cons] at hsteps
    obtain ⟨steps, rfl⟩ := Nat.exists_eq_add_one_of_ne_zero (n := steps) (by omega)
    have hbelow := ih steps (Nat.le_of_succ_le_succ hsteps)
    exact valueRead_obj fun depth => hbelow depth _
  | closeList atStart rest =>
    exact fun _ _ _ _ => .found (Nat.zero_le _) rfl
  | @item text more rest item items hitem hitems ihitem ihitems =>
    intro steps hsteps depth offset
    rw [Part.steps] at hsteps
    obtain ⟨steps, rfl⟩ := Nat.exists_eq_add_one_of_ne_zero (n := steps) (by omega)
    obtain ⟨c, hpeek, hc⟩ := hitem.opensWith offset
    have hmore : (Part.items false items).steps more ≤ steps := by
      have := hitem.length_lt
      rw [Part.steps]
      omega
    rw [Part.ReadFrom, readItems_atStart hpeek hc]
    refine itemsRead_cons ?_ (ihitems steps hmore depth)
    rw [readValue_congr (skipBlanks_skipBlanks _)]
    exact ihitem steps (Nat.le_of_succ_le_succ hsteps) depth offset
  | @nextItem text rest item items hitems ih =>
    intro steps hsteps depth offset
    obtain ⟨c, hpeek, hc⟩ := hitems.opensWith (offset + 1)
    have hbelow : 2 * text.length + 1 ≤ steps := by
      rw [Part.steps, List.length_cons] at hsteps
      omega
    have hread := ih steps hbelow depth (offset + 1)
    rw [Part.ReadFrom] at hread ⊢
    rw [readItems_comma hpeek hc]
    rwa [readItems_atStart hpeek hc] at hread
  | closeObject atStart rest =>
    exact fun _ _ _ _ => .found (Nat.zero_le _) rfl
  | @field text more rest name value fields hvalue hfields ihvalue ihfields =>
    intro steps hsteps depth offset
    have hlength : text.length + 3 ≤ (quoteBefore (':' :: text) name).length := by
      simp [quoteBefore]
    have hrest := hvalue.length_lt
    rw [Part.steps] at hsteps
    obtain ⟨steps, rfl⟩ := Nat.exists_eq_add_one_of_ne_zero (n := steps) (by omega)
    have hskip : skipBlanks ⟨quoteBefore (':' :: text) name, offset⟩ =
        ⟨quoteBefore (':' :: text) name, offset⟩ := skipBlanks_cons rfl
    rw [Part.ReadFrom, readFields_atStart (by rw [hskip]; rfl), hskip]
    refine fieldsRead_cons (ihvalue steps ?_ depth) (ihfields steps ?_ depth)
    · rw [Part.steps]
      omega
    · rw [Part.steps]
      omega
  | @nextField text rest field fields hfields ih =>
    intro steps hsteps depth offset
    obtain ⟨c, hpeek, rfl⟩ := hfields.opensWith (offset + 1)
    have hbelow : 2 * text.length + 1 ≤ steps := by
      rw [Part.steps, List.length_cons] at hsteps
      omega
    have hread := ih steps hbelow depth (offset + 1)
    rw [Part.ReadFrom] at hread ⊢
    rw [readFields_comma hpeek]
    rwa [readFields_atStart hpeek] at hread

/-! ## Documents -/

/-- A text that spells nothing but a value of at most `depthLimit` levels is a document of that
value, and one of more levels breaks where it nests too deep. -/
theorem readDocument_of_spells {document : String} {value : Json}
    (h : Spells document.toList (.value value) []) :
    (value.depth ≤ depthLimit ∧ (readDocument document).root.fault? = none ∧
        (readDocument document).root.value = value ∧ (readDocument document).excess = none) ∨
      (depthLimit < value.depth ∧
        ∃ offset, (readDocument document).root.fault? = some ⟨.tooDeep, offset⟩) := by
  have hread := h.readFrom (2 * document.toList.length + 1) (Nat.le_succ _) depthLimit 0
  rw [Part.ReadFrom] at hread
  unfold readDocument
  dsimp only
  generalize readValue _ _ _ = outcome at hread ⊢
  cases hread with
  | found hdepth hfault hvalue => exact .inl ⟨hdepth, hfault, hvalue, rfl⟩
  | tooDeep hdepth hfault => exact .inr ⟨hdepth, _, hfault⟩

/-! ## Blank texts -/

theorem isDigit_blank {c : Char} (hblank : Text.isBlank c) : c.isDigit = false := by
  have hzero : '0'.toNat = 48 := rfl
  have hnine : '9'.toNat = 57 := rfl
  rw [← Bool.not_eq_true, Char.isDigit_iff_toNat]
  simp only [Text.isBlank, Text.inRanges, Text.blankRanges, List.any_cons, List.any_nil,
    Bool.or_eq_true, Bool.and_eq_true, decide_eq_true_eq, Bool.false_eq_true, or_false] at hblank
  omega

/-- No value starts with a blank character that may not stand between parts. -/
theorem readValue_blank {c : Char} (hblank : Text.isBlank c) (hgap : isGap c = false) :
    ∃ fault, readValue (steps + 1) depth ⟨c :: text, offset⟩ = (.broken fault, none) := by
  have hother : ∀ d, Text.isBlank d = false → c ≠ d := by
    rintro d hd rfl
    exact absurd hblank (by simp [hd])
  unfold readValue
  simp only [skipBlanks_cons hgap, Cursor.peek, List.head?_cons]
  split
  case h_1 hend => cases hend
  case h_9 d hc =>
    cases hc
    simp [isDigit_blank hblank]
  all_goals
    rename_i hc
    exact absurd (Option.some.inj hc) (hother _ (by decide))

theorem readValue_blanks (hblank : ∀ c ∈ text, Text.isBlank c) (offset : Nat) :
    ∃ fault, readValue (steps + 1) depth ⟨text, offset⟩ = (.broken fault, none) := by
  induction text generalizing offset with
  | nil => exact ⟨_, rfl⟩
  | cons c rest ih =>
    rw [List.forall_mem_cons] at hblank
    cases hgap : isGap c with
    | false => exact readValue_blank hblank.1 hgap
    | true =>
      rw [readValue_congr (skipBlanks_cons_gap hgap)]
      exact ih hblank.2 _

/-- A blank text is no document. -/
theorem parse_blank {document : String} (hblank : Text.isBlankText document) :
    ∃ fault, parse document = .error fault := by
  obtain ⟨fault, hread⟩ : ∃ fault,
      readValue (2 * document.toList.length + 2) depthLimit ⟨document.toList, 0⟩ =
        (.broken fault, none) :=
    readValue_blanks (List.all_eq_true.mp hblank) 0
  exact ⟨fault, by simp only [parse, readDocument, hread, Reading.fault?]⟩

end SqlLineage.Json
