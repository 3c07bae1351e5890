import SqlLineage.Json.Printer
import SqlLineage.Proofs.Json.Regular

/-!
# Spellings of values

How a text spells a value, whatever blanks stand between its parts.  Both ways of writing a regular
value spell it.
-/

namespace SqlLineage.Json

/-- What a stretch of text stands for: a value, or what is left of a list or an object up to and
with its bracket. -/
inductive Part where
  | value (value : Json)
  | items (atStart : Bool) (items : List Json)
  | fields (atStart : Bool) (fields : List (String × Json))

/-- The characters that may stand between parts. -/
def isGap (c : Char) : Bool :=
  c = ' ' || c = '\n' || c = '\t' || c = '\r'

/-- Whether the digits of a number end where this text starts. -/
def EndsNumber (rest : List Char) : Prop :=
  ∀ c ∈ rest.head?, c.isDigit = false ∧ c ≠ '.' ∧ c ≠ 'e' ∧ c ≠ 'E'

/-- `Spells text part rest`: a part is spelled at the start of a text, and `rest` stands behind
it. -/
inductive Spells : List Char → Part → List Char → Prop where
  | gap {c : Char} {text rest : List Char} {part : Part} (hgap : isGap c)
      (hpart : Spells text part rest) : Spells (c :: text) part rest
  | null (rest : List Char) : Spells ("null".toList ++ rest) (.value .null) rest
  | trueWord (rest : List Char) : Spells ("true".toList ++ rest) (.value (.bool true)) rest
  | falseWord (rest : List Char) : Spells ("false".toList ++ rest) (.value (.bool false)) rest
  | nat {n : Nat} {rest : List Char} (hn : n < UInt64.size) (hrest : EndsNumber rest) :
      Spells (Nat.toDigits 10 n ++ rest) (.value (.nat n)) rest
  | str (text : String) (rest : List Char) :
      Spells (quoteBefore rest text) (.value (.str text)) rest
  | arr {text rest : List Char} {items : List Json}
      (hitems : Spells text (.items true items) rest) :
      Spells ('[' :: text) (.value (.arr items)) rest
  | obj {text rest : List Char} {fields : List (String × Json)}
      (hfields : Spells text (.fields true fields) rest) :
      Spells ('{' :: text) (.value (.obj fields)) rest
  | closeList (atStart : Bool) (rest : List Char) : Spells (']' :: rest) (.items atStart []) rest
  | item {text more rest : List Char} {item : Json} {items : List Json}
      (hitem : Spells text (.value item) more) (hitems : Spells more (.items false items) rest) :
      Spells text (.items true (item :: items)) rest
  | nextItem {text rest : List Char} {item : Json} {items : List Json}
      (hitems : Spells text (.items true (item :: items)) rest) :
      Spells (',' :: text) (.items false (item :: items)) rest
  | closeObject (atStart : Bool) (rest : List Char) :
      Spells ('}' :: rest) (.fields atStart []) rest
  | field {text more rest : List Char} {name : String} {value : Json}
      {fields : List (String × Json)} (hvalue : Spells text (.value value) more)
      (hfields : Spells more (.fields false fields) rest) :
      Spells (quoteBefore (':' :: text) name) (.fields true ((name, value) :: fields)) rest
  | nextField {text rest : List Char} {field : String × Json} {fields : List (String × Json)}
      (hfields : Spells text (.fields true (field :: fields)) rest) :
      Spells (',' :: text) (.fields false (field :: fields)) rest

theorem Spells.gaps {gaps text rest : List Char} {part : Part} (hgaps : ∀ c ∈ gaps, isGap c)
    (hpart : Spells text part rest) : Spells (gaps ++ text) part rest := by
  induction gaps with
  | nil => exact hpart
  | cons c more ih =>
    rw [List.forall_mem_cons] at hgaps
    exact .gap hgaps.1 (ih hgaps.2)

/-- A text that spells a list has an opening bracket. -/
theorem Spells.bracket_mem {text rest : List Char} {items : List Json}
    (h : Spells text (.value (.arr items)) rest) : '[' ∈ text := by
  generalize hpart : Part.value (.arr items) = part at h
  induction h with
  | gap _ _ ih => exact List.mem_cons_of_mem _ (ih hpart)
  | arr _ => exact List.mem_cons_self
  | _ => cases hpart

theorem endsNumber_nil : EndsNumber [] := by simp [EndsNumber]

theorem endsNumber_cons {c : Char} (hc : c ∈ [',', ']', '}', '\n']) (rest : List Char) :
    EndsNumber (c :: rest) := by
  simp only [List.mem_cons, List.not_mem_nil, or_false] at hc
  rcases hc with rfl | rfl | rfl | rfl <;> simp [EndsNumber]

theorem numberText_nat (n : Nat) : numberText (.int n) = Nat.toDigits 10 n := by
  rw [numberText, show toString (n : Int) = Nat.repr n from rfl, Nat.repr_eq_ofList_toDigits,
    String.toList_ofList]

/-! ## Compact texts -/

section Compact

variable {close rest : List Char}

theorem spells_compactItems (hends : EndsNumber close)
    (hclose : ∀ atStart, Spells close (.items atStart []) rest) {items : List Json}
    (hitems : ∀ item ∈ items, ∀ more, EndsNumber more →
      Spells (compactBefore more item) (.value item) more) :
    Spells (compactItems close items) (.items true items) rest := by
  induction items with
  | nil => exact hclose true
  | cons item others ih =>
    rw [List.forall_mem_cons] at hitems
    cases others with
    | nil => exact .item (hitems.1 close hends) (hclose false)
    | cons next others =>
      exact .item (hitems.1 _ (endsNumber_cons (by simp) _)) (.nextItem (ih hitems.2))

theorem spells_compactFields (hends : EndsNumber close)
    (hclose : ∀ atStart, Spells close (.fields atStart []) rest) {fields : List (String × Json)}
    (hfields : ∀ field ∈ fields, ∀ more, EndsNumber more →
      Spells (compactBefore more field.2) (.value field.2) more) :
    Spells (compactFields close fields) (.fields true fields) rest := by
  induction fields with
  | nil => exact hclose true
  | cons field others ih =>
    obtain ⟨name, value⟩ := field
    rw [List.forall_mem_cons] at hfields
    cases others with
    | nil => exact .field (hfields.1 close hends) (hclose false)
    | cons next others =>
      exact .field (hfields.1 _ (endsNumber_cons (by simp) _)) (.nextField (ih hfields.2))

theorem spells_compactBefore {value : Json} (hregular : Regular value) :
    ∀ rest, EndsNumber rest → Spells (compactBefore rest value) (.value value) rest := by
  induction hregular with
  | null => exact fun rest _ => .null rest
  | bool value =>
    cases value with
    | false => exact fun rest _ => .falseWord rest
    | true => exact fun rest _ => .trueWord rest
  | nat hn =>
    intro rest hrest
    change Spells (numberText _ ++ rest) _ _
    rw [numberText_nat]
    exact .nat hn hrest
  | str text => exact fun rest _ => .str text rest
  | arr hitems ih =>
    intro rest _
    have hends : EndsNumber (']' :: rest) := endsNumber_cons (by simp) rest
    exact .arr (spells_compactItems hends (.closeList · rest) ih)
  | obj hnames hvalues ih =>
    intro rest _
    have hends : EndsNumber ('}' :: rest) := endsNumber_cons (by simp) rest
    exact .obj (spells_compactFields hends (.closeObject · rest) ih)

/-- The compact text of a regular value spells it. -/
theorem spells_render {value : Json} (hregular : Regular value) :
    Spells value.render.toList (.value value) [] := by
  rw [render, String.toList_ofList]
  exact spells_compactBefore hregular [] endsNumber_nil

end Compact

/-! ## Indented texts -/

section Indented

variable {close rest text : List Char}

theorem spells_newLineBefore {part : Part} (depth : Nat) (hpart : Spells text part rest) :
    Spells (newLineBefore depth text) part rest := by
  refine .gap rfl (hpart.gaps fun c hc => ?_)
  rw [List.eq_of_mem_replicate hc]
  rfl

theorem spells_indentedItems (hends : EndsNumber close)
    (hclose : Spells close (.items false []) rest) {items : List Json} (depth : Nat)
    (hitems : ∀ item ∈ items, ∀ depth more, EndsNumber more →
      Spells (indentedBefore depth more item) (.value item) more) (hne : items ≠ []) :
    Spells (indentedItems depth close items) (.items true items) rest := by
  induction items with
  | nil => exact absurd rfl hne
  | cons item others ih =>
    rw [List.forall_mem_cons] at hitems
    cases others with
    | nil => exact spells_newLineBefore depth (.item (hitems.1 depth close hends) hclose)
    | cons next others =>
      have hothers := ih hitems.2 (List.cons_ne_nil _ _)
      exact spells_newLineBefore depth
        (.item (hitems.1 depth _ (endsNumber_cons (by simp) _)) (.nextItem hothers))

theorem spells_indentedFields (hends : EndsNumber close)
    (hclose : Spells close (.fields false []) rest) {fields : List (String × Json)} (depth : Nat)
    (hfields : ∀ field ∈ fields, ∀ depth more, EndsNumber more →
      Spells (indentedBefore depth more field.2) (.value field.2) more) (hne : fields ≠ []) :
    Spells (indentedFields depth close fields) (.fields true fields) rest := by
  induction fields with
  | nil => exact absurd rfl hne
  | cons field others ih =>
    obtain ⟨name, value⟩ := field
    rw [List.forall_mem_cons] at hfields
    cases others with
    | nil =>
      exact spells_newLineBefore depth
        (.field (.gap rfl (hfields.1 depth close hends)) hclose)
    | cons next others =>
      have hothers := ih hfields.2 (List.cons_ne_nil _ _)
      exact spells_newLineBefore depth
        (.field (.gap rfl (hfields.1 depth _ (endsNumber_cons (by simp) _))) (.nextField hothers))

theorem spells_indentedBefore {value : Json} (hregular : Regular value) :
    ∀ depth rest, EndsNumber rest →
      Spells (indentedBefore depth rest value) (.value value) rest := by
  induction hregular with
  | null => exact fun _ => spells_compactBefore .null
  | bool value => exact fun _ => spells_compactBefore (.bool value)
  | nat hn => exact fun _ => spells_compactBefore (.nat hn)
  | str text => exact fun _ => spells_compactBefore (.str text)
  | @arr items hitems ih =>
    intro depth rest _
    have hends : EndsNumber (newLineBefore depth (']' :: rest)) := endsNumber_cons (by simp) _
    cases items with
    | nil => exact .arr (.closeList true rest)
    | cons item others =>
      exact .arr (spells_indentedItems hends (spells_newLineBefore depth (.closeList false rest))
        (depth + 1) ih (List.cons_ne_nil _ _))
  | @obj fields hnames hvalues ih =>
    intro depth rest _
    have hends : EndsNumber (newLineBefore depth ('}' :: rest)) := endsNumber_cons (by simp) _
    cases fields with
    | nil => exact .obj (.closeObject true rest)
    | cons field others =>
      exact .obj (spells_indentedFields hends (spells_newLineBefore depth (.closeObject false rest))
        (depth + 1) ih (List.cons_ne_nil _ _))

/-- The indented text of a regular value spells it. -/
theorem spells_renderIndented {value : Json} (hregular : Regular value) :
    Spells value.renderIndented.toList (.value value) [] := by
  rw [renderIndented, String.toList_ofList]
  exact spells_indentedBefore hregular 0 [] endsNumber_nil

end Indented

end SqlLineage.Json
