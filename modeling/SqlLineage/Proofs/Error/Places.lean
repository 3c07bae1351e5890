import SqlLineage.Error
import SqlLineage.Proofs.Text.Spans

/-!
# Places in the messages of a parser

A parser ends its message with the place where it stopped.  In front of that the message repeats a
piece of the script, which may spell a place as well.  The scanner takes the first place that it
finds.  So it finds the one at the end exactly if the message spells no place before, or spells the
same numbers there.
-/

namespace SqlLineage

namespace ParseError

open Text (Stops takeWhile_dropWhile_iff)

/-! ## What spells a place -/

/-- A text of blanks, or none. -/
def IsGap (text : List Char) : Prop :=
  ∀ c ∈ text, Text.isBlank c

/-- One or more decimal digits. -/
def IsNumeral (text : List Char) : Prop :=
  text ≠ [] ∧ ∀ c ∈ text, Text.isDecimal c

/-- The words for a line and a column, each with its number and a comma between them.  Blanks may
stand around the numbers and the comma. -/
inductive SpellsPlace (line column : List Char) : List Char → Prop where
  | intro {first second third fourth : List Char} (hline : IsNumeral line)
      (hcolumn : IsNumeral column) (hfirst : IsGap first) (hsecond : IsGap second)
      (hthird : IsGap third) (hfourth : IsGap fourth) :
      SpellsPlace line column ("Line:".toList ++ (first ++ (line ++ (second ++ ([','] ++
        (third ++ ("Column:".toList ++ (fourth ++ column))))))))

/-- A text begins with a place; its column goes on as long as there are digits. -/
def OpensWith (line column text : List Char) : Prop :=
  ∃ place rest, text = place ++ rest ∧ SpellsPlace line column place ∧ Stops Text.isDecimal rest

/-- The first place in a text. -/
inductive FirstPlace (line column : List Char) : List Char → Prop where
  | here {text : List Char} (hopens : OpensWith line column text) : FirstPlace line column text
  | later {c : Char} {rest : List Char}
      (hnone : ∀ other another, ¬ OpensWith other another (c :: rest))
      (hrest : FirstPlace line column rest) : FirstPlace line column (c :: rest)

/-! ## The scanners of a place -/

theorem afterText?_eq_some_iff {part text rest : List Char} :
    afterText? part text = some rest ↔ text = part ++ rest := by
  induction part generalizing text with
  | nil => rw [afterText?, Option.some_inj, List.nil_append]
  | cons c part ih =>
    cases text with
    | nil => simp [afterText?]
    | cons d text =>
      rw [afterText?, List.cons_append, List.cons_eq_cons, ← ih]
      by_cases hc : c = d
      · simp [hc]
      · simp [hc, Ne.symm hc]

theorem digits?_eq_some_iff {text digits rest : List Char} :
    digits? text = some (digits, rest) ↔
      text = digits ++ rest ∧ IsNumeral digits ∧ Stops Text.isDecimal rest := by
  have hspan : text.takeWhile Text.isDecimal = digits ∧ text.dropWhile Text.isDecimal = rest ↔
      text = digits ++ rest ∧ (∀ c ∈ digits, Text.isDecimal c) ∧ Stops Text.isDecimal rest :=
    takeWhile_dropWhile_iff
  rw [digits?, IsNumeral, and_assoc, and_left_comm, ← hspan]
  split
  · rename_i hempty
    simp only [reduceCtorEq, false_iff, not_and]
    rintro hne rfl
    exact absurd (List.isEmpty_iff.mp hempty) hne
  · rename_i hdigits
    rw [Option.some_inj, Prod.mk.injEq]
    constructor
    · rintro ⟨rfl, rfl⟩
      exact ⟨fun hnil => hdigits (List.isEmpty_iff.mpr hnil), rfl, rfl⟩
    · exact And.right

/-- What is left behind blanks, with the blanks in front again. -/
theorem eq_gap_append {text rest : List Char} (hdrop : text.dropWhile Text.isBlank = rest) :
    ∃ gap, IsGap gap ∧ text = gap ++ rest := by
  obtain ⟨htext, hgap, -⟩ := takeWhile_dropWhile_iff.mp ⟨rfl, hdrop⟩
  exact ⟨_, hgap, htext⟩

theorem IsGap.dropWhile_append {gap rest : List Char} (hgap : IsGap gap)
    (hrest : Stops Text.isBlank rest) : (gap ++ rest).dropWhile Text.isBlank = rest :=
  (takeWhile_dropWhile_iff.mpr ⟨rfl, hgap, hrest⟩).2

theorem IsNumeral.stops_isBlank {digits : List Char} (hdigits : IsNumeral digits)
    (rest : List Char) : Stops Text.isBlank (digits ++ rest) := by
  obtain ⟨hne, hdecimal⟩ := hdigits
  cases digits with
  | nil => exact absurd rfl hne
  | cons first more =>
    rintro c ⟨⟩
    exact Text.isBlank_eq_false_of_isDecimal (hdecimal first List.mem_cons_self)

theorem IsGap.stops_isDecimal {gap rest : List Char} (hgap : IsGap gap)
    (hrest : Stops Text.isDecimal rest) : Stops Text.isDecimal (gap ++ rest) := by
  cases gap with
  | nil => exact hrest
  | cons first more =>
    rintro c ⟨⟩
    by_contra hdecimal
    rw [Bool.not_eq_false] at hdecimal
    have hblank : Text.isBlank first := hgap first List.mem_cons_self
    rw [Text.isBlank_eq_false_of_isDecimal hdecimal] at hblank
    cases hblank

/-- The scanner of one place finds exactly what is spelled at the start of a text. -/
theorem placeAt?_eq_some_iff {text line column : List Char} :
    placeAt? text = some (line, column) ↔ OpensWith line column text := by
  simp only [placeAt?, Option.bind_eq_bind, Option.bind_eq_some_iff, Prod.exists,
    afterText?_eq_some_iff, digits?_eq_some_iff, Option.pure_def, Option.some_inj, Prod.mk.injEq]
  constructor
  · rintro ⟨_, rfl, _, _, ⟨hline, hlineDigits, -⟩, _, hcomma, _, hword, _, rest,
      ⟨hcolumn, hcolumnDigits, hrest⟩, rfl, rfl⟩
    obtain ⟨first, hfirst, rfl⟩ := eq_gap_append hline
    obtain ⟨second, hsecond, rfl⟩ := eq_gap_append hcomma
    obtain ⟨third, hthird, rfl⟩ := eq_gap_append hword
    obtain ⟨fourth, hfourth, rfl⟩ := eq_gap_append hcolumn
    exact ⟨_, rest, by simp, .intro hlineDigits hcolumnDigits hfirst hsecond hthird hfourth, hrest⟩
  · rintro ⟨_, rest, rfl, ⟨hline, hcolumn, hfirst, hsecond, hthird, hfourth⟩, hrest⟩
    have hcommaBlank : ∀ rest, Stops Text.isBlank ([','] ++ rest) := by rintro rest c ⟨⟩; decide
    have hcommaDecimal : ∀ rest, Stops Text.isDecimal ([','] ++ rest) := by
      rintro rest c ⟨⟩
      decide
    have hword : ∀ rest, Stops Text.isBlank ("Column:".toList ++ rest) := by
      rintro rest c ⟨⟩
      decide
    simp only [List.append_assoc]
    exact ⟨_, rfl, line, _, ⟨hfirst.dropWhile_append (hline.stops_isBlank _), hline,
        hsecond.stops_isDecimal (hcommaDecimal _)⟩,
      _, hsecond.dropWhile_append (hcommaBlank _), _, hthird.dropWhile_append (hword _), column,
      rest, ⟨hfourth.dropWhile_append (hcolumn.stops_isBlank _), hcolumn, hrest⟩, rfl, rfl⟩

/-- The search finds exactly the first place. -/
theorem place?_eq_some_iff {text line column : List Char} :
    place? text = some (line, column) ↔ FirstPlace line column text := by
  induction text with
  | nil =>
    refine iff_of_false (by simp [place?]) ?_
    rintro ⟨place, rest, hnil, ⟨⟩, -⟩
    simp at hnil
  | cons c rest ih =>
    rw [place?]
    cases hplace : placeAt? (c :: rest) with
    | none =>
      have hnone : ∀ other another, ¬ OpensWith other another (c :: rest) := by
        intro other another hopens
        rw [placeAt?_eq_some_iff.mpr hopens] at hplace
        cases hplace
      rw [ih]
      refine ⟨.later hnone, ?_⟩
      rintro (hopens | ⟨-, hrest⟩)
      · exact absurd hopens (hnone line column)
      · exact hrest
    | some found =>
      obtain ⟨other, another⟩ := found
      have hopens := placeAt?_eq_some_iff.mp hplace
      constructor
      · rintro ⟨⟩
        exact .here hopens
      · rintro (hhere | ⟨hnone, -⟩)
        · rw [← placeAt?_eq_some_iff, hplace] at hhere
          exact hhere
        · exact absurd hopens (hnone other another)

/-! ## A place behind a text -/

theorem SpellsPlace.not_mem {line column place : List Char}
    (hspells : SpellsPlace line column place) : 'a' ∉ place := by
  obtain ⟨hline, hcolumn, hfirst, hsecond, hthird, hfourth⟩ := hspells
  have hgap : ∀ gap, IsGap gap → 'a' ∉ gap := fun gap hgap hmem =>
    absurd (hgap 'a' hmem) (by decide)
  have hnumeral : ∀ digits, IsNumeral digits → 'a' ∉ digits := fun digits hdigits hmem =>
    absurd (hdigits.2 'a' hmem) (by decide)
  simp only [List.mem_append, not_or]
  exact ⟨by decide, hgap _ hfirst, hnumeral _ hline, hgap _ hsecond, by decide, hgap _ hthird,
    by decide, hgap _ hfourth, hnumeral _ hcolumn⟩

theorem SpellsPlace.isDecimal_getLast {line column place : List Char}
    (hspells : SpellsPlace line column place) : ∀ c ∈ place.getLast?, Text.isDecimal c := by
  obtain ⟨-, ⟨hcolumn, hdecimal⟩, -, -, -, -⟩ := hspells
  have hlast := List.getLast?_eq_some_getLast hcolumn
  rintro c hc
  simp only [List.getLast?_append, hlast, Option.some_or, Option.mem_some] at hc
  exact hdecimal c (hc ▸ List.getLast_mem hcolumn)

/-- No place goes on behind a blank and the letter that the end of a message begins with. -/
theorem opensWith_append_iff {line column rest : List Char} (text : List Char) :
    OpensWith line column (text ++ ' ' :: 'a' :: rest) ↔ OpensWith line column text := by
  have hblank : Text.isDecimal ' ' = false := by decide
  constructor
  · rintro ⟨place, after, heq, hspells, hafter⟩
    obtain ⟨more, hplace, hmore⟩ | ⟨more, rfl, rfl⟩ := List.append_eq_append_iff.mp heq
    · match more with
      | [] => exact ⟨text, [], by simp, by rwa [hplace, List.append_nil] at hspells, nofun⟩
      | [c] =>
        have hdecimal : Text.isDecimal c := hspells.isDecimal_getLast c (by simp [hplace])
        have hc : ' ' = c := (List.cons.inj hmore).1
        rw [← hc, hblank] at hdecimal
        cases hdecimal
      | c :: d :: more =>
        have hd : 'a' = d := (List.cons.inj (List.cons.inj hmore).2).1
        refine absurd ?_ hspells.not_mem
        simp [hplace, ← hd]
    · refine ⟨place, more, rfl, hspells, fun c hc => hafter c ?_⟩
      cases more with
      | nil => cases hc
      | cons => exact hc
  · rintro ⟨place, after, rfl, hspells, hafter⟩
    refine ⟨place, after ++ ' ' :: 'a' :: rest, by simp, hspells, ?_⟩
    cases after with
    | nil => rintro c ⟨⟩; exact hblank
    | cons => exact hafter

theorem place?_cons_of_ne {c : Char} (hc : c ≠ 'L') (rest : List Char) :
    place? (c :: rest) = place? rest := by
  have hplace : placeAt? (c :: rest) = none := by
    rw [Option.eq_none_iff_forall_not_mem]
    rintro ⟨line, column⟩ hfound
    obtain ⟨_, after, heq, ⟨-, -, -, -, -, -⟩, -⟩ := placeAt?_eq_some_iff.mp hfound
    exact hc (List.cons.inj heq).1
  rw [place?, hplace]

theorem place?_append_of_not_mem {before : List Char} (hbefore : 'L' ∉ before)
    (text : List Char) : place? (before ++ text) = place? text := by
  induction before with
  | nil => rfl
  | cons c before ih =>
    rw [List.mem_cons, not_or] at hbefore
    rw [List.cons_append, place?_cons_of_ne (Ne.symm hbefore.1), ih hbefore.2]

/-- The first place of a message is that of the text in it, or else the one at its end. -/
theorem place?_append (text rest : List Char) :
    place? (text ++ ' ' :: 'a' :: rest) = (place? text).or (place? (' ' :: 'a' :: rest)) := by
  induction text with
  | nil => rfl
  | cons c text ih =>
    have hplace : placeAt? (c :: (text ++ ' ' :: 'a' :: rest)) = placeAt? (c :: text) := by
      apply Option.ext
      rintro ⟨line, column⟩
      rw [placeAt?_eq_some_iff, placeAt?_eq_some_iff]
      exact opensWith_append_iff (c :: text)
    rw [List.cons_append, place?, place?, hplace, ih]
    cases placeAt? (c :: text) <;> rfl

/-! ## The place of a parse error -/

/-- A number is read from ASCII digits only, and only if it fits in 64 bits. -/
theorem number?_eq_some_iff {digits : List Char} {n : Nat} :
    number? digits = some n ↔
      (∀ c ∈ digits, c.isDigit) ∧ Nat.ofDigitChars 10 digits 0 = n ∧ n < UInt64.size := by
  have hvalue : digits.foldl (fun value c => 10 * value + (c.toNat - '0'.toNat)) 0 =
      Nat.ofDigitChars 10 digits 0 := rfl
  rw [number?, hvalue, ← List.all_eq_true]
  split
  · rename_i hdigits
    rw [and_iff_right hdigits]
    dsimp only
    split
    · rename_i hfits
      rw [Option.some_inj]
      exact ⟨fun heq => ⟨heq, heq ▸ hfits⟩, And.left⟩
    · rename_i hlarge
      refine iff_of_false nofun ?_
      rintro ⟨rfl, hfits⟩
      exact hlarge hfits
  · rename_i hdigits
    exact iff_of_false nofun fun h => hdigits h.1

theorem number?_toDigits {n : Nat} (hn : n < UInt64.size) :
    number? (Nat.toDigits 10 n) = some n :=
  number?_eq_some_iff.mpr ⟨fun _ hc => Nat.isDigit_of_mem_toDigits (by decide) (by decide) hc,
    Nat.ofDigitChars_ten_toDigits, hn⟩

theorem isNumeral_toDigits (n : Nat) : IsNumeral (Nat.toDigits 10 n) :=
  ⟨Nat.toDigits_ne_nil, fun _ hc =>
    Text.isDecimal_of_isDigit (Nat.isDigit_of_mem_toDigits (by decide) (by decide) hc)⟩

theorem toList_suffix (line column : Nat) :
    (Sql.Position.suffix ⟨line, column⟩).toList =
      ' ' :: 'a' :: (['t', ' '] ++ ("Line:".toList ++ ([' '] ++ (Nat.toDigits 10 line ++ ([] ++
        ([','] ++ ([' '] ++ ("Column:".toList ++ ([' '] ++ Nat.toDigits 10 column))))))))) := by
  change (" at Line: " ++ toString line ++ ", Column: " ++ toString column).toList = _
  simp

theorem place?_suffix (line column : Nat) :
    place? (Sql.Position.suffix ⟨line, column⟩).toList =
      some (Nat.toDigits 10 line, Nat.toDigits 10 column) := by
  have hblank : IsGap [' '] := by simp [IsGap]; decide
  rw [toList_suffix, place?_cons_of_ne (by decide), place?_cons_of_ne (by decide),
    place?_append_of_not_mem (by decide), place?_eq_some_iff]
  refine .here ⟨_, [], (List.append_nil _).symm, ?_, nofun⟩
  exact .intro (isNumeral_toDigits line) (isNumeral_toDigits column) hblank nofun hblank hblank

/-- The place that digits give, as far as the numbers fit. -/
def positionOf (place : List Char × List Char) : Option Sql.Position := do
  return ⟨← number? place.1, ← number? place.2⟩

theorem position_ofParser_eq (text : String) :
    (ofParser text).position = (place? ("sql parser error: " ++ text).toList).bind positionOf := rfl

/-- Where a text spells a place, the error is said to be there, as far as the numbers fit.
Otherwise it is where the parser stopped. -/
theorem position_ofParser (text : String) (line column : Nat) :
    (ofParser (text ++ Sql.Position.suffix ⟨line, column⟩)).position =
      ((place? text.toList).or (some (Nat.toDigits 10 line, Nat.toDigits 10 column))).bind
        positionOf := by
  rw [position_ofParser_eq, String.toList_append, String.toList_append,
    place?_append_of_not_mem (by decide), ← place?_suffix, toList_suffix, place?_append]

theorem position_ofParser_of_none {text : String} (hnone : place? text.toList = none)
    (line column : UInt64) :
    (ofParser (text ++ Sql.Position.suffix ⟨line.toNat, column.toNat⟩)).position =
      some ⟨line.toNat, column.toNat⟩ := by
  rw [position_ofParser, hnone, Option.none_or, Option.bind_some, positionOf,
    number?_toDigits line.toNat_lt, number?_toDigits column.toNat_lt]
  rfl

/-- The error is said to be where the parser stopped exactly if the text in front of that spells no
place, or the first one that it spells has the same numbers. -/
theorem position_ofParser_eq_iff (text : String) (line column : UInt64) :
    (ofParser (text ++ Sql.Position.suffix ⟨line.toNat, column.toNat⟩)).position =
        some ⟨line.toNat, column.toNat⟩ ↔
      ∀ lineDigits columnDigits, FirstPlace lineDigits columnDigits text.toList →
        number? lineDigits = some line.toNat ∧ number? columnDigits = some column.toNat := by
  simp only [← place?_eq_some_iff]
  cases hplace : place? text.toList with
  | none => exact iff_of_true (position_ofParser_of_none hplace line column) nofun
  | some place =>
    obtain ⟨lineDigits, columnDigits⟩ := place
    rw [position_ofParser, hplace, Option.some_or, Option.bind_some]
    simp [positionOf, Option.bind_eq_some_iff]

/-- A quoted token that looks like a place is taken for one. -/
theorem exists_position_misread : ∃ place : Sql.Position,
    (ofParser ("Expected: an SQL statement, found: 'Line: 9, Column: 9'" ++
      Sql.Position.suffix ⟨1, 1⟩)).position = some place ∧ place ≠ ⟨1, 1⟩ :=
  ⟨⟨9, 9⟩, by decide +kernel, by decide⟩

end ParseError

end SqlLineage
