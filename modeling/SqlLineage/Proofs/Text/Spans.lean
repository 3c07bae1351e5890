import Mathlib.Data.List.Basic
import Mathlib.Data.List.TakeWhile
import SqlLineage.Text.Blank
import SqlLineage.Text.Numeric

/-!
# Spans of a text

A scanner takes as many characters as have a property and goes on behind them.  Where the next
character does not have it, what was taken can be told from what follows.
-/

namespace SqlLineage.Text

/-! ## Spans -/

/-- A text does not start with a character that has the property. -/
def Stops (property : Char → Bool) (text : List Char) : Prop :=
  ∀ c ∈ text.head?, property c = false

/-- A text is what has the property at its start and what is left behind that. -/
theorem takeWhile_dropWhile_iff {property : Char → Bool} {text taken rest : List Char} :
    text.takeWhile property = taken ∧ text.dropWhile property = rest ↔
      text = taken ++ rest ∧ (∀ c ∈ taken, property c) ∧ Stops property rest := by
  constructor
  · rintro ⟨rfl, rfl⟩
    refine ⟨List.takeWhile_append_dropWhile.symm, fun c => List.mem_takeWhile_imp, ?_⟩
    intro c hc
    have hhead := List.head?_dropWhile_not property text
    rw [Option.mem_def.mp hc] at hhead
    simpa using hhead
  · rintro ⟨rfl, htaken, hrest⟩
    rw [List.takeWhile_append_of_pos htaken, List.dropWhile_append_of_pos htaken]
    cases rest with
    | nil => simp
    | cons c more => simp [hrest c rfl]

/-- Two texts that go as far as the property does, up to a character without it. -/
theorem append_cons_eq_iff {property : Char → Bool} {first second rest more : List Char}
    {c d : Char} (hfirst : ∀ x ∈ first, property x) (hsecond : ∀ x ∈ second, property x)
    (hc : property c = false) (hd : property d = false) :
    first ++ c :: rest = second ++ d :: more ↔ first = second ∧ c = d ∧ rest = more := by
  constructor
  · intro heq
    obtain ⟨htaken, hleft⟩ := takeWhile_dropWhile_iff.mpr
      ⟨rfl, hfirst, show Stops property (c :: rest) by rintro x ⟨⟩; exact hc⟩
    obtain ⟨htaken', hleft'⟩ := takeWhile_dropWhile_iff.mpr
      ⟨heq, hsecond, show Stops property (d :: more) by rintro x ⟨⟩; exact hd⟩
    exact ⟨htaken.symm.trans htaken', List.cons.inj (hleft.symm.trans hleft')⟩
  · rintro ⟨rfl, rfl, rfl⟩
    rfl

/-! ## Blanks and digits -/

theorem inRanges_eq_false {ranges : List (Nat × Nat)} {c : Char}
    (houtside : ∀ range ∈ ranges, c.toNat < range.1 ∨ range.2 < c.toNat) :
    inRanges ranges c = false := by
  rw [inRanges, List.any_eq_false]
  intro range hrange hinside
  rw [Bool.and_eq_true, decide_eq_true_eq, decide_eq_true_eq] at hinside
  have := houtside range hrange
  omega

/-- A character lies in one of two sets at most if no range of the one meets one of the other. -/
theorem inRanges_eq_false_of_disjoint {first second : List (Nat × Nat)} {c : Char}
    (hdisjoint : ∀ range ∈ first, ∀ other ∈ second, range.2 < other.1 ∨ other.2 < range.1)
    (hfirst : inRanges first c) : inRanges second c = false := by
  obtain ⟨range, hrange, hinside⟩ := List.any_eq_true.mp hfirst
  rw [Bool.and_eq_true, decide_eq_true_eq, decide_eq_true_eq] at hinside
  apply inRanges_eq_false
  intro other hother
  have := hdisjoint range hrange other hother
  omega

theorem isDecimal_of_isDigit {c : Char} (hdigit : c.isDigit) : isDecimal c := by
  have hascii := (Char.isDigit_iff_toNat.mp hdigit).2
  rw [isDecimal, if_pos (Nat.lt_of_le_of_lt hascii (by decide))]
  exact hdigit

/-- No digit is blank. -/
theorem isBlank_eq_false_of_isDecimal {c : Char} (hdecimal : isDecimal c) : isBlank c = false := by
  rw [isDecimal] at hdecimal
  split at hdecimal
  · obtain ⟨hlow, hhigh⟩ := Char.isDigit_iff_toNat.mp hdecimal
    have hdigits : ∀ range ∈ blankRanges, range.2 < 48 ∨ 57 < range.1 := by decide
    apply inRanges_eq_false
    intro range hrange
    have := hdigits range hrange
    change 48 ≤ c.toNat at hlow
    change c.toNat ≤ 57 at hhigh
    omega
  · exact inRanges_eq_false_of_disjoint (by decide) hdecimal

end SqlLineage.Text
